import BuildDeps.Proofs.Export.ClaimOrder

/-!
What the claims of the exports come to.

`Covers` says which labels an export reaches without passing through an export.  One pass of claims
is a traversal that stops at exports and at labels that were absorbed before; its invariant is
`Pass`.  Stopping there loses nothing, because what is absorbed is closed under coverage: after each
pass, a label belongs to the first of the exports so far that covers it (`Settled`).
-/

namespace BuildDeps.Export

variable {registry : Registry} {exporter other label middle : Label} {claims : Claims}

/-- An export covers the labels that it reaches along labels none of which is an export. -/
inductive Registry.Covers (registry : Registry) (exporter : Label) : Label → Prop
  | direct {label : Label} (exports : registry.isExport exporter = true)
      (depends : registry.DependsOn exporter label) (plain : registry.isExport label = false) :
      Registry.Covers registry exporter label
  | onward {middle label : Label} (covered : Registry.Covers registry exporter middle)
      (depends : registry.DependsOn middle label) (plain : registry.isExport label = false) :
      Registry.Covers registry exporter label

namespace Registry.Covers

/-- Only exports cover anything. -/
theorem isExport (covers : registry.Covers exporter label) : registry.isExport exporter = true := by
  induction covers with
  | direct exports => exact exports
  | onward _ _ _ ih => exact ih

/-- Exports are never covered. -/
theorem plain (covers : registry.Covers exporter label) : registry.isExport label = false := by
  cases covers with
  | direct _ _ plain => exact plain
  | onward _ _ plain => exact plain

/-- A label that is covered is reached. -/
theorem reaches (covers : registry.Covers exporter label) : registry.Reaches exporter label := by
  induction covers with
  | direct _ depends _ => exact .single depends
  | onward _ depends _ ih => exact .tail ih depends

end Registry.Covers

namespace Claims

/-! ### Single steps -/

/-- The packages that may see what an export absorbed so far. -/
def seenBy (claims : Claims) (exporter : Label) : List Label :=
  (claims.visibility.get? exporter).getD []

@[simp] theorem owners_share : (claims.share exporter label).owners = claims.owners := rfl

/-- Sharing with an export adds a package to those that see it, and leaves what others see. -/
theorem visibility_share :
    (claims.share exporter label).visibility.get? other =
      if other = exporter then
        some (Ordered.insert label.packageVisibility (claims.seenBy exporter))
      else claims.visibility.get? other :=
  Table.get?_insert ..

@[simp] theorem seenBy_share :
    (claims.share exporter label).seenBy exporter =
      Ordered.insert label.packageVisibility (claims.seenBy exporter) := by
  simp [seenBy, visibility_share]

/-- Absorbing a label writes its owner. -/
theorem owners_absorb :
    (claims.absorb exporter label).owners.get? other =
      if other = label then some exporter else claims.owners.get? other :=
  Table.get?_insert ..

/-- Absorbing a label without owner changes no other owner. -/
theorem owned_absorb {owner : Label} (unowned : claims.owners.get? label = none) :
    (claims.absorb exporter label).owners.get? other = some owner ↔
      (other = label ∧ owner = exporter) ∨ claims.owners.get? other = some owner := by
  rw [owners_absorb]
  by_cases same : other = label
  · subst same
    simp [unowned, eq_comm]
  · simp [same]

@[simp] theorem seenBy_absorb :
    (claims.absorb exporter label).seenBy exporter =
      Ordered.insert label.packageVisibility (claims.seenBy exporter) :=
  seenBy_share

/-! ### One pass -/

/-- A label is dealt with in a pass: it is an export, or was absorbed in the pass, or belonged to
another export before and is a conflict. -/
def Dealt (registry : Registry) (exporter : Label) (before now : Claims) (label : Label) : Prop :=
  registry.isExport label = true ∨
    (before.owners.get? label = none ∧ now.owners.get? label = some exporter) ∨
    ∃ owner, before.owners.get? label = some owner ∧ ⟨label, exporter, owner⟩ ∈ now.conflicts

/-- What was dealt with stays dealt with, as long as owners and conflicts are kept. -/
theorem Dealt.mono {before now later : Claims} (dealt : Dealt registry exporter before now label)
    (owned : now.owners.get? label = some exporter → later.owners.get? label = some exporter)
    (conflicts : ∀ {conflict}, conflict ∈ now.conflicts → conflict ∈ later.conflicts) :
    Dealt registry exporter before later label := by
  rcases dealt with exports | ⟨unowned, taken⟩ | ⟨owner, prior, conflict⟩
  · exact Or.inl exports
  · exact Or.inr (Or.inl ⟨unowned, owned taken⟩)
  · exact Or.inr (Or.inr ⟨owner, prior, conflicts conflict⟩)

/-- The state of a pass of claims that began from the claims `before`. -/
structure Pass (registry : Registry) (exporter : Label) (before : Claims)
    (unseen queue : List Label) (now : Claims) : Prop where
  memo : now.memo.Valid registry
  kept : ∀ {label owner}, before.owners.get? label = some owner →
    now.owners.get? label = some owner
  gained : ∀ {label owner}, before.owners.get? label = none →
    now.owners.get? label = some owner → owner = exporter ∧ registry.Covers exporter label
  covers : ∀ {label}, label ∈ queue → registry.isExport label = false →
    registry.Covers exporter label
  direct : ∀ {label}, registry.DependsOn exporter label → label ∉ unseen
  onward : ∀ {middle label}, before.owners.get? middle = none →
    now.owners.get? middle = some exporter → registry.DependsOn middle label → label ∉ unseen
  dealt : ∀ {label}, label ∈ registry.targets → label ∉ unseen →
    label ∈ queue ∨ Dealt registry exporter before now label
  conflicts : ∀ {conflict}, conflict ∈ before.conflicts → conflict ∈ now.conflicts
  ascending : Ordered.Ascending (now.seenBy exporter)
  sees : ∀ {spec}, spec ∈ now.seenBy exporter ↔
    spec = exporter.packageVisibility ∨ ∃ label, before.owners.get? label = none ∧
      now.owners.get? label = some exporter ∧ spec = label.packageVisibility
  others : ∀ {other}, other ≠ exporter →
    now.visibility.get? other = before.visibility.get? other

/-- A pass begins with the direct dependencies of its export. -/
theorem Pass.begin {before : Claims} (valid : before.memo.Valid registry)
    (fresh : before.visibility.get? exporter = none) (exports : registry.isExport exporter = true) :
    let found := registry.targets.partition ((registry.dependencies exporter).contains ·)
    Pass registry exporter before found.2 found.1 (before.share exporter exporter) where
  memo := valid
  kept owned := owned
  gained unowned owned := by
    rw [owners_share, unowned] at owned
    cases owned
  covers queued plain := .direct exports (Registry.mem_dependencies.1 (mem_found.1 queued).2) plain
  direct depends left := (mem_unfound.1 left).2 (Registry.mem_dependencies.2 depends)
  onward unowned owned := by
    rw [owners_share, unowned] at owned
    cases owned
  dealt target seen := by
    refine Or.inl (mem_found.2 ⟨target, ?_⟩)
    by_contra indirect
    exact seen (mem_unfound.2 ⟨target, indirect⟩)
  conflicts member := member
  ascending := by
    rw [seenBy_share]
    apply Ordered.ascending_insert _
    simp [seenBy, fresh, Ordered.Ascending]
  sees := by
    intro spec
    rw [seenBy_share, Ordered.mem_insert]
    constructor
    · intro seen
      rcases seen with rfl | old
      · exact Or.inl rfl
      · simp [seenBy, fresh] at old
    · intro seen
      rcases seen with rfl | ⟨label, unowned, owned, -⟩
      · exact Or.inl rfl
      · rw [owners_share, unowned] at owned
        cases owned
  others different := by rw [visibility_share, if_neg different]

section Steps

variable {before now : Claims} {unseen rest : List Label}

/-- An export is passed over. -/
theorem Pass.skip (pass : Pass registry exporter before unseen (label :: rest) now)
    (exports : registry.isExport label = true) :
    Pass registry exporter before unseen rest now :=
  { pass with
    covers := fun queued => pass.covers (List.mem_cons_of_mem _ queued)
    dealt := by
      intro target isTarget seen
      rcases pass.dealt isTarget seen with queued | dealt
      · rcases List.mem_cons.1 queued with rfl | later
        · exact Or.inr (Or.inl exports)
        · exact Or.inl later
      · exact Or.inr dealt }

/-- A label that belongs to an export already is a conflict, unless the pass itself absorbed it. -/
theorem Pass.reject {owner : Label}
    (pass : Pass registry exporter before unseen (label :: rest) now)
    (owned : now.owners.get? label = some owner) :
    Pass registry exporter before unseen rest (now.reject exporter label owner) := by
  have more : ∀ {conflict}, conflict ∈ now.conflicts →
      conflict ∈ (now.reject exporter label owner).conflicts :=
    fun member => Ordered.mem_insert.2 (Or.inr member)
  refine { pass with
    covers := fun queued => pass.covers (List.mem_cons_of_mem _ queued)
    conflicts := fun member => more (pass.conflicts member)
    dealt := ?_ }
  intro target isTarget seen
  rcases pass.dealt isTarget seen with queued | dealt
  · rcases List.mem_cons.1 queued with rfl | later
    · right; right
      cases prior : before.owners.get? target with
      | none =>
          have own := (pass.gained prior owned).1
          exact Or.inl ⟨rfl, own ▸ owned⟩
      | some first =>
          have same : owner = first := by simpa [pass.kept prior] using owned.symm
          exact Or.inr ⟨first, rfl, Ordered.mem_insert.2 (Or.inl (same ▸ rfl))⟩
    · exact Or.inl later
  · exact Or.inr (dealt.mono id more)

/-- A label that belongs to no export is absorbed, and its dependencies not seen yet are queued. -/
theorem Pass.absorb (pass : Pass registry exporter before unseen (label :: rest) now)
    (plain : registry.isExport label = false) (unowned : now.owners.get? label = none) :
    let asked := now.memo.dependenciesOf registry label
    let found := unseen.partition (asked.1.contains ·)
    Pass registry exporter before found.2 (rest ++ found.1)
      { now.absorb exporter label with memo := asked.2 } := by
  obtain ⟨answer, stillValid⟩ := pass.memo.dependenciesOf label
  have covered : registry.Covers exporter label := pass.covers List.mem_cons_self plain
  have unownedBefore : before.owners.get? label = none := by
    cases prior : before.owners.get? label with
    | none => rfl
    | some owner =>
        rw [pass.kept prior] at unowned
        cases unowned
  have taken : (now.absorb exporter label).owners.get? label = some exporter :=
    (owned_absorb unowned).2 (Or.inl ⟨rfl, rfl⟩)
  have stays : ∀ {other owner}, now.owners.get? other = some owner →
      (now.absorb exporter label).owners.get? other = some owner :=
    fun owned => (owned_absorb unowned).2 (Or.inr owned)
  simp only [answer]
  constructor
  case memo => exact stillValid
  case kept =>
    intro other owner prior
    exact stays (pass.kept prior)
  case gained =>
    intro other owner prior owned
    rcases (owned_absorb unowned).1 owned with ⟨rfl, rfl⟩ | old
    · exact ⟨rfl, covered⟩
    · exact pass.gained prior old
  case covers =>
    intro other queued plainOther
    rcases List.mem_append.1 queued with old | new
    · exact pass.covers (List.mem_cons_of_mem _ old) plainOther
    · exact .onward covered (Registry.mem_dependencies.1 (mem_found.1 new).2) plainOther
  case direct =>
    intro other depends left
    exact pass.direct depends (mem_unfound.1 left).1
  case onward =>
    intro middle other prior owned depends left
    obtain ⟨unseenBefore, independent⟩ := mem_unfound.1 left
    rcases (owned_absorb unowned).1 owned with ⟨rfl, _⟩ | old
    · exact independent (Registry.mem_dependencies.2 depends)
    · exact pass.onward prior old depends unseenBefore
  case dealt =>
    intro target isTarget seen
    by_cases fresh : target ∈ unseen
    · refine Or.inl (List.mem_append_right _ (mem_found.2 ⟨fresh, ?_⟩))
      by_contra independent
      exact seen (mem_unfound.2 ⟨fresh, independent⟩)
    · rcases pass.dealt isTarget fresh with queued | dealt
      · rcases List.mem_cons.1 queued with rfl | later
        · exact Or.inr (Or.inr (Or.inl ⟨unownedBefore, taken⟩))
        · exact Or.inl (List.mem_append_left _ later)
      · exact Or.inr (dealt.mono stays id)
  case conflicts => exact pass.conflicts
  case ascending =>
    show Ordered.Ascending ((now.absorb exporter label).seenBy exporter)
    rw [seenBy_absorb]
    exact Ordered.ascending_insert _ pass.ascending
  case sees =>
    intro spec
    show spec ∈ (now.absorb exporter label).seenBy exporter ↔ _
    rw [seenBy_absorb, Ordered.mem_insert, pass.sees]
    constructor
    · intro seen
      rcases seen with rfl | own | ⟨other, prior, owned, rfl⟩
      · exact Or.inr ⟨label, unownedBefore, taken, rfl⟩
      · exact Or.inl own
      · exact Or.inr ⟨other, prior, stays owned, rfl⟩
    · intro seen
      rcases seen with own | ⟨other, prior, owned, rfl⟩
      · exact Or.inr (Or.inl own)
      · rcases (owned_absorb unowned).1 owned with ⟨rfl, _⟩ | old
        · exact Or.inl rfl
        · exact Or.inr (Or.inr ⟨other, prior, old, rfl⟩)
  case others =>
    intro other different
    exact (visibility_share.trans (if_neg different)).trans (pass.others different)

end Steps

/-- A pass that is made to its end is a pass with an empty queue. -/
theorem Pass.claim {before now : Claims} {unseen queue : List Label}
    (pass : Pass registry exporter before unseen queue now) :
    ∃ left, Pass registry exporter before left []
      (Claims.claim registry exporter unseen queue now) := by
  fun_induction Claims.claim registry exporter unseen queue now with
  | case1 unseen now => exact ⟨unseen, pass⟩
  | case2 unseen now label rest exports ih => exact ih (pass.skip exports)
  | case3 unseen now label rest _ owner owned ih => exact ih (pass.reject owned)
  | case4 unseen now label rest plain unowned asked found ih =>
      exact ih (pass.absorb (by simpa using plain) unowned)

/-- At its end, a pass has reported every label that it took up and that had an owner before. -/
theorem Pass.conflict_of_seen {before now : Claims} {left : List Label} {owner : Label}
    (pass : Pass registry exporter before left [] now) (isTarget : label ∈ registry.targets)
    (seen : label ∉ left) (plain : registry.isExport label = false)
    (prior : before.owners.get? label = some owner) :
    ⟨label, exporter, owner⟩ ∈ now.conflicts := by
  rcases pass.dealt isTarget seen with queued | exports | ⟨unowned, _⟩ | ⟨first, found, conflict⟩
  · exact absurd queued List.not_mem_nil
  · simp [plain] at exports
  · rw [unowned] at prior
    cases prior
  · cases found.symm.trans prior
    exact conflict

/-- What another export owns after a pass, it owned before. -/
theorem Pass.owned_of_ne {before now : Claims} {left : List Label}
    (pass : Pass registry exporter before left [] now) {owner : Label} (different : owner ≠ exporter)
    (owned : now.owners.get? label = some owner) : before.owners.get? label = some owner := by
  cases prior : before.owners.get? label with
  | none => exact absurd (pass.gained prior owned).1 different
  | some first => exact (pass.kept prior).symm.trans owned

/-- What is absorbed leads to nothing but exports and what is absorbed. -/
def Closed (registry : Registry) (claims : Claims) : Prop :=
  ∀ {middle label owner}, claims.owners.get? middle = some owner →
    registry.DependsOn middle label → registry.isExport label = false →
      ∃ other, claims.owners.get? label = some other

/-- At its end, a pass has absorbed all that its export covers and that was not absorbed before. -/
theorem Pass.owned_of_covers {before now : Claims} {left : List Label}
    (pass : Pass registry exporter before left [] now) (closed : Closed registry before)
    (covers : registry.Covers exporter label) :
    ∃ owner, now.owners.get? label = some owner := by
  have finished : ∀ {label}, label ∈ registry.targets → label ∉ left →
      registry.isExport label = false → ∃ owner, now.owners.get? label = some owner := by
    intro label isTarget seen plain
    rcases pass.dealt isTarget seen with queued | exports | ⟨_, owned⟩ | ⟨owner, prior, _⟩
    · exact absurd queued List.not_mem_nil
    · simp [plain] at exports
    · exact ⟨exporter, owned⟩
    · exact ⟨owner, pass.kept prior⟩
  induction covers with
  | direct _ depends plain => exact finished depends.mem_targets (pass.direct depends) plain
  | @onward middle label _ depends plain ih =>
      obtain ⟨owner, owned⟩ := ih
      cases prior : before.owners.get? middle with
      | some first =>
          obtain ⟨other, taken⟩ := closed prior depends plain
          exact ⟨other, pass.kept taken⟩
      | none =>
          have own := (pass.gained prior owned).1
          subst own
          exact finished depends.mem_targets (pass.onward prior owned depends) plain

open scoped Classical in
/-- At its end, a pass has left every label with its owner and has given its export the others that
it covers. -/
theorem Pass.owners_eq {before now : Claims} {left : List Label}
    (pass : Pass registry exporter before left [] now) (closed : Closed registry before)
    (label : Label) :
    now.owners.get? label = (before.owners.get? label).or
      (if registry.Covers exporter label then some exporter else none) := by
  cases prior : before.owners.get? label with
  | some owner => exact pass.kept prior
  | none =>
      rw [Option.none_or]
      split
      · rename_i covers
        obtain ⟨owner, owned⟩ := pass.owned_of_covers closed covers
        rw [owned, (pass.gained prior owned).1]
      · rename_i uncovered
        rw [Option.eq_none_iff_forall_ne_some]
        intro owner owned
        exact uncovered (pass.gained prior owned).2

end Claims

end BuildDeps.Export
