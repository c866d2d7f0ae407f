import BuildDeps.Proofs.Export.Claims

/-!
Which export absorbs a label.

After all passes, a label belongs to the first export in the order of claims that covers it, and to
none if no export covers it.  `Settled` is the state between two passes; the statements about the
finalized index are read off its last state.
-/

namespace BuildDeps.Export

variable {registry : Registry} {exporter label : Label} {claims : Claims} {done : List Label}

open scoped Classical in
/-- The first of some exports that covers a label. -/
noncomputable def Registry.firstToCover (registry : Registry) (exporters : List Label)
    (label : Label) : Option Label :=
  exporters.find? (registry.Covers · label)

namespace Registry

/-- Whatever is found to cover a label does cover it. -/
theorem covers_of_firstToCover (first : registry.firstToCover done label = some exporter) :
    registry.Covers exporter label := by
  simpa using List.find?_some first

/-- Where one of the exports covers a label, there is a first one that does. -/
theorem exists_firstToCover (member : exporter ∈ done) (covers : registry.Covers exporter label) :
    ∃ first, registry.firstToCover done label = some first := by
  rw [← Option.isSome_iff_exists, firstToCover, List.find?_isSome]
  exact ⟨exporter, member, by simpa using covers⟩

theorem mem_of_firstToCover (first : registry.firstToCover done label = some exporter) :
    exporter ∈ done :=
  List.mem_of_find?_eq_some first

open scoped Classical in
/-- One more export covers a label first if it covers it and none of those before it does. -/
theorem firstToCover_append_singleton :
    registry.firstToCover (done ++ [exporter]) label =
      (registry.firstToCover done label).or
        (if registry.Covers exporter label then some exporter else none) := by
  simp [firstToCover, List.find?_append, List.find?_singleton]

/-- What is recorded of an export is its direct dependencies. -/
theorem getD_exports_eq_dependencies (exports : registry.isExport exporter = true) :
    (registry.exports.get? exporter).getD [] = registry.dependencies exporter := by
  obtain ⟨listing, recorded⟩ := Table.contains_iff.1 exports
  simp [dependencies, recorded]

end Registry

/-- The claims of an export are one traversal from its direct dependencies. -/
theorem Claims.settle_eq_claim (exports : registry.isExport exporter = true) :
    claims.settle registry exporter = Claims.claim registry exporter
      (registry.targets.partition ((registry.dependencies exporter).contains ·)).2
      (registry.targets.partition ((registry.dependencies exporter).contains ·)).1
      (claims.share exporter exporter) := by
  simp only [Claims.settle, Registry.getD_exports_eq_dependencies exports]

/-- The claims after the passes of some exports. -/
structure Settled (registry : Registry) (done : List Label) (claims : Claims) : Prop where
  memo : claims.memo.Valid registry
  exports : ∀ {exporter}, exporter ∈ done → registry.isExport exporter = true
  owners : ∀ label, claims.owners.get? label = registry.firstToCover done label
  fresh : ∀ {exporter}, exporter ∉ done → claims.visibility.get? exporter = none
  ascending : ∀ {exporter}, exporter ∈ done → Ordered.Ascending (claims.seenBy exporter)
  sees : ∀ {exporter spec}, exporter ∈ done → (spec ∈ claims.seenBy exporter ↔
    spec = exporter.packageVisibility ∨
      ∃ label, claims.owners.get? label = some exporter ∧ spec = label.packageVisibility)
  conflicts : ∀ {exporter label owner}, exporter ∈ done → registry.DependsOn exporter label →
    claims.owners.get? label = some owner → owner ≠ exporter →
      ⟨label, exporter, owner⟩ ∈ claims.conflicts

namespace Settled

/-- Before the first pass nothing is owned, so that there is nothing to settle. -/
theorem start {memo : Memo} (valid : memo.Valid registry) :
    Settled registry [] (.start memo) where
  memo := valid
  exports member := absurd member List.not_mem_nil
  owners _ := rfl
  fresh _ := rfl
  ascending member := absurd member List.not_mem_nil
  sees member := absurd member List.not_mem_nil
  conflicts member := absurd member List.not_mem_nil

/-- What an export covers is closed under dependencies that are no exports, and so is what the
exports so far have absorbed. -/
theorem closed (settled : Settled registry done claims) : claims.Closed registry := by
  intro middle label owner owned depends plain
  rw [settled.owners] at owned ⊢
  have covers := (Registry.covers_of_firstToCover owned).onward depends plain
  exact Registry.exists_firstToCover (Registry.mem_of_firstToCover owned) covers

section Pass

variable {now : Claims} {left : List Label}

/-- One more pass gives the export what it covers and no export before it does. -/
theorem owners_of_pass (settled : Settled registry done claims)
    (pass : Claims.Pass registry exporter claims left [] now) (label : Label) :
    now.owners.get? label = registry.firstToCover (done ++ [exporter]) label := by
  rw [pass.owners_eq settled.closed, settled.owners, Registry.firstToCover_append_singleton]

/-- What a new export owns had no owner before. -/
theorem unowned_of_pass (settled : Settled registry done claims)
    (pass : Claims.Pass registry exporter claims left [] now) (new : exporter ∉ done)
    (owned : now.owners.get? label = some exporter) : claims.owners.get? label = none := by
  rw [Option.eq_none_iff_forall_ne_some]
  intro owner prior
  cases (pass.kept prior).symm.trans owned
  exact new (Registry.mem_of_firstToCover ((settled.owners label).symm.trans prior))

/-- An export that lists what another export absorbed is in conflict with it after its pass. -/
theorem conflict_of_pass (settled : Settled registry done claims)
    (pass : Claims.Pass registry exporter claims left [] now) {wanting owner : Label}
    (member : wanting ∈ done ++ [exporter]) (depends : registry.DependsOn wanting label)
    (owned : now.owners.get? label = some owner) (different : owner ≠ wanting) :
    ⟨label, wanting, owner⟩ ∈ now.conflicts := by
  have covers := Registry.covers_of_firstToCover ((settled.owners_of_pass pass label).symm.trans owned)
  by_cases same : wanting = exporter
  · subst same
    exact pass.conflict_of_seen depends.mem_targets (pass.direct depends) covers.plain
      (pass.owned_of_ne different owned)
  · have old : wanting ∈ done := by simpa [same] using member
    -- The earlier export covers the label itself, so this pass could not absorb it.
    obtain ⟨first, found⟩ := Registry.exists_firstToCover old
      (.direct (settled.exports old) depends covers.plain)
    have prior := (settled.owners label).trans found
    cases (pass.kept prior).symm.trans owned
    exact pass.conflicts (settled.conflicts old depends prior different)

/-- The state after one more pass. -/
theorem of_pass (settled : Settled registry done claims)
    (pass : Claims.Pass registry exporter claims left [] now) (new : exporter ∉ done)
    (exports : registry.isExport exporter = true) :
    Settled registry (done ++ [exporter]) now := by
  have old_or_new : ∀ {other}, other ∈ done ++ [exporter] → other ≠ exporter → other ∈ done := by
    intro other member different
    simpa [different] using member
  constructor
  case memo => exact pass.memo
  case exports =>
    intro other member
    rcases List.mem_append.1 member with old | last
    · exact settled.exports old
    · exact List.mem_singleton.1 last ▸ exports
  case owners => exact settled.owners_of_pass pass
  case fresh =>
    intro other unmade
    rw [List.mem_append, List.mem_singleton, not_or] at unmade
    exact (pass.others unmade.2).trans (settled.fresh unmade.1)
  case ascending =>
    intro other member
    by_cases same : other = exporter
    · exact same ▸ pass.ascending
    · rw [Claims.seenBy, pass.others same]
      exact settled.ascending (old_or_new member same)
  case sees =>
    intro other spec member
    by_cases same : other = exporter
    · subst same
      rw [pass.sees]
      refine or_congr_right (exists_congr fun label => ?_)
      exact ⟨fun both => both.2, fun both => ⟨settled.unowned_of_pass pass new both.1, both⟩⟩
    · rw [Claims.seenBy, pass.others same]
      apply (settled.sees (old_or_new member same)).trans
      refine or_congr_right (exists_congr fun label => and_congr_left fun _ => ?_)
      exact ⟨pass.kept, pass.owned_of_ne same⟩
  case conflicts => exact settled.conflict_of_pass pass

end Pass

/-- The passes settle one export after the other: the claims of one more export are one more pass. -/
theorem settle (settled : Settled registry done claims) (new : exporter ∉ done)
    (exports : registry.isExport exporter = true) :
    Settled registry (done ++ [exporter]) (claims.settle registry exporter) := by
  obtain ⟨left, pass⟩ := (Claims.Pass.begin settled.memo (settled.fresh new) exports).claim
  rw [Claims.settle_eq_claim exports]
  exact settled.of_pass pass new exports

end Settled

namespace Registry

/-- What holds before the first export claims, and is kept when one more export does, holds of the
claims of a registry. -/
theorem claims_induction {motive : List Label → Claims → Prop}
    (start : motive [] (.start registry.claimOrder.2))
    (settle : ∀ {done claims exporter}, motive done claims → exporter ∉ done →
      registry.isExport exporter = true →
        motive (done ++ [exporter]) (claims.settle registry exporter)) :
    motive registry.exportersInOrder registry.claims := by
  have each : ∀ {rest : List Ranked} {done : List Label} {claims : Claims}, motive done claims →
      (done ++ rest.map (·.label)).Nodup →
      (∀ entry ∈ rest, registry.isExport entry.label = true) →
        motive (done ++ rest.map (·.label))
          (rest.foldl (fun claims next => claims.settle registry next.label) claims) := by
    intro rest
    induction rest with
    | nil =>
        intro done claims holds _ _
        simpa using holds
    | cons next rest ih =>
        intro done claims holds distinct exports
        rw [List.map_cons, List.append_cons] at distinct ⊢
        have new : next.label ∉ done := by
          intro member
          have apart := List.nodup_append.1 (List.nodup_append.1 distinct).1
          exact apart.2.2 _ member _ List.mem_cons_self rfl
        exact ih (settle holds new (exports next List.mem_cons_self)) distinct
          fun entry member => exports entry (List.mem_cons_of_mem _ member)
  apply each start nodup_exportersInOrder
  intro entry member
  exact mem_exportersInOrder.1 (List.mem_map.2 ⟨entry, member, rfl⟩)

/-- The claims of a registry are those after the passes of all its exports. -/
theorem claims_settled (registry : Registry) :
    Settled registry registry.exportersInOrder registry.claims :=
  claims_induction (.start claimOrder_spec.2.2) Settled.settle

/-- An export covers a label, and all others that do claim later. -/
def FirstToCover (registry : Registry) (exporter label : Label) : Prop :=
  registry.Covers exporter label ∧
    ∀ {other}, registry.Covers other label → other = exporter ∨ registry.Precedes exporter other

theorem Covers.mem_exportersInOrder (covers : registry.Covers exporter label) :
    exporter ∈ registry.exportersInOrder :=
  Registry.mem_exportersInOrder.2 covers.isExport

/-- The exports have their turns by precedence, so that the first of them to cover a label precedes all
others that do. -/
theorem firstToCover_of_firstToCover_eq
    (first : registry.firstToCover registry.exportersInOrder label = some exporter) :
    registry.FirstToCover exporter label := by
  obtain ⟨covers, before, after, split, uncovered⟩ := List.find?_eq_some_iff_append.1 first
  refine ⟨by simpa using covers, ?_⟩
  intro other coversOther
  have member := coversOther.mem_exportersInOrder
  rw [split] at member
  rcases List.mem_append.1 member with earlier | later
  · simpa [coversOther] using uncovered other earlier
  · rcases List.mem_cons.1 later with same | later
    · exact Or.inl same
    · have sorted : registry.exportersInOrder.Pairwise registry.Precedes :=
        pairwise_exportersInOrder
      rw [split] at sorted
      have tail := (List.pairwise_append.1 sorted).2.1
      exact Or.inr ((List.pairwise_cons.1 tail).1 other later)

/-- Two exports that both precede whatever else covers a label are the same one, since each would
precede the other. -/
theorem firstToCover_eq_some_iff :
    registry.firstToCover registry.exportersInOrder label = some exporter ↔
      registry.FirstToCover exporter label := by
  refine ⟨firstToCover_of_firstToCover_eq, ?_⟩
  intro isFirst
  obtain ⟨covers, first⟩ := isFirst
  obtain ⟨other, found⟩ := exists_firstToCover covers.mem_exportersInOrder covers
  obtain ⟨coversOther, firstOther⟩ := firstToCover_of_firstToCover_eq found
  rcases first coversOther with rfl | before
  · exact found
  · rcases firstOther covers with rfl | after
    · exact found
    · exact absurd after before.asymm

end Registry

namespace Index

/-- One label is absorbed by an export. -/
def AbsorbedBy (index : Index) (label exporter : Label) : Prop :=
  (index.exportedBy label).map (·.label) = some exporter

end Index

namespace Registry

/-- The owner of a label is the first export in the order of claims that covers it. -/
theorem owner?_finalize :
    registry.finalize.owner? label = registry.firstToCover registry.exportersInOrder label :=
  registry.claims_settled.owners label

/-- The owner of a label is the export that covers it and precedes all others that do. -/
theorem owner?_eq_some_iff :
    registry.finalize.owner? label = some exporter ↔ registry.FirstToCover exporter label := by
  rw [owner?_finalize, firstToCover_eq_some_iff]

/-- What an export covers has an owner, which claims no later than the export. -/
theorem Covers.exists_owner (covers : registry.Covers exporter label) :
    ∃ owner, registry.finalize.owner? label = some owner ∧
      (exporter = owner ∨ registry.Precedes owner exporter) := by
  obtain ⟨owner, first⟩ := exists_firstToCover covers.mem_exportersInOrder covers
  rw [← owner?_finalize] at first
  exact ⟨owner, first, (owner?_eq_some_iff.1 first).2 covers⟩

/-- A label without owner is covered by no export. -/
theorem owner?_eq_none_iff :
    registry.finalize.owner? label = none ↔ ∀ exporter, ¬ registry.Covers exporter label := by
  constructor
  · intro unowned exporter covers
    obtain ⟨owner, found, _⟩ := covers.exists_owner
    rw [unowned] at found
    cases found
  · intro uncovered
    rw [Option.eq_none_iff_forall_ne_some]
    intro exporter found
    exact uncovered exporter (owner?_eq_some_iff.1 found).1

/-- An owner is an export, so that there is always something to say about it. -/
theorem exportedBy_finalize :
    (registry.finalize.exportedBy label).map (·.label) = registry.finalize.owner? label := by
  cases owned : registry.finalize.owner? label with
  | none => simp [Index.exportedBy, owned]
  | some exporter =>
      have exports := (owner?_eq_some_iff.1 owned).1.isExport
      obtain ⟨listing, recorded⟩ := Table.contains_iff.1 exports
      have aggregate : registry.finalize.exports.get? exporter = some listing := recorded
      simp [Index.exportedBy, Index.aggregate?, owned, aggregate]

/-- The export that absorbs a label is its owner. -/
theorem absorbedBy_iff :
    registry.finalize.AbsorbedBy label exporter ↔
      registry.finalize.owner? label = some exporter := by
  rw [Index.AbsorbedBy, exportedBy_finalize]

/-- The export that absorbs a label is the first, by the number of labels it reaches and then by its
own label, of those that reach the label without passing through an export.  There is none exactly
if the label is an export itself or no export reaches it so. -/
theorem absorbed_by_first_to_cover (registry : Registry) (label : Label) :
    (∀ exporter, registry.finalize.AbsorbedBy label exporter ↔
        registry.FirstToCover exporter label) ∧
      (registry.finalize.exportedBy label = none ↔
        registry.isExport label = true ∨ ∀ exporter, ¬ registry.Covers exporter label) ∧
      registry.finalize.isAbsorbed label = (registry.finalize.exportedBy label).isSome := by
  refine ⟨fun exporter => absorbedBy_iff.trans owner?_eq_some_iff, ?_, ?_⟩
  · rw [← Option.map_eq_none_iff (f := (·.label)), exportedBy_finalize, owner?_eq_none_iff]
    constructor
    · exact Or.inr
    · rintro (exports | uncovered) exporter covers
      · simp [covers.plain] at exports
      · exact uncovered exporter covers
  · rw [← Option.isSome_map (f := (·.label)), exportedBy_finalize]
    rfl

end Registry

end BuildDeps.Export
