import BuildDeps.Proofs.Export.Absorption
import BuildDeps.Proofs.Export.Recording

/-!
Which conflicts are on record.

There is a conflict for every label that one export absorbed and another one comes upon: the other one
lists the label, or absorbed something that depends on it.  A pass of claims takes up every label that
its export comes upon, and takes it up once, so that what it reports was absorbed before (`Report`).
No later pass changes that, since whatever an export comes upon has an owner when its pass ends
(`Reported`).
-/

namespace BuildDeps.Export

variable {registry : Registry} {exporter label wanting owner : Label} {claims now : Claims}
  {conflict : Conflict} {done : List Label}

namespace Claims

/-- An export comes upon the labels that it lists and those that something it absorbed depends on. -/
def ComesUpon (registry : Registry) (claims : Claims) (exporter label : Label) : Prop :=
  registry.DependsOn exporter label ∨
    ∃ middle, claims.owners.get? middle = some exporter ∧ registry.DependsOn middle label

/-- Whatever an export came upon, it comes upon when it has absorbed more. -/
theorem ComesUpon.mono (upon : claims.ComesUpon registry exporter label)
    (stays : ∀ {middle}, claims.owners.get? middle = some exporter →
      now.owners.get? middle = some exporter) : now.ComesUpon registry exporter label := by
  rcases upon with depends | ⟨middle, owned, depends⟩
  · exact Or.inl depends
  · exact Or.inr ⟨middle, stays owned, depends⟩

/-! ### One pass -/

/-- A pass of claims and what it reports. -/
structure Report (registry : Registry) (exporter : Label) (before : Claims)
    (unseen queue : List Label) (now : Claims) : Prop
    extends Pass registry exporter before unseen queue now where
  distinct : (queue ++ unseen).Nodup
  done : ∀ {label owner}, before.owners.get? label = none →
    now.owners.get? label = some owner → label ∉ queue ++ unseen
  upon : ∀ {label}, label ∈ queue → now.ComesUpon registry exporter label
  ordered : Ordered.Ascending now.conflicts
  reported : ∀ {conflict}, conflict ∈ now.conflicts → conflict ∈ before.conflicts ∨
    conflict.wanting = exporter ∧
      before.owners.get? conflict.dependency = some conflict.owning ∧
      now.ComesUpon registry exporter conflict.dependency

/-- A pass takes up the direct dependencies of its export first, each once. -/
theorem Report.begin {before : Claims} (valid : before.memo.Valid registry)
    (fresh : before.visibility.get? exporter = none) (exports : registry.isExport exporter = true)
    (ordered : Ordered.Ascending before.conflicts) :
    let found := registry.targets.partition ((registry.dependencies exporter).contains ·)
    Report registry exporter before found.2 found.1 (before.share exporter exporter) where
  toPass := .begin valid fresh exports
  distinct := (perm_found _ []).nodup_iff.2 (Ordered.ascending_ofList _).nodup
  done unowned owned := by
    rw [owners_share, unowned] at owned
    cases owned
  upon queued := Or.inl (Registry.mem_dependencies.1 (mem_found.1 queued).2)
  ordered := ordered
  reported := Or.inl

section Steps

variable {before : Claims} {unseen rest : List Label}

/-- An export that is taken up is passed over, without a report. -/
theorem Report.skip (report : Report registry exporter before unseen (label :: rest) now)
    (exports : registry.isExport label = true) :
    Report registry exporter before unseen rest now where
  toPass := report.toPass.skip exports
  distinct := (List.nodup_cons.1 report.distinct).2
  done unowned owned again := report.done unowned owned (List.mem_cons_of_mem _ again)
  upon queued := report.upon (List.mem_cons_of_mem _ queued)
  ordered := report.ordered
  reported := report.reported

/-- The owner that a conflict names had the label before the pass, which does not take up again what
it absorbed itself. -/
theorem Report.reject (report : Report registry exporter before unseen (label :: rest) now)
    (owned : now.owners.get? label = some owner) :
    Report registry exporter before unseen rest (now.reject exporter label owner) := by
  have prior : before.owners.get? label = some owner := by
    cases found : before.owners.get? label with
    | none => exact absurd List.mem_cons_self (report.done found owned)
    | some first => exact (report.kept found).symm.trans owned
  constructor
  case toPass => exact report.toPass.reject owned
  case distinct => exact (List.nodup_cons.1 report.distinct).2
  case done =>
    intro other _ unowned taken again
    exact report.done unowned taken (List.mem_cons_of_mem _ again)
  case upon =>
    intro other queued
    exact report.upon (List.mem_cons_of_mem _ queued)
  case ordered => exact Ordered.ascending_insert _ report.ordered
  case reported =>
    intro conflict member
    rcases Ordered.mem_insert.1 member with rfl | old
    · exact Or.inr ⟨rfl, prior, report.upon List.mem_cons_self⟩
    · exact report.reported old

/-- When a label is absorbed, the export comes upon what it depends on. -/
theorem Report.absorb (report : Report registry exporter before unseen (label :: rest) now)
    (plain : registry.isExport label = false) (unowned : now.owners.get? label = none) :
    let asked := now.memo.dependenciesOf registry label
    let found := unseen.partition (asked.1.contains ·)
    Report registry exporter before found.2 (rest ++ found.1)
      { now.absorb exporter label with memo := asked.2 } := by
  obtain ⟨answer, _⟩ := report.memo.dependenciesOf label
  obtain ⟨new, distinct⟩ := List.nodup_cons.1 report.distinct
  have stays : ∀ {other}, now.owners.get? other = some exporter →
      (now.absorb exporter label).owners.get? other = some exporter :=
    fun owned => (owned_absorb unowned).2 (Or.inr owned)
  have pass := report.toPass.absorb plain unowned
  simp only [answer] at pass ⊢
  constructor
  case toPass => exact pass
  case distinct => exact (perm_found _ rest).nodup_iff.2 distinct
  case done =>
    intro other _ unownedBefore owned again
    -- What is queued now was queued or unseen before, and apart from the label just taken.
    have left : other ∈ rest ++ unseen := (perm_found _ rest).mem_iff.1 again
    rcases (owned_absorb unowned).1 owned with ⟨rfl, _⟩ | old
    · exact new left
    · exact report.done unownedBefore old (List.mem_cons_of_mem _ left)
  case upon =>
    intro other queued
    rcases List.mem_append.1 queued with old | next
    · exact (report.upon (List.mem_cons_of_mem _ old)).mono stays
    · have taken : (now.absorb exporter label).owners.get? label = some exporter :=
        (owned_absorb unowned).2 (Or.inl ⟨rfl, rfl⟩)
      exact Or.inr ⟨label, taken, Registry.mem_dependencies.1 (mem_found.1 next).2⟩
  case ordered => exact report.ordered
  case reported =>
    intro conflict member
    apply (report.reported member).imp_right
    rintro ⟨wanted, prior, upon⟩
    exact ⟨wanted, prior, upon.mono stays⟩

end Steps

/-- A pass is carried through to the end of its queue, as the traversal takes its steps. -/
theorem Report.claim {before : Claims} {unseen queue : List Label}
    (report : Report registry exporter before unseen queue now) :
    ∃ left, Report registry exporter before left []
      (Claims.claim registry exporter unseen queue now) := by
  fun_induction Claims.claim registry exporter unseen queue now with
  | case1 unseen now => exact ⟨unseen, report⟩
  | case2 unseen now label rest exports ih => exact ih (report.skip exports)
  | case3 unseen now label rest _ owner owned ih => exact ih (report.reject owned)
  | case4 unseen now label rest plain unowned asked found ih =>
      exact ih (report.absorb (by simpa using plain) unowned)

/-- At its end, a pass has reported what its export came upon and another one owned. -/
theorem Pass.conflict_of_comesUpon {before : Claims} {left : List Label}
    (pass : Pass registry exporter before left [] now)
    (unowned : ∀ {label}, now.owners.get? label = some exporter → before.owners.get? label = none)
    (plain : registry.isExport label = false) (prior : before.owners.get? label = some owner)
    (upon : now.ComesUpon registry exporter label) :
    ⟨label, exporter, owner⟩ ∈ now.conflicts := by
  rcases upon with depends | ⟨middle, owned, depends⟩
  · exact pass.conflict_of_seen depends.mem_targets (pass.direct depends) plain prior
  · have seen := pass.onward (unowned owned) owned depends
    exact pass.conflict_of_seen depends.mem_targets seen plain prior

end Claims

/-! ### All passes -/

/-- A claim that came too late: an export comes upon a label that another one absorbed. -/
structure TooLate (registry : Registry) (claims : Claims) (conflict : Conflict) : Prop where
  owned : claims.owners.get? conflict.dependency = some conflict.owning
  other : conflict.wanting ≠ conflict.owning
  upon : claims.ComesUpon registry conflict.wanting conflict.dependency

/-- The claims after the passes of some exports, with every claim that came too late on record. -/
structure Reported (registry : Registry) (done : List Label) (claims : Claims) : Prop
    extends Settled registry done claims where
  ordered : Ordered.Ascending claims.conflicts
  mem_conflicts : ∀ {conflict}, conflict ∈ claims.conflicts ↔
    conflict.wanting ∈ done ∧ TooLate registry claims conflict

/-- An export covers what it comes upon, exports apart. -/
theorem Settled.covers_of_comesUpon (settled : Settled registry done claims)
    (member : exporter ∈ done) (upon : claims.ComesUpon registry exporter label)
    (plain : registry.isExport label = false) : registry.Covers exporter label := by
  rcases upon with depends | ⟨middle, owned, depends⟩
  · exact .direct (settled.exports member) depends plain
  · have covers := Registry.covers_of_firstToCover ((settled.owners middle).symm.trans owned)
    exact covers.onward depends plain

/-- What has an owner is no export. -/
theorem Settled.plain (settled : Settled registry done claims)
    (owned : claims.owners.get? label = some owner) : registry.isExport label = false :=
  (Registry.covers_of_firstToCover ((settled.owners label).symm.trans owned)).plain

namespace Reported

/-- Before the first pass nothing is reported. -/
theorem start {memo : Memo} (valid : memo.Valid registry) :
    Reported registry [] (.start memo) where
  toSettled := .start valid
  ordered := List.Pairwise.nil
  mem_conflicts := ⟨nofun, fun late => absurd late.1 List.not_mem_nil⟩

section Pass

variable {left : List Label}

/-- What one more pass has on record came too late: it did so before, or the pass reports it. -/
theorem tooLate_of_pass (reported : Reported registry done claims)
    (report : Claims.Report registry exporter claims left [] now) (new : exporter ∉ done)
    (member : conflict ∈ now.conflicts) :
    conflict.wanting ∈ done ++ [exporter] ∧ TooLate registry now conflict := by
  rcases report.reported member with old | ⟨rfl, prior, upon⟩
  · obtain ⟨earlier, late⟩ := reported.mem_conflicts.1 old
    refine ⟨List.mem_append_left _ earlier, report.kept late.owned, late.other, ?_⟩
    exact late.upon.mono report.kept
  · refine ⟨List.mem_append_right _ (List.mem_singleton_self _), report.kept prior, ?_, upon⟩
    intro same
    have earlier := Registry.mem_of_firstToCover ((reported.owners _).symm.trans prior)
    exact new (same ▸ earlier)

/-- What came too late is on record after one more pass.  An export that had its pass before covers
what it comes upon, so that the label had its owner before as well. -/
theorem mem_conflicts_of_pass (reported : Reported registry done claims)
    (report : Claims.Report registry exporter claims left [] now) (new : exporter ∉ done)
    (exports : registry.isExport exporter = true)
    (member : conflict.wanting ∈ done ++ [exporter]) (late : TooLate registry now conflict) :
    conflict ∈ now.conflicts := by
  have plain : registry.isExport conflict.dependency = false :=
    (reported.of_pass report.toPass new exports).plain late.owned
  by_cases same : conflict.wanting = exporter
  · subst same
    have prior := report.owned_of_ne late.other.symm late.owned
    exact report.conflict_of_comesUpon (reported.unowned_of_pass report.toPass new) plain prior
      late.upon
  · have earlier : conflict.wanting ∈ done := by simpa [same] using member
    have upon : claims.ComesUpon registry conflict.wanting conflict.dependency :=
      late.upon.mono (report.owned_of_ne same)
    obtain ⟨first, found⟩ := Registry.exists_firstToCover earlier
      (reported.covers_of_comesUpon earlier upon plain)
    have prior := (reported.owners conflict.dependency).trans found
    cases (report.kept prior).symm.trans late.owned
    have stood : conflict ∈ claims.conflicts :=
      reported.mem_conflicts.2 ⟨earlier, prior, late.other, upon⟩
    exact report.conflicts stood

end Pass

/-- The reports of one more export are those of its pass. -/
theorem settle (reported : Reported registry done claims) (new : exporter ∉ done)
    (exports : registry.isExport exporter = true) :
    Reported registry (done ++ [exporter]) (claims.settle registry exporter) := by
  obtain ⟨left, report⟩ := (Claims.Report.begin reported.memo (reported.fresh new) exports
    reported.ordered).claim
  rw [Claims.settle_eq_claim exports]
  refine ⟨reported.of_pass report.toPass new exports, report.ordered, ?_⟩
  intro conflict
  constructor
  · exact reported.tooLate_of_pass report new
  · intro late
    exact reported.mem_conflicts_of_pass report new exports late.1 late.2

end Reported

namespace Registry

/-- The conflicts of a registry are those that the passes of all its exports report. -/
theorem claims_reported (registry : Registry) :
    Reported registry registry.exportersInOrder registry.claims :=
  claims_induction (.start claimOrder_spec.2.2) Reported.settle

/-- The conflicts on record are those of exports that came too late, by the claims as they stand in the
end. -/
theorem mem_conflicts_iff : conflict ∈ registry.finalize.conflicts ↔
    registry.isExport conflict.wanting = true ∧ TooLate registry registry.claims conflict := by
  rw [← mem_exportersInOrder]
  exact registry.claims_reported.mem_conflicts

/-- An export whose claims all came in time absorbed whatever it covers. -/
theorem Covers.absorbedBy_of_no_conflict (covers : registry.Covers exporter label)
    (free : ∀ conflict ∈ registry.finalize.conflicts, conflict.wanting ≠ exporter) :
    registry.finalize.AbsorbedBy label exporter := by
  have own : ∀ {label}, registry.Covers exporter label →
      registry.claims.ComesUpon registry exporter label →
        registry.claims.owners.get? label = some exporter := by
    intro label covers upon
    obtain ⟨owner, owned, _⟩ := covers.exists_owner
    by_cases same : exporter = owner
    · exact same ▸ owned
    · have reported : ⟨label, exporter, owner⟩ ∈ registry.finalize.conflicts :=
        mem_conflicts_iff.2 ⟨covers.isExport, owned, same, upon⟩
      exact absurd rfl (free _ reported)
  rw [absorbedBy_iff]
  -- Along the path that covers the label, each label is absorbed, and so the next one come upon.
  induction covers with
  | direct exports depends plain => exact own (.direct exports depends plain) (Or.inl depends)
  | @onward middle label covers depends plain ih =>
      exact own (.onward covers depends plain) (Or.inr ⟨middle, ih, depends⟩)

/-- Conflicts are on record in ascending order, each once, and exactly for the labels that one export
absorbed and another one lists or reaches from what it absorbed itself.  So an export that no conflict
shows as having come too late absorbed all that it covers, and no other export did. -/
theorem conflicts_exact (registry : Registry) :
    Ordered.Ascending registry.finalize.conflicts ∧
    (∀ dependency wanting owning : Label,
      ⟨dependency, wanting, owning⟩ ∈ registry.finalize.conflicts ↔
        registry.isExport dependency = false ∧ registry.finalize.AbsorbedBy dependency owning ∧
        registry.isExport wanting = true ∧ wanting ≠ owning ∧
        (registry.DependsOn wanting dependency ∨
          ∃ middle, registry.finalize.AbsorbedBy middle wanting ∧
            registry.DependsOn middle dependency)) ∧
    ∀ wanting : Label,
      (∀ conflict ∈ registry.finalize.conflicts, conflict.wanting ≠ wanting) ↔
        ∀ label, registry.Covers wanting label → registry.finalize.AbsorbedBy label wanting := by
  refine ⟨registry.claims_reported.ordered, ?_, ?_⟩
  · intro dependency wanting owning
    simp only [mem_conflicts_iff, absorbedBy_iff]
    constructor
    · rintro ⟨exports, owned, other, upon⟩
      exact ⟨registry.claims_settled.plain owned, owned, exports, other, upon⟩
    · rintro ⟨-, owned, exports, other, upon⟩
      exact ⟨exports, owned, other, upon⟩
  · intro wanting
    constructor
    · intro free label covers
      exact covers.absorbedBy_of_no_conflict free
    · intro complete conflict member same
      subst same
      obtain ⟨exports, late⟩ := mem_conflicts_iff.1 member
      have covers := registry.claims_settled.covers_of_comesUpon (mem_exportersInOrder.2 exports)
        late.upon (registry.claims_settled.plain late.owned)
      have owned := absorbedBy_iff.1 (complete _ covers)
      exact late.other (Option.some.inj (owned.symm.trans late.owned))

end Registry

/-- Of two exports that both reach the last of three rules, the larger comes upon it too late. -/
example : Layered.registry.finalize.conflicts = [⟨Layered.core, Layered.suite, Layered.kit⟩] := by
  decide +kernel

end BuildDeps.Export
