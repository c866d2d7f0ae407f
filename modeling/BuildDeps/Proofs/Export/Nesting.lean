import BuildDeps.Proofs.Export.Absorption
import BuildDeps.Proofs.Export.Recording

/-!
Exports within exports.

An export that another one reaches, but that does not reach it back, is the inner of the two.  It
reaches strictly fewer labels, whatever cycles there are elsewhere in the graph, so it claims before
the outer one, and nothing that it covers goes to the outer one.
-/

namespace BuildDeps.Export.Registry

variable {registry : Registry} {outer inner label : Label}

/-- What the inner export reaches, the outer one reaches as well, and the inner export besides. -/
theorem dependencyCount_lt_of_reaches (forward : registry.Reaches outer inner)
    (oneWay : ¬ registry.Reaches inner outer) :
    registry.dependencyCount inner < registry.dependencyCount outer := by
  rw [dependencyCount_eq_ncard, dependencyCount_eq_ncard]
  exact ncard_transitiveDependencies_lt forward oneWay

theorem rank_mem_claimOrder (exports : registry.isExport label = true) :
    registry.rank label ∈ registry.claimOrder.1 :=
  (claimOrder_spec.1 _).2 ⟨label, exports, rfl⟩

/-- Of two exports, the one that precedes the other has its turn first. -/
theorem Precedes.sublist_claimOrder {one other : Label} (before : registry.Precedes one other)
    (oneExports : registry.isExport one = true) (otherExports : registry.isExport other = true) :
    [registry.rank one, registry.rank other].Sublist registry.claimOrder.1 := by
  apply Ordered.Ascending.pair_sublist claimOrder_spec.2.1
  · exact rank_mem_claimOrder oneExports
  · exact rank_mem_claimOrder otherExports
  · exact precedes_iff_compare_rank.1 before

/-- What an export covers is absorbed by the first export to cover it, which is the export itself or has
its turn before it, and so before every export that the export precedes. -/
theorem Covers.exists_absorbedBy_of_precedes (covers : registry.Covers inner label)
    (before : registry.Precedes inner outer) :
    ∃ owner, registry.finalize.AbsorbedBy label owner ∧ registry.FirstToCover owner label ∧
      (owner = inner ∨ registry.Precedes owner inner) ∧ registry.Precedes owner outer := by
  obtain ⟨owner, owned, notLater⟩ := covers.exists_owner
  refine ⟨owner, absorbedBy_iff.2 owned, owner?_eq_some_iff.1 owned, notLater.imp_left Eq.symm, ?_⟩
  rcases notLater with rfl | earlier
  · exact before
  · exact earlier.trans before

/-- What an export covers goes to no export that claims after it. -/
theorem Covers.not_absorbedBy_of_precedes (covers : registry.Covers inner label)
    (before : registry.Precedes inner outer) : ¬ registry.finalize.AbsorbedBy label outer := by
  intro absorbed
  obtain ⟨owner, absorbs, _, _, ownerBefore⟩ := covers.exists_absorbedBy_of_precedes before
  cases (absorbedBy_iff.1 absorbs).symm.trans (absorbedBy_iff.1 absorbed)
  exact not_precedes_self ownerBefore

/-- Inner exports keep their claims.  Where one export reaches another and is not reached by it, the
other one reaches fewer labels and has its turn first, and nothing that it covers is absorbed by the
one around it. -/
theorem inner_export_keeps_claims (outerExports : registry.isExport outer = true)
    (innerExports : registry.isExport inner = true) (forward : registry.Reaches outer inner)
    (oneWay : ¬ registry.Reaches inner outer) :
    registry.dependencyCount inner < registry.dependencyCount outer ∧
      [registry.rank inner, registry.rank outer].Sublist registry.claimOrder.1 ∧
      ∀ label, registry.Covers inner label → ¬ registry.finalize.AbsorbedBy label outer := by
  have before : registry.Precedes inner outer := precedes_of_reaches forward oneWay
  refine ⟨dependencyCount_lt_of_reaches forward oneWay, ?_, ?_⟩
  · exact before.sublist_claimOrder innerExports outerExports
  · intro label covers
    exact covers.not_absorbedBy_of_precedes before

/-- Nor does what an inner export covers stay behind: the inner export absorbs it, or else the export that
covered it first, which has its turn before the inner one. -/
theorem inner_or_earlier_export_absorbs (forward : registry.Reaches outer inner)
    (oneWay : ¬ registry.Reaches inner outer) (covers : registry.Covers inner label) :
    ∃ owner, registry.finalize.AbsorbedBy label owner ∧ registry.FirstToCover owner label ∧
      (owner = inner ∨ registry.Precedes owner inner) ∧ registry.Precedes owner outer :=
  covers.exists_absorbedBy_of_precedes (precedes_of_reaches forward oneWay)

end BuildDeps.Export.Registry

/-! ### An export behind another -/

namespace BuildDeps.Export.Layered

open Registry (DependsOn)

def bundle : Label := ⟨"", "dist", "bundle", false⟩

/-- Two rules that depend on each other, and a third that depends on one of them.  The suite exports
the third and reaches the kit, which exports the others, by way of a third export. -/
def nested : Registry :=
  { ((Registry.empty.recordRule core ⟨[⟨"core"⟩], [⟨"util"⟩], []⟩).recordRule
      util ⟨[⟨"util"⟩], [⟨"core"⟩], []⟩).recordRule app ⟨[⟨"app"⟩], [⟨"core"⟩], []⟩ with
    exports := .ofList [(suite, [app, bundle]), (bundle, [kit]), (kit, [core])] }

/-- Both exports cover the two rules of the cycle, which stay with the inner one. -/
theorem inner_export_keeps_shared_cycle :
    nested.Covers suite util ∧ nested.Covers kit util ∧
      nested.dependencyCount kit < nested.dependencyCount suite ∧
      ¬ nested.finalize.AbsorbedBy util suite := by
  have core_util : nested.DependsOn core util :=
    Registry.mem_dependencies.1 (by decide)
  have kit_util : nested.Covers kit util :=
    .onward (.direct rfl (Registry.mem_dependencies.1 (by decide)) rfl) core_util rfl
  have suite_util : nested.Covers suite util := by
    have suite_app : nested.Covers suite app :=
      .direct rfl (Registry.mem_dependencies.1 (by decide)) rfl
    have suite_core : nested.Covers suite core :=
      suite_app.onward (Registry.mem_dependencies.1 (by decide)) rfl
    exact suite_core.onward core_util rfl
  have forward : nested.Reaches suite kit :=
    .tail (.single (Registry.mem_dependencies.1 (show bundle ∈ _ by decide)))
      (Registry.mem_dependencies.1 (by decide))
  have oneWay : ¬ nested.Reaches kit suite := by
    have reached : nested.reachable kit = [core, util] := by decide +kernel
    rw [← Registry.mem_reachable, reached]
    decide
  obtain ⟨fewer, _, keeps⟩ := Registry.inner_export_keeps_claims rfl rfl forward oneWay
  exact ⟨suite_util, kit_util, fewer, keeps util kit_util⟩

end BuildDeps.Export.Layered
