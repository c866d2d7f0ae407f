import BuildDeps.Proofs.Resolution.Provenance
import BuildDeps.Proofs.Resolution.RuleIndex

/-!
Answers where exports stand in for what they absorbed.

An answer is a stand-in for a rule that declares the package, or the only rule that declares it, which
then needs no stand-in, or it comes from outside of the repository.  That a cache takes part adds no
further case, since it never answers for a package that a single rule declares.
-/

namespace BuildDeps.Resolution

namespace RuleMatch

variable {index : Export.Index} {origin candidate label exporter : Label}
  {candidates : List Label}

/-- The stand-ins are those of the candidates, each once. -/
theorem mem_standIns : exporter ∈ standIns index origin candidates ↔
    ∃ candidate ∈ candidates, standIn? index origin candidate = some exporter := by
  rw [standIns, Ordered.mem_ofList, List.mem_filterMap]

/-- A single candidate always settles the package: on its stand-in, or else on itself. -/
theorem label?_throughExports_singleton :
    (throughExports index origin [candidate]).label? =
      some ((standIn? index origin candidate).getD candidate) := by
  cases found : standIn? index origin candidate <;>
    simp [throughExports, standIns, found, Ordered.ofList, Ordered.insert, ofCandidates, label?]

/-- A rule is only answered as it is if it is the single candidate, and nothing stands in for it. -/
theorem eq_of_throughExports_eq_unique
    (settled : throughExports index origin candidates = .unique label) :
    candidates = [label] ∧ standIn? index origin label = none := by
  unfold throughExports at settled
  split at settled
  · rename_i noneStandsIn
    have only : candidates = [label] := by
      unfold ofCandidates at settled
      split at settled
      · cases settled
      · cases settled
        rfl
      · cases settled
    refine ⟨only, Option.eq_none_iff_forall_ne_some.2 ?_⟩
    intro exporter found
    have member : exporter ∈ standIns index origin candidates :=
      mem_standIns.2 ⟨label, only ▸ List.mem_singleton_self label, found⟩
    rw [noneStandsIn] at member
    cases member
  · cases settled
  · cases settled

/-- An export is only answered in the place of a candidate that it stands in for. -/
theorem exists_standIn_of_throughExports_eq
    (settled : throughExports index origin candidates = .standIn exporter) :
    ∃ candidate ∈ candidates, standIn? index origin candidate = some exporter := by
  unfold throughExports at settled
  split at settled
  · unfold ofCandidates at settled
    split at settled <;> cases settled
  · rename_i only
    cases settled
    exact mem_standIns.1 (only ▸ List.mem_singleton_self exporter)
  · cases settled

/-- Only exports stand in for anything. -/
theorem isExport_of_standIn? {registry : Export.Registry}
    (found : standIn? registry.finalize origin candidate = some exporter) :
    registry.isExport exporter = true := by
  unfold standIn? at found
  split at found
  · rename_i exports
    cases found
    exact exports
  · split at found
    · cases found
    · exact (Export.Registry.owner?_eq_some_iff.1 found).1.isExport

/-- A rule without a stand-in belongs where the rule that asks belongs, or to no export. -/
theorem owner?_of_standIn?_eq_none (found : standIn? index origin candidate = none) :
    index.owner? origin = index.owner? candidate ∨ index.owner? candidate = none := by
  unfold standIn? at found
  split at found
  · cases found
  · split at found
    · rename_i same
      exact Or.inl same
    · exact Or.inr found

end RuleMatch

namespace Context

variable {context : Context} {origin : Origin} {package : JvmPackage} {label : Label}
  {classes : List String} {cache : Cache} {index : Export.Index}

/-- What a cache may hold: the only rule that declares a package, in all languages, or a label from
outside. -/
def Kept (context : Context) (package : JvmPackage) (label : Label) : Prop :=
  (∀ language, context.rules.find language package = [label]) ∨ context.Outside label

section ThroughExports

variable (exports : context.exports = some index)
  (enabled : context.config.resolveToExports = true)

include exports enabled

/-- With exports on, every match is taken through the exports. -/
theorem ruleMatch_eq_throughExports :
    context.ruleMatch origin package =
      .throughExports index origin.label (context.rules.find origin.language package) := by
  simp [ruleMatch, exports, enabled]

/-- The only rule that declares a package settles it, with itself or with its stand-in. -/
theorem label?_ruleMatch_of_find_eq_singleton {declaring : Label}
    (only : context.rules.find origin.language package = [declaring]) :
    (context.ruleMatch origin package).label? =
      some ((RuleMatch.standIn? index origin.label declaring).getD declaring) := by
  rw [ruleMatch_eq_throughExports exports enabled, only]
  exact RuleMatch.label?_throughExports_singleton

/-- A unique match is the only rule that declares the package, and has no stand-in. -/
theorem find_of_ruleMatch_eq_unique (settled : context.ruleMatch origin package = .unique label) :
    context.rules.find origin.language package = [label] ∧
      RuleMatch.standIn? index origin.label label = none := by
  rw [ruleMatch_eq_throughExports exports enabled] at settled
  exact RuleMatch.eq_of_throughExports_eq_unique settled

/-- The caches in use hold nothing else, if the only rule of a package in one language is its only rule
in all of them. -/
theorem Reached.holds (shared : RuleIndex.SharedByLanguages context.rules.find)
    (reached : context.Reached cache) :
    Cache.Holds context.Kept cache.entries := by
  induction reached with
  | fresh capacity => exact Cache.holds_ofCapacity capacity
  | call _ origin package classes ih =>
      refine holds_resolvePackage ih ?_ ?_
      · intro label settled
        have only := (find_of_ruleMatch_eq_unique exports enabled settled).1
        exact Or.inl fun language => (shared _ _ package).trans only
      · intro label _ _ provided
        exact Or.inr (outside_of_provider provided)

/-- The answers for a package without override, whatever was asked before. -/
theorem Reached.answer_cases (reached : context.Reached cache)
    (noOverride : context.config.override? package = none)
    (answered : (context.resolvePackage origin package classes cache).answer = some label) :
    (∃ candidate ∈ context.rules.find origin.language package,
        RuleMatch.standIn? index origin.label candidate = some label) ∨
      (context.rules.find origin.language package = [label] ∧
        RuleMatch.standIn? index origin.label label = none) ∨
      context.Outside label := by
  rcases source_of_answer noOverride answered with settled | ⟨unsettled, kept | provided⟩
  · cases found : context.ruleMatch origin package with
    | unique only =>
        rw [found] at settled
        cases settled
        exact Or.inr (Or.inl (find_of_ruleMatch_eq_unique exports enabled found))
    | standIn exporter =>
        rw [found] at settled
        cases settled
        rw [ruleMatch_eq_throughExports exports enabled] at found
        exact Or.inl (RuleMatch.exists_standIn_of_throughExports_eq found)
    | absent | several | severalStandIns =>
        rw [found] at settled
        cases settled
  · rcases (Reached.holds exports enabled context.rules.sharedByLanguages
        reached).of_get kept with only | outside
    · -- A single rule would have settled the package before the cache was asked.
      rw [label?_ruleMatch_of_find_eq_singleton exports enabled (only _)] at unsettled
      cases unsettled
    · exact Or.inr (Or.inr outside)
  · exact Or.inr (Or.inr (outside_of_provider provided))

end ThroughExports

end Context

end BuildDeps.Resolution
