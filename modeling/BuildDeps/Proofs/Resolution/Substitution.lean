import BuildDeps.Proofs.Resolution.StandIns

/-!
When an export is what the rules of the repository answer.

An export qualifies for a package if it declares the package itself, or if it absorbed a rule that does
and did not absorb the rule that asks.  The rules answer with an export exactly if no other export
qualifies, and then the export leads to a rule that declares the package.  Where several exports
qualify, it is as if no rule declared the package at all.
-/

namespace BuildDeps.Resolution

variable {registry : Export.Registry} {context : Context} {origin : Origin} {package : JvmPackage}
  {exporter other : Label} {classes : List String} {cache : Cache}

namespace RuleMatch

variable {index : Export.Index} {asking candidate : Label} {candidates : List Label}

/-- An export stands in for itself, and for what it absorbed towards rules that it did not absorb. -/
theorem standIn?_finalize_eq_some_iff :
    standIn? registry.finalize asking candidate = some exporter ↔
      registry.isExport exporter = true ∧ candidate = exporter ∨
        registry.finalize.AbsorbedBy candidate exporter ∧
          ¬ registry.finalize.AbsorbedBy asking exporter := by
  simp only [Export.Registry.absorbedBy_iff]
  cases exports : registry.isExport candidate with
  | true =>
      have unowned : registry.finalize.owner? candidate ≠ some exporter := by
        intro owned
        have plain := (Export.Registry.owner?_eq_some_iff.1 owned).1.plain
        rw [exports] at plain
        cases plain
      have itself : standIn? registry.finalize asking candidate = some candidate := if_pos exports
      rw [itself, Option.some.injEq]
      constructor
      · rintro rfl
        exact Or.inl ⟨exports, rfl⟩
      · rintro (⟨_, same⟩ | ⟨owned, _⟩)
        · exact same
        · exact absurd owned unowned
  | false =>
      have apart : ¬ (registry.isExport exporter = true ∧ candidate = exporter) := by
        rintro ⟨isExport, rfl⟩
        rw [exports] at isExport
        cases isExport
      have notExport : registry.finalize.isExport candidate = false := exports
      rw [or_iff_right apart, standIn?, notExport, if_neg Bool.false_ne_true]
      split
      · rename_i same
        rw [same]
        simp
      · rename_i different
        rw [and_iff_left_of_imp]
        intro owned same
        exact different (same.trans owned.symm)

/-- An export is answered if it is the only one that stands in for any of the candidates. -/
theorem throughExports_eq_standIn_iff :
    throughExports index asking candidates = .standIn exporter ↔
      exporter ∈ standIns index asking candidates ∧
        ∀ other ∈ standIns index asking candidates, other = exporter := by
  constructor
  · intro settled
    unfold throughExports at settled
    split at settled
    · unfold ofCandidates at settled
      split at settled <;> cases settled
    · rename_i only
      cases settled
      rw [only]
      exact ⟨List.mem_singleton_self exporter, fun other => List.mem_singleton.1⟩
    · cases settled
  · rintro ⟨member, only⟩
    have distinct : (standIns index asking candidates).Nodup :=
      (Ordered.ascending_ofList _).nodup
    rw [throughExports, eq_singleton_of_mem distinct member only]

/-- Two exports that stand in for candidates leave the package open between them. -/
theorem label?_throughExports_eq_none {one : Label}
    (oneMember : one ∈ standIns index asking candidates)
    (otherMember : other ∈ standIns index asking candidates) (different : one ≠ other) :
    (throughExports index asking candidates).label? = none := by
  unfold throughExports
  split
  · rename_i nothing
    rw [nothing] at oneMember
    cases oneMember
  · rename_i only
    rw [only, List.mem_singleton] at oneMember otherMember
    exact absurd (oneMember.trans otherMember.symm) different
  · rfl

end RuleMatch

namespace Context

/-- An export that could stand for a package towards the rule that asks: it declares the package, or
it absorbed a rule that declares it and not the rule that asks. -/
inductive Qualifies (context : Context) (registry : Export.Registry) (origin : Origin)
    (package : JvmPackage) (exporter : Label) : Prop
  | itself (exports : registry.isExport exporter = true)
      (declares : exporter ∈ context.rules.find origin.language package) :
      Qualifies context registry origin package exporter
  | absorbing {declaring : Label}
      (declares : declaring ∈ context.rules.find origin.language package)
      (absorbed : registry.finalize.AbsorbedBy declaring exporter)
      (apart : ¬ registry.finalize.AbsorbedBy origin.label exporter) :
      Qualifies context registry origin package exporter

/-- The stand-ins for a package are the exports that qualify for it. -/
theorem mem_standIns_iff_qualifies :
    exporter ∈ RuleMatch.standIns registry.finalize origin.label
        (context.rules.find origin.language package) ↔
      context.Qualifies registry origin package exporter := by
  simp only [RuleMatch.mem_standIns, RuleMatch.standIn?_finalize_eq_some_iff]
  constructor
  · rintro ⟨declaring, declares, ⟨exports, rfl⟩ | ⟨absorbed, apart⟩⟩
    · exact .itself exports declares
    · exact .absorbing declares absorbed apart
  · intro qualifies
    cases qualifies with
    | itself exports declares => exact ⟨exporter, declares, Or.inl ⟨exports, rfl⟩⟩
    | absorbing declares absorbed apart => exact ⟨_, declares, Or.inr ⟨absorbed, apart⟩⟩

/-- An export that qualifies is a provider, or leads to one along labels that are no exports. -/
theorem Qualifies.leads_to_provider (qualifies : context.Qualifies registry origin package exporter) :
    exporter ∈ context.rules.find origin.language package ∨
      ∃ declaring ∈ context.rules.find origin.language package,
        registry.finalize.AbsorbedBy declaring exporter ∧ registry.Covers exporter declaring ∧
          ¬ registry.finalize.AbsorbedBy origin.label exporter := by
  cases qualifies with
  | itself _ declares => exact Or.inl declares
  | @absorbing declaring declares absorbed apart =>
      have covers : registry.Covers exporter declaring :=
        (Export.Registry.owner?_eq_some_iff.1 (Export.Registry.absorbedBy_iff.1 absorbed)).1
      exact Or.inr ⟨declaring, declares, absorbed, covers, apart⟩

/-- An export that stands in is answered without touching the cache and without a report. -/
theorem resolvePackage_of_standIn (noOverride : context.config.override? package = none)
    (settled : context.ruleMatch origin package = .standIn exporter) :
    context.resolvePackage origin package classes cache = ⟨some exporter, cache, []⟩ := by
  rw [resolvePackage, noOverride, settled]

/-- Where the rules settle nothing, the answer and the cache are those of a repository without
rules. -/
theorem resolvePackage_of_unsettled (noOverride : context.config.override? package = none)
    (unsettled : (context.ruleMatch origin package).label? = none) :
    let found := context.resolvePackage origin package classes cache
    let without := { context with rules := .empty }.resolvePackage origin package classes cache
    found.answer = without.answer ∧ found.cache = without.cache := by
  have absent : { context with rules := .empty }.ruleMatch origin package = .absent := by
    unfold ruleMatch
    cases context.exports with
    | none => rfl
    | some index => cases context.config.resolveToExports <;> rfl
  simp only [resolvePackage, noOverride, absent]
  cases found : context.ruleMatch origin package with
  | unique label =>
      rw [found] at unsettled
      cases unsettled
  | standIn exporter =>
      rw [found] at unsettled
      cases unsettled
  | absent | several | severalStandIns => exact ⟨rfl, rfl⟩

section ThroughExports

variable (exports : context.exports = some registry.finalize)
  (enabled : context.config.resolveToExports = true)

include exports enabled

/-- An export is the match of a package if it alone qualifies. -/
theorem ruleMatch_eq_standIn_iff :
    context.ruleMatch origin package = .standIn exporter ↔
      context.Qualifies registry origin package exporter ∧
        ∀ other, context.Qualifies registry origin package other → other = exporter := by
  rw [ruleMatch_eq_throughExports exports enabled, RuleMatch.throughExports_eq_standIn_iff]
  simp only [mem_standIns_iff_qualifies]

/-- An export is only answered as a stand-in, for itself or for what it absorbed. -/
theorem ruleMatch_eq_standIn_of_label? (isExport : registry.isExport exporter = true)
    (settled : (context.ruleMatch origin package).label? = some exporter) :
    context.ruleMatch origin package = .standIn exporter := by
  cases found : context.ruleMatch origin package with
  | standIn label =>
      rw [found] at settled
      cases settled
      rfl
  | unique label =>
      rw [found] at settled
      cases settled
      have none := (find_of_ruleMatch_eq_unique exports enabled found).2
      rw [RuleMatch.standIn?_finalize_eq_some_iff.2 (Or.inl ⟨isExport, rfl⟩)] at none
      cases none
  | absent | several | severalStandIns =>
      rw [found] at settled
      cases settled

/-- Substituting an export never loses the provider.  The rules answer with an export exactly if it is
the only one that qualifies.  It then declares the package, or it absorbed a rule that does, reaches
that rule through no other export, and did not absorb the rule that asks; and nothing is kept of the
answer.  Where two exports qualify, the rules answer nothing, and answer and cache are what they would
be without any rules. -/
theorem export_answers_iff_it_alone_qualifies
    (noOverride : context.config.override? package = none) :
    (∀ exporter, registry.isExport exporter = true →
      ((context.ruleMatch origin package).label? = some exporter ↔
        context.Qualifies registry origin package exporter ∧
          ∀ other, context.Qualifies registry origin package other → other = exporter)) ∧
    (∀ exporter, registry.isExport exporter = true →
      (context.ruleMatch origin package).label? = some exporter →
        (exporter ∈ context.rules.find origin.language package ∨
          ∃ declaring ∈ context.rules.find origin.language package,
            registry.finalize.AbsorbedBy declaring exporter ∧ registry.Covers exporter declaring ∧
              ¬ registry.finalize.AbsorbedBy origin.label exporter) ∧
        context.resolvePackage origin package classes cache = ⟨some exporter, cache, []⟩) ∧
    ∀ one other, context.Qualifies registry origin package one →
      context.Qualifies registry origin package other → one ≠ other →
        (context.ruleMatch origin package).label? = none ∧
        let found := context.resolvePackage origin package classes cache
        let without := { context with rules := .empty }.resolvePackage origin package classes cache
        found.answer = without.answer ∧ found.cache = without.cache := by
  refine ⟨?_, ?_, ?_⟩
  · intro exporter isExport
    rw [← ruleMatch_eq_standIn_iff exports enabled]
    constructor
    · exact ruleMatch_eq_standIn_of_label? exports enabled isExport
    · intro settled
      rw [settled]
      rfl
  · intro exporter isExport settled
    have standIn := ruleMatch_eq_standIn_of_label? exports enabled isExport settled
    have qualifies := ((ruleMatch_eq_standIn_iff exports enabled).1 standIn).1
    exact ⟨qualifies.leads_to_provider, resolvePackage_of_standIn noOverride standIn⟩
  · intro one other oneQualifies otherQualifies different
    have unsettled : (context.ruleMatch origin package).label? = none := by
      rw [ruleMatch_eq_throughExports exports enabled]
      exact RuleMatch.label?_throughExports_eq_none (mem_standIns_iff_qualifies.2 oneQualifies)
        (mem_standIns_iff_qualifies.2 otherQualifies) different
    exact ⟨unsettled, resolvePackage_of_unsettled noOverride unsettled⟩

end ThroughExports

end Context

end BuildDeps.Resolution

namespace BuildDeps.Resolution.Layered

open Export.Layered

def web : Label := ⟨"", "web", "web", false⟩

/-- The rules of the two layers, of which the first and the last also declare a package in common. -/
def overlapping : Context :=
  { context with
    rules := (context.rules.add .java ⟨"common"⟩ app).add .java ⟨"common"⟩ core }

theorem absorbedBy_suite : registry.finalize.AbsorbedBy app suite := by
  unfold Export.Index.AbsorbedBy
  decide +kernel

theorem absorbedBy_kit : registry.finalize.AbsorbedBy core kit := by
  unfold Export.Index.AbsorbedBy
  decide +kernel

theorem not_absorbedBy_web {exporter : Label} : ¬ registry.finalize.AbsorbedBy web exporter := by
  have alone : registry.finalize.exportedBy web = none := by decide +kernel
  simp [Export.Index.AbsorbedBy, alone]

/-- The second rule gets the last one from the export that absorbed it; of the package in common, a
rule outside gets nothing, since both exports absorbed a rule that declares it. -/
theorem kit_answers_alone_and_suite_competes :
    ((overlapping.ruleMatch { label := util } ⟨"core"⟩).label? = some kit ∧
      overlapping.Qualifies registry { label := util } ⟨"core"⟩ kit) ∧
    overlapping.Qualifies registry { label := web } ⟨"common"⟩ suite ∧
    overlapping.Qualifies registry { label := web } ⟨"common"⟩ kit ∧
    (overlapping.ruleMatch { label := web } ⟨"common"⟩).label? = none := by
  have kitAnswers : (overlapping.ruleMatch { label := util } ⟨"core"⟩).label? = some kit := by
    decide +kernel
  have suiteQualifies : overlapping.Qualifies registry { label := web } ⟨"common"⟩ suite :=
    .absorbing (show app ∈ _ by decide) absorbedBy_suite not_absorbedBy_web
  have kitQualifies : overlapping.Qualifies registry { label := web } ⟨"common"⟩ kit :=
    .absorbing (show core ∈ _ by decide) absorbedBy_kit not_absorbedBy_web
  have inside := @Context.export_answers_iff_it_alone_qualifies registry overlapping
    { label := util } ⟨"core"⟩ [] default rfl rfl rfl
  have outside := @Context.export_answers_iff_it_alone_qualifies registry overlapping
    { label := web } ⟨"common"⟩ [] default rfl rfl rfl
  have apart : suite ≠ kit := by decide
  refine ⟨⟨kitAnswers, ((inside.1 kit rfl).1 kitAnswers).1⟩, suiteQualifies, kitQualifies, ?_⟩
  exact (outside.2.2 suite kit suiteQualifies kitQualifies apart).1

end BuildDeps.Resolution.Layered
