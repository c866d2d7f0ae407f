import BuildDeps.Proofs.Resolution.StandIns

/-!
Only rules within an export depend on what the export absorbed.

The visibility of an absorbed label and the answers that rules get are worked out apart from each
other.  They agree: a rule that is answered with an absorbed label is absorbed by the same export, and
the visibility of the label has its package.
-/

namespace BuildDeps.Resolution

variable {context : Context} {registry : Export.Registry} {origin : Origin}
  {package : JvmPackage} {label exporter : Label} {classes : List String} {cache : Cache}

/-- A context that resolves to the exports of an index, where no label from outside could be taken
for a rule of the repository. -/
structure Context.ResolvesTo (context : Context) (index : Export.Index) : Prop where
  exports : context.exports = some index
  enabled : context.config.resolveToExports = true
  localRules : ∀ {language package label}, label ∈ context.rules.find language package →
    label.repository = ""
  artifactsElsewhere : context.config.mavenRepository ≠ ""

namespace Context.ResolvesTo

/-- Rules are in the current repository, and what comes from outside is not. -/
theorem not_outside {index : Export.Index} {language : Language}
    (resolves : context.ResolvesTo index)
    (declares : label ∈ context.rules.find language package) : ¬ context.Outside label := by
  have here := resolves.localRules declares
  intro outside
  rcases outside with rfl | ⟨artifact, rfl⟩
  · simp [runfilesLabel] at here
  · exact resolves.artifactsElsewhere here

/-- A rule that is answered with an absorbed label is absorbed by the same export. -/
theorem absorbedBy_origin (resolves : context.ResolvesTo registry.finalize)
    (reached : context.Reached cache) (noOverride : context.config.override? package = none)
    (answered : (context.resolvePackage origin package classes cache).answer = some label)
    (declares : label ∈ context.rules.find origin.language package)
    (absorbed : registry.finalize.AbsorbedBy label exporter) :
    registry.finalize.AbsorbedBy origin.label exporter := by
  rw [Export.Registry.absorbedBy_iff] at absorbed ⊢
  rcases reached.answer_cases resolves.exports resolves.enabled noOverride answered with
    ⟨candidate, _, standsIn⟩ | ⟨_, noStandIn⟩ | outside
  · -- A stand-in is an export, and exports are never absorbed.
    have plain := (Export.Registry.owner?_eq_some_iff.1 absorbed).1.plain
    rw [RuleMatch.isExport_of_standIn? standsIn] at plain
    cases plain
  · rcases RuleMatch.owner?_of_standIn?_eq_none noStandIn with same | unowned
    · exact same.trans absorbed
    · rw [unowned] at absorbed
      cases absorbed
  · exact absurd outside (resolves.not_outside declares)

end Context.ResolvesTo

/-- Encapsulation and visibility agree.  An absorbed label is seen from the packages of its export and
of all that the export absorbed; a rule that depends on one is absorbed by the same export, so that
its package is among those; and an export that lists one has its package among those too, or is in
conflict with the export that absorbed it. -/
theorem encapsulation_agrees_with_visibility (registry : Export.Registry) :
    (∀ {label exporter : Label}, registry.finalize.AbsorbedBy label exporter →
      ∃ specs, registry.finalize.visibility? label = some specs ∧ Ordered.Ascending specs ∧
        ∀ spec, spec ∈ specs ↔ spec = exporter.packageVisibility ∨
          ∃ other, registry.finalize.AbsorbedBy other exporter ∧
            spec = other.packageVisibility) ∧
    (∀ {context : Context} {origin : Origin} {package : JvmPackage} {classes : List String}
        {cache : Cache} {label exporter : Label},
      context.ResolvesTo registry.finalize → context.Reached cache →
      context.config.override? package = none →
      (context.resolvePackage origin package classes cache).answer = some label →
      label ∈ context.rules.find origin.language package →
      registry.finalize.AbsorbedBy label exporter →
        registry.finalize.AbsorbedBy origin.label exporter ∧
          ∃ specs, registry.finalize.visibility? label = some specs ∧
            origin.label.packageVisibility ∈ specs) ∧
    (∀ {exporter label : Label}, registry.isExport exporter = true →
      registry.DependsOn exporter label → registry.isExport label = false →
        (∃ specs, registry.finalize.visibility? label = some specs ∧
          exporter.packageVisibility ∈ specs) ∨
        ∃ owner, registry.finalize.AbsorbedBy label owner ∧
          ⟨label, exporter, owner⟩ ∈ registry.finalize.conflicts) := by
  refine ⟨Export.Registry.visibility?_of_absorbedBy, ?_, ?_⟩
  · intro context origin package classes cache label exporter resolves reached noOverride answered
      declares absorbed
    have within := resolves.absorbedBy_origin reached noOverride answered declares absorbed
    obtain ⟨specs, found, _, members⟩ := Export.Registry.visibility?_of_absorbedBy absorbed
    exact ⟨within, specs, found, (members _).2 (Or.inr ⟨origin.label, within, rfl⟩)⟩
  · intro exporter label exports depends plain
    obtain ⟨owner, absorbed⟩ :=
      Export.Registry.exists_absorbedBy_of_dependsOn exports depends plain
    by_cases same : owner = exporter
    · subst same
      obtain ⟨specs, found, _, members⟩ := Export.Registry.visibility?_of_absorbedBy absorbed
      exact Or.inl ⟨specs, found, (members _).2 (Or.inl rfl)⟩
    · exact Or.inr ⟨owner, absorbed,
        Export.Registry.mem_conflicts_of_dependsOn exports depends absorbed same⟩

end BuildDeps.Resolution

namespace BuildDeps.Resolution.Layered

open Export.Layered

theorem resolvesTo : context.ResolvesTo registry.finalize where
  exports := rfl
  enabled := rfl
  artifactsElsewhere := by decide
  localRules := by
    intro language package label member
    obtain ⟨summary, found, _⟩ := ((lists language package).2 label).1 member
    rcases eq_of_get?_rules found with ⟨rfl, _⟩ | ⟨rfl, _⟩ | ⟨rfl, _⟩ <;> rfl

/-- The first rule depends on the second, and one export absorbed both. -/
theorem encapsulation_agrees_with_visibility_layered :
    registry.finalize.AbsorbedBy util suite ∧
      (context.resolvePackage { label := app } ⟨"util"⟩ [] default).answer = some util ∧
      registry.finalize.AbsorbedBy app suite ∧
      ∃ specs, registry.finalize.visibility? util = some specs ∧ app.packageVisibility ∈ specs := by
  have absorbed : registry.finalize.AbsorbedBy util suite := by
    unfold Export.Index.AbsorbedBy
    decide +kernel
  have answered : (context.resolvePackage { label := app } ⟨"util"⟩ [] default).answer =
      some util := by decide +kernel
  have declares : util ∈ context.rules.find .java ⟨"util"⟩ := by decide
  refine ⟨absorbed, answered, ?_⟩
  exact (encapsulation_agrees_with_visibility registry).2.1 resolvesTo
    (.fresh Cache.defaultCapacity) rfl answered declares absorbed

end BuildDeps.Resolution.Layered
