import BuildDeps.Proofs.Resolution.Alike
import BuildDeps.Proofs.Workspace.OrderIndependence

/-!
Runs with exports off.

With exports off, the exports of a context are matches that do not count, and nothing else of them shows
in an answer or in the cache.  Where no rule of a workspace has the label of an export, there are no such
matches, so that a run answers as if there were no exports at all, once these could be read.
-/

namespace BuildDeps

open Resolution (Cache Context)
open Export (Registry)

variable {workspace : Workspace} {config : Config} {artifacts : Maven.ArtifactIndex}
  {registry : Registry} {one other : Context} {oneIndex otherIndex index : Export.Index}
  {rule : WorkspaceRule} {resolved : List ResolvedRule}

namespace WorkspaceRule

/-- With exports off, no rule is given a visibility. -/
theorem visibility_of_exports_off (off : config.resolveToExports = false) :
    rule.visibility config index = none := by
  rw [visibility, off]
  rfl

/-- Contexts that match alike have the same result for a rule, as long as exports are off and show no
visibility. -/
theorem resolve_eq_of_matchAlike (alike : one.MatchAlike other)
    (off : one.config.resolveToExports = false) :
    rule.resolve one oneIndex = rule.resolve other otherIndex := by
  have unseen : rule.visibility one.config oneIndex = rule.visibility other.config otherIndex := by
    rw [visibility_of_exports_off off, visibility_of_exports_off (alike.config ▸ off)]
  funext cache
  rw [resolve, resolve, alike.resolveImports_eq, alike.resolvePackages_eq, unseen]

end WorkspaceRule

namespace Workspace

/-- Rules are resolved alike, one after the other, in contexts that match alike. -/
theorem resolveRules_eq_of_matchAlike (alike : one.MatchAlike other)
    (off : one.config.resolveToExports = false) (rules : List WorkspaceRule) (cache : Cache) :
    resolveRules one oneIndex rules cache = resolveRules other otherIndex rules cache := by
  induction rules generalizing cache with
  | nil => rfl
  | cons rule rest ih =>
      have same : rule.resolve one oneIndex = rule.resolve other otherIndex :=
        WorkspaceRule.resolve_eq_of_matchAlike alike off
      simp only [resolveRules, same, ih]

/-- The workspace with its rules alone. -/
def withoutExports (workspace : Workspace) : Workspace :=
  { workspace with exports := [] }

/-- With exports off, a package has the rules that declare it for matches, as long as none of them is an
export. -/
theorem ruleMatch_contextWith_of_exports_off {origin : Resolution.Origin} {package : JvmPackage}
    (off : config.resolveToExports = false)
    (plain : ∀ rule ∈ workspace.rules, registry.isExport rule.label = false) :
    (workspace.contextWith config artifacts registry).ruleMatch origin package =
      .ofCandidates (workspace.ruleIndex.find origin.language package) := by
  rw [Context.ruleMatch_of_exports_off off rfl, List.filter_eq_self.2]
  · rfl
  · intro label member
    obtain ⟨rule, present, rfl⟩ := exists_rule_of_mem_find member
    have unlisted : registry.finalize.isExport rule.label = false := plain rule present
    rw [unlisted]
    rfl

/-- All labels of exports can be read, and none of them is the label of a rule. -/
structure ExportsApart (workspace : Workspace) : Prop where
  labels : ∀ exporter ∈ workspace.exports, ∃ label, Label.parse exporter.label = .ok label
  dependencies : ∀ exporter ∈ workspace.exports,
    ∀ text ∈ exporter.deps ++ exporter.exports ++ exporter.runtimeDeps,
      ∃ label, Label.parse text = .ok label
  apart : ∀ exporter ∈ workspace.exports, ∀ rule ∈ workspace.rules,
    Label.parse exporter.label ≠ .ok rule.label

namespace ExportsApart

/-- Exports whose labels can be read can be recorded. -/
theorem exists_recordExports (apart : workspace.ExportsApart) :
    ∃ registry, (recordExports workspace.recordRules workspace.exports).answer = .ok registry := by
  rw [← failure?_eq_none_iff, failure?_recordExports, List.findSome?_eq_none_iff]
  intro text member
  obtain ⟨exporter, given, listed⟩ := List.mem_flatMap.1 member
  rw [Label.malformed?, failure?_eq_none_iff]
  rcases List.mem_cons.1 listed with rfl | dependency
  · exact apart.labels exporter given
  · exact apart.dependencies exporter given text dependency

/-- Once the exports are recorded, the rules match as without them. -/
theorem matchAlike (apart : workspace.ExportsApart) (off : config.resolveToExports = false)
    (recorded : (recordExports workspace.recordRules workspace.exports).answer = .ok registry) :
    (workspace.contextWith config artifacts registry).MatchAlike
      (workspace.withoutExports.contextWith config artifacts workspace.recordRules) where
  config := rfl
  artifacts := rfl
  ruleMatch origin package := by
    have plain : ∀ rule ∈ workspace.rules, registry.isExport rule.label = false := by
      intro rule present
      rw [Bool.eq_false_iff]
      intro isExport
      obtain ⟨exporter, member, parsed⟩ := exists_exporter_of_isExport recorded isExport
      exact apart.apart exporter member rule present parsed
    have unrecorded : workspace.recordRules.exports = Table.empty :=
      exports_recordAll workspace.rules
    have unlisted : ∀ rule ∈ workspace.withoutExports.rules,
        workspace.recordRules.isExport rule.label = false := by
      intro rule _
      rw [Registry.isExport, unrecorded]
      rfl
    rw [ruleMatch_contextWith_of_exports_off off plain,
      ruleMatch_contextWith_of_exports_off off unlisted]
    rfl

/-- With exports off, a run answers as with its rules alone. -/
theorem answer_run (apart : workspace.ExportsApart) (off : config.resolveToExports = false) :
    (workspace.run config artifacts).answer =
      (workspace.withoutExports.run config artifacts).answer := by
  obtain ⟨registry, recorded⟩ := apart.exists_recordExports
  have unexported : (recordExports workspace.withoutExports.recordRules
      workspace.withoutExports.exports).answer = .ok workspace.recordRules := rfl
  rw [answer_run_of_recorded recorded, answer_run_of_recorded unexported,
    resolveRules_eq_of_matchAlike (apart.matchAlike off recorded) off]
  rfl

end ExportsApart

/-- With exports off, no rule gets a visibility. -/
theorem visibility_of_run (off : config.resolveToExports = false)
    (succeeds : (workspace.run config artifacts).answer = .ok resolved) :
    ∀ result ∈ resolved, result.visibility = none := by
  obtain ⟨registry, listing, _, found, rfl⟩ := run_eq_ok succeeds
  intro result member
  obtain ⟨rule, _, cache, _, resolves⟩ := exists_related_of_mem
    (forall₂_of_resolveRules (.fresh _) found).flip (mem_sortRules.1 member)
  obtain ⟨listed, _, rfl⟩ := WorkspaceRule.resolve_eq_ok resolves
  exact WorkspaceRule.visibility_of_exports_off off

/-- With exports off, exports are inert.  Over any rules, the dependency lists of rules that ask one after
the other, what is reported, and the cache at the end are what they are without exports over the rules
less the labels of the exports.  Where all labels of exports can be read and none is the label of a rule,
a run answers what it answers with its rules alone, and no rule gets a visibility. -/
theorem exports_are_inert_when_off (config : Config) (artifacts : Maven.ArtifactIndex)
    (off : config.resolveToExports = false) :
    (∀ (rules : Resolution.RuleIndex) (index : Export.Index) (calls : List Resolution.ImportsCall)
        (cache : Cache),
      (Context.mk config rules artifacts (some index)).answerInTurn calls cache =
        (Context.mk config (rules.without index.isExport) artifacts none).answerInTurn calls cache) ∧
    ∀ workspace : Workspace, workspace.ExportsApart →
      (workspace.run config artifacts).answer =
          (workspace.withoutExports.run config artifacts).answer ∧
        ∀ resolved, (workspace.run config artifacts).answer = .ok resolved →
          ∀ result ∈ resolved, result.visibility = none := by
  constructor
  · intro rules index calls cache
    rw [(Context.matchAlike_without_exports off rfl).answerInTurn_eq]
  · intro workspace apart
    exact ⟨apart.answer_run off, fun resolved => visibility_of_run off⟩

end Workspace

end BuildDeps

/-! ### An export beside the rule that it exports -/

namespace BuildDeps.Workspace.Shared

open Resolution (Context ImportsCall RuleIndex)

/-- Exports are off. -/
def config : Config := { resolveToExports := false }

/-- The second rule and the kit, which exports it, both declare the package. -/
def rules : RuleIndex :=
  (RuleIndex.empty.add .java ⟨"core"⟩ core.label).add .java ⟨"core"⟩ ⟨"", "dist", "kit", false⟩

def index : Export.Index where
  exports := .ofList [(⟨"", "dist", "kit", false⟩, [core.label])]
  owners := .ofList [(core.label, ⟨"", "dist", "kit", false⟩)]
  visibility := Table.empty
  conflicts := []

def call : ImportsCall where
  origin := { label := app.label }
  imports := ["core.Engine"]

theorem exportsApart : workspace.ExportsApart where
  labels := by
    intro exporter member
    rcases List.mem_pair.1 member with rfl | rfl
    · exact ⟨⟨"", "dist", "sdk", false⟩, rfl⟩
    · exact ⟨⟨"", "dist", "kit", false⟩, rfl⟩
  dependencies := by
    intro exporter member text listed
    rcases List.mem_pair.1 member with rfl | rfl
    · cases List.mem_singleton.1 listed
      exact ⟨app.label, rfl⟩
    · cases List.mem_singleton.1 listed
      exact ⟨core.label, rfl⟩
  apart := by
    have sdkLabel : Label.parse sdk.label = .ok ⟨"", "dist", "sdk", false⟩ := rfl
    have kitLabel : Label.parse kit.label = .ok ⟨"", "dist", "kit", false⟩ := rfl
    intro exporter member rule present
    rcases List.mem_pair.1 member with rfl | rfl <;>
      rcases List.mem_pair.1 present with rfl | rfl <;> simp [sdkLabel, kitLabel, app, core]

/-- Only the rule matches, and is kept in the cache; in the workspace, it is the dependency of the other
rule, and has no visibility. -/
theorem exports_are_inert_beside_core :
    ((Context.mk config rules default (some index)).answerInTurn [call] (.ofCapacity 1)).answer =
        [.ok ["//core"]] ∧
      (workspace.run config default).answer =
        .ok [⟨app.label, ["//core"], [], none⟩, ⟨core.label, [], [], none⟩] := by
  obtain ⟨calls, runs⟩ := exports_are_inert_when_off config default rfl
  constructor
  · rw [calls]
    rfl
  · rw [(runs workspace exportsApart).1]
    exact run_of_eq_ok_of_inOrder rfl (by decide +kernel) (by decide)

end BuildDeps.Workspace.Shared
