import BuildDeps.Proofs.Label.Reading
import BuildDeps.Proofs.Resolution.StandIns
import BuildDeps.Proofs.Workspace.Run

/-!
Whether what exports absorbed is closed under the dependencies of a run.

Exports absorb along the packages that the summary of a rule imports, and dependencies are found along
the packages that its imports are split into.  Where the two differ on an import of an absorbed rule,
the rule may come to depend on one that no export absorbed.  In a workspace whose labels and settings
are well named (`WellNamed`), there is no other way.
-/

namespace BuildDeps

namespace RuleSummary

variable {package : JvmPackage}

/-- The packages of classes are those of the texts that are class names. -/
theorem mem_classPackages {classes : List String} : package ∈ classPackages classes ↔
    ∃ text ∈ classes, ∃ name, ClassName.parse text = .ok name ∧ name.package = package := by
  simp only [classPackages, List.mem_filterMap, Option.map_eq_some_iff]
  refine exists_congr fun text => and_congr_right fun _ => exists_congr fun name => ?_
  cases ClassName.parse text <;> simp [Except.toOption]

/-- A unit imports the packages of its imported classes, and its imported packages as they are written.
-/
theorem mem_importedPackages {unit : SourceUnit} : package ∈ importedPackages unit ↔
    (∃ text ∈ unit.importedClasses, ∃ name,
      ClassName.parse text = .ok name ∧ name.package = package) ∨
        package.name ∈ unit.importedPackages := by
  rw [importedPackages, List.mem_append, mem_classPackages, List.mem_map]
  refine or_congr_right ⟨?_, fun member => ⟨package.name, member, rfl⟩⟩
  rintro ⟨name, member, rfl⟩
  exact member

end RuleSummary

namespace WorkspaceRule

variable {rule : WorkspaceRule} {package : JvmPackage}

/-- The export phase reads an import of a rule as a package: as that of a class, or as it stands. -/
def Sees (rule : WorkspaceRule) (package : JvmPackage) : Prop :=
  ∃ unit ∈ rule.units, (∃ text ∈ unit.importedClasses, ∃ name,
    ClassName.parse text = .ok name ∧ name.package = package) ∨
      package.name ∈ unit.importedPackages

/-- The imports of a summary are the packages that the export phase sees, save those that need no
dependency. -/
theorem mem_imports_summary : package ∈ rule.summary.imports ↔
    rule.Sees package ∧ package.isUnnamed = false ∧ package ∉ rule.summary.declares := by
  simp only [summary, RuleSummary.ofUnits, RuleSummary.ofPackages, Ordered.mem_ofList,
    List.mem_filter, List.mem_flatMap, RuleSummary.mem_importedPackages, Sees, and_assoc,
    Bool.not_eq_true', List.contains_eq_mem, decide_eq_false_iff_not]

end WorkspaceRule

end BuildDeps

namespace BuildDeps.Workspace

open Export (Registry)
open Resolution (Context RuleMatch)

variable {workspace : Workspace} {config : Config} {artifacts : Maven.ArtifactIndex}
  {registry : Registry} {rule other : WorkspaceRule} {resolved : List ResolvedRule}
  {result : ResolvedRule} {text : String}

/-- Labels as they are read from texts, none of which is taken for another: rules have absolute ones
without a repository, exports have absolute ones that are no rules, and the current repository has a
name of its own. -/
structure WellNamed (workspace : Workspace) (config : Config) : Prop where
  rules : ∀ {rule}, rule ∈ workspace.rules → (∃ text, Label.parse text = .ok rule.label) ∧
    rule.label.relative = false ∧ rule.label.repository = ""
  exports : ∀ {exporter label}, exporter ∈ workspace.exports →
    Label.parse exporter.label = .ok label → label.relative = false ∧
      ∀ rule ∈ workspace.rules, label.unqualified config.repository ≠ rule.label
  artifactsNamed : config.mavenRepository ≠ ""
  artifactsElsewhere : config.mavenRepository ≠ config.repository
  runfilesElsewhere : Resolution.runfilesLabel.repository ≠ config.repository

/-- Whatever rule of the workspace an absorbed rule depends on, an export absorbed that too. -/
def ClosedUnderDeps (workspace : Workspace) (index : Export.Index)
    (resolved : List ResolvedRule) : Prop :=
  ∀ rule ∈ workspace.rules, index.isAbsorbed rule.label = true →
    ∀ result ∈ resolved, result.label = rule.label → ∀ text ∈ result.deps,
      ∀ other ∈ workspace.rules, other.label ≠ rule.label →
        Label.readIn rule.label.package text = .ok other.label →
          index.isAbsorbed other.label = true

/-- Wherever an import of an absorbed rule names a package of some rule, either the export phase reads
an import of the rule as that package too, or an export absorbed the other rule in any case. -/
def ImportsSeen (workspace : Workspace) (index : Export.Index) : Prop :=
  ∀ rule ∈ workspace.rules, index.isAbsorbed rule.label = true → ∀ raw ∈ rule.rawImports,
    (ImportName.parse raw).package.isUnnamed = false → ∀ other ∈ workspace.rules,
      (ImportName.parse raw).package ∈ other.summary.declares →
        rule.Sees (ImportName.parse raw).package ∨ index.isAbsorbed other.label = true

/-- A registry that has the rules of a workspace and exports of its export rules. -/
structure Recorded (workspace : Workspace) (registry : Registry) : Prop where
  unambiguous : registry.Unambiguous
  lists : workspace.ruleIndex.Lists registry
  summaries : ∀ {label summary}, registry.rules.get? label = some summary ↔
    ∃ rule ∈ workspace.rules, rule.label = label ∧ rule.summary = summary
  exporters : ∀ {label}, registry.isExport label = true →
    ∃ exporter ∈ workspace.exports, Label.parse exporter.label = .ok label

namespace Recorded

/-- What is recorded of a workspace is the summaries of its rules and the exports that were read. -/
theorem of_recordExports (distinct : DistinctRules workspace.rules)
    (succeeds : (recordExports workspace.recordRules workspace.exports).answer = .ok registry) :
    workspace.Recorded registry := by
  obtain ⟨rules, unambiguous, _⟩ := recordExports_spec succeeds
  refine ⟨unambiguous distinct.unambiguous, ?_, ?_, exists_exporter_of_isExport succeeds⟩
  · intro language package
    obtain ⟨listed, members⟩ := distinct.lists language package
    refine ⟨listed, fun label => (members label).trans ?_⟩
    rw [Registry.Declares, Registry.Declares, rules]
    rfl
  · intro label summary
    rw [rules]
    exact distinct.get?_rules

/-- The declarations on record are those in the summaries. -/
theorem declares (recorded : workspace.Recorded registry) {label : Label} {package : JvmPackage} :
    registry.Declares label package ↔
      ∃ rule ∈ workspace.rules, rule.label = label ∧ package ∈ rule.summary.declares :=
  declares_iff_of_summaries recorded.summaries

/-- The imports on record are those in the summaries. -/
theorem imports (recorded : workspace.Recorded registry) (member : rule ∈ workspace.rules)
    {package : JvmPackage} (imported : package ∈ rule.summary.imports) :
    registry.Imports rule.label package :=
  ⟨rule.summary, recorded.summaries.2 ⟨rule, member, rfl, rfl⟩, imported⟩

end Recorded

namespace WellNamed

/-- A rule has no repository in its label that could be left out. -/
theorem unqualified (named : workspace.WellNamed config) (member : rule ∈ workspace.rules) :
    rule.label.unqualified config.repository = rule.label :=
  Label.unqualified_of_local (named.rules member).2.2

/-- In a workspace that is well named, no rule is an export. -/
theorem plain (named : workspace.WellNamed config) (recorded : workspace.Recorded registry)
    (member : rule ∈ workspace.rules) : registry.isExport rule.label = false := by
  rw [Bool.eq_false_iff]
  intro exports
  obtain ⟨exporter, present, parsed⟩ := recorded.exporters exports
  exact (named.exports present parsed).2 rule member (named.unqualified member)

/-- The text that one rule writes for another reads as that other rule. -/
theorem readIn_rule (named : workspace.WellNamed config) (member : rule ∈ workspace.rules)
    (origin : Label) :
    Label.readIn origin.package (rule.label.simplify config.repository origin).text =
      .ok rule.label := by
  obtain ⟨⟨text, parsed⟩, absolute, _⟩ := named.rules member
  rw [Label.readIn_simplify (Label.wellFormed_of_parse parsed) absolute, named.unqualified member]

/-- The text that a rule writes for an export reads as no rule. -/
theorem not_readIn_exporter (named : workspace.WellNamed config)
    (recorded : workspace.Recorded registry) {exporter : Label}
    (exports : registry.isExport exporter = true) (member : rule ∈ workspace.rules)
    (origin : Label) :
    Label.readIn origin.package (exporter.simplify config.repository origin).text ≠
      .ok rule.label := by
  obtain ⟨_, present, parsed⟩ := recorded.exporters exports
  obtain ⟨absolute, apart⟩ := named.exports present parsed
  rw [Label.readIn_simplify (Label.wellFormed_of_parse parsed) absolute]
  exact fun same => apart rule member (Except.ok.inj same)

/-- The text that a rule writes for something outside reads as no rule. -/
theorem not_readIn_outside (named : workspace.WellNamed config) {found : Label}
    (outside : (workspace.contextWith config artifacts registry).Outside found)
    (member : rule ∈ workspace.rules) (origin : Label) :
    Label.readIn origin.package (found.simplify config.repository origin).text ≠
      .ok rule.label := by
  have here := (named.rules member).2.2
  intro reads
  rcases outside with rfl | ⟨artifact, rfl⟩
  · exact Label.repository_of_readIn_simplify (by decide) named.runfilesElsewhere rfl reads here
  · exact Label.repository_of_readIn_simplify named.artifactsNamed named.artifactsElsewhere rfl
      reads here

/-- A label that a rule writes for another is none that the rule would leave out as itself. -/
theorem isSelf_simplify (named : workspace.WellNamed config) (member : rule ∈ workspace.rules)
    (otherMember : other ∈ workspace.rules) (apart : other.label ≠ rule.label) :
    Resolution.isSelf rule.label (other.label.simplify config.repository rule.label) = false := by
  obtain ⟨_, absolute, here⟩ := named.rules member
  obtain ⟨_, otherAbsolute, otherHere⟩ := named.rules otherMember
  rw [Label.simplify, if_pos (Or.inr otherHere)]
  split
  · rename_i near
    simp only [Resolution.isSelf, Bool.true_and, decide_eq_false_iff_not]
    intro target
    apply apart
    cases ruleLabel : rule.label
    cases otherLabel : other.label
    simp_all
  · simp [Resolution.isSelf, otherAbsolute]

end WellNamed

/-! ### Both ways of seeing an import -/

/-- A package in the summary of an absorbed rule is of a rule that some export absorbed. -/
theorem isAbsorbed_of_imports (recorded : workspace.Recorded registry)
    (member : rule ∈ workspace.rules)
    (otherMember : other ∈ workspace.rules) (plain : registry.isExport other.label = false)
    (apart : other.label ≠ rule.label) (absorbed : registry.finalize.isAbsorbed rule.label = true)
    {package : JvmPackage} (imported : package ∈ rule.summary.imports)
    (declared : package ∈ other.summary.declares) (rulePlain : registry.isExport rule.label = false) :
    registry.finalize.isAbsorbed other.label = true := by
  obtain ⟨owner, owned⟩ := Table.contains_iff.1 absorbed
  have edge : registry.RecordedEdge rule.label other.label :=
    .imported rulePlain (recorded.imports member imported)
      (recorded.declares.2 ⟨other, otherMember, rfl, declared⟩)
  have depends := recorded.unambiguous.dependsOn_of_recordedEdge edge apart
  have covers := (Registry.owner?_eq_some_iff.1 owned).1.onward depends plain
  obtain ⟨first, found, _⟩ := covers.exists_owner
  exact Table.contains_iff.2 ⟨first, found⟩

section

variable (distinct : DistinctRules workspace.rules) (named : workspace.WellNamed config)
  (recorded : workspace.Recorded registry) (enabled : config.resolveToExports = true)
  (noOverrides : ∀ package, config.override? package = none)

include distinct named recorded enabled noOverrides

/-- A rule that a dependency stands for declares a package that is imported. -/
theorem exists_import_of_readIn {cache : Resolution.Cache}
    (reached : (workspace.contextWith config artifacts registry).Reached cache)
    (otherMember : other ∈ workspace.rules)
    (written : text ∈ Resolution.depsOfLabels rule.label
      ((workspace.contextWith config artifacts registry).resolveEach rule.origin
        (Resolution.groupImports rule.origin rule.rawImports) cache).answer)
    (reads : Label.readIn rule.label.package text = .ok other.label) :
    ∃ raw ∈ rule.rawImports, (ImportName.parse raw).package.isUnnamed = false ∧
      (ImportName.parse raw).package ∈ other.summary.declares := by
  obtain ⟨label, member, _, rfl⟩ := Resolution.mem_depsOfLabels.1 written
  obtain ⟨package, classes, earlier, found, listed, reachedEarlier, answered, rfl⟩ :=
    Context.exists_answer_of_mem_resolveEach reached member
  obtain ⟨raw, present, needed, rfl⟩ := Resolution.exists_mem_groupImports.1 ⟨classes, listed⟩
  refine ⟨raw, present, ?_, ?_⟩
  · rw [Resolution.isOwnImport, Bool.or_eq_false_iff] at needed
    exact needed.1
  · rcases reachedEarlier.answer_cases rfl enabled (noOverrides _) answered with
      ⟨candidate, _, standsIn⟩ | ⟨only, _⟩ | outside
    · have exports := RuleMatch.isExport_of_standIn? standsIn
      exact absurd reads (named.not_readIn_exporter recorded exports otherMember rule.label)
    · have declares := ((recorded.lists _ _).2 found).1 (only ▸ List.mem_singleton_self found)
      obtain ⟨declaring, declaringMember, rfl, declared⟩ := recorded.declares.1 declares
      have same := reads.symm.trans (named.readIn_rule declaringMember rule.label)
      rw [distinct.eq_of_label_eq otherMember declaringMember (Except.ok.inj same)]
      exact declared
    · exact absurd reads (named.not_readIn_outside outside otherMember rule.label)

/-- A rule that no export absorbed and that declares an imported package is a dependency. -/
theorem exists_readIn_of_import (member : rule ∈ workspace.rules)
    (otherMember : other ∈ workspace.rules) (apart : other.label ≠ rule.label)
    (unabsorbed : registry.finalize.owner? other.label = none) {raw : String}
    (present : raw ∈ rule.rawImports) (notUnnamed : (ImportName.parse raw).package.isUnnamed = false)
    (declared : (ImportName.parse raw).package ∈ other.summary.declares) (cache : Resolution.Cache) :
    ∃ text ∈ Resolution.depsOfLabels rule.label
        ((workspace.contextWith config artifacts registry).resolveEach rule.origin
          (Resolution.groupImports rule.origin rule.rawImports) cache).answer,
      Label.readIn rule.label.package text = .ok other.label := by
  have needed : Resolution.isOwnImport rule.origin (ImportName.parse raw) = false := by
    rw [Resolution.isOwnImport, notUnnamed, Bool.false_or, Bool.eq_false_iff]
    intro own
    have ownDeclared : (ImportName.parse raw).package ∈ rule.summary.declares :=
      List.contains_iff_mem.1 own
    exact apart (distinct.packages otherMember member declared ownDeclared)
  obtain ⟨classes, listed⟩ := Resolution.exists_mem_groupImports.2 ⟨raw, present, needed, rfl⟩
  have declares := recorded.declares.2 ⟨other, otherMember, rfl, declared⟩
  have noStandIn :
      RuleMatch.standIn? registry.finalize rule.origin.label other.label = none := by
    have plain : registry.finalize.isExport other.label = false := named.plain recorded otherMember
    simp [RuleMatch.standIn?, plain, unabsorbed]
  have answered : ∀ cache, ((workspace.contextWith config artifacts registry).resolvePackage
      rule.origin (ImportName.parse raw).package classes cache).answer = some other.label := by
    intro cache
    have only : (workspace.contextWith config artifacts registry).rules.find rule.origin.language
        (ImportName.parse raw).package = [other.label] :=
      recorded.lists.find_eq recorded.unambiguous declares
    have settled := Context.label?_ruleMatch_of_find_eq_singleton rfl enabled only
    rw [noStandIn] at settled
    exact Context.answer_of_label? (noOverrides _) settled
  refine ⟨_, Resolution.mem_depsOfLabels.2 ⟨_, Context.mem_resolveEach_of_answer listed answered,
    named.isSelf_simplify member otherMember apart, rfl⟩, ?_⟩
  exact named.readIn_rule otherMember rule.label

end

/-- In a workspace that is well named, and whose rules have no dependencies to begin with, what exports
absorbed is closed under the dependencies that a run finds for it, exactly if the export phase sees each
of the imports by which an absorbed rule names a rule that no export absorbed. -/
theorem closedUnderDeps_iff_importsSeen (distinct : DistinctRules workspace.rules)
    (unlisted : ∀ rule ∈ workspace.rules, rule.deps = []) (named : workspace.WellNamed config)
    (enabled : config.resolveToExports = true)
    (noOverrides : ∀ package, config.override? package = none)
    (succeeds : (workspace.run config artifacts).answer = .ok resolved) :
    ∃ registry, (recordExports workspace.recordRules workspace.exports).answer = .ok registry ∧
      (workspace.ClosedUnderDeps registry.finalize resolved ↔
        workspace.ImportsSeen registry.finalize) := by
  obtain ⟨registry, listing, recording, resolution, rfl⟩ := run_eq_ok succeeds
  have recorded := Recorded.of_recordExports distinct recording
  have results := forall₂_of_resolveRules (.fresh _) resolution
  refine ⟨registry, recording, ?_, ?_⟩
  · intro closed rule member absorbed raw present notUnnamed other otherMember declared
    apply Or.inr
    by_cases apart : other.label = rule.label
    · rw [apart]
      exact absorbed
    · cases owned : registry.finalize.owner? other.label with
      | some owner => exact Table.contains_iff.2 ⟨owner, owned⟩
      | none =>
          obtain ⟨result, resultMember, earlier, reached, resolved⟩ :=
            exists_related_of_mem results member
          obtain ⟨text, written, reads⟩ := exists_readIn_of_import distinct named recorded enabled
            noOverrides member otherMember apart owned present notUnnamed declared earlier
          rw [← WorkspaceRule.deps_eq_of_resolve (unlisted rule member) resolved] at written
          exact closed rule member absorbed result (mem_sortRules.2 resultMember)
            (WorkspaceRule.deps_of_resolve resolved).1 text written other otherMember apart reads
  · intro seen rule member absorbed result resultMember sameLabel text written other otherMember
      apart reads
    obtain ⟨resolvedRule, ruleMember, earlier, reached, resolved⟩ :=
      exists_related_of_mem results.flip (mem_sortRules.1 resultMember)
    have same := (WorkspaceRule.deps_of_resolve resolved).1.symm.trans sameLabel
    cases distinct.eq_of_label_eq ruleMember member same
    rw [WorkspaceRule.deps_eq_of_resolve (unlisted _ member) resolved] at written
    obtain ⟨raw, present, notUnnamed, declared⟩ := exists_import_of_readIn distinct named recorded
      enabled noOverrides reached otherMember written reads
    rcases seen rule member absorbed raw present notUnnamed other otherMember declared with
      sees | done
    · have foreign : (ImportName.parse raw).package ∉ rule.summary.declares :=
        fun own => apart (distinct.packages otherMember member declared own)
      have imported := WorkspaceRule.mem_imports_summary.2 ⟨sees, notUnnamed, foreign⟩
      exact isAbsorbed_of_imports recorded member otherMember (named.plain recorded otherMember)
        apart absorbed imported declared (named.plain recorded member)
    · exact done

end BuildDeps.Workspace

/-! ### Two layers of rules -/

namespace BuildDeps.Workspace.Layered

open Export (Registry)

def api : Label := ⟨"", "api", "api", false⟩

def core : Label := ⟨"", "core", "core", false⟩

def sdk : Label := ⟨"", "dist", "sdk", false⟩

/-- Two rules, the first of which imports packages and is exported. -/
def twoRules (imported : List String) : Workspace where
  rules := [
    { label := api, units := [{ package := ⟨"api"⟩, importedPackages := imported }] },
    { label := core, units := [{ package := ⟨"core"⟩ }] }]
  exports := [{ label := "//dist:sdk", exports := ["//api"] }]

/-- What is recorded of them. -/
def registry (imported : List String) : Registry where
  declaring := .ofList [(⟨"api"⟩, api), (⟨"core"⟩, core)]
  rules := .ofList [(api, ⟨[⟨"api"⟩], imported.map JvmPackage.mk, []⟩), (core, ⟨[⟨"core"⟩], [], []⟩)]
  exports := .ofList [(sdk, [api])]

theorem distinct (imported : List String) : DistinctRules (twoRules imported).rules := by
  apply DistinctRules.pair
  · exact show api ≠ core by decide
  · intro package declared again
    have same := (List.mem_singleton.1 declared).symm.trans (List.mem_singleton.1 again)
    simp at same

theorem wellNamed (imported : List String) : (twoRules imported).WellNamed {} where
  rules := by
    intro rule member
    rcases List.mem_pair.1 member with rfl | rfl
    · exact ⟨⟨"//api", rfl⟩, rfl, rfl⟩
    · exact ⟨⟨"//core", rfl⟩, rfl, rfl⟩
  exports := by
    intro exporter label member parsed
    have read : Label.parse "//dist:sdk" = .ok ⟨"", "dist", "sdk", false⟩ := rfl
    cases List.mem_singleton.1 member
    cases read.symm.trans parsed
    refine ⟨rfl, ?_⟩
    intro rule member
    rcases List.mem_pair.1 member with rfl | rfl <;> simp [Label.unqualified, api, core]
  artifactsNamed := by decide
  artifactsElsewhere := by decide
  runfilesElsewhere := by decide

/-- A package that is imported by its name is seen, so that the export absorbs both rules. -/
theorem closedUnderDeps_of_package_import : ∃ resolved,
    ((twoRules ["core"]).run {} default).answer = .ok resolved ∧
      (registry ["core"]).finalize.isAbsorbed api = true ∧
      (twoRules ["core"]).ClosedUnderDeps (registry ["core"]).finalize resolved := by
  have recording : (recordExports (twoRules ["core"]).recordRules (twoRules ["core"]).exports).answer =
      .ok (registry ["core"]) := rfl
  have succeeds : ((twoRules ["core"]).run {} default).answer = .ok
      [⟨api, ["//core"], [], some ["//api:__pkg__", "//core:__pkg__", "//dist:__pkg__"]⟩,
        ⟨core, [], [], some ["//api:__pkg__", "//core:__pkg__", "//dist:__pkg__"]⟩] :=
    run_of_eq_ok_of_inOrder recording (by decide +kernel) (by decide)
  obtain ⟨found, recorded, closed_iff⟩ := closedUnderDeps_iff_importsSeen (distinct _)
    (by simp [twoRules]) (wellNamed _) rfl (fun _ => rfl) succeeds
  cases recording.symm.trans recorded
  refine ⟨_, succeeds, by decide +kernel, closed_iff.2 ?_⟩
  intro rule member absorbed raw present notUnnamed other otherMember declared
  apply Or.inl
  rcases List.mem_pair.1 member with rfl | rfl
  · cases List.mem_singleton.1 present
    have named : (ImportName.parse "core").package = ⟨"core"⟩ := rfl
    rw [named]
    exact ⟨_, List.mem_cons_self, Or.inr List.mem_cons_self⟩
  · cases present

/-- An import of all classes of a package is not seen, and yet the package is resolved: the rule
depends on one that no export absorbed. -/
theorem not_closedUnderDeps_of_wildcard_import : ∃ resolved,
    DistinctRules (twoRules ["core.*"]).rules ∧ (twoRules ["core.*"]).WellNamed {} ∧
      ((twoRules ["core.*"]).run {} default).answer = .ok resolved ∧
      (recordExports (twoRules ["core.*"]).recordRules (twoRules ["core.*"]).exports).answer =
        .ok (registry ["core.*"]) ∧
      ¬ (twoRules ["core.*"]).ClosedUnderDeps (registry ["core.*"]).finalize resolved := by
  have recording : (recordExports (twoRules ["core.*"]).recordRules
      (twoRules ["core.*"]).exports).answer = .ok (registry ["core.*"]) := rfl
  have succeeds : ((twoRules ["core.*"]).run {} default).answer = .ok
      [⟨api, ["//core"], [], some ["//api:__pkg__", "//dist:__pkg__"]⟩, ⟨core, [], [], none⟩] :=
    run_of_eq_ok_of_inOrder recording (by decide +kernel) (by decide)
  refine ⟨_, distinct _, wellNamed _, succeeds, recording, ?_⟩
  intro closed
  have absorbed : (registry ["core.*"]).finalize.isAbsorbed api = true := by decide +kernel
  have unabsorbed : (registry ["core.*"]).finalize.isAbsorbed core = false := by decide +kernel
  have reads : Label.readIn "api" "//core" = .ok core := rfl
  have leaks := closed _ List.mem_cons_self absorbed _ List.mem_cons_self rfl "//core"
    List.mem_cons_self _ (List.mem_cons_of_mem _ List.mem_cons_self) (by decide) reads
  exact absurd leaks (by rw [unabsorbed]; decide)

end BuildDeps.Workspace.Layered
