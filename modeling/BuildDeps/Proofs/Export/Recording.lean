import BuildDeps.Proofs.Export.Graph

/-!
Registries in which rules do not compete.

Where rules are recorded under distinct labels and no two of them declare one package, the table of
declaring rules says no more and no less than the rules themselves, so that the graph of the registry
is the graph of what was recorded.
-/

namespace BuildDeps.Export.Registry

variable {registry next : Registry} {label other importer : Label} {summary : RuleSummary}
  {rule : ExportRule} {package : JvmPackage}

/-- A recorded rule declares a package. -/
def Declares (registry : Registry) (label : Label) (package : JvmPackage) : Prop :=
  ∃ summary, registry.rules.get? label = some summary ∧ package ∈ summary.declares

/-- A recorded rule imports a package. -/
def Imports (registry : Registry) (label : Label) (package : JvmPackage) : Prop :=
  ∃ summary, registry.rules.get? label = some summary ∧ package ∈ summary.imports

/-- The registries that come of recording rules under distinct labels, no two of which declare one
package, and any exports, in any order. -/
inductive Unambiguous : Registry → Prop
  | empty : Unambiguous empty
  | rule {registry : Registry} {label : Label} {summary : RuleSummary}
      (recorded : Unambiguous registry) (freshLabel : registry.rules.get? label = none)
      (freshPackages : ∀ package ∈ summary.declares, ∀ other, ¬ registry.Declares other package) :
      Unambiguous (registry.recordRule label summary)
  | exporter {registry next : Registry} {label : Label} {rule : ExportRule}
      (recorded : Unambiguous registry) (succeeds : registry.recordExport label rule = .ok next) :
      Unambiguous next

/-- The graph of what was recorded: an export depends on what it lists, and another rule on the rules
that declare what it imports, itself included. -/
inductive RecordedEdge (registry : Registry) : Label → Label → Prop
  | listed {exporter label : Label} {listing : List Label}
      (recorded : registry.exports.get? exporter = some listing) (member : label ∈ listing) :
      RecordedEdge registry exporter label
  | imported {importer label : Label} {package : JvmPackage}
      (plain : registry.isExport importer = false) (imports : registry.Imports importer package)
      (declares : registry.Declares label package) :
      RecordedEdge registry importer label

/-- An export is recorded only if all it depends on can be read, and then in its table alone. -/
theorem recordExport_eq_ok (succeeds : registry.recordExport label rule = .ok next) :
    ∃ dependencies, rule.dependencies label = .ok dependencies ∧
      next = { registry with
        exports := registry.exports.insert label (Ordered.ofList dependencies) } := by
  unfold recordExport at succeeds
  cases found : rule.dependencies label with
  | error fault =>
      rw [found] at succeeds
      cases succeeds
  | ok dependencies =>
      rw [found] at succeeds
      cases succeeds
      exact ⟨dependencies, rfl, rfl⟩

/-- A rule that is recorded takes over the packages that it declares. -/
theorem get?_declaring_recordRule :
    (registry.recordRule label summary).declaring.get? package =
      if package ∈ summary.declares then some label else registry.declaring.get? package :=
  Table.get?_foldl_insert _ _ _ _

/-- A rule that is recorded takes over its label. -/
theorem get?_rules_recordRule :
    (registry.recordRule label summary).rules.get? other =
      if other = label then some summary else registry.rules.get? other :=
  Table.get?_insert _ _ _ _

/-- Under a label that was free before, recording a rule adds its declarations to those of the others.
-/
theorem declares_recordRule (fresh : registry.rules.get? label = none) :
    (registry.recordRule label summary).Declares other package ↔
      (other = label ∧ package ∈ summary.declares) ∨ registry.Declares other package := by
  simp only [Declares, get?_rules_recordRule]
  by_cases same : other = label
  · subst same
    simp [fresh]
  · simp [same]

/-- No package changes hands, so that the table of packages has every declaration. -/
theorem Unambiguous.get?_declaring (unambiguous : registry.Unambiguous) :
    registry.declaring.get? package = some label ↔ registry.Declares label package := by
  induction unambiguous with
  | empty => simp [Registry.empty, Declares]
  | @rule registry new summary _ freshLabel freshPackages ih =>
      rw [get?_declaring_recordRule, declares_recordRule freshLabel, ← ih]
      by_cases declares : package ∈ summary.declares
      · have unclaimed := mt ih.1 (freshPackages package declares label)
        simp only [declares, if_true, Option.some.injEq, and_true, unclaimed, or_false]
        exact eq_comm
      · simp [declares]
  | exporter _ succeeds ih =>
      obtain ⟨_, _, rfl⟩ := recordExport_eq_ok succeeds
      exact ih

/-- A label that is no export is not in their table. -/
theorem isExport_eq_false_iff :
    registry.isExport label = false ↔ registry.exports.get? label = none := by
  rw [isExport, Table.contains, Option.isSome_eq_false_iff, Option.isNone_iff_eq_none]

/-- Every edge of the graph was recorded. -/
theorem Unambiguous.recordedEdge_of_dependsOn (unambiguous : registry.Unambiguous)
    (depends : registry.DependsOn importer label) : registry.RecordedEdge importer label := by
  cases depends with
  | listed recorded member => exact .listed recorded member
  | imported plain recorded imports declared other =>
      apply RecordedEdge.imported (isExport_eq_false_iff.2 plain)
      · exact ⟨_, recorded, imports⟩
      · exact unambiguous.get?_declaring.1 declared

/-- Every edge that was recorded is in the graph, unless it leads from a label to itself. -/
theorem Unambiguous.dependsOn_of_recordedEdge (unambiguous : registry.Unambiguous)
    (edge : registry.RecordedEdge importer label) (other : label ≠ importer) :
    registry.DependsOn importer label := by
  cases edge with
  | listed recorded member => exact .listed recorded member
  | imported plain imports declares =>
      obtain ⟨summary, recorded, member⟩ := imports
      exact .imported (isExport_eq_false_iff.1 plain) recorded member
        (unambiguous.get?_declaring.2 declares) other

end BuildDeps.Export.Registry

/-! ### Two layers of exports -/

namespace BuildDeps.Export.Layered

open Registry (Unambiguous)

def app : Label := ⟨"", "app", "app", false⟩

def util : Label := ⟨"", "util", "util", false⟩

def core : Label := ⟨"", "core", "core", false⟩

def suite : Label := ⟨"", "dist", "suite", false⟩

def kit : Label := ⟨"", "dist", "kit", false⟩

/-- Three rules, of which the first depends on the others and the second on the third. -/
def rules : Registry :=
  ((Registry.empty.recordRule core ⟨[⟨"core"⟩], [], []⟩).recordRule
    util ⟨[⟨"util"⟩], [⟨"core"⟩], []⟩).recordRule app ⟨[⟨"app"⟩], [⟨"core"⟩, ⟨"util"⟩], []⟩

/-- An export of the first rule, and one of the third, which both reach the third. -/
def registry : Registry :=
  { rules with exports := .ofList [(suite, [app]), (kit, [core])] }

/-- There are these three rules and no others. -/
theorem eq_of_get?_rules {label : Label} {summary : RuleSummary}
    (recorded : registry.rules.get? label = some summary) :
    (label = app ∧ summary = ⟨[⟨"app"⟩], [⟨"core"⟩, ⟨"util"⟩], []⟩) ∨
      (label = util ∧ summary = ⟨[⟨"util"⟩], [⟨"core"⟩], []⟩) ∨
      (label = core ∧ summary = ⟨[⟨"core"⟩], [], []⟩) := by
  have row := Table.mem_rows_of_get? recorded
  have rows : registry.rules.rows = [(app, ⟨[⟨"app"⟩], [⟨"core"⟩, ⟨"util"⟩], []⟩),
    (util, ⟨[⟨"util"⟩], [⟨"core"⟩], []⟩), (core, ⟨[⟨"core"⟩], [], []⟩)] := rfl
  rw [rows] at row
  simpa only [List.mem_cons, List.not_mem_nil, or_false, Prod.mk.injEq] using row

theorem rules_unambiguous : rules.Unambiguous := by
  have first : (Registry.empty.recordRule core ⟨[⟨"core"⟩], [], []⟩).Unambiguous := by
    apply Unambiguous.rule .empty rfl
    rintro package _ other ⟨summary, found, _⟩
    cases found
  have second : ((Registry.empty.recordRule core ⟨[⟨"core"⟩], [], []⟩).recordRule
      util ⟨[⟨"util"⟩], [⟨"core"⟩], []⟩).Unambiguous := by
    apply Unambiguous.rule first rfl
    intro package declares other declared
    rw [← first.get?_declaring, List.mem_singleton.1 declares] at declared
    cases declared
  apply Unambiguous.rule second rfl
  intro package declares other declared
  rw [← second.get?_declaring, List.mem_singleton.1 declares] at declared
  cases declared

theorem registry_unambiguous : registry.Unambiguous := by
  have one : rules.recordExport suite { label := "//dist:suite", exports := ["//app"] } =
      .ok { rules with exports := .ofList [(suite, [app])] } := rfl
  have two : Registry.recordExport { rules with exports := .ofList [(suite, [app])] } kit
      { label := "//dist:kit", exports := ["//core"] } = .ok registry := rfl
  exact .exporter (.exporter rules_unambiguous one) two

end BuildDeps.Export.Layered
