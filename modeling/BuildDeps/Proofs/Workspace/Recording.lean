import BuildDeps.Proofs.Collections
import BuildDeps.Proofs.Workspace.Run

/-!
What recording exports comes to.

Each export is read on its own, as the row of a table, so that the exports are recorded one after the other
as their rows are written; and it is read unless one of its texts is no label, so that recording fails as
the first text that is none.
-/

namespace BuildDeps

open Export (Registry)

namespace ExportRule

/-- What is recorded of an export: its label, and what it depends on. -/
def row (rule : ExportRule) : Except Label.Malformed (Label × List Label) :=
  (Label.parse rule.label).bind fun label =>
    (rule.dependencies label).map fun dependencies => (label, Ordered.ofList dependencies)

/-- An export whose label can be read is read as its dependencies are. -/
theorem row_of_parse {rule : ExportRule} {label : Label}
    (parsed : Label.parse rule.label = .ok label) : rule.row =
      (rule.dependencies label).map fun dependencies => (label, Ordered.ofList dependencies) := by
  rw [ExportRule.row, parsed]
  rfl

/-- An export whose label cannot be read is not read at all. -/
theorem row_of_malformed {rule : ExportRule} {fault : Label.Malformed}
    (malformed : Label.parse rule.label = .error fault) : rule.row = .error fault := by
  rw [ExportRule.row, malformed]
  rfl

/-- A row has the label of its export. -/
theorem parse_of_row {rule : ExportRule} {row : Label × List Label} (read : rule.row = .ok row) :
    Label.parse rule.label = .ok row.1 := by
  obtain ⟨label, parsed, later⟩ := exists_of_bind_eq_ok read
  cases found : rule.dependencies label with
  | error fault =>
      rw [found] at later
      cases later
  | ok dependencies =>
      rw [found] at later
      cases later
      exact parsed

end ExportRule

namespace Workspace

/-- Recording exports writes the row of each, or fails at the first that cannot be read. -/
theorem answer_recordExports (registry : Registry) (exports : List ExportRule) :
    (recordExports registry exports).answer = (exports.mapM ExportRule.row).map fun rows =>
      { registry with
        exports := rows.foldl (fun table row => table.insert row.1 row.2) registry.exports } := by
  induction exports generalizing registry with
  | nil => rfl
  | cons rule rest ih =>
      rw [List.mapM_cons, recordExports]
      cases parsed : Label.parse rule.label with
      | error fault =>
          rw [ExportRule.row_of_malformed parsed]
          rfl
      | ok label =>
          rw [ExportRule.row_of_parse parsed]
          simp only [Registry.recordExport]
          cases rule.dependencies label with
          | error fault => rfl
          | ok dependencies =>
              simp only [bind, Except.bind, ih, Except.map]
              cases rest.mapM ExportRule.row <;> rfl

end Workspace

/-! ### Texts that are no labels -/

/-- The texts of an export that are read as labels: its own label, then all that it depends on. -/
def ExportRule.labelTexts (rule : ExportRule) : List String :=
  rule.label :: (rule.deps ++ rule.exports ++ rule.runtimeDeps)

namespace Label

/-- How a text fails to be a label. -/
def malformed? (text : String) : Option Malformed :=
  failure? (parse text)

end Label

namespace ExportRule

/-- The dependencies of an export are read in the order of its three lists, up to the first text that is
no label. -/
theorem failure?_dependencies (rule : ExportRule) (owner : Label) :
    failure? (rule.dependencies owner) =
      (rule.deps ++ rule.exports ++ rule.runtimeDeps).findSome? Label.malformed? := by
  rw [dependencies, failure?_mapM]
  congr 1
  funext text
  exact failure?_map _ (Label.parse text)

/-- An export is recorded unless one of its texts is no label. -/
theorem failure?_row (rule : ExportRule) :
    failure? rule.row = rule.labelTexts.findSome? Label.malformed? := by
  have later : ∀ label, Label.parse rule.label = .ok label →
      failure? ((rule.dependencies label).map fun dependencies =>
        (label, Ordered.ofList dependencies)) =
          (rule.deps ++ rule.exports ++ rule.runtimeDeps).findSome? Label.malformed? := by
    intro label _
    rw [failure?_map, failure?_dependencies]
  rw [row, failure?_bind later, labelTexts, List.findSome?_cons, Label.malformed?]
  cases failure? (Label.parse rule.label) <;> rfl

end ExportRule

namespace Workspace

/-- Exports are recorded up to the first of their texts that is no label. -/
theorem failure?_recordExports (registry : Registry) (exports : List ExportRule) :
    failure? (recordExports registry exports).answer =
      (exports.flatMap ExportRule.labelTexts).findSome? Label.malformed? := by
  rw [answer_recordExports, failure?_map, failure?_mapM, findSome?_flatMap]
  simp only [ExportRule.failure?_row]

end Workspace

end BuildDeps
