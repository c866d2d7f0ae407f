import BuildDeps.Diagnostic
import BuildDeps.Export.Rule
import BuildDeps.Label.Order
import BuildDeps.RuleSummary
import BuildDeps.Table

/-!
What is known of the rules and exports of a repository before anything is resolved.

Rules and exports are recorded in any order.  Recorded twice, the last record of a label stands, and
so does the last rule that declares a package.
-/

namespace BuildDeps.Export

/-- The recorded rules and exports. -/
structure Registry where
  /-- The rule that declares a package. -/
  declaring : Table JvmPackage Label
  /-- The packages of each rule. -/
  rules : Table Label RuleSummary
  /-- The labels that each export depends on, ascending. -/
  exports : Table Label (List Label)
deriving DecidableEq, Repr

namespace Registry

/-- Nothing is recorded. -/
def empty : Registry := ⟨Table.empty, Table.empty, Table.empty⟩

instance : Inhabited Registry := ⟨empty⟩

/-- Records a rule by its packages. -/
def recordRule (registry : Registry) (label : Label) (summary : RuleSummary) : Registry :=
  { registry with
    declaring := summary.declares.foldl (·.insert · label) registry.declaring
    rules := registry.rules.insert label summary }

/-- Records an export.  Fails if one of its dependencies is malformed. -/
def recordExport (registry : Registry) (label : Label) (rule : ExportRule) :
    Except Label.Malformed Registry := do
  let dependencies ← rule.dependencies label
  .ok { registry with exports := registry.exports.insert label (Ordered.ofList dependencies) }

/-- What there is to say about an export rule: its own sources count for nothing. -/
def exportRemarks (label : Label) (rule : ExportRule) : List Diagnostic :=
  if rule.sources.isEmpty then [] else [.exportWithSources label]

/-- Whether a label is recorded as an export. -/
def isExport (registry : Registry) (label : Label) : Bool :=
  registry.exports.contains label

end Registry

end BuildDeps.Export
