import BuildDeps.Json.Record
import BuildDeps.Label.Parser

/-!
Export rules: rules that stand for a set of finer rules towards the rest of the world.
-/

namespace BuildDeps

/-- An export rule as it is written down; labels are still texts. -/
structure ExportRule where
  label : String
  sources : List String := []
  deps : List String := []
  exports : List String := []
  runtimeDeps : List String := []
deriving DecidableEq, Repr, Inhabited

namespace ExportRule

/-- The labels that the rule depends on in any way, as seen by the rule itself: `deps`, then
`exports`, then `runtime_deps`.  The first malformed one is the error. -/
def dependencies (rule : ExportRule) (owner : Label) : Except Label.Malformed (List Label) :=
  (rule.deps ++ rule.exports ++ rule.runtimeDeps).mapM fun text => do
    let label ← Label.parse text
    .ok (label.absolute owner.repository owner.package)

/-- Reads an export rule; only its label has to be there. -/
def ofJson? (json : Json) : Option ExportRule := do
  let record ← json.record? ["label", "srcs", "deps", "exports", "runtime_deps"]
  let label ← record.required "label" Json.text?
  let sources ← record.texts "srcs"
  let deps ← record.texts "deps"
  let exports ← record.texts "exports"
  let runtimeDeps ← record.texts "runtime_deps"
  some ⟨label, sources, deps, exports, runtimeDeps⟩

end ExportRule

end BuildDeps
