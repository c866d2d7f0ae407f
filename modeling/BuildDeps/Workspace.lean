import BuildDeps.Export.Rule
import BuildDeps.Json.Reader
import BuildDeps.Label.Parser
import BuildDeps.Language
import BuildDeps.SourceUnit

/-!
The description of a repository: its rules with what their sources import, and its export rules.
-/

namespace BuildDeps

/-- A rule whose imports are to be resolved. -/
structure WorkspaceRule where
  label : Label
  kind : String := "java_library"
  language : Language := .java
  testOnly : Bool := false
  units : List SourceUnit := []
  deps : List String := []
deriving DecidableEq, Repr, Inhabited

/-- The rules and export rules of a repository. -/
structure Workspace where
  rules : List WorkspaceRule := []
  exports : List ExportRule := []
deriving DecidableEq, Repr, Inhabited

namespace WorkspaceRule

/-- The kinds of rules that are tests. -/
def testKinds : List String := ["java_test", "java_junit5_test", "java_test_suite", "kt_jvm_test"]

/-- The kinds of rules that are libraries. -/
def libraryKinds : List String := ["java_library", "kt_jvm_library"]

/-- Whether the rule is a test or serves tests only. -/
def isTest (rule : WorkspaceRule) : Bool :=
  rule.testOnly || testKinds.contains rule.kind

/-- Whether the rule is a library. -/
def isLibrary (rule : WorkspaceRule) : Bool :=
  libraryKinds.contains rule.kind

/-- All imports of the rule as they are written. -/
def rawImports (rule : WorkspaceRule) : List String :=
  rule.units.flatMap SourceUnit.rawImports

/-- Reads a rule; only its label has to be there, and it has to be well formed. -/
def ofJson? (json : Json) : Option WorkspaceRule := do
  let record ← json.record? ["label", "kind", "language", "testonly", "units", "deps"]
  let label ← record.required "label" fun json => json.text? >>= fun text =>
    (Label.parse text).toOption
  let kind ← record.optional "kind" Json.text? "java_library"
  let language ← record.optional "language" (Json.choice? Language.ofName?) .java
  let testOnly ← record.optional "testonly" Json.bool? false
  let units ← record.optional "units" (Json.list? SourceUnit.ofJson?) []
  let deps ← record.texts "deps"
  some ⟨label, kind, language, testOnly, units, deps⟩

end WorkspaceRule

namespace Workspace

/-- Reads a workspace. -/
def ofJson? (json : Json) : Option Workspace := do
  let record ← json.record? ["rules", "exports"]
  let rules ← record.optional "rules" (Json.list? WorkspaceRule.ofJson?) []
  let exports ← record.optional "exports" (Json.list? ExportRule.ofJson?) []
  some ⟨rules, exports⟩

/-- Reads the text of a workspace. -/
def parse? (text : String) : Option Workspace :=
  Json.parse? text >>= ofJson?

end Workspace

end BuildDeps
