import BuildDeps.Json.Printer
import BuildDeps.Resolution.Deps
import BuildDeps.Workspace

/-!
Resolving a whole workspace.

Every rule and every export is recorded before the first import is resolved.  A run fails only on a
malformed label, either of an export or in the list that a rule comes with; all else is reported and
passed over.
-/

namespace BuildDeps

/-- What a run finds for a rule. -/
structure ResolvedRule where
  label : Label
  deps : List String
  exports : List String
  visibility : Option (List String)
deriving DecidableEq, Repr, Inhabited

namespace ResolvedRule

/-- A resolved rule as JSON at a depth; empty exports and an unknown visibility are left out. -/
def print (depth : Nat) (rule : ResolvedRule) : String :=
  Json.printObject depth <|
    [("label", fun _ => Json.printText rule.label.text), ("deps", Json.printTexts rule.deps)] ++
      (if rule.exports.isEmpty then [] else [("exports", Json.printTexts rule.exports)]) ++
      (rule.visibility.map fun labels => ("visibility", Json.printTexts labels)).toList

end ResolvedRule

/-- The answer of a computation that reports what it comes across. -/
structure Reported (α : Type) where
  answer : α
  diagnostics : List Diagnostic
deriving Inhabited

namespace WorkspaceRule

/-- The packages of the rule. -/
def summary (rule : WorkspaceRule) : RuleSummary :=
  RuleSummary.ofUnits rule.units

/-- The rule as the origin of imports. -/
def origin (rule : WorkspaceRule) : Resolution.Origin :=
  ⟨rule.label, rule.language, rule.isTest, rule.summary.declares⟩

/-- Adds the rule to the rules that declare its packages. -/
def addTo (index : Resolution.RuleIndex) (rule : WorkspaceRule) : Resolution.RuleIndex :=
  rule.summary.declares.foldl (fun index package => index.add rule.language package rule.label)
    index

/-- The visibility that the rule is to get, which only a library does. -/
def visibility (rule : WorkspaceRule) (config : Config) (index : Export.Index) :
    Option (List String) :=
  if config.resolveToExports && rule.isLibrary then
    (index.visibility? rule.label).map fun labels => labels.map Label.text
  else none

/-- Resolves what the rule imports and what it exports. -/
def resolve (rule : WorkspaceRule) (context : Resolution.Context) (index : Export.Index)
    (cache : Resolution.Cache) : Resolution.Outcome (Except Label.Malformed ResolvedRule) :=
  let deps := context.resolveImports rule.origin rule.rawImports rule.deps cache
  match deps.answer with
  | .error error => ⟨.error error, deps.cache, deps.diagnostics⟩
  | .ok listed =>
    let exports := context.resolvePackages rule.origin
      (rule.summary.exports.map fun package => (package, [])) [] deps.cache
    { answer := exports.answer.map fun exported =>
        ⟨rule.label, listed, exported, rule.visibility context.config index⟩
      cache := exports.cache
      diagnostics := deps.diagnostics ++ exports.diagnostics }

end WorkspaceRule

namespace Workspace

/-- The rules by the packages they declare. -/
def ruleIndex (workspace : Workspace) : Resolution.RuleIndex :=
  workspace.rules.foldl (fun index rule => rule.addTo index) .empty

/-- Records all rules. -/
def recordRules (workspace : Workspace) : Export.Registry :=
  workspace.rules.foldl (fun registry rule => registry.recordRule rule.label rule.summary) .empty

/-- Records exports one after the other, up to the first with a malformed label. -/
def recordExports (registry : Export.Registry) :
    List ExportRule → Reported (Except Label.Malformed Export.Registry)
  | [] => ⟨.ok registry, []⟩
  | rule :: rest =>
    match Label.parse rule.label with
    | .error error => ⟨.error error, []⟩
    | .ok label =>
      let remarks := Export.Registry.exportRemarks label rule
      match registry.recordExport label rule with
      | .error error => ⟨.error error, remarks⟩
      | .ok registry =>
        let others := recordExports registry rest
        ⟨others.answer, remarks ++ others.diagnostics⟩

/-- Resolves rules one after the other, up to the first with a malformed label. -/
def resolveRules (context : Resolution.Context) (index : Export.Index) :
    List WorkspaceRule → Resolution.Cache → Reported (Except Label.Malformed (List ResolvedRule))
  | [], _ => ⟨.ok [], []⟩
  | rule :: rest, cache =>
    let first := rule.resolve context index cache
    match first.answer with
    | .error error => ⟨.error error, first.diagnostics⟩
    | .ok resolved =>
      let others := resolveRules context index rest first.cache
      ⟨others.answer.map (resolved :: ·), first.diagnostics ++ others.diagnostics⟩

/-- Rules in the order of their labels; rules of one label keep their order. -/
def sortRules (rules : List ResolvedRule) : List ResolvedRule :=
  rules.mergeSort fun one other => (compare one.label other.label).isLE

/-- Resolves a workspace. -/
def run (config : Config) (artifacts : Maven.ArtifactIndex) (workspace : Workspace) :
    Reported (Except Label.Malformed (List ResolvedRule)) :=
  let recorded := recordExports workspace.recordRules workspace.exports
  match recorded.answer with
  | .error error => ⟨.error error, recorded.diagnostics⟩
  | .ok registry =>
    let index := registry.finalize
    let context : Resolution.Context := ⟨config, workspace.ruleIndex, artifacts, some index⟩
    let resolved := resolveRules context index workspace.rules
      (.ofCapacity Resolution.Cache.defaultCapacity)
    ⟨resolved.answer.map sortRules,
      recorded.diagnostics ++ index.remarks ++ resolved.diagnostics⟩

/-- The resolved rules as a JSON text. -/
def print (rules : List ResolvedRule) : String :=
  Json.printArray ResolvedRule.print 0 rules

end Workspace

end BuildDeps
