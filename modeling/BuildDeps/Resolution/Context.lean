import BuildDeps.Config
import BuildDeps.Export.Index
import BuildDeps.Maven.ArtifactIndex
import BuildDeps.Resolution.RuleIndex

/-!
What the imports of a rule are resolved against, and how the rules of the repository answer them.

With exports on, a rule that another export absorbed is not depended on directly: the export stands
in for it, unless the importing rule is within the same export.  With exports off, export rules are
no answer at all.
-/

namespace BuildDeps.Resolution

/-- What all rules of a run are resolved against. -/
structure Context where
  config : Config
  rules : RuleIndex
  artifacts : Maven.ArtifactIndex
  /-- The settled exports, if there is a notion of them. -/
  exports : Option Export.Index
deriving Inhabited

/-- The rule whose imports are resolved. -/
structure Origin where
  label : Label
  language : Language := .java
  isTest : Bool := false
  ownPackages : List JvmPackage := []
deriving DecidableEq, Repr, Inhabited

/-- What the rules of the repository have to say about a package. -/
inductive RuleMatch where
  /-- No rule declares it. -/
  | absent
  /-- One rule declares it. -/
  | unique (label : Label)
  /-- Several rules declare it. -/
  | several (candidates : List Label)
  /-- An export stands in for the rules that declare it. -/
  | standIn (exporter : Label)
  /-- Several exports stand in for the rules that declare it. -/
  | severalStandIns (exporters : List Label)
deriving DecidableEq, Repr, Inhabited

namespace RuleMatch

/-- The match of rules without regard to exports. -/
def ofCandidates : List Label → RuleMatch
  | [] => .absent
  | [only] => .unique only
  | many => .several many

/-- The export that stands in for a rule towards an origin. -/
def standIn? (index : Export.Index) (origin candidate : Label) : Option Label :=
  if index.isExport candidate then some candidate
  else if index.owner? origin = index.owner? candidate then none
  else index.owner? candidate

/-- The exports that stand in for rules towards an origin, ascending. -/
def standIns (index : Export.Index) (origin : Label) (candidates : List Label) : List Label :=
  Ordered.ofList (candidates.filterMap (standIn? index origin))

/-- The match of rules where exports stand in for what they absorbed. -/
def throughExports (index : Export.Index) (origin : Label) (candidates : List Label) :
    RuleMatch :=
  match standIns index origin candidates with
  | [] => ofCandidates candidates
  | [exporter] => .standIn exporter
  | exporters => .severalStandIns exporters

/-- What there is to say about a match that settles nothing. -/
def remarks (package : JvmPackage) (origin : Label) : RuleMatch → List Diagnostic
  | .several candidates => [.ambiguousRules package origin candidates]
  | .severalStandIns exporters => [.ambiguousExports origin exporters]
  | _ => []

end RuleMatch

/-- What the rules of the repository have to say about a package, as seen from a rule. -/
def Context.ruleMatch (context : Context) (origin : Origin) (package : JvmPackage) : RuleMatch :=
  let candidates := context.rules.find origin.language package
  match context.exports with
  | none => .ofCandidates candidates
  | some index =>
    if context.config.resolveToExports then .throughExports index origin.label candidates
    else .ofCandidates (candidates.filter (!index.isExport ·))

end BuildDeps.Resolution
