import BuildDeps.JvmPackage
import BuildDeps.Maven.InstallFile

/-!
Diagnostics: what a run reports besides its answer.

A diagnostic is kept as what happened; its level, its wording and its named values are worked out
when it is shown.
-/

namespace BuildDeps

/-- How serious a diagnostic is. -/
inductive Diagnostic.Level where
  | warning
  | error
deriving DecidableEq, Repr, Inhabited

/-- Something to report. -/
inductive Diagnostic where
  /-- A recorded artifact has a malformed coordinate and is passed over. -/
  | skippedDependency (coordinate : String) (error : Maven.Coordinate.Malformed)
  /-- There is no install file to read artifacts from. -/
  | noInstallFile (path : String) (error : Maven.InstallFile.Unavailable)
  /-- An export rule has sources of its own. -/
  | exportWithSources (label : Label)
  /-- Two exports reach the same dependency. -/
  | exportConflict (dependency wanting owning : Label)
  /-- Several exports stand for the rules that declare an import. -/
  | ambiguousExports (origin : Label) (exports : List Label)
  /-- Several rules declare a package. -/
  | ambiguousRules (package : JvmPackage) (origin : Label) (candidates : List Label)
  /-- Several artifacts provide a package; the artifacts follow, one each. -/
  | ambiguousArtifacts (classes : List String)
  /-- One of several artifacts that provide a package. -/
  | artifactChoice (package : JvmPackage) (candidate : Label)
  /-- Nothing provides a package. -/
  | unprovided (package : JvmPackage) (origin : Label) (classes : List String)
deriving DecidableEq, Repr, Inhabited

namespace Diagnostic

/-- The level of a diagnostic: a choice that the user has to make is an error. -/
def level : Diagnostic → Level
  | .skippedDependency .. => .warning
  | .noInstallFile .. => .warning
  | .exportWithSources .. => .warning
  | .exportConflict .. => .error
  | .ambiguousExports .. => .error
  | .ambiguousRules .. => .error
  | .ambiguousArtifacts .. => .error
  | .artifactChoice .. => .error
  | .unprovided .. => .warning

/-- The wording of a diagnostic. -/
def message : Diagnostic → String
  | .skippedDependency coordinate error =>
    "Skipping maven dependency " ++ Text.quoted coordinate ++ ": " ++ error.message
  | .noInstallFile path error =>
    "Not loading maven dependencies from " ++ path ++ ": " ++ error.message
  | .exportWithSources _ =>
    "Export rule has a non-empty `srcs` attribute, which is ignored during resolution. " ++
      "Use `exports` or `runtime_deps` and depend on the generated library instead."
  | .exportConflict .. =>
    "Two export targets want to export the same dependency. This can lead to incorrect " ++
      "results, please disambiguate, e.g. by having one export depend on the other explicitly."
  | .ambiguousExports .. =>
    "Found multiple export targets exporting this dependency; not picking one"
  | .ambiguousRules .. =>
    "Multiple rules declare this package; not picking one. " ++
      "Add a resolve override to disambiguate"
  | .ambiguousArtifacts _ => "Append one of the following to BUILD.bazel:"
  | .artifactChoice package candidate =>
    "# jvmdeps:resolve java " ++ package.name ++ " " ++ candidate.text
  | .unprovided .. => "Unable to find package for import in any dependency"

/-- The two texts in ascending order. -/
def ascendingPair (left right : String) : List String :=
  if right < left then [right, left] else [left, right]

/-- The named values of a diagnostic. -/
def fields : Diagnostic → List (String × String)
  | .skippedDependency .. => []
  | .noInstallFile .. => []
  | .exportWithSources label => [("label", label.text)]
  | .exportConflict dependency wanting owning =>
    [("dependency", dependency.text),
      ("exports", Text.quotedList (ascendingPair wanting.text owning.text))]
  | .ambiguousExports origin exports =>
    [("from", origin.text), ("exports", Text.quotedList (exports.map Label.text))]
  | .ambiguousRules package origin candidates =>
    [("package", package.name), ("from", origin.text),
      ("candidates", Text.quotedList (candidates.map Label.text))]
  | .ambiguousArtifacts classes => [("classes", Text.quotedList classes)]
  | .artifactChoice .. => []
  | .unprovided package origin classes =>
    [("package", package.name), ("from", origin.text), ("classes", Text.quotedList classes)]

end Diagnostic

end BuildDeps
