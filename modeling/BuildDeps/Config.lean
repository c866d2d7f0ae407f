import BuildDeps.Files
import BuildDeps.JvmPackage
import BuildDeps.Label.Parser
import BuildDeps.Maven.Coordinate
import BuildDeps.Ordered
import BuildDeps.Table

/-!
The settings of a run.

An artifact is excluded by its label or by its artifact text; the latter stands for the label of
that artifact in the repository of external artifacts that is set at the time.
-/

namespace BuildDeps

/-- The settings of a run. -/
structure Config where
  /-- The name of the repository whose rules are resolved. -/
  repository : String := ""
  /-- The path of the install file. -/
  installFile : String := "maven_install.json"
  /-- The repository of external artifacts. -/
  mavenRepository : String := "maven"
  /-- Whether exports stand for the rules they absorb. -/
  resolveToExports : Bool := true
  /-- The texts of the labels of excluded artifacts, ascending. -/
  excluded : List String := []
  /-- The labels that packages resolve to in any case. -/
  overrides : Table JvmPackage Label := Table.empty
deriving DecidableEq, Repr

namespace Config

instance : Inhabited Config := ⟨{}⟩

/-- Why settings cannot be had. -/
inductive Error where
  | unreadable (path : String) (error : FileError)
  | malformedFile
  | invalidOverride (package : String) (error : Label.Malformed)
  | invalidExclusion (error : Label.Malformed)
deriving DecidableEq, Repr, Inhabited

/-- The wording of a failure; of a malformed file it is the beginning. -/
def Error.message : Error → String
  | .unreadable path error =>
    "Configuration Error: could not read " ++ path ++ ": " ++ error.reason
  | .malformedFile => "TOML Parsing Error"
  | .invalidOverride package error =>
    "Configuration Error: invalid override for package " ++ package ++ ": " ++ error.message
  | .invalidExclusion error =>
    "Configuration Error: invalid excluded artifact: " ++ error.message

/-- The label that an exclusion stands for, written as a label or as an artifact text. -/
def exclusionLabel (config : Config) (artifact : String) : Except Error Label :=
  if Label.looksAbsolute artifact then (Label.parse artifact).mapError .invalidExclusion
  else .ok (Maven.artifactLabel config.mavenRepository artifact)

/-- Excludes an artifact. -/
def exclude (config : Config) (artifact : String) : Except Error Config := do
  let label ← config.exclusionLabel artifact
  .ok { config with excluded := Ordered.insert label.text config.excluded }

/-- Excludes artifacts; the first malformed one is the error. -/
def excludeAll (config : Config) (artifacts : List String) : Except Error Config :=
  artifacts.foldlM exclude config

/-- Gives a package a label to resolve to in any case. -/
def addOverride (config : Config) (package label : String) : Except Error Config := do
  let label ← (Label.parse label).mapError (.invalidOverride package)
  .ok { config with overrides := config.overrides.insert ⟨package⟩ label }

/-- Adds overrides; the first malformed one is the error. -/
def addOverrides (config : Config) (overrides : List (String × String)) : Except Error Config :=
  overrides.foldlM (fun config (package, label) => config.addOverride package label) config

/-- The label that a package resolves to in any case. -/
def override? (config : Config) (package : JvmPackage) : Option Label :=
  config.overrides.get? package

end Config

end BuildDeps
