import BuildDeps.Config
import BuildDeps.Files.Path
import BuildDeps.Toml.Reader

/-!
Where settings come from: a settings file, and above it the environment.

Paths in a settings file are seen from the directory of that file.  Artifact texts that the file
excludes belong to the repository of external artifacts that stands in the end, wherever its name
came from.
-/

namespace BuildDeps.Config

/-- The contents of a settings file; every setting may be left out. -/
structure File where
  repository : Option String := none
  installFile : Option String := none
  mavenRepository : Option String := none
  resolveToExports : Option Bool := none
  exclusions : List String := []
  /-- Packages and the labels that they resolve to, in ascending order of the packages. -/
  overrides : List (String × String) := []
deriving DecidableEq, Repr, Inhabited

namespace File

/-- A setting that is a text. -/
def text? : Toml → Option String
  | .text value => some value
  | _ => none

/-- Takes over one setting; a setting that is not known is refused. -/
def set? (file : File) : String × Toml → Option File
  | ("repo_name", .text value) => some { file with repository := some value }
  | ("maven_install_file", .text value) => some { file with installFile := some value }
  | ("maven_repository_name", .text value) => some { file with mavenRepository := some value }
  | ("resolve_to_java_exports", .flag value) => some { file with resolveToExports := some value }
  | ("exclude_artifacts", .list items) => do
    let exclusions ← items.mapM text?
    some { file with exclusions }
  | ("resolve", .table _ entries) => do
    let overrides ← entries.mapM fun (package, label) => (text? label).map (package, ·)
    some { file with overrides := overrides.mergeSort fun one other => one.1 ≤ other.1 }
  | _ => none

/-- Reads the text of a settings file. -/
def parse (text : String) : Except Error File :=
  match Toml.parse? text >>= (·.foldlM set? {}) with
  | some file => .ok file
  | none => .error .malformedFile

end File

/-- The settings that come from the environment. -/
structure Environment where
  repository : Option String := none
  installFile : Option String := none
  mavenRepository : Option String := none
deriving DecidableEq, Repr, Inhabited

/-- The environment, by the names of its variables. -/
def Environment.ofVariables (read : String → Option String) : Environment where
  repository := read "JVMDEPS_REPO_NAME"
  installFile := (read "JVMDEPS_MAVEN_INSTALL_FILE").filter (· ≠ "")
  mavenRepository := (read "JVMDEPS_MAVEN_REPOSITORY").filter (· ≠ "")

/-- Applies a settings file that stands in a directory, its exclusions apart. -/
def applyFile (config : Config) (file : File) (directory : String) : Except Error Config :=
  addOverrides
    { config with
      repository := file.repository.getD config.repository
      installFile := (file.installFile.map (Path.join directory)).getD config.installFile
      mavenRepository := file.mavenRepository.getD config.mavenRepository
      resolveToExports := file.resolveToExports.getD config.resolveToExports }
    file.overrides

/-- Applies the environment. -/
def applyEnvironment (config : Config) (environment : Environment) : Config :=
  { config with
    repository := environment.repository.getD config.repository
    installFile := environment.installFile.getD config.installFile
    mavenRepository := environment.mavenRepository.getD config.mavenRepository }

/-- The settings of a file in a directory, of the environment, and of neither. -/
def assemble (file : File) (directory : String) (environment : Environment) :
    Except Error Config := do
  let config ← applyFile {} file directory
  (config.applyEnvironment environment).excludeAll file.exclusions

/-- The path of the settings file where none is given. -/
def defaultPath : String := "jvmdeps.toml"

/-- Reads the settings file at a path. -/
def loadFile {m : Type → Type} [Monad m] (files : FileAccess m) (path : String)
    (environment : Environment) : m (Except Error Config) := do
  match ← files.readText path with
  | .error error => return .error (.unreadable path error)
  | .ok text =>
    return (do assemble (← File.parse text) (Path.parent path) environment)

/-- Reads the settings, from the given file, or from the one in the working directory if it is
there. -/
def load {m : Type → Type} [Monad m] (files : FileAccess m) (path : Option String)
    (environment : Environment) : m (Except Error Config) := do
  match path with
  | some path => loadFile files path environment
  | none =>
    if ← files.isFile defaultPath then loadFile files defaultPath environment
    else return assemble {} "" environment

end BuildDeps.Config
