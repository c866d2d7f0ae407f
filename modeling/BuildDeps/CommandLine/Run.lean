import BuildDeps.CommandLine.Arguments
import BuildDeps.Config.Load
import BuildDeps.Workspace.Run

/-!
What the program does for its arguments.

The answer goes to the standard output.  A failure is told in one message and ends with the exit
code 1, a mistake in the arguments with the exit code 2.
-/

namespace BuildDeps.CommandLine

/-- Why a command fails. -/
inductive Failure where
  | config (error : Config.Error)
  | file (error : FileError)
  | malformedWorkspace
  | label (error : Label.Malformed)
  | artifact (error : Maven.ArtifactIndex.Unresolved)
deriving DecidableEq, Repr, Inhabited

/-- The wording of a failure. -/
def Failure.message : Failure → String
  | .config error => "Could not load config: " ++ error.message
  | .file error => error.message
  | .malformedWorkspace => "JSON Parsing Error"
  | .label error => error.message
  | .artifact error => error.message

/-- How a run of the program ends. -/
structure Report where
  exitCode : Nat
  output : String := ""
  failure : Option Failure := none
  diagnostics : List Diagnostic := []
deriving Inhabited

namespace Report

/-- A run that ends well. -/
def success (output : String) (diagnostics : List Diagnostic) : Report :=
  { exitCode := 0, output, diagnostics }

/-- A run that fails. -/
def failed (failure : Failure) (diagnostics : List Diagnostic) : Report :=
  { exitCode := 1, failure := some failure, diagnostics }

/-- What a failed run tells. -/
def message? (report : Report) : Option String :=
  report.failure.map fun failure => "Error: " ++ failure.message

end Report

/-- The artifacts of all packages as a JSON text. -/
def printListing (listing : List (JvmPackage × List String)) : String :=
  Json.printObject 0 <| listing.map fun (package, artifacts) =>
    (package.name, Json.printTexts artifacts)

/-- Resolves the workspace described in a file. -/
def resolveWorkspace {m : Type → Type} [Monad m] (files : FileAccess m) (config : Config)
    (path : String) : m Report := do
  match ← files.readText path with
  | .error error => return .failed (.file error) []
  | .ok text =>
    match Workspace.parse? text with
    | none => return .failed .malformedWorkspace []
    | some workspace =>
      let (artifacts, remarks) ← Maven.ArtifactIndex.load files config.installFile
      let run := workspace.run config artifacts
      match run.answer with
      | .error error => return .failed (.label error) (remarks ++ run.diagnostics)
      | .ok rules => return .success (Workspace.print rules ++ "\n") (remarks ++ run.diagnostics)

/-- Shows the artifact that provides a package. -/
def lookup {m : Type → Type} [Monad m] (files : FileAccess m) (config : Config)
    (package : String) : m Report := do
  let (artifacts, remarks) ← Maven.ArtifactIndex.load files config.installFile
  match artifacts.resolve ⟨package⟩ config.excluded config.mavenRepository with
  | .error error => return .failed (.artifact error) remarks
  | .ok label => return .success (package ++ " " ++ label.text ++ "\n") remarks

/-- Shows the artifacts of all packages. -/
def dumpManifest {m : Type → Type} [Monad m] (files : FileAccess m) (config : Config) :
    m Report := do
  let (artifacts, remarks) ← Maven.ArtifactIndex.load files config.installFile
  return .success (printListing artifacts.listing ++ "\n") remarks

/-- Carries out a command. -/
def execute {m : Type → Type} [Monad m] (files : FileAccess m) (config : Config) :
    Command → m Report
  | .resolve workspace => resolveWorkspace files config workspace
  | .lookup package => lookup files config package
  | .dumpManifest => dumpManifest files config

/-- How the program is called. -/
def usage : String :=
  "Usage: jvmdeps [-v] [--config PATH] <resolve WORKSPACE | lookup PACKAGE | dump-manifest>\n"

/-- Runs the program on its arguments. -/
def run {m : Type → Type} [Monad m] (files : FileAccess m) (environment : Config.Environment)
    (arguments : List String) : m Report := do
  match Request.ofArguments arguments with
  | .misuse => return { exitCode := 2 }
  | .help => return .success usage []
  | .version name => return .success (name ++ " 0.1.0\n") []
  | .run invocation =>
    match ← Config.load files invocation.config environment with
    | .error error => return .failed (.config error) []
    | .ok config => execute files config invocation.command

end BuildDeps.CommandLine
