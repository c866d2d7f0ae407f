import BuildDeps.CommandLine.Run

/-!
The program: its arguments, its environment and the disk on one side, and what it tells on the
other.
-/

namespace BuildDeps.Program

/-- The error of a failed access to the disk. -/
def fileError (error : IO.Error) : FileError :=
  match error with
  | .noFileOrDirectory .. => .missing
  | .inappropriateType _ 21 _ => .isDirectory
  | .inappropriateType .. => .notDirectory
  | error => .other error.toString

/-- Reads a file of the disk as a text. -/
def readText (path : String) : IO (Except FileError String) := do
  try
    match String.fromUTF8? (← IO.FS.readBinFile path) with
    | some text => return .ok text
    | none => return .error .notText
  catch error => return .error (fileError error)

/-- Whether a path of the disk leads to a file, which may still be closed to the program. -/
def isFile (path : String) : IO Bool := do
  match ← readText path with
  | .ok _ => return true
  | .error error => return error ≠ .missing ∧ error ≠ .isDirectory ∧ error ≠ .notDirectory

/-- The access to the disk. -/
def disk : FileAccess IO := ⟨readText, isFile⟩

/-- The environment of the program. -/
def environment : IO Config.Environment := do
  let names :=
    ["JVMDEPS_REPO_NAME", "JVMDEPS_MAVEN_INSTALL_FILE", "JVMDEPS_MAVEN_REPOSITORY"]
  let values ← names.mapM fun name => do
    return (← IO.getEnv name).map ((name, ·))
  return .ofVariables fun name => (values.filterMap id).lookup name

/-- A diagnostic in one line. -/
def line (diagnostic : Diagnostic) : String :=
  let level :=
    match diagnostic.level with
    | .warning => " WARN "
    | .error => "ERROR "
  let fields := diagnostic.fields.map fun (name, value) => " " ++ name ++ "=" ++ value
  level ++ diagnostic.message ++ String.join fields

end BuildDeps.Program

/-- Runs the program. -/
def main (arguments : List String) : IO UInt32 := do
  let report ← BuildDeps.CommandLine.run BuildDeps.Program.disk
    (← BuildDeps.Program.environment) arguments
  for diagnostic in report.diagnostics do
    IO.eprintln (BuildDeps.Program.line diagnostic)
  IO.print report.output
  match report.message? with
  | some message => IO.eprintln message
  | none => if report.exitCode = 2 then IO.eprint BuildDeps.CommandLine.usage
  return report.exitCode.toUInt32
