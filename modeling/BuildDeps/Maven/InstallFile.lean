import BuildDeps.Files
import BuildDeps.Json.Reader
import BuildDeps.Json.Record
import BuildDeps.Maven.Coordinate
import BuildDeps.Table

/-!
The install file, in which the pinned artifacts of a repository are recorded with the packages that
each provides.

Where two versions of an artifact were asked for, a conflict table maps the coordinate asked for to
the one taken.  The format of the file decides where that table stands.
-/

namespace BuildDeps.Maven

/-- A recorded artifact. -/
structure Dependency where
  coordinate : String
  packages : List String := []
deriving DecidableEq, Repr, Inhabited

/-- Where an install file keeps its conflict table. -/
inductive Layout where
  /-- Nowhere: the recorded coordinates are the ones taken. -/
  | embedded
  /-- Within the dependency tree. -/
  | withinTree
  /-- Beside the dependency tree. -/
  | besideTree
deriving DecidableEq, Repr, Inhabited

/-- Coordinates taken, by the coordinates asked for. -/
abbrev ConflictTable := Table String String

/-- The contents of an install file. -/
structure InstallFile where
  version : String := ""
  treeConflicts : Option ConflictTable := none
  conflicts : Option ConflictTable := none
  dependencies : List Dependency := []
deriving DecidableEq, Repr, Inhabited

namespace InstallFile

/-- Why an install file cannot be had. -/
inductive Unavailable where
  | file (error : FileError)
  | malformed
deriving DecidableEq, Repr, Inhabited

/-- The wording of an install file that cannot be had. -/
def Unavailable.message : Unavailable → String
  | .file error => error.message
  | .malformed => "Manifest Error: failed to parse maven install file"

/-- The version of the format whose coordinates are already the ones taken. -/
def embeddedVersion : String := "0.1.0"

/-- Where the file keeps its conflict table. -/
def layout (file : InstallFile) : Layout :=
  if file.version = embeddedVersion then .embedded
  else if file.conflicts.isSome then .besideTree
  else .withinTree

/-- The conflict table that applies. -/
def conflictTable? (file : InstallFile) : Option ConflictTable :=
  match file.layout with
  | .embedded => none
  | .withinTree => file.treeConflicts
  | .besideTree => file.conflicts

/-- What the conflict table has for a dependency: the row of its coordinate as it is written, or
else the row of the artifact in any version. -/
def replacement? (file : InstallFile) (written : String) (declared : Coordinate) : Option String :=
  file.conflictTable?.bind fun table =>
    (table.get? written).or (table.get? declared.unversioned)

/-- The coordinate that was taken for a dependency. -/
def resolvedCoordinate (file : InstallFile) (dependency : Dependency) :
    Except Coordinate.Malformed Coordinate := do
  let declared ← Coordinate.parse dependency.coordinate
  match file.replacement? dependency.coordinate declared with
  | some taken => Coordinate.parse taken
  | none => .ok declared

/-- Reads a conflict table. -/
def readConflicts (json : Json) : Option ConflictTable :=
  (json.map? Json.text?).map Table.ofList

/-- Reads a recorded artifact. -/
def readDependency (json : Json) : Option Dependency := do
  let record ← json.record? ["coord", "packages"]
  let coordinate ← record.required "coord" Json.text?
  let packages ← record.texts "packages"
  some ⟨coordinate, packages⟩

/-- Reads the contents of an install file; only the dependency tree has to be there. -/
def ofJson? (json : Json) : Option InstallFile := do
  let record ← json.record? ["dependency_tree", "conflict_resolution"]
  let tree ← record.required "dependency_tree"
    (·.record? ["version", "conflict_resolution", "dependencies"])
  let version ← tree.optional "version" Json.text? ""
  let treeConflicts ← tree.optional "conflict_resolution" (Json.nullable readConflicts) none
  let dependencies ← tree.optional "dependencies" (Json.list? readDependency) []
  let conflicts ← record.optional "conflict_resolution" (Json.nullable readConflicts) none
  some ⟨version, treeConflicts, conflicts, dependencies⟩

/-- Reads the text of an install file. -/
def parse (text : String) : Except Unavailable InstallFile :=
  match Json.parse? text >>= ofJson? with
  | some file => .ok file
  | none => .error .malformed

/-- Reads an install file. -/
def load {m : Type → Type} [Monad m] (files : FileAccess m) (path : String) :
    m (Except Unavailable InstallFile) := do
  match ← files.readText path with
  | .ok text => return parse text
  | .error error => return .error (.file error)

end InstallFile

end BuildDeps.Maven
