import BuildDeps.Files
import BuildDeps.Text.Fields

/-!
Files in memory, and the access to them by paths.

A tree holds its files by their paths from its top directory, which is the working directory.  The
directories above it are there and hold nothing else.
-/

namespace BuildDeps

/-- The contents of a file: a text, or bytes that are none. -/
inductive FileContents where
  | text (text : String)
  | noText
deriving DecidableEq, Repr, Inhabited

/-- Files by the names on the way to them. -/
structure FileTree where
  files : List (List String × FileContents)
deriving Repr, Inhabited

namespace FileTree

/-- The tree of files given by their paths. -/
def ofList (files : List (String × FileContents)) : FileTree :=
  ⟨files.map fun (path, contents) =>
    ((Text.fields '/' path).filter fun name => name ≠ "" ∧ name ≠ ".", contents)⟩

/-- What a path leads to. -/
inductive Place where
  | file (contents : FileContents)
  | directory
deriving DecidableEq, Repr, Inhabited

/-- What stands at the end of names from the top. -/
def at? (tree : FileTree) (names : List String) : Option Place :=
  match tree.files.lookup names with
  | some contents => some (.file contents)
  | none =>
    if names.isEmpty || tree.files.any (names.isPrefixOf ·.1) then some .directory else none

/-- Follows names from a directory above the top. -/
def outside (names : List String) : Except FileError Place :=
  if names.all (["", ".", ".."].contains ·) then .ok .directory else .error .missing

/-- Follows names from a directory, given by the names that lead to it, innermost first. -/
def follow (tree : FileTree) (directory : List String) : List String → Except FileError Place
  | [] => .ok .directory
  | name :: rest =>
    if name = "" ∨ name = "." then follow tree directory rest
    else if name = ".." then
      match directory with
      | [] => outside rest
      | _ :: above => follow tree above rest
    else
      match tree.at? (name :: directory).reverse with
      | none => .error .missing
      | some .directory => follow tree (name :: directory) rest
      | some (.file contents) => if rest.isEmpty then .ok (.file contents) else .error .notDirectory

/-- What stands at a path. -/
def find (tree : FileTree) (path : String) : Except FileError Place :=
  let names := Text.fields '/' path
  if path = "" then .error .missing
  else if names.head? = some "" then outside names
  else tree.follow [] names

/-- Reads a file as a text. -/
def readText (tree : FileTree) (path : String) : Except FileError String :=
  match tree.find path with
  | .error error => .error error
  | .ok .directory => .error .isDirectory
  | .ok (.file (.text text)) => .ok text
  | .ok (.file .noText) => .error .notText

/-- Whether a path leads to a file. -/
def isFile (tree : FileTree) (path : String) : Bool :=
  match tree.find path with
  | .ok (.file _) => true
  | _ => false

/-- The access to a tree. -/
def access (tree : FileTree) : FileAccess Id where
  readText path := tree.readText path
  isFile path := tree.isFile path

end FileTree

end BuildDeps
