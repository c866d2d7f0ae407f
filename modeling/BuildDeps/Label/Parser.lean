import BuildDeps.Label
import BuildDeps.Text.CharClass
import BuildDeps.Text.Quoted

/-!
Reading labels.

The accepted forms are `@R` (the target of its repository's own name), `//P:N` and `//P` with or
without a repository `@R` in front, and the relative forms `:N` and `N`.  A repository may be
written with two `@`s, which is the same repository.
-/

namespace BuildDeps.Label

/-- Why a text is no label. -/
inductive Fault where
  | emptyRepository
  | invalidRepository
  | invalidPackage
  | emptyTarget
  | invalidTarget
deriving DecidableEq, Repr, Inhabited

/-- The wording of a fault. -/
def Fault.reason : Fault → String
  | .emptyRepository => "empty repository name"
  | .invalidRepository => "invalid repository name"
  | .invalidPackage => "invalid package path"
  | .emptyTarget => "empty target name"
  | .invalidTarget => "invalid target name"

/-- A text that was to be a label, and its fault. -/
structure Malformed where
  input : String
  fault : Fault
deriving DecidableEq, Repr, Inhabited

/-- The wording of a malformed label. -/
def Malformed.message (error : Malformed) : String :=
  "Invalid label " ++ Text.quoted error.input ++ ": " ++ error.fault.reason

/-- The characters of a repository name. -/
def isRepositoryChar (c : Char) : Bool :=
  c.isAlphanum || ['_', '.', '~', '+', '-'].contains c

/-- The characters of a directory name in a package path: all but separators and blanks. -/
def isPackageChar (c : Char) : Bool :=
  !([':', '@', '/'].contains c || Text.isBlank c)

/-- The characters of a target name. -/
def isTargetChar (c : Char) : Bool :=
  c.isAlphanum ||
    ['!', '%', '-', '@', '^', '_', '"', '#', '$', '&', '\'', '(', ')', '*', '+', ',', ';', '<',
      '=', '>', '?', '[', ']', '{', '|', '}', '~', '/', '.'].contains c

/-- A repository name is not empty. -/
def isRepository (name : List Char) : Bool :=
  !name.isEmpty && name.all isRepositoryChar

/-- A package path is empty, or made of directory names none of which is empty. -/
def isPackage (path : List Char) : Bool :=
  path.isEmpty ||
    (path.splitOn '/').all fun directory => !directory.isEmpty && directory.all isPackageChar

/-- A target name is not empty. -/
def isTarget (name : List Char) : Bool :=
  !name.isEmpty && name.all isTargetChar

/-- The parts of a text before and after its first `//`. -/
def splitAtSlashes? : List Char → Option (List Char × List Char)
  | '/' :: '/' :: path => some ([], path)
  | c :: rest => (splitAtSlashes? rest).map fun (name, path) => (c :: name, path)
  | [] => none

/-- Reads what stands after the first `@` of a repository. -/
def readRepository (chars : List Char) : Except Fault String :=
  let name :=
    match chars with
    | '@' :: rest => rest
    | _ => chars
  if isRepository name then .ok (String.ofList name) else .error .invalidRepository

/-- Reads a target name. -/
def readTarget (chars : List Char) : Except Fault String :=
  if isTarget chars then .ok (String.ofList chars) else .error .invalidTarget

/-- Reads what stands after the `//` of an absolute label.  Without a `:` the target is named as
the last directory of the package. -/
def readPath (repository : String) (path : List Char) : Except Fault Label :=
  let package := path.takeWhile (· ≠ ':')
  if isPackage package then
    match path.dropWhile (· ≠ ':') with
    | [] => do
      let target ← readTarget ((package.splitOn '/').getLastD [])
      .ok ⟨repository, String.ofList package, target, false⟩
    | [_] => .error .emptyTarget
    | _ :: name => do
      let target ← readTarget name
      .ok ⟨repository, String.ofList package, target, false⟩
  else .error .invalidPackage

/-- Reads a relative label, whose `:` may be left out. -/
def readRelative (chars : List Char) : Except Fault Label :=
  match chars with
  | [':'] => .error .emptyTarget
  | ':' :: name => do
    let target ← readTarget name
    .ok ⟨"", "", target, true⟩
  | name => do
    let target ← readTarget name
    .ok ⟨"", "", target, true⟩

/-- Reads the characters of a label. -/
def read (chars : List Char) : Except Fault Label :=
  match chars with
  | '@' :: rest =>
    match splitAtSlashes? rest with
    | none => do
      let repository ← readRepository rest
      .ok ⟨repository, "", repository, false⟩
    | some ([], _) => .error .emptyRepository
    | some (name, path) => do
      let repository ← readRepository name
      readPath repository path
  | '/' :: '/' :: path => readPath "" path
  | relative => readRelative relative

/-- Reads a label. -/
def parse (input : String) : Except Malformed Label :=
  (read input.toList).mapError (⟨input, ·⟩)

/-- Whether a text is written as an absolute label. -/
def looksAbsolute (text : String) : Bool :=
  match text.toList with
  | '@' :: _ => true
  | '/' :: '/' :: _ => true
  | _ => false

end BuildDeps.Label
