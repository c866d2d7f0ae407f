/-!
Access to files, and how it fails.

What a computation may ask of a file system is a record of functions, so that it runs on a disk and
on a tree in memory alike.
-/

namespace BuildDeps

/-- Why a file cannot be read as a text. -/
inductive FileError where
  | missing
  | isDirectory
  | notDirectory
  | notText
  | other (reason : String)
deriving DecidableEq, Repr, Inhabited

namespace FileError

/-- The reason as the operating system words it. -/
def reason : FileError → String
  | .missing => "No such file or directory (os error 2)"
  | .isDirectory => "Is a directory (os error 21)"
  | .notDirectory => "Not a directory (os error 20)"
  | .notText => "stream did not contain valid UTF-8"
  | .other reason => reason

/-- The wording of a failed access. -/
def message (error : FileError) : String :=
  "I/O Error: " ++ error.reason

end FileError

/-- What may be asked of a file system, by paths. -/
structure FileAccess (m : Type → Type) where
  readText : String → m (Except FileError String)
  isFile : String → m Bool

end BuildDeps
