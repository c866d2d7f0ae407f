/-!
Paths: names separated by `/`.

Empty names and the name `.` add nothing to a path, except for a `.` in front of it.
-/

namespace BuildDeps.Path

/-- Whether a name adds nothing to a path. -/
def isIdle (name : List Char) : Bool :=
  name = [] || name = ['.']

/-- The beginning of a path that is no name in it: the root, or a `.` in front. -/
def splitStart : List Char → List Char × List Char
  | '/' :: rest => (['/'], rest)
  | ['.'] => (['.'], [])
  | '.' :: '/' :: rest => (['.'], '/' :: rest)
  | chars => ([], chars)

/-- The directory that a path lies in: the path without its last name.  A path of one name lies in
the working directory, whose path is empty. -/
def parent (path : String) : String :=
  let (start, body) := splitStart path.toList
  match (body.splitOn '/').reverse.dropWhile isIdle with
  | [] => ""
  | _ :: names => String.ofList (start ++ ['/'].intercalate (names.dropWhile isIdle).reverse)

/-- A path as seen from a directory; a path that begins at the root is the same from everywhere. -/
def join (directory path : String) : String :=
  if path.toList.head? = some '/' then path
  else if directory = "" ∨ directory.toList.getLast? = some '/' then directory ++ path
  else directory ++ "/" ++ path

end BuildDeps.Path
