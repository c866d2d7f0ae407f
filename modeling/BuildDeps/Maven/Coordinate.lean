import BuildDeps.Label
import BuildDeps.Text.Quoted

/-!
Maven coordinates: `group:artifact[:packaging[:classifier]]:version`.

The artifact text of a coordinate names it whatever its version and packaging, and the label of an
artifact in the repository of external artifacts is made from that text.
-/

namespace BuildDeps.Maven

/-- The coordinate of one version of an artifact. -/
structure Coordinate where
  group : String
  artifact : String
  packaging : Option String
  classifier : Option String
  version : String
deriving DecidableEq, Repr, Inhabited

namespace Coordinate

/-- A text that was to be a coordinate and has too few fields. -/
structure Malformed where
  input : String
deriving DecidableEq, Repr, Inhabited

/-- The wording of a malformed coordinate. -/
def Malformed.message (error : Malformed) : String :=
  "Invalid Maven coordinate " ++ Text.quoted error.input ++ " - needed at least 2 :s"

/-- A field that may be absent is absent when it is empty. -/
def optional (field : String) : Option String :=
  if field = "" then none else some field

/-- Reads a coordinate.  The last field is the version; fields between the classifier and the
version are left out. -/
def parse (input : String) : Except Malformed Coordinate :=
  match Text.fields ':' input with
  | [group, artifact, version] => .ok ⟨group, artifact, none, none, version⟩
  | [group, artifact, packaging, version] =>
    .ok ⟨group, artifact, optional packaging, none, version⟩
  | group :: artifact :: packaging :: classifier :: version :: more =>
    .ok ⟨group, artifact, optional packaging, optional classifier, more.getLastD version⟩
  | _ => .error ⟨input⟩

/-- The text of a coordinate. -/
def text (coordinate : Coordinate) : String :=
  Text.joinFields ':'
    ([coordinate.group, coordinate.artifact] ++ coordinate.packaging.toList ++
      coordinate.classifier.toList ++ [coordinate.version])

/-- `group:artifact[:classifier]`, the text that names an artifact whatever its version. -/
def artifactText (coordinate : Coordinate) : String :=
  Text.joinFields ':' ([coordinate.group, coordinate.artifact] ++ coordinate.classifier.toList)

/-- `group:artifact`, under which conflict tables list an artifact. -/
def unversioned (coordinate : Coordinate) : String :=
  Text.joinFields ':' [coordinate.group, coordinate.artifact]

end Coordinate

/-- The characters that a target name takes over from an artifact text. -/
def isWordChar (c : Char) : Bool :=
  c.isAlphanum || c = '_'

/-- Puts one `_` for every run of characters that are not word characters; `inRun` says that the
text goes on from such a run. -/
def sanitizeChars (inRun : Bool) : List Char → List Char
  | [] => []
  | c :: rest =>
    if isWordChar c then c :: sanitizeChars false rest
    else if inRun then sanitizeChars true rest
    else '_' :: sanitizeChars true rest

/-- The target name of an artifact text. -/
def sanitize (artifactText : String) : String :=
  String.ofList (sanitizeChars false artifactText.toList)

/-- The label of an artifact in a repository of external artifacts. -/
def artifactLabel (repository artifactText : String) : Label :=
  ⟨repository, "", sanitize artifactText, false⟩

end BuildDeps.Maven
