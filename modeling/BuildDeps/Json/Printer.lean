import BuildDeps.Text.Quoted

/-!
Writing JSON texts.

Arrays and objects are written one entry a line, two spaces deeper than the brackets around them;
empty ones are written as a pair of brackets.  An entry is printed for the depth at which it will
stand.
-/

namespace BuildDeps.Json

/-- The written form of a character of a string. -/
def writtenChar (c : Char) : List Char :=
  match c with
  | '"' => ['\\', '"']
  | '\\' => ['\\', '\\']
  | '\x08' => ['\\', 'b']
  | '\x0c' => ['\\', 'f']
  | '\n' => ['\\', 'n']
  | '\r' => ['\\', 'r']
  | '\t' => ['\\', 't']
  | _ => if c < ' ' then '\\' :: 'u' :: Text.fourHexDigits c.toNat else [c]

/-- A text as a JSON string. -/
def printText (text : String) : String :=
  String.ofList ('"' :: text.toList.flatMap writtenChar ++ ['"'])

/-- The line break before an entry at a depth. -/
def lineBreak (depth : Nat) : String :=
  "\n" ++ String.ofList (List.replicate (2 * depth) ' ')

/-- Entries between brackets that stand at a depth. -/
def printEntries (opening closing : String) (depth : Nat) (entries : List String) : String :=
  if entries.isEmpty then opening ++ closing
  else
    opening ++ lineBreak (depth + 1) ++ (("," ++ lineBreak (depth + 1)).intercalate entries) ++
      lineBreak depth ++ closing

/-- An array at a depth. -/
def printArray {α : Type} (print : Nat → α → String) (depth : Nat) (items : List α) : String :=
  printEntries "[" "]" depth (items.map (print (depth + 1)))

/-- An object at a depth, its members in the order given. -/
def printObject (depth : Nat) (members : List (String × (Nat → String))) : String :=
  printEntries "\x7b" "\x7d" depth
    (members.map fun (name, value) => printText name ++ ": " ++ value (depth + 1))

/-- An array of texts at a depth. -/
def printTexts (texts : List String) (depth : Nat) : String :=
  printArray (fun _ => printText) depth texts

end BuildDeps.Json
