import BuildDeps.Text.Quoted
import BuildDeps.Toml

/-!
Reading documents of settings.
-/

namespace BuildDeps.Toml

/-- The blanks within a line. -/
def isSpace (c : Char) : Bool :=
  c = ' ' || c = '\t'

/-- Leaves out the blanks of a line. -/
def skipSpace (chars : List Char) : List Char :=
  chars.dropWhile isSpace

/-- The characters that stand for themselves in texts of one line and in comments: the control
characters of ASCII, the tab excepted, are none of them. -/
def isTextChar (c : Char) : Bool :=
  c = '\t' || ' ' ≤ c && c ≠ '\x7f'

/-- Leaves out a comment, which runs to the end of its line. -/
def skipComment (chars : List Char) : List Char :=
  match chars with
  | '#' :: rest => rest.dropWhile isTextChar
  | _ => chars

/-- Takes the end of a line. -/
def lineEnd? : List Char → Option (List Char)
  | '\n' :: rest => some rest
  | '\r' :: '\n' :: rest => some rest
  | _ => none

/-- Leaves out blanks, comments and line ends.  The count bounds the lines that are left out. -/
def skipLines : Nat → List Char → List Char
  | 0, chars => chars
  | count + 1, chars =>
    let rest := skipComment (skipSpace chars)
    match lineEnd? rest with
    | some rest => skipLines count rest
    | none => rest

/-- Leaves out all blanks, comments and line ends. -/
def skipAll (chars : List Char) : List Char :=
  skipLines chars.length chars

/-- The character of an escape of one letter. -/
def escapedChar? : Char → Option Char
  | 'b' => some '\x08'
  | 't' => some '\t'
  | 'n' => some '\n'
  | 'f' => some '\x0c'
  | 'r' => some '\r'
  | '"' => some '"'
  | '\\' => some '\\'
  | _ => none

/-- The character of an escape by code point. -/
def namedChar? (digits : List Char) : Option Char :=
  Text.hexNumber? digits >>= Text.charOfCode?

/-- Reads the rest of a text between quotes after the opening one. -/
def readQuoted : List Char → Option (List Char × List Char)
  | [] => none
  | '"' :: rest => some ([], rest)
  | '\\' :: 'u' :: a :: b :: c :: d :: rest => do
    let named ← namedChar? [a, b, c, d]
    let (content, rest) ← readQuoted rest
    some (named :: content, rest)
  | '\\' :: 'U' :: a :: b :: c :: d :: e :: f :: g :: h :: rest => do
    let named ← namedChar? [a, b, c, d, e, f, g, h]
    let (content, rest) ← readQuoted rest
    some (named :: content, rest)
  | '\\' :: c :: rest => do
    let escaped ← escapedChar? c
    let (content, rest) ← readQuoted rest
    some (escaped :: content, rest)
  | c :: rest => do
    guard (isTextChar c)
    let (content, rest) ← readQuoted rest
    some (c :: content, rest)

/-- Reads the rest of a text between single quotes, which has no escapes. -/
def readLiteral : List Char → Option (List Char × List Char)
  | [] => none
  | '\'' :: rest => some ([], rest)
  | c :: rest => do
    guard (isTextChar c)
    let (content, rest) ← readLiteral rest
    some (c :: content, rest)

/-- Whether nothing but blanks is left of a line. -/
def endsLine (chars : List Char) : Bool :=
  (lineEnd? (skipSpace chars)).isSome

/-- Reads the rest of a text of several lines.  Up to two quotes may stand before the three closing
ones.  A backslash at the end of a line takes it, and the blanks and line ends that follow, out of
the text; `joining` says that such a place is being read. -/
def readLines (joining : Bool) : List Char → Option (List Char × List Char)
  | [] => none
  | '"' :: '"' :: '"' :: '"' :: '"' :: rest => some (['"', '"'], rest)
  | '"' :: '"' :: '"' :: '"' :: rest => some (['"'], rest)
  | '"' :: '"' :: '"' :: rest => some ([], rest)
  | '\r' :: '\n' :: rest => do
    let (content, rest) ← readLines joining rest
    some (if joining then content else '\n' :: content, rest)
  | '\\' :: 'u' :: a :: b :: c :: d :: rest => do
    let named ← namedChar? [a, b, c, d]
    let (content, rest) ← readLines false rest
    some (named :: content, rest)
  | '\\' :: 'U' :: a :: b :: c :: d :: e :: f :: g :: h :: rest => do
    let named ← namedChar? [a, b, c, d, e, f, g, h]
    let (content, rest) ← readLines false rest
    some (named :: content, rest)
  | '\\' :: c :: rest =>
    if endsLine (c :: rest) then readLines true (c :: rest)
    else do
      let escaped ← escapedChar? c
      let (content, rest) ← readLines false rest
      some (escaped :: content, rest)
  | c :: rest => do
    guard (isTextChar c || c = '\n')
    if joining && (isSpace c || c = '\n') then readLines true rest
    else
      let (content, rest) ← readLines false rest
      some (c :: content, rest)

/-- Reads the rest of a text of several lines without escapes. -/
def readLiteralLines : List Char → Option (List Char × List Char)
  | [] => none
  | '\'' :: '\'' :: '\'' :: '\'' :: '\'' :: rest => some (['\'', '\''], rest)
  | '\'' :: '\'' :: '\'' :: '\'' :: rest => some (['\''], rest)
  | '\'' :: '\'' :: '\'' :: rest => some ([], rest)
  | '\r' :: '\n' :: rest => do
    let (content, rest) ← readLiteralLines rest
    some ('\n' :: content, rest)
  | c :: rest => do
    guard (isTextChar c || c = '\n')
    let (content, rest) ← readLiteralLines rest
    some (c :: content, rest)

/-- Leaves out a line end right after the opening quotes of a text of several lines. -/
def skipFirstEnd (chars : List Char) : List Char :=
  (lineEnd? chars).getD chars

/-- Reads a text between quotes of any kind; `none` also where there is no quote. -/
def readText (chars : List Char) : Option (String × List Char) :=
  let read :=
    match chars with
    | '"' :: '"' :: '"' :: rest => readLines false (skipFirstEnd rest)
    | '\'' :: '\'' :: '\'' :: rest => readLiteralLines (skipFirstEnd rest)
    | '"' :: rest => readQuoted rest
    | '\'' :: rest => readLiteral rest
    | _ => none
  read.map fun (content, rest) => (String.ofList content, rest)

/-- The characters of a key without quotes. -/
def isBareChar (c : Char) : Bool :=
  c.isAlphanum || c = '_' || c = '-'

/-- Reads one part of a key. -/
def readName (chars : List Char) : Option (String × List Char) :=
  match chars with
  | '"' :: rest => (readQuoted rest).map fun (name, rest) => (String.ofList name, rest)
  | '\'' :: rest => (readLiteral rest).map fun (name, rest) => (String.ofList name, rest)
  | _ =>
    match chars.span isBareChar with
    | ([], _) => none
    | (name, rest) => some (String.ofList name, rest)

/-- Reads a key, whose parts stand between dots.  The count bounds the parts to come. -/
def readKey : Nat → List Char → Option (Key × List Char)
  | 0, _ => none
  | count + 1, chars => do
    let (name, rest) ← readName (skipSpace chars)
    match skipSpace rest with
    | '.' :: rest => do
      let (key, rest) ← readKey count rest
      some (⟨name :: key.path, key.name⟩, rest)
    | rest => some (⟨[], name⟩, rest)

mutual

/-- Reads a value.  The depth bounds the calls that are still to come. -/
def readValue : Nat → List Char → Option (Toml × List Char)
  | 0, _ => none
  | depth + 1, chars =>
    match chars with
    | '[' :: rest => do
      let (items, rest) ← readItems depth rest
      some (.list items, rest)
    | '\x7b' :: rest =>
      match skipSpace rest with
      | '\x7d' :: rest => some (.table .inline [], rest)
      | _ => do
        let (definitions, rest) ← readDefinitions depth rest
        let entries ← defineAll [] definitions
        some (.table .inline entries, rest)
    | 't' :: 'r' :: 'u' :: 'e' :: rest => some (.flag true, rest)
    | 'f' :: 'a' :: 'l' :: 's' :: 'e' :: rest => some (.flag false, rest)
    | _ => (readText chars).map fun (content, rest) => (.text content, rest)

/-- Reads the items of a list and the closing bracket.  A comma may follow the last item. -/
def readItems : Nat → List Char → Option (List Toml × List Char)
  | 0, _ => none
  | depth + 1, chars =>
    match skipAll chars with
    | ']' :: rest => some ([], rest)
    | chars => do
      let (item, rest) ← readValue depth chars
      match skipAll rest with
      | ',' :: rest => do
        let (items, rest) ← readItems depth rest
        some (item :: items, rest)
      | ']' :: rest => some ([item], rest)
      | _ => none

/-- Reads the definitions of a table between braces, at least one, and the closing brace. -/
def readDefinitions : Nat → List Char → Option (List Definition × List Char)
  | 0, _ => none
  | depth + 1, chars => do
    let (definition, rest) ← readDefinition depth chars
    match skipSpace rest with
    | ',' :: rest => do
      let (definitions, rest) ← readDefinitions depth rest
      some (definition :: definitions, rest)
    | '\x7d' :: rest => some ([definition], rest)
    | _ => none

/-- Reads the definition of a key. -/
def readDefinition : Nat → List Char → Option (Definition × List Char)
  | 0, _ => none
  | depth + 1, chars => do
    let (key, rest) ← readKey chars.length chars
    match rest with
    | '=' :: rest => do
      let (value, rest) ← readValue depth (skipSpace rest)
      some (⟨key, value⟩, rest)
    | _ => none

end

/-- Takes the rest of a line, which holds at most a comment; the document may end instead. -/
def finishLine (chars : List Char) : Option (List Char) :=
  match skipComment (skipSpace chars) with
  | [] => some []
  | rest => lineEnd? rest

/-- Reads the header of a section after its opening bracket. -/
def readHeader (chars : List Char) : Option (Key × List Char) := do
  let (key, rest) ← readKey chars.length chars
  match rest with
  | ']' :: rest => some (key, rest)
  | _ => none

/-- Reads the lines of a document.  The count bounds the lines to come. -/
def readDocument : Nat → List Char → Option Document
  | 0, _ => none
  | count + 1, chars =>
    match skipAll chars with
    | [] => some ⟨[], []⟩
    | '[' :: rest => do
      let (header, rest) ← readHeader rest
      let rest ← finishLine rest
      let document ← readDocument count rest
      some ⟨[], ⟨header, document.definitions⟩ :: document.sections⟩
    | rest => do
      let (definition, rest) ← readDefinition (3 * rest.length + 3) rest
      let rest ← finishLine rest
      let document ← readDocument count rest
      some { document with definitions := definition :: document.definitions }

/-- Reads the text of a document; a byte order mark in front is left out. -/
def parse? (text : String) : Option Entries :=
  let chars :=
    match text.toList with
    | '\ufeff' :: rest => rest
    | chars => chars
  readDocument (chars.length + 1) chars >>= Document.entries?

end BuildDeps.Toml
