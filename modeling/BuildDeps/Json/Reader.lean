import BuildDeps.Json
import BuildDeps.Text.Quoted

/-!
Reading JSON texts.

A text holds one value and blanks around it, and nothing else: no comments, no trailing commas, no
byte order mark, no raw control characters in strings.
-/

namespace BuildDeps.Json

/-- The blanks between tokens. -/
def isSpace (c : Char) : Bool :=
  [' ', '\t', '\n', '\r'].contains c

/-- Leaves out blanks. -/
def skipSpace (chars : List Char) : List Char :=
  chars.dropWhile isSpace

/-- The character of an escape of one letter. -/
def escapedChar? : Char → Option Char
  | '"' => some '"'
  | '\\' => some '\\'
  | '/' => some '/'
  | 'b' => some '\x08'
  | 'f' => some '\x0c'
  | 'n' => some '\n'
  | 'r' => some '\r'
  | 't' => some '\t'
  | _ => none

/-- Reads the rest of a string after its opening quote, as code points in which an escaped
surrogate pair still counts two. -/
def readUnits : List Char → Option (List Nat × List Char)
  | [] => none
  | '"' :: rest => some ([], rest)
  | '\\' :: 'u' :: a :: b :: c :: d :: rest => do
    let unit ← Text.hexNumber? [a, b, c, d]
    let (units, rest) ← readUnits rest
    some (unit :: units, rest)
  | '\\' :: c :: rest => do
    let escaped ← escapedChar? c
    let (units, rest) ← readUnits rest
    some (escaped.toNat :: units, rest)
  | c :: rest => do
    guard (' ' ≤ c)
    let (units, rest) ← readUnits rest
    some (c.toNat :: units, rest)

/-- Puts surrogate pairs together; a half without its other half has no text. -/
def textOfUnits? : List Nat → Option (List Char)
  | [] => some []
  | high :: low :: rest =>
    if 0xD800 ≤ high ∧ high < 0xDC00 ∧ 0xDC00 ≤ low ∧ low < 0xE000 then do
      let c ← Text.charOfCode? (0x10000 + (high - 0xD800) * 0x400 + (low - 0xDC00))
      let chars ← textOfUnits? rest
      some (c :: chars)
    else do
      let c ← Text.charOfCode? high
      let chars ← textOfUnits? (low :: rest)
      some (c :: chars)
  | [unit] => (Text.charOfCode? unit).map ([·])

/-- Reads the rest of a string after its opening quote. -/
def readString (chars : List Char) : Option (Option String × List Char) := do
  let (units, rest) ← readUnits chars
  some ((textOfUnits? units).map String.ofList, rest)

/-- Reads digits, at least one. -/
def readDigits (chars : List Char) : Option (List Char × List Char) :=
  match chars.span Char.isDigit with
  | ([], _) => none
  | found => some found

/-- Reads the whole part of a number, which has no leading zero. -/
def readWhole (chars : List Char) : Option (List Char × List Char) :=
  match chars with
  | '0' :: rest => some (['0'], rest)
  | _ => readDigits chars

/-- Reads the decimals of a number, if it has any. -/
def readFraction (chars : List Char) : Option (List Char × List Char) :=
  match chars with
  | '.' :: rest => do
    let (digits, rest) ← readDigits rest
    some ('.' :: digits, rest)
  | _ => some ([], chars)

/-- Reads the exponent of a number, if it has one. -/
def readExponent (chars : List Char) : Option (List Char × List Char) :=
  match chars with
  | c :: rest =>
    if c = 'e' ∨ c = 'E' then do
      let (sign, rest) :=
        match rest with
        | '+' :: rest => (['+'], rest)
        | '-' :: rest => (['-'], rest)
        | _ => ([], rest)
      let (digits, rest) ← readDigits rest
      some (c :: sign ++ digits, rest)
    else some ([], chars)
  | [] => some ([], [])

/-- Reads a number. -/
def readNumber (chars : List Char) : Option (Json × List Char) := do
  let (sign, rest) :=
    match chars with
    | '-' :: rest => (['-'], rest)
    | _ => ([], chars)
  let (whole, rest) ← readWhole rest
  let (fraction, rest) ← readFraction rest
  let (exponent, rest) ← readExponent rest
  some (.number (String.ofList (sign ++ whole ++ fraction ++ exponent)), rest)

mutual

/-- Reads a value and the blanks before it.  The depth bounds the calls that are still to come. -/
def readValue : Nat → List Char → Option (Json × List Char)
  | 0, _ => none
  | depth + 1, chars =>
    match skipSpace chars with
    | '"' :: rest => do
      let (text, rest) ← readString rest
      some (.string text, rest)
    | '[' :: rest =>
      match skipSpace rest with
      | ']' :: rest => some (.array [], rest)
      | rest => do
        let (items, rest) ← readItems depth rest
        some (.array items, rest)
    | '{' :: rest =>
      match skipSpace rest with
      | '}' :: rest => some (.object [], rest)
      | rest => do
        let (members, rest) ← readMembers depth rest
        some (.object members, rest)
    | 'n' :: 'u' :: 'l' :: 'l' :: rest => some (.null, rest)
    | 't' :: 'r' :: 'u' :: 'e' :: rest => some (.bool true, rest)
    | 'f' :: 'a' :: 'l' :: 's' :: 'e' :: rest => some (.bool false, rest)
    | rest => readNumber rest

/-- Reads the items of an array, at least one, and the closing bracket. -/
def readItems : Nat → List Char → Option (List Json × List Char)
  | 0, _ => none
  | depth + 1, chars => do
    let (item, rest) ← readValue depth chars
    match skipSpace rest with
    | ',' :: rest => do
      let (items, rest) ← readItems depth rest
      some (item :: items, rest)
    | ']' :: rest => some ([item], rest)
    | _ => none

/-- Reads the members of an object, at least one, and the closing brace. -/
def readMembers : Nat → List Char → Option (List (Option String × Json) × List Char)
  | 0, _ => none
  | depth + 1, chars =>
    match skipSpace chars with
    | '"' :: rest => do
      let (key, rest) ← readString rest
      match skipSpace rest with
      | ':' :: rest => do
        let (value, rest) ← readValue depth rest
        match skipSpace rest with
        | ',' :: rest => do
          let (members, rest) ← readMembers depth rest
          some ((key, value) :: members, rest)
        | '}' :: rest => some ([(key, value)], rest)
        | _ => none
      | _ => none
    | _ => none

end

/-- Reads a JSON text.  Of any two calls that follow one another at least one takes a character,
so twice the length of the text bounds their number. -/
def parse? (text : String) : Option Json :=
  let chars := text.toList
  match readValue (2 * chars.length + 1) chars with
  | some (value, rest) => if (skipSpace rest).isEmpty then some value else none
  | none => none

end BuildDeps.Json
