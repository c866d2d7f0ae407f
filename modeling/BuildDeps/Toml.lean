/-!
The part of TOML that settings are written in: texts, truth values, lists and tables.

Numbers and dates are no value of any setting, so a document that holds one is not read.
-/

namespace BuildDeps

/-- How a table came to be, which decides what may still be added to it. -/
inductive Toml.Origin where
  /-- By the header of a table within it. -/
  | implied
  /-- By its own header. -/
  | header
  /-- By a dotted key. -/
  | dotted
  /-- Between braces. -/
  | inline
deriving DecidableEq, Repr, Inhabited

/-- A value of a document.  No key of a table is repeated. -/
inductive Toml where
  | text (value : String)
  | flag (value : Bool)
  | list (items : List Toml)
  | table (origin : Toml.Origin) (entries : List (String × Toml))
deriving Repr, Inhabited

namespace Toml

/-- The entries of a table. -/
abbrev Entries := List (String × Toml)

/-- Replaces the value of a key that is there, or adds the key at the end. -/
def put (entries : Entries) (key : String) (value : Toml) : Entries :=
  match entries with
  | [] => [(key, value)]
  | (name, old) :: rest =>
    if name = key then (key, value) :: rest else (name, old) :: put rest key value

/-- Defines a key of a table, written with the keys that lead to it.  What leads to it are tables
made by dotted keys, which this one makes where they are missing.  No key is defined twice. -/
def define (entries : Entries) (path : List String) (key : String) (value : Toml) :
    Option Entries :=
  match path with
  | [] => if (entries.lookup key).isSome then none else some (entries ++ [(key, value)])
  | name :: path =>
    match entries.lookup name with
    | none => do
      let within ← define [] path key value
      some (entries ++ [(name, .table .dotted within)])
    | some (.table .dotted found) => do
      let within ← define found path key value
      some (put entries name (.table .dotted within))
    | some _ => none

/-- Applies a change to the table that a header names, which the header defines: it may be implied
by headers of tables within it, and no more than that. -/
def enter (entries : Entries) (path : List String) (key : String)
    (change : Entries → Option Entries) : Option Entries :=
  match path with
  | [] =>
    match entries.lookup key with
    | none => do
      let within ← change []
      some (entries ++ [(key, .table .header within)])
    | some (.table .implied found) => do
      let within ← change found
      some (put entries key (.table .header within))
    | some _ => none
  | name :: path =>
    match entries.lookup name with
    | none => do
      let within ← enter [] path key change
      some (entries ++ [(name, .table .implied within)])
    | some (.table .inline _) => none
    | some (.table origin found) => do
      let within ← enter found path key change
      some (put entries name (.table origin within))
    | some _ => none

/-- A key with the keys that lead to it. -/
structure Key where
  path : List String
  name : String
deriving DecidableEq, Repr, Inhabited

/-- The definition of a key. -/
structure Definition where
  key : Key
  value : Toml
deriving Repr, Inhabited

/-- Makes definitions in a table, one after the other. -/
def defineAll (entries : Entries) (definitions : List Definition) : Option Entries :=
  definitions.foldlM
    (fun entries definition =>
      define entries definition.key.path definition.key.name definition.value)
    entries

/-- The definitions under one header. -/
structure Section where
  header : Key
  definitions : List Definition
deriving Repr, Inhabited

/-- A document: definitions without a header, and then sections. -/
structure Document where
  definitions : List Definition
  sections : List Section
deriving Repr, Inhabited

/-- The entries that a document defines, if its definitions agree with each other. -/
def Document.entries? (document : Document) : Option Entries := do
  let top ← defineAll [] document.definitions
  document.sections.foldlM
    (fun entries part =>
      enter entries part.header.path part.header.name (defineAll · part.definitions))
    top

end Toml

end BuildDeps
