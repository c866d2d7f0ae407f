import BuildDeps.Json

/-!
Reading records and plain values out of JSON values.

A record is an object, or an array of the values of its fields.  As an object it takes the fields it
knows and passes over all others; a field that it knows stands at most once, and the names of all
members are texts.  As an array it has the values in the order of the fields, and the last fields
may be missing.
-/

namespace BuildDeps.Json

/-- The text of a string. -/
def text? : Json → Option String
  | .string text => text
  | _ => none

/-- A truth value. -/
def bool? : Json → Option Bool
  | .bool value => some value
  | _ => none

/-- The items of an array, each read in the same way. -/
def list? {α : Type} (read : Json → Option α) : Json → Option (List α)
  | .array items => items.mapM read
  | _ => none

/-- The members of a map, each read in the same way; the names are texts. -/
def map? {α : Type} (read : Json → Option α) : Json → Option (List (String × α))
  | .object members =>
    members.mapM fun (name, value) => do
      let name ← name
      let value ← read value
      some (name, value)
  | _ => none

/-- A value that may be `null`. -/
def nullable {α : Type} (read : Json → Option α) : Json → Option (Option α)
  | .null => some none
  | value => (read value).map some

/-- One of several named alternatives: its name, or an object with nothing but this name and
`null`. -/
def choice? {α : Type} (ofName? : String → Option α) : Json → Option α
  | .string name => name >>= ofName?
  | .object [(name, .null)] => name >>= ofName?
  | _ => none

/-- The known fields of a record. -/
structure Record where
  fields : List (String × Json)
deriving Repr, Inhabited

/-- Reads a record with the given known fields, in their order. -/
def record? (known : List String) : Json → Option Record
  | .object members => do
    let named ← members.mapM fun (name, value) => name.map (·, value)
    let fields := named.filter fun (name, _) => known.contains name
    if fields.Pairwise (·.1 ≠ ·.1) then some ⟨fields⟩ else none
  | .array items => if items.length ≤ known.length then some ⟨known.zip items⟩ else none
  | _ => none

namespace Record

/-- A field of a record as it stands. -/
def get? (record : Record) (name : String) : Option Json :=
  record.fields.lookup name

/-- A field that a record has to have. -/
def required {α : Type} (record : Record) (name : String) (read : Json → Option α) : Option α :=
  record.get? name >>= read

/-- A field with a value for where it is absent. -/
def optional {α : Type} (record : Record) (name : String) (read : Json → Option α)
    (absent : α) : Option α :=
  match record.get? name with
  | some value => read value
  | none => some absent

/-- A list of texts, empty where it is absent. -/
def texts (record : Record) (name : String) : Option (List String) :=
  record.optional name (list? text?) []

end Record

end BuildDeps.Json
