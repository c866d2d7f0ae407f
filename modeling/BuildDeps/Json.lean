/-!
JSON values as texts hold them.

Members of an object stay in the order of the text, with repeats, since a record refuses a repeated
field while a map takes the last one.  A string may hold half of a surrogate pair, which no sequence
of characters can; such a string is well formed and has no text.
-/

namespace BuildDeps

/-- A JSON value.  Numbers keep their spelling. -/
inductive Json where
  | null
  | bool (value : Bool)
  | number (spelling : String)
  | string (text : Option String)
  | array (items : List Json)
  | object (members : List (Option String × Json))
deriving Repr, Inhabited

end BuildDeps
