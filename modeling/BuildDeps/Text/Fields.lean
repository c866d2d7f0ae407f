/-!
Texts made of fields between separators: `com.example.Outer`, `group:artifact:version`, `a/b/c`.

Splitting keeps every field, empty ones included, so joining the fields gives the text back.  No field has
the separator in it, so that fields which are joined can be told apart again: apart from the empty text,
which has one empty field, lists of fields and texts determine each other.
-/

namespace BuildDeps.Text

/-- The fields of a text between the occurrences of a separator.  The empty text has one field. -/
def fields (separator : Char) (text : String) : List String :=
  (text.toList.splitOn separator).map String.ofList

/-- The text with the given fields. -/
def joinFields (separator : Char) (parts : List String) : String :=
  String.ofList ([separator].intercalate (parts.map String.toList))

/-- The last field of a text. -/
def lastField (separator : Char) (text : String) : String :=
  (fields separator text).getLastD ""

variable {separator : Char} {text part : String} {parts others : List String}

/-- No character is lost by splitting. -/
theorem joinFields_fields (separator : Char) (text : String) :
    joinFields separator (fields separator text) = text := by
  have toList_ofList : (String.toList ∘ String.ofList) = id := by
    funext chars
    exact String.toList_ofList
  simp [joinFields, fields, List.map_map, toList_ofList, List.intercalate_splitOn]

/-- The induction is on the text: a separator begins a field of its own, and any other character goes to
the first field of what follows it. -/
theorem not_mem_of_mem_splitOn {chars field : List Char}
    (member : field ∈ chars.splitOn separator) : separator ∉ field := by
  induction chars generalizing field with
  | nil =>
      rw [List.splitOn_nil, List.mem_singleton] at member
      subst member
      exact List.not_mem_nil
  | cons first rest ih =>
      rw [List.splitOn_cons_eq_if_modifyHead] at member
      split at member
      · rcases List.mem_cons.1 member with rfl | later
        · exact List.not_mem_nil
        · exact ih later
      · rename_i other
        obtain ⟨head, tail, fields⟩ := List.exists_cons_of_ne_nil
          (List.splitOn_ne_nil separator rest)
        rw [fields] at ih member
        rcases List.mem_cons.1 member with rfl | later
        · have apart : separator ≠ first := fun same => other (by simp [same])
          simpa [apart] using ih List.mem_cons_self
        · exact ih (List.mem_cons_of_mem _ later)

/-- No field has the separator in it. -/
theorem not_mem_of_mem_fields (member : part ∈ fields separator text) :
    separator ∉ part.toList := by
  obtain ⟨field, present, rfl⟩ := List.mem_map.1 member
  rw [String.toList_ofList]
  exact not_mem_of_mem_splitOn present

/-- Fields that are joined are the fields of the text that they make. -/
theorem fields_joinFields (some : parts ≠ []) (free : ∀ part ∈ parts, separator ∉ part.toList) :
    fields separator (joinFields separator parts) = parts := by
  have split : ([separator].intercalate (parts.map String.toList)).splitOn separator =
      parts.map String.toList := by
    apply List.splitOn_intercalate
    · intro field member
      obtain ⟨part, present, rfl⟩ := List.mem_map.1 member
      exact free part present
    · simpa using some
  rw [fields, joinFields, String.toList_ofList, split, List.map_map]
  have ofList_toList : String.ofList ∘ String.toList = id := by
    funext part
    exact String.ofList_toList
  rw [ofList_toList, List.map_id]

/-- The last of some fields is the last field of the text that they make. -/
theorem lastField_joinFields (free : ∀ other ∈ parts ++ [part], separator ∉ other.toList) :
    lastField separator (joinFields separator (parts ++ [part])) = part := by
  rw [lastField, fields_joinFields (List.concat_ne_nil _ _) free]
  simp

theorem fields_ne_nil (separator : Char) (text : String) : fields separator text ≠ [] := by
  simp [fields, List.splitOn_ne_nil]

/-- A first field stands in front of the others, up to a separator. -/
theorem joinFields_cons (some : parts ≠ []) :
    (joinFields separator (part :: parts)).toList =
      part.toList ++ separator :: (joinFields separator parts).toList := by
  have rest : parts.map String.toList ≠ [] := by simpa using some
  rw [joinFields, joinFields, String.toList_ofList, String.toList_ofList, List.map_cons,
    List.intercalate_cons_of_ne_nil rest]
  simp

/-- Fields none of which is empty only make the empty text if there are none. -/
theorem joinFields_eq_empty_iff (filled : ∀ part ∈ parts, part ≠ "") :
    joinFields separator parts = "" ↔ parts = [] := by
  constructor
  · intro empty
    cases parts with
    | nil => rfl
    | cons first rest =>
        have chars : (joinFields separator (first :: rest)).toList = [] := by rw [empty]; rfl
        have named := filled first List.mem_cons_self
        by_cases last : rest = []
        · subst last
          simp [joinFields, named] at chars
        · rw [joinFields_cons last] at chars
          simp at chars
  · rintro rfl
    rfl

/-- Fields may be joined in portions. -/
theorem joinFields_append (some : parts ≠ []) (more : others ≠ []) :
    joinFields separator (parts ++ others) =
      joinFields separator (joinFields separator parts :: others) := by
  apply String.toList_inj.1
  induction parts with
  | nil => exact absurd rfl some
  | cons first rest ih =>
      by_cases last : rest = []
      · subst last
        simp [joinFields]
      · have both : rest ++ others ≠ [] := by simp [last]
        rw [List.cons_append, joinFields_cons both, ih last, joinFields_cons more,
          joinFields_cons more, joinFields_cons last, List.append_assoc, List.cons_append]

/-- The fields of one text are the first of another if the texts are the same, or a separator follows the
one text in the other. -/
theorem fields_prefix_iff : fields separator part <+: fields separator text ↔
    text = part ∨ ∃ rest, text.toList = part.toList ++ separator :: rest := by
  constructor
  · rintro ⟨more, whole⟩
    have joined : joinFields separator (fields separator part ++ more) = text := by
      rw [whole, joinFields_fields]
    by_cases last : more = []
    · rw [last, List.append_nil, joinFields_fields] at joined
      exact Or.inl joined.symm
    · rw [joinFields_append (fields_ne_nil _ _) last, joinFields_fields] at joined
      exact Or.inr ⟨_, by rw [← joined, joinFields_cons last]⟩
  · rintro (rfl | ⟨rest, whole⟩)
    · exact List.prefix_rfl
    · rw [fields, fields, whole, List.splitOn_append_cons_self, List.map_append]
      exact List.prefix_append _ _

/-- Fields none of which is empty are known by the text that they make. -/
theorem eq_of_joinFields_eq
    (filled : ∀ part ∈ parts, part ≠ "" ∧ separator ∉ part.toList)
    (othersFilled : ∀ part ∈ others, part ≠ "" ∧ separator ∉ part.toList)
    (same : joinFields separator parts = joinFields separator others) : parts = others := by
  have none : parts = [] ↔ others = [] := by
    rw [← joinFields_eq_empty_iff fun part member => (filled part member).1, same,
      joinFields_eq_empty_iff fun part member => (othersFilled part member).1]
  by_cases some : parts = []
  · rw [some, none.1 some]
  · rw [← fields_joinFields some fun part member => (filled part member).2, same,
      fields_joinFields (mt none.2 some) fun part member => (othersFilled part member).2]

end BuildDeps.Text
