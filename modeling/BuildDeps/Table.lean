/-!
Tables from keys to values, in which the last write to a key stands.

A table keeps its rows newest first and at most one row a key.
-/

namespace BuildDeps

/-- A finite map from keys to values. -/
structure Table (κ υ : Type) where
  rows : List (κ × υ)
deriving DecidableEq, Repr

namespace Table

variable {κ υ : Type} [DecidableEq κ]

/-- The table without rows. -/
def empty : Table κ υ := ⟨[]⟩

instance : Inhabited (Table κ υ) := ⟨empty⟩

/-- The value of a key. -/
def get? (table : Table κ υ) (key : κ) : Option υ :=
  (table.rows.find? (·.1 = key)).map (·.2)

/-- Whether a key has a value. -/
def contains (table : Table κ υ) (key : κ) : Bool :=
  (table.get? key).isSome

/-- Takes a key away. -/
def erase (table : Table κ υ) (key : κ) : Table κ υ :=
  ⟨table.rows.filter (·.1 ≠ key)⟩

/-- Gives a key a value, in place of any it had. -/
def insert (table : Table κ υ) (key : κ) (value : υ) : Table κ υ :=
  ⟨(key, value) :: (table.erase key).rows⟩

/-- The number of keys. -/
def size (table : Table κ υ) : Nat := table.rows.length

/-- The keys, newest first. -/
def keys (table : Table κ υ) : List κ := table.rows.map (·.1)

/-- The table that results from writing pairs one after the other. -/
def ofList (pairs : List (κ × υ)) : Table κ υ :=
  pairs.foldl (fun table pair => table.insert pair.1 pair.2) empty

@[simp] theorem get?_empty (key : κ) : (empty : Table κ υ).get? key = none := rfl

/-- A key that is taken away has no value, and other keys keep theirs. -/
theorem get?_erase (table : Table κ υ) (key other : κ) :
    (table.erase key).get? other = if other = key then none else table.get? other := by
  obtain ⟨rows⟩ := table
  induction rows with
  | nil => simp [erase, get?]
  | cons row rest ih =>
    simp only [erase, get?, List.filter_cons] at ih ⊢
    by_cases same : row.1 = key <;> by_cases found : row.1 = other <;> grind

/-- The last write to a key stands, and other keys keep their values. -/
theorem get?_insert (table : Table κ υ) (key other : κ) (value : υ) :
    (table.insert key value).get? other = if other = key then some value else table.get? other := by
  by_cases same : other = key
  · subst same
    simp [insert, get?]
  · have : ¬ key = other := fun h => same h.symm
    have erased := get?_erase table key other
    simp only [same, if_false] at erased ⊢
    rw [← erased]
    simp [insert, get?, this]

/-- Writing one value to several keys. -/
theorem get?_foldl_insert (keys : List κ) (table : Table κ υ) (value : υ) (key : κ) :
    (keys.foldl (·.insert · value) table).get? key =
      if key ∈ keys then some value else table.get? key := by
  induction keys generalizing table with
  | nil => simp
  | cons first rest ih =>
    rw [List.foldl_cons, ih, get?_insert]
    by_cases later : key ∈ rest <;> by_cases same : key = first <;> simp [later, same]

/-- The value of a key stands in one of the rows. -/
theorem mem_rows_of_get? {table : Table κ υ} {key : κ} {value : υ}
    (found : table.get? key = some value) : (key, value) ∈ table.rows := by
  obtain ⟨row, rowFound, rfl⟩ := Option.map_eq_some_iff.1 found
  have same : row.1 = key := by simpa using List.find?_some rowFound
  subst same
  exact List.mem_of_find?_eq_some rowFound

/-- A key that is there has a value. -/
theorem contains_iff {table : Table κ υ} {key : κ} :
    table.contains key = true ↔ ∃ value, table.get? key = some value := by
  rw [contains, Option.isSome_iff_exists]

/-- Writing adds its key, and takes none away. -/
theorem contains_insert {table : Table κ υ} {key other : κ} {value : υ} :
    (table.insert key value).contains other = true ↔ other = key ∨ table.contains other = true := by
  rw [contains, get?_insert]
  by_cases same : other = key <;> simp [same, contains]

/-- The keys are those that have values. -/
theorem mem_keys {table : Table κ υ} {key : κ} :
    key ∈ table.keys ↔ table.contains key = true := by
  constructor
  · intro member
    obtain ⟨row, present, rfl⟩ := List.mem_map.1 member
    simp only [contains, get?, Option.isSome_map, List.find?_isSome]
    exact ⟨row, present, by simp⟩
  · intro contained
    obtain ⟨value, found⟩ := contains_iff.1 contained
    exact List.mem_map.2 ⟨(key, value), mem_rows_of_get? found, rfl⟩

end Table

end BuildDeps
