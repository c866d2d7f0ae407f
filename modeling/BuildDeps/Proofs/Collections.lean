import BuildDeps.Ordered
import BuildDeps.Table
import Mathlib.Data.List.Induction
import Mathlib.Data.List.Perm.Basic
import Mathlib.Data.List.Sort

/-!
Collections that do not show the order in which they were made.

An ascending list is determined by its members, and a table by its rows as long as they have keys of
their own.  A sequence of computations that may fail does show its order, in which failure comes
first; but whether it succeeds, and with what results, is a matter of each computation alone.
-/

namespace BuildDeps

namespace Ordered

variable {α : Type} [Ord α] [Std.TransOrd α] {one other : List α}

/-- Two ascending lists with the same members are the same list. -/
theorem Ascending.eq_of_mem_iff (oneAscending : Ascending one) (otherAscending : Ascending other)
    (members : ∀ x, x ∈ one ↔ x ∈ other) : one = other := by
  have irrefl : Std.Irrefl fun x y : α => compare x y = .lt :=
    ⟨fun _ less => by simp [Std.ReflCmp.compare_self] at less⟩
  have antisymm : Std.Antisymm fun x y : α => compare x y = .lt :=
    ⟨fun _ _ less greater => absurd greater (Std.OrientedCmp.not_lt_of_lt less)⟩
  exact List.Pairwise.eq_of_mem_iff oneAscending otherAscending members

/-- The ascending list of some members shows neither their order nor their number. -/
theorem ofList_eq_of_mem_iff [Std.LawfulEqOrd α] (members : ∀ x, x ∈ one ↔ x ∈ other) :
    ofList one = ofList other := by
  apply (ascending_ofList one).eq_of_mem_iff (ascending_ofList other)
  intro x
  rw [mem_ofList, mem_ofList, members]

end Ordered

namespace Table

variable {κ υ : Type} [DecidableEq κ] {rows others : List (κ × υ)} {key : κ} {value : υ}

/-- Taking a key away leaves the others in their order. -/
theorem keys_erase {table : Table κ υ} : (table.erase key).keys = table.keys.filter (· ≠ key) := by
  simp only [keys, erase, List.filter_map]
  rfl

theorem nodup_keys_erase {table : Table κ υ} (distinct : table.keys.Nodup) :
    (table.erase key).keys.Nodup := by
  rw [keys_erase]
  exact distinct.filter _

/-- A key that is written has one row, in place of any that it had. -/
theorem nodup_keys_insert {table : Table κ υ} (distinct : table.keys.Nodup) :
    (table.insert key value).keys.Nodup := by
  refine List.nodup_cons.2 ⟨?_, nodup_keys_erase distinct⟩
  show key ∉ (table.erase key).keys
  simp [keys_erase]

/-- Keys that differ in their values are different. -/
theorem ne_of_get? {table : Table κ υ} {other : κ} (found : table.get? key = some value)
    (missing : table.get? other = none) : key ≠ other := by
  rintro rfl
  rw [missing] at found
  cases found

/-- A value that is overwritten leaves no trace. -/
theorem insert_erase {table : Table κ υ} :
    (table.erase key).insert key value = table.insert key value := by
  simp [insert, erase]

/-- The last write to a key stands, as if there had been no other. -/
theorem insert_insert {table : Table κ υ} {first : υ} :
    (table.insert key first).insert key value = table.insert key value := by
  simp [insert, erase]

/-- The last row is written last. -/
theorem ofList_append_singleton (rows : List (κ × υ)) (row : κ × υ) :
    ofList (rows ++ [row]) = (ofList rows).insert row.1 row.2 := by
  rw [ofList, List.foldl_append]
  rfl

/-- Rows with keys of their own are all there. -/
theorem get?_ofList (distinct : (rows.map (·.1)).Nodup) :
    (ofList rows).get? key = some value ↔ (key, value) ∈ rows := by
  induction rows using List.reverseRecOn with
  | nil => simp [ofList]
  | append_singleton rows row ih =>
      rw [List.map_append, List.nodup_append] at distinct
      obtain ⟨before, _, apart⟩ := distinct
      rw [ofList_append_singleton, get?_insert, List.mem_append, List.mem_singleton, ← ih before]
      split
      · rename_i same
        subst same
        have fresh : (ofList rows).get? row.1 ≠ some value := by
          intro found
          exact apart _ (List.mem_map.2 ⟨_, (ih before).1 found, rfl⟩) _ List.mem_cons_self rfl
        simp only [fresh, false_or, Option.some.injEq]
        constructor
        · rintro rfl
          rfl
        · intro same
          exact (Prod.mk.inj same).2.symm
      · rename_i different
        have other : (key, value) ≠ row := fun same => different (same ▸ rfl)
        simp [other]

/-- A table of rows with keys of their own does not show their order. -/
theorem get?_ofList_of_perm (distinct : (rows.map (·.1)).Nodup) (perm : rows.Perm others) :
    (ofList rows).get? key = (ofList others).get? key := by
  apply Option.ext
  intro value
  rw [get?_ofList distinct, get?_ofList ((perm.map _).nodup_iff.1 distinct), perm.mem_iff]

end Table

/-- A list without repeats that has a single member. -/
theorem eq_singleton_of_mem {α : Type} {x : α} {members : List α} (distinct : members.Nodup)
    (member : x ∈ members) (only : ∀ y ∈ members, y = x) : members = [x] := by
  apply List.perm_singleton.1
  rw [List.perm_ext_iff_of_nodup distinct (List.nodup_singleton x)]
  intro y
  rw [List.mem_singleton]
  constructor
  · exact only y
  · rintro rfl
    exact member

/-- A member of the one of two related lists is related to a member of the other. -/
theorem exists_related_of_mem {α β : Type} {related : α → β → Prop} {ones : List α}
    {others : List β} (pairs : List.Forall₂ related ones others) {one : α} (member : one ∈ ones) :
    ∃ other ∈ others, related one other := by
  induction pairs with
  | nil => cases member
  | cons both _ ih =>
      rcases List.mem_cons.1 member with rfl | later
      · exact ⟨_, List.mem_cons_self, both⟩
      · obtain ⟨other, present, found⟩ := ih later
        exact ⟨other, List.mem_cons_of_mem _ present, found⟩

section Sorting

variable {α κ : Type} [Ord κ] [Std.TransOrd κ]

/-- By its keys, any two members can be compared. -/
theorem isLE_compareOn_total (key : α → κ) (one other : α) :
    ((compareOn key one other).isLE || (compareOn key other one).isLE) = true := by
  have swapped : compareOn key other one = (compareOn key one other).swap :=
    Std.OrientedCmp.eq_swap
  rw [swapped]
  cases compareOn key one other <;> rfl

/-- Sorting by a key puts the keys in order. -/
theorem pairwise_mergeSort_compareOn (key : α → κ) (members : List α) :
    (members.mergeSort fun one other => (compareOn key one other).isLE).Pairwise fun one other =>
      (compareOn key one other).isLE = true :=
  List.pairwise_mergeSort (fun _ _ _ => Std.TransCmp.isLE_trans) (isLE_compareOn_total key) members

/-- Sorting by a key leaves the members of one key in the order in which they stand. -/
theorem filter_mergeSort_compareOn [DecidableEq κ] (key : α → κ) (value : κ) (members : List α) :
    (members.mergeSort fun one other => (compareOn key one other).isLE).filter (key · = value) =
      members.filter (key · = value) := by
  have alike : (members.filter (key · = value)).Pairwise fun one other =>
      (compareOn key one other).isLE = true := by
    apply List.pairwise_of_forall_mem_list
    intro one oneMember other otherMember
    have oneKey : key one = value := by simpa using (List.mem_filter.1 oneMember).2
    have otherKey : key other = value := by simpa using (List.mem_filter.1 otherMember).2
    rw [compareOn, oneKey, otherKey, Std.compare_self]
    rfl
  have kept : (members.filter (key · = value)).Sublist
      (members.mergeSort fun one other => (compareOn key one other).isLE) :=
    List.sublist_mergeSort (fun _ _ _ => Std.TransCmp.isLE_trans) (isLE_compareOn_total key) alike
      List.filter_sublist
  have again := kept.filter (key · = value)
  rw [List.filter_filter] at again
  simp only [Bool.and_self] at again
  exact (again.eq_of_length ((List.mergeSort_perm _ _).symm.filter _).length_eq).symm

end Sorting

section Sequences

variable {ε α β : Type} {compute : α → Except ε β} {inputs others : List α} {results : List β}

/-- Two computations one after the other only succeed if both do. -/
theorem exists_of_bind_eq_ok {first : Except ε α} {next : α → Except ε β} {result : β}
    (succeeds : first >>= next = .ok result) :
    ∃ value, first = .ok value ∧ next value = .ok result := by
  cases first with
  | error fault => cases succeeds
  | ok value => exact ⟨value, rfl, succeeds⟩

/-- A computation behind a check only succeeds if the check does. -/
theorem of_ite_eq_ok {condition : Prop} [Decidable condition] {value result : α} {fault : ε}
    (succeeds : (if condition then .ok value else .error fault) = Except.ok result) :
    condition ∧ value = result := by
  split at succeeds
  · rename_i holds
    cases succeeds
    exact ⟨holds, rfl⟩
  · cases succeeds

/-- A sequence succeeds if its first computation does, and then the others. -/
theorem mapM_cons_eq_ok_iff {input : α} :
    (input :: inputs).mapM compute = .ok results ↔ ∃ result later, compute input = .ok result ∧
      inputs.mapM compute = .ok later ∧ results = result :: later := by
  rw [List.mapM_cons]
  cases compute input with
  | error fault => simp [bind, Except.bind]
  | ok result =>
      cases inputs.mapM compute with
      | error fault => simp [bind, Except.bind]
      | ok later => simp [bind, Except.bind, pure, Except.pure, eq_comm]

/-- A sequence of computations succeeds if each of them does, with all their results. -/
theorem mapM_eq_ok_iff :
    inputs.mapM compute = .ok results ↔
      List.Forall₂ (fun input result => compute input = .ok result) inputs results := by
  induction inputs generalizing results with
  | nil =>
      rw [List.mapM_nil, List.forall₂_nil_left_iff]
      exact ⟨fun same => (Except.ok.inj same).symm, fun same => same ▸ rfl⟩
  | cons input rest ih => simp only [mapM_cons_eq_ok_iff, List.forall₂_cons_left_iff, ih]

/-- Computations all of which succeed succeed as a sequence. -/
theorem exists_mapM_eq_ok (succeed : ∀ input ∈ inputs, ∃ result, compute input = .ok result) :
    ∃ results, inputs.mapM compute = .ok results := by
  induction inputs with
  | nil => exact ⟨[], rfl⟩
  | cons input rest ih =>
      obtain ⟨result, first⟩ := succeed input List.mem_cons_self
      obtain ⟨later, others⟩ := ih fun next member => succeed next (List.mem_cons_of_mem _ member)
      exact ⟨result :: later, mapM_cons_eq_ok_iff.2 ⟨result, later, first, others, rfl⟩⟩

/-- A sequence of computations only succeeds if all of them do. -/
theorem exists_of_mapM_eq_ok (succeeds : inputs.mapM compute = .ok results) :
    ∀ input ∈ inputs, ∃ result, compute input = .ok result := by
  have paired := mapM_eq_ok_iff.1 succeeds
  intro input member
  induction paired with
  | nil => cases member
  | cons computed _ ih =>
      cases member with
      | head => exact ⟨_, computed⟩
      | tail _ later => exact ih (mapM_eq_ok_iff.2 ‹_›) later

/-- The results of a sequence are those of its computations. -/
theorem mem_of_mapM_eq_ok {result : β} (succeeds : inputs.mapM compute = .ok results) :
    result ∈ results ↔ ∃ input ∈ inputs, compute input = .ok result := by
  induction inputs generalizing results with
  | nil =>
      cases succeeds
      simp
  | cons input rest ih =>
      obtain ⟨first, later, computed, others, rfl⟩ := mapM_cons_eq_ok_iff.1 succeeds
      rw [List.mem_cons, List.exists_mem_cons_iff, ih others, computed, Except.ok.injEq, eq_comm]

/-- Searching parts one after the other is searching all of them in turn. -/
theorem findSome?_flatMap {parts : α → List β} {choose : β → Option ε} :
    (inputs.flatMap parts).findSome? choose =
      inputs.findSome? fun input => (parts input).findSome? choose := by
  induction inputs with
  | nil => rfl
  | cons input rest ih =>
      rw [List.flatMap_cons, List.findSome?_append, List.findSome?_cons, ih]
      cases (parts input).findSome? choose <;> rfl

/-- How a computation fails, if it does. -/
def failure? : Except ε β → Option ε
  | .error fault => some fault
  | .ok _ => none

theorem failure?_eq_some_iff {computation : Except ε β} {fault : ε} :
    failure? computation = some fault ↔ computation = .error fault := by
  cases computation <;> simp [failure?]

theorem failure?_eq_none_iff {computation : Except ε β} :
    failure? computation = none ↔ ∃ result, computation = .ok result := by
  cases computation <;> simp [failure?]

/-- What is made of a result does not change how it fails. -/
theorem failure?_map {γ : Type} (transform : β → γ) (computation : Except ε β) :
    failure? (computation.map transform) = failure? computation := by
  cases computation <;> rfl

/-- A computation after another fails if either does, the first one first. -/
theorem failure?_bind {first : Except ε α} {next : α → Except ε β} {later : Option ε}
    (same : ∀ value, first = .ok value → failure? (next value) = later) :
    failure? (first.bind next) = (failure? first).or later := by
  cases first with
  | error fault => rfl
  | ok value => exact same value rfl

/-- A sequence of computations fails as the first of them that does. -/
theorem failure?_mapM (compute : α → Except ε β) (inputs : List α) :
    failure? (inputs.mapM compute) = inputs.findSome? fun input => failure? (compute input) := by
  induction inputs with
  | nil => rfl
  | cons input rest ih =>
      have first : (input :: rest).findSome? (fun input => failure? (compute input)) =
          (failure? (compute input)).or (failure? (rest.mapM compute)) := by
        rw [List.findSome?_cons, ih]
        cases failure? (compute input) <;> rfl
      rw [List.mapM_cons, first]
      apply failure?_bind
      intro result _
      exact failure?_map (result :: ·) (rest.mapM compute)

/-- A sequence fails as its first computation that does, all before it having succeeded. -/
theorem mapM_eq_error_iff {fault : ε} :
    inputs.mapM compute = .error fault ↔ ∃ before input after, inputs = before ++ input :: after ∧
      (∀ earlier ∈ before, ∃ result, compute earlier = .ok result) ∧ compute input = .error fault := by
  rw [← failure?_eq_some_iff, failure?_mapM, List.findSome?_eq_some_iff]
  simp only [failure?_eq_some_iff, failure?_eq_none_iff, and_comm]

/-- Made in another order, computations that succeed have the same results in that order. -/
theorem exists_mapM_of_perm (perm : inputs.Perm others)
    (succeeds : inputs.mapM compute = .ok results) :
    ∃ permuted, others.mapM compute = .ok permuted ∧ results.Perm permuted := by
  obtain ⟨permuted, computed, same⟩ := List.perm_comp_forall₂ perm.symm (mapM_eq_ok_iff.1 succeeds)
  exact ⟨permuted, mapM_eq_ok_iff.2 computed, same.symm⟩

/-- What holds of a state and is kept by every step that succeeds holds after all steps. -/
theorem foldlM_induction {σ : Type} {step : σ → α → Except ε σ} {motive : σ → Prop} {state last : σ}
    (start : motive state)
    (keeps : ∀ {state next} input, motive state → step state input = .ok next → motive next)
    (succeeds : inputs.foldlM step state = .ok last) : motive last := by
  induction inputs generalizing state with
  | nil =>
      cases succeeds
      exact start
  | cons input rest ih =>
      rw [List.foldlM_cons] at succeeds
      cases stepped : step state input with
      | error fault =>
          rw [stepped] at succeeds
          cases succeeds
      | ok next =>
          rw [stepped] at succeeds
          exact ih (keeps input start stepped) succeeds

end Sequences

end BuildDeps
