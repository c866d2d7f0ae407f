/-!
Ascending lists without repeats.

Where an answer shows a collection in order, the collection is a list that is strictly ascending
under `compare`.  Such a list is the one representation of the set of its members, so two of them
built in different ways agree as soon as they have the same members.
-/

namespace BuildDeps.Ordered

variable {α : Type} [Ord α]

/-- Strictly ascending under `compare`; in particular no member is repeated. -/
def Ascending (members : List α) : Prop :=
  members.Pairwise (compare · · = .lt)

/-- Adds a member at its place; a member that compares equal takes the new value. -/
def insert (x : α) : List α → List α
  | [] => [x]
  | y :: rest =>
    match compare x y with
    | .lt => x :: y :: rest
    | .eq => x :: rest
    | .gt => y :: insert x rest

/-- The members of a list, in ascending order and without repeats. -/
def ofList (members : List α) : List α :=
  members.foldr insert []

section Laws

variable [Std.LawfulEqOrd α]

@[simp] theorem mem_insert {x y : α} {members : List α} :
    y ∈ insert x members ↔ y = x ∨ y ∈ members := by
  induction members with
  | nil => simp [insert]
  | cons z rest ih =>
    unfold insert
    split
    · simp
    · rename_i same
      have := Std.LawfulEqCmp.eq_of_compare same
      subst this
      simp
    · simp only [List.mem_cons, ih]
      exact or_left_comm

@[simp] theorem mem_ofList {y : α} {members : List α} :
    y ∈ ofList members ↔ y ∈ members := by
  induction members with
  | nil => simp [ofList]
  | cons x rest ih =>
    show y ∈ insert x (ofList rest) ↔ _
    rw [mem_insert, ih, List.mem_cons]

variable [Std.TransOrd α]

/-- A member that is added takes the place that keeps the list ascending. -/
theorem ascending_insert (x : α) {members : List α} (ascending : Ascending members) :
    Ascending (insert x members) := by
  induction members with
  | nil => simp [insert, Ascending]
  | cons y rest ih =>
    obtain ⟨below, tail⟩ := List.pairwise_cons.1 ascending
    unfold insert
    split
    · rename_i less
      refine List.pairwise_cons.2 ⟨?_, ascending⟩
      intro z member
      rcases List.mem_cons.1 member with rfl | later
      · exact less
      · exact Std.TransCmp.lt_trans less (below z later)
    · rename_i same
      have := Std.LawfulEqCmp.eq_of_compare same
      subst this
      exact ascending
    · rename_i greater
      refine List.pairwise_cons.2 ⟨?_, ih tail⟩
      intro z member
      rcases mem_insert.1 member with rfl | later
      · exact Std.OrientedCmp.lt_of_gt greater
      · exact below z later

/-- Whatever order the members are given in, the list of them is ascending. -/
theorem ascending_ofList (members : List α) : Ascending (ofList members) := by
  induction members with
  | nil => exact List.Pairwise.nil
  | cons x rest ih => exact ascending_insert x ih

omit [Std.LawfulEqOrd α] in
/-- Of two members, the lesser stands before the greater. -/
theorem Ascending.pair_sublist {members : List α} (ascending : Ascending members) {x y : α}
    (xMember : x ∈ members) (yMember : y ∈ members) (less : compare x y = .lt) :
    [x, y].Sublist members := by
  obtain ⟨before, after, rfl⟩ := List.append_of_mem xMember
  obtain ⟨_, tail, apart⟩ := List.pairwise_append.1 ascending
  rcases List.mem_append.1 yMember with earlier | later
  · exact absurd (apart y earlier x List.mem_cons_self) (Std.OrientedCmp.not_lt_of_lt less)
  · rcases List.mem_cons.1 later with rfl | later
    · simp [Std.ReflCmp.compare_self] at less
    · apply List.Sublist.trans _ (List.sublist_append_right _ _)
      exact (List.singleton_sublist.2 later).cons_cons x

omit [Std.LawfulEqOrd α] in
/-- In an ascending list no member stands twice, since nothing is less than itself. -/
theorem Ascending.nodup {members : List α} (ascending : Ascending members) : members.Nodup := by
  apply ascending.imp
  intro one other less same
  subst same
  simp [Std.ReflCmp.compare_self] at less

end Laws

end BuildDeps.Ordered
