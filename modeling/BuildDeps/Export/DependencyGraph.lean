import BuildDeps.Export.Registry

/-!
The graph of direct dependencies between recorded labels.

An export depends on the labels it lists.  A rule depends on the other rules that declare the
packages it imports; packages that no recorded rule declares come from elsewhere and add nothing.

Answers about the graph are kept in a `Memo`.  One that grew from the empty memo holds true answers
only, so what it answers does not depend on what was asked before.
-/

namespace BuildDeps.Export

namespace Registry

/-- The direct dependencies of a label, ascending. -/
def dependencies (registry : Registry) (label : Label) : List Label :=
  match registry.exports.get? label with
  | some dependencies => dependencies
  | none =>
    match registry.rules.get? label with
    | some summary =>
      Ordered.ofList ((summary.imports.filterMap registry.declaring.get?).filter (· ≠ label))
    | none => []

/-- Every label that some label depends on directly, ascending. -/
def targets (registry : Registry) : List Label :=
  Ordered.ofList (registry.exports.rows.flatMap (·.2) ++ registry.declaring.rows.map (·.2))

/-- Whatever a label depends on is a target. -/
theorem mem_targets_of_mem_dependencies {registry : Registry} {label other : Label}
    (depends : other ∈ registry.dependencies label) : other ∈ registry.targets := by
  rw [targets, Ordered.mem_ofList, List.mem_append]
  unfold dependencies at depends
  split at depends
  · rename_i listing recorded
    exact Or.inl (List.mem_flatMap.2 ⟨_, Table.mem_rows_of_get? recorded, depends⟩)
  · split at depends
    · rw [Ordered.mem_ofList, List.mem_filter, List.mem_filterMap] at depends
      obtain ⟨⟨package, _, declared⟩, _⟩ := depends
      exact Or.inr (List.mem_map.2 ⟨_, Table.mem_rows_of_get? declared, rfl⟩)
    · cases depends

end Registry

/-- Splitting a list in two loses nothing. -/
theorem length_partition {α : Type} (p : α → Bool) (items : List α) :
    (items.partition p).1.length + (items.partition p).2.length = items.length := by
  simp only [List.partition_eq_filter_filter]
  induction items with
  | nil => rfl
  | cons item rest ih => by_cases h : p item <;> simp_all <;> omega

/-- The labels in a queue and all that can be reached from them through labels not seen yet, in
the order in which they are found. -/
def reach (dependencies : Label → List Label) (unseen queue : List Label) : List Label :=
  match queue with
  | [] => []
  | label :: rest =>
    let found := unseen.partition ((dependencies label).contains ·)
    label :: reach dependencies found.2 (rest ++ found.1)
termination_by unseen.length + queue.length
decreasing_by
  have := length_partition ((dependencies label).contains ·) unseen
  simp only [List.length_cons, List.length_append]
  omega

namespace Registry

/-- The labels that can be reached from a label along one or more dependencies. -/
def reachable (registry : Registry) (label : Label) : List Label :=
  let found := registry.targets.partition ((registry.dependencies label).contains ·)
  reach registry.dependencies found.2 found.1

/-- The number of labels other than itself that a label depends on, directly or not. -/
def dependencyCount (registry : Registry) (label : Label) : Nat :=
  ((registry.reachable label).filter (· ≠ label)).length

end Registry

/-- What the members of a list without repeats are worth is no more than what those of a larger one are. -/
theorem length_flatMap_le_of_subset {α β : Type} [DecidableEq α] (worth : α → List β)
    {items others : List α} (distinct : items.Nodup) (subset : items ⊆ others) :
    (items.flatMap worth).length ≤ (others.flatMap worth).length := by
  induction items generalizing others with
  | nil => exact Nat.zero_le _
  | cons item rest ih =>
      obtain ⟨apart, distinctRest⟩ := List.nodup_cons.1 distinct
      obtain ⟨present, subsetRest⟩ := List.cons_subset.1 subset
      have within : rest ⊆ others.erase item := by
        intro other member
        refine (List.mem_erase_of_ne ?_).2 (subsetRest member)
        rintro rfl
        exact apart member
      have taken := ((List.perm_cons_erase present).flatMap_right worth).length_eq
      have fewer := ih distinctRest within
      rw [List.flatMap_cons, List.length_append] at taken ⊢
      omega

/-- Answers about a registry that were worked out before. -/
structure Memo where
  dependencies : Table Label (List Label)
  counts : Table Label Nat
deriving DecidableEq, Repr

namespace Memo

/-- Nothing was asked yet. -/
def empty : Memo := ⟨Table.empty, Table.empty⟩

instance : Inhabited Memo := ⟨empty⟩

/-- The direct dependencies of a label, from the memo if they are there. -/
def dependenciesOf (memo : Memo) (registry : Registry) (label : Label) : List Label × Memo :=
  match memo.dependencies.get? label with
  | some dependencies => (dependencies, memo)
  | none =>
    let dependencies := registry.dependencies label
    (dependencies, { memo with dependencies := memo.dependencies.insert label dependencies })

/-- Asking a memo does not change its answers. -/
theorem dependenciesOf_dependenciesOf (memo : Memo) (registry : Registry) (label other : Label) :
    ((memo.dependenciesOf registry label).2.dependenciesOf registry other).1 =
      (memo.dependenciesOf registry other).1 := by
  cases kept : memo.dependencies.get? label with
  | some found => simp only [dependenciesOf, kept]
  | none =>
      by_cases same : other = label
      · subst same
        simp only [dependenciesOf, kept, Table.get?_insert, if_true]
      · simp only [dependenciesOf, kept, Table.get?_insert, if_neg same]
        cases memo.dependencies.get? other <;> rfl

/-- The labels that a traversal can still come upon with this stack, each once: those on the stack, those
in answers of the memo and those in new answers, less those visited before. -/
def outstanding (memo : Memo) (registry : Registry) (visited stack : List Label) : List Label :=
  Ordered.ofList ((stack ++ memo.dependencies.rows.flatMap (·.2) ++ registry.targets).filter
    (!visited.contains ·))

/-- What a traversal may still come upon: what is on its stack, what the memo lists for any label, and
the targets of the registry, less what was visited. -/
theorem mem_outstanding {memo : Memo} {registry : Registry} {visited stack : List Label}
    {label : Label} : label ∈ memo.outstanding registry visited stack ↔
      (label ∈ stack ∨ (∃ row ∈ memo.dependencies.rows, label ∈ row.2) ∨
        label ∈ registry.targets) ∧ label ∉ visited := by
  simp only [outstanding, Ordered.mem_ofList, List.mem_filter, List.mem_append, List.mem_flatMap,
    List.contains_eq_mem, Bool.not_eq_true', decide_eq_false_iff_not, or_assoc]

theorem nodup_outstanding {memo : Memo} {registry : Registry} {visited stack : List Label} :
    (memo.outstanding registry visited stack).Nodup :=
  (Ordered.ascending_ofList _).nodup

/-- What is asked of a memo is an answer it had or one about the graph, and is all that is new in it. -/
theorem mem_answers_dependenciesOf (memo : Memo) (registry : Registry) (label : Label)
    {other : Label}
    (answered : other ∈ (memo.dependenciesOf registry label).1 ∨
      ∃ row ∈ (memo.dependenciesOf registry label).2.dependencies.rows, other ∈ row.2) :
    (∃ row ∈ memo.dependencies.rows, other ∈ row.2) ∨ other ∈ registry.targets := by
  unfold dependenciesOf at answered
  split at answered
  · rename_i found kept
    rcases answered with member | old
    · exact Or.inl ⟨_, Table.mem_rows_of_get? kept, member⟩
    · exact Or.inl old
  · rcases answered with member | ⟨row, present, member⟩
    · exact Or.inr (Registry.mem_targets_of_mem_dependencies member)
    · rcases List.mem_cons.1 present with rfl | old
      · exact Or.inr (Registry.mem_targets_of_mem_dependencies member)
      · exact Or.inl ⟨row, (List.mem_filter.1 old).1, member⟩

/-- A label that is passed over leaves no more to come upon. -/
theorem outstanding_skip_subset (memo : Memo) (registry : Registry) (visited rest : List Label)
    (label : Label) : memo.outstanding registry visited rest ⊆
      memo.outstanding registry visited (label :: rest) := by
  intro other possible
  rw [mem_outstanding] at possible ⊢
  exact ⟨possible.1.imp_left (List.mem_cons_of_mem _), possible.2⟩

/-- A label that is visited is one less to come upon, whatever it depends on. -/
theorem outstanding_visit_subset (memo : Memo) (registry : Registry) {visited : List Label}
    (rest : List Label) {label : Label} (new : label ∉ visited) :
    label :: (memo.dependenciesOf registry label).2.outstanding registry (label :: visited)
        ((memo.dependenciesOf registry label).1.reverse ++ rest) ⊆
      memo.outstanding registry visited (label :: rest) := by
  intro other possible
  rw [mem_outstanding]
  rcases List.mem_cons.1 possible with rfl | later
  · exact ⟨Or.inl List.mem_cons_self, new⟩
  · obtain ⟨origin, unvisited⟩ := mem_outstanding.1 later
    refine ⟨?_, fun before => unvisited (List.mem_cons_of_mem _ before)⟩
    rw [List.mem_append, List.mem_reverse, or_assoc, or_left_comm] at origin
    rcases origin with stacked | answered
    · exact Or.inl (List.mem_cons_of_mem _ stacked)
    · rw [← or_assoc] at answered
      rcases answered with answered | target
      · exact Or.inr (mem_answers_dependenciesOf memo registry label answered)
      · exact Or.inr (Or.inr target)

/-- All that can still be taken off the stack: what is on it, and what visits can put there. -/
def pending (memo : Memo) (registry : Registry) (visited stack : List Label) : List Label :=
  stack ++ (memo.outstanding registry visited stack).flatMap
    fun label => (memo.dependenciesOf registry label).1

/-- Skipping a label shortens the stack, and brings nothing new to come. -/
theorem length_pending_skip (memo : Memo) (registry : Registry) (visited rest : List Label)
    (label : Label) : (memo.pending registry visited rest).length <
      (memo.pending registry visited (label :: rest)).length := by
  have fewer := length_flatMap_le_of_subset (fun label => (memo.dependenciesOf registry label).1)
    nodup_outstanding (outstanding_skip_subset memo registry visited rest label)
  rw [pending, pending, List.length_append, List.length_append, List.length_cons]
  omega

/-- A visit takes a label off the stack, and moves the answers about it there from those to come. -/
theorem length_pending_visit (memo : Memo) (registry : Registry) {visited : List Label}
    (rest : List Label) {label : Label} (new : label ∉ visited) :
    ((memo.dependenciesOf registry label).2.pending registry (label :: visited)
        ((memo.dependenciesOf registry label).1.reverse ++ rest)).length <
      (memo.pending registry visited (label :: rest)).length := by
  have distinct : (label :: (memo.dependenciesOf registry label).2.outstanding registry
      (label :: visited) ((memo.dependenciesOf registry label).1.reverse ++ rest)).Nodup := by
    refine List.nodup_cons.2 ⟨fun again => ?_, nodup_outstanding⟩
    exact (mem_outstanding.1 again).2 List.mem_cons_self
  have fewer := length_flatMap_le_of_subset (fun label => (memo.dependenciesOf registry label).1)
    distinct (outstanding_visit_subset memo registry rest new)
  -- What the visit puts on the stack is what the label was worth before.
  rw [List.flatMap_cons, List.length_append] at fewer
  simp only [pending, dependenciesOf_dependenciesOf, List.length_append, List.length_reverse,
    List.length_cons]
  omega

/-- Visits the labels on a stack and all that they lead to, save the label that the traversal started
from.  A label may be on the stack more than once; it is passed over when it was visited before.  Each
visit leaves fewer labels to come upon, so the traversal ends on every graph and with every memo. -/
def visit (registry : Registry) (start : Label) (visited stack : List Label) (memo : Memo) :
    List Label × Memo :=
  match stack with
  | [] => (visited, memo)
  | label :: rest =>
    if label = start ∨ label ∈ visited then visit registry start visited rest memo
    else
      let asked := memo.dependenciesOf registry label
      visit registry start (label :: visited) (asked.1.reverse ++ rest) asked.2
termination_by (memo.pending registry visited stack).length
decreasing_by
  · exact length_pending_skip memo registry visited rest label
  · rename_i known
    exact length_pending_visit memo registry rest (not_or.1 known).2

/-- The number of labels other than itself that a label depends on, from the memo if it is
there. -/
def countOf (memo : Memo) (registry : Registry) (label : Label) : Nat × Memo :=
  match memo.counts.get? label with
  | some count => (count, memo)
  | none =>
    let direct := memo.dependenciesOf registry label
    let visited := visit registry label [] direct.1.reverse direct.2
    let count := visited.1.length
    (count, { visited.2 with counts := visited.2.counts.insert label count })

end Memo

end BuildDeps.Export
