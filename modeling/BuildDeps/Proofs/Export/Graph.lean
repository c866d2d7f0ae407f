import BuildDeps.Export.DependencyGraph
import Mathlib.Data.Set.Card
import Mathlib.Logic.Relation

/-!
The dependency graph as a relation, and what the traversals compute of it.

`DependsOn` says when one recorded label depends on another, without regard to how that is looked up
or in which order, and `Reaches` is its transitive closure.  The labels that a traversal lists are
the reachable ones, each once, whether or not a memo was asked, so the computed counts are sizes of
sets of labels on every graph, one with cycles included.
-/

namespace BuildDeps.Export

namespace Registry

variable {registry : Registry}

/-- One label depends on another directly: an export on what it lists, whatever else is recorded
under its label, and a rule on the other labels that declare the packages it imports. -/
inductive DependsOn (registry : Registry) : Label → Label → Prop
  | listed {exporter label : Label} {listing : List Label}
      (recorded : registry.exports.get? exporter = some listing) (member : label ∈ listing) :
      DependsOn registry exporter label
  | imported {importer label : Label} {summary : RuleSummary} {package : JvmPackage}
      (plain : registry.exports.get? importer = none)
      (recorded : registry.rules.get? importer = some summary)
      (imports : package ∈ summary.imports)
      (declared : registry.declaring.get? package = some label)
      (other : label ≠ importer) :
      DependsOn registry importer label

/-- One label depends on another along one or more edges. -/
def Reaches (registry : Registry) : Label → Label → Prop :=
  Relation.TransGen registry.DependsOn

/-- The labels other than itself that a label reaches. -/
def transitiveDependencies (registry : Registry) (label : Label) : Set Label :=
  {other | registry.Reaches label other ∧ other ≠ label}

/-- The list of direct dependencies has the labels that the records lead to. -/
theorem mem_dependencies {label other : Label} :
    other ∈ registry.dependencies label ↔ registry.DependsOn label other := by
  constructor
  · intro member
    unfold dependencies at member
    split at member
    · rename_i listing recorded
      exact .listed recorded member
    · rename_i plain
      split at member
      · rename_i summary recorded
        rw [Ordered.mem_ofList, List.mem_filter, List.mem_filterMap] at member
        obtain ⟨⟨package, imports, declared⟩, distinct⟩ := member
        exact .imported plain recorded imports declared (by simpa using distinct)
      · simp at member
  · intro depends
    cases depends with
    | listed recorded member =>
        simp only [dependencies, recorded]
        exact member
    | imported plain recorded imports declared distinct =>
        simp only [dependencies, plain, recorded]
        rw [Ordered.mem_ofList, List.mem_filter, List.mem_filterMap]
        exact ⟨⟨_, imports, declared⟩, by simpa using distinct⟩

/-- Whatever is depended on is a target, so that a traversal of the targets misses nothing. -/
theorem DependsOn.mem_targets {label other : Label} (depends : registry.DependsOn label other) :
    other ∈ registry.targets :=
  mem_targets_of_mem_dependencies (mem_dependencies.2 depends)

end Registry

/-! ### The traversal -/

section Traversal

variable {dependencies : Label → List Label} {unseen queue : List Label}

/-- The first part of the labels not seen yet are the dependencies among them. -/
theorem mem_found {listing : List Label} {label : Label} :
    label ∈ (unseen.partition (listing.contains ·)).1 ↔ label ∈ unseen ∧ label ∈ listing := by
  rw [List.partition_eq_filter_filter, List.mem_filter, List.contains_iff_mem]

/-- The second part of the labels not seen yet are the others. -/
theorem mem_unfound {listing : List Label} {label : Label} :
    label ∈ (unseen.partition (listing.contains ·)).2 ↔ label ∈ unseen ∧ label ∉ listing := by
  rw [List.partition_eq_filter_filter, List.mem_filter]
  simp

/-- Whatever a label depends on is moved from the labels not seen yet to the queue. -/
theorem perm_found (listing rest : List Label) :
    ((rest ++ (unseen.partition (listing.contains ·)).1) ++
      (unseen.partition (listing.contains ·)).2).Perm (rest ++ unseen) := by
  rw [List.partition_eq_filter_filter, List.append_assoc]
  exact (List.filter_append_perm _ unseen).append_left rest

/-- A traversal lists all that was in its queue to begin with. -/
theorem mem_reach_of_mem_queue {label : Label} (queued : label ∈ queue) :
    label ∈ reach dependencies unseen queue := by
  fun_induction reach dependencies unseen queue with
  | case1 => exact absurd queued List.not_mem_nil
  | case2 unseen head rest found ih =>
      rcases List.mem_cons.1 queued with rfl | later
      · exact List.mem_cons_self
      · exact List.mem_cons_of_mem _ (ih (List.mem_append_left _ later))

/-- Nothing is listed but what was queued or not seen yet. -/
theorem mem_queue_or_unseen_of_mem_reach {label : Label}
    (reached : label ∈ reach dependencies unseen queue) : label ∈ queue ∨ label ∈ unseen := by
  fun_induction reach dependencies unseen queue with
  | case1 => exact absurd reached List.not_mem_nil
  | case2 unseen head rest found ih =>
      rcases List.mem_cons.1 reached with rfl | later
      · exact Or.inl List.mem_cons_self
      · rcases ih later with queued | left
        · rcases List.mem_append.1 queued with old | new
          · exact Or.inl (List.mem_cons_of_mem _ old)
          · exact Or.inr (mem_found.1 new).1
        · exact Or.inr (mem_unfound.1 left).1

/-- Whatever is listed is reached from the queue. -/
theorem exists_path_of_mem_reach {label : Label}
    (reached : label ∈ reach dependencies unseen queue) :
    ∃ first ∈ queue,
      Relation.ReflTransGen (fun one other => other ∈ dependencies one) first label := by
  fun_induction reach dependencies unseen queue with
  | case1 => exact absurd reached List.not_mem_nil
  | case2 unseen head rest found ih =>
      rcases List.mem_cons.1 reached with rfl | later
      · exact ⟨label, List.mem_cons_self, .refl⟩
      · obtain ⟨first, queued, path⟩ := ih later
        rcases List.mem_append.1 queued with old | new
        · exact ⟨first, List.mem_cons_of_mem _ old, path⟩
        · exact ⟨head, List.mem_cons_self, .head (mem_found.1 new).2 path⟩

/-- The dependencies of a listed label are listed too if they were queued or not seen at the start:
when the label is taken up, they are queued unless they have been before. -/
theorem mem_reach_of_mem_dependencies {label other : Label}
    (reached : label ∈ reach dependencies unseen queue) (depends : other ∈ dependencies label)
    (possible : other ∈ queue ∨ other ∈ unseen) : other ∈ reach dependencies unseen queue := by
  rcases possible with queued | fresh
  · exact mem_reach_of_mem_queue queued
  · fun_induction reach dependencies unseen queue with
    | case1 => exact absurd reached List.not_mem_nil
    | case2 unseen head rest found ih =>
        apply List.mem_cons_of_mem
        by_cases next : other ∈ dependencies head
        · exact mem_reach_of_mem_queue (List.mem_append_right _ (mem_found.2 ⟨fresh, next⟩))
        · rcases List.mem_cons.1 reached with rfl | later
          · exact absurd depends next
          · exact ih later (mem_unfound.2 ⟨fresh, next⟩)

/-- No label is listed twice if none was queued twice and none in the queue counted as unseen. -/
theorem nodup_reach (distinct : (queue ++ unseen).Nodup) :
    (reach dependencies unseen queue).Nodup := by
  fun_induction reach dependencies unseen queue with
  | case1 => exact List.nodup_nil
  | case2 unseen head rest found ih =>
      have same : ((rest ++ found.1) ++ found.2).Perm (rest ++ unseen) := perm_found _ rest
      rw [List.cons_append, List.nodup_cons] at distinct
      refine List.nodup_cons.2 ⟨?_, ih (same.nodup_iff.2 distinct.2)⟩
      intro again
      have left : head ∈ (rest ++ found.1) ++ found.2 :=
        List.mem_append.2 (mem_queue_or_unseen_of_mem_reach again)
      exact distinct.1 (same.mem_iff.1 left)

end Traversal

namespace Registry

variable {registry : Registry} {label other : Label}

/-- The labels found by the traversal are those that the graph reaches. -/
theorem mem_reachable : other ∈ registry.reachable label ↔ registry.Reaches label other := by
  constructor
  · intro reached
    obtain ⟨first, queued, path⟩ := exists_path_of_mem_reach reached
    have start : registry.DependsOn label first := mem_dependencies.1 (mem_found.1 queued).2
    apply Relation.TransGen.head' start
    exact Relation.ReflTransGen.mono (fun _ _ member => mem_dependencies.1 member) _ _ path
  · intro path
    -- Every target was queued or unseen at the start, so the list is closed under dependencies.
    induction path with
    | single depends =>
        refine mem_reach_of_mem_queue (mem_found.2 ⟨depends.mem_targets, ?_⟩)
        exact mem_dependencies.2 depends
    | @tail middle last _ depends ih =>
        apply mem_reach_of_mem_dependencies ih (mem_dependencies.2 depends)
        by_cases direct : last ∈ registry.dependencies label
        · exact Or.inl (mem_found.2 ⟨depends.mem_targets, direct⟩)
        · exact Or.inr (mem_unfound.2 ⟨depends.mem_targets, direct⟩)

theorem nodup_reachable : (registry.reachable label).Nodup := by
  apply nodup_reach
  exact (perm_found _ []).nodup_iff.2 (Ordered.ascending_ofList _).nodup

/-- The computed count is the number of labels that a label reaches, itself left out. -/
theorem dependencyCount_eq_ncard :
    registry.dependencyCount label = (registry.transitiveDependencies label).ncard := by
  let found := (registry.reachable label).filter (· ≠ label)
  have same : registry.transitiveDependencies label = (found.toFinset : Set Label) := by
    ext other
    simp [found, transitiveDependencies, mem_reachable]
  rw [same, Set.ncard_coe_finset, List.toFinset_card_of_nodup (nodup_reachable.filter _)]
  rfl

/-- Labels reach finitely many others, since only targets are reached. -/
theorem transitiveDependencies_finite : (registry.transitiveDependencies label).Finite := by
  apply (registry.reachable label).toFinset.finite_toSet.subset
  intro other reached
  simpa [mem_reachable] using reached.1

/-- Where reaching goes one way only, it strictly loses dependencies: all that is reached further on
is reached from the start as well, and so is the label in between. -/
theorem ncard_transitiveDependencies_lt (forward : registry.Reaches label other)
    (oneWay : ¬ registry.Reaches other label) :
    (registry.transitiveDependencies other).ncard <
      (registry.transitiveDependencies label).ncard := by
  refine Set.ncard_lt_ncard ⟨?_, ?_⟩ transitiveDependencies_finite
  · intro further reached
    refine ⟨Relation.TransGen.trans forward reached.1, ?_⟩
    rintro rfl
    exact oneWay reached.1
  · intro backwards
    have between : other ∈ registry.transitiveDependencies label := by
      refine ⟨forward, ?_⟩
      rintro rfl
      exact oneWay forward
    exact (backwards between).2 rfl

end Registry

/-! ### Asking a memo -/

namespace Memo

variable {registry : Registry} {memo : Memo}

/-- A memo holds true answers about a registry. -/
structure Valid (memo : Memo) (registry : Registry) : Prop where
  dependencies : ∀ {label found}, memo.dependencies.get? label = some found →
    found = registry.dependencies label
  counts : ∀ {label count}, memo.counts.get? label = some count →
    count = registry.dependencyCount label

/-- A memo that was never asked keeps nothing that could be false. -/
theorem valid_empty : Memo.empty.Valid registry where
  dependencies found := by simp [Memo.empty] at found
  counts found := by simp [Memo.empty] at found

/-- The answer of a memo is the direct dependencies, whether it was kept or not, and what is kept of it
is true. -/
theorem Valid.dependenciesOf (valid : memo.Valid registry) (label : Label) :
    (memo.dependenciesOf registry label).1 = registry.dependencies label ∧
      (memo.dependenciesOf registry label).2.Valid registry := by
  unfold Memo.dependenciesOf
  split
  · rename_i found kept
    exact ⟨valid.dependencies kept, valid⟩
  · refine ⟨rfl, ?_, valid.counts⟩
    intro other found kept
    rw [Table.get?_insert] at kept
    split at kept
    · rename_i same
      cases kept
      rw [same]
    · exact valid.dependencies kept

end Memo

end BuildDeps.Export
