import BuildDeps.Proofs.Export.Graph

/-!
Counting what a label depends on.

The count is the number of labels that a traversal visits.  `Visiting` is what holds at every point of it:
everything found is reached from the start, and whatever a visited label depends on has been visited, is
still on the stack, or is the start.  When the stack is empty the labels visited are closed under
dependencies, so they are all that the start reaches, itself left out, each of them once.
-/

namespace BuildDeps.Export

namespace Registry

variable {registry : Registry} {start label : Label} {visited stack rest : List Label}

/-- A traversal that has come this far. -/
structure Visiting (registry : Registry) (start : Label) (visited stack : List Label) : Prop where
  reached : ∀ label ∈ visited ++ stack, registry.Reaches start label
  closed : ∀ label ∈ start :: visited, ∀ other, registry.DependsOn label other →
    other ∈ start :: visited ∨ other ∈ stack
  apart : start ∉ visited
  distinct : visited.Nodup

namespace Visiting

/-- At the beginning the direct dependencies of the start are on the stack. -/
theorem begin : registry.Visiting start [] (registry.dependencies start).reverse where
  reached := by
    intro label member
    rw [List.nil_append, List.mem_reverse, mem_dependencies] at member
    exact .single member
  closed := by
    intro label member other depends
    rw [List.mem_singleton.1 member] at depends
    exact Or.inr (List.mem_reverse.2 (mem_dependencies.2 depends))
  apart := List.not_mem_nil
  distinct := List.nodup_nil

/-- A label that is found again is passed over. -/
theorem skip (visiting : registry.Visiting start visited (label :: rest))
    (known : label = start ∨ label ∈ visited) : registry.Visiting start visited rest where
  reached := by
    intro other member
    apply visiting.reached
    exact List.mem_append.2 ((List.mem_append.1 member).imp_right (List.mem_cons_of_mem _))
  closed := by
    intro one member other depends
    rcases visiting.closed one member other depends with before | stacked
    · exact Or.inl before
    · rcases List.mem_cons.1 stacked with rfl | later
      · exact Or.inl (List.mem_cons.2 known)
      · exact Or.inr later
  apart := visiting.apart
  distinct := visiting.distinct

/-- A label that is found for the first time puts its dependencies on the stack. -/
theorem visit (visiting : registry.Visiting start visited (label :: rest))
    (new : ¬ (label = start ∨ label ∈ visited)) :
    registry.Visiting start (label :: visited) ((registry.dependencies label).reverse ++ rest) := by
  have here : registry.Reaches start label :=
    visiting.reached label (List.mem_append_right _ List.mem_cons_self)
  rw [not_or] at new
  constructor
  case reached =>
    intro other member
    simp only [List.mem_append, List.mem_cons, List.mem_reverse, mem_dependencies] at member
    rcases member with (rfl | before) | depends | later
    · exact here
    · exact visiting.reached other (List.mem_append_left _ before)
    · exact .tail here depends
    · exact visiting.reached other (List.mem_append_right _ (List.mem_cons_of_mem _ later))
  case closed =>
    intro one member other depends
    simp only [List.mem_append, List.mem_cons, List.mem_reverse, mem_dependencies] at member ⊢
    by_cases itself : one = label
    · subst itself
      exact Or.inr (Or.inl depends)
    · have before : one ∈ start :: visited := List.mem_cons.2 (by tauto)
      have found := visiting.closed one before other depends
      simp only [List.mem_cons] at found
      tauto
  case apart =>
    intro again
    rcases List.mem_cons.1 again with rfl | before
    · exact new.1 rfl
    · exact visiting.apart before
  case distinct => exact List.nodup_cons.2 ⟨new.2, visiting.distinct⟩

/-- When the stack is empty, the labels visited are those that the start reaches. -/
theorem mem_iff (visiting : registry.Visiting start visited []) :
    label ∈ visited ↔ label ∈ registry.transitiveDependencies start := by
  constructor
  · intro member
    refine ⟨visiting.reached label (List.mem_append_left _ member), ?_⟩
    rintro rfl
    exact visiting.apart member
  · rintro ⟨path, other⟩
    have within : label ∈ start :: visited := by
      have closed : ∀ one ∈ start :: visited, ∀ next, registry.DependsOn one next →
          next ∈ start :: visited :=
        fun one member next depends =>
          (visiting.closed one member next depends).resolve_right List.not_mem_nil
      clear other
      induction path with
      | single depends => exact closed _ List.mem_cons_self _ depends
      | tail _ depends ih => exact closed _ ih _ depends
    exact (List.mem_cons.1 within).resolve_left other

/-- The number of labels visited is the number of labels that the start reaches. -/
theorem length_eq (visiting : registry.Visiting start visited []) :
    visited.length = registry.dependencyCount start := by
  have same : registry.transitiveDependencies start = (visited.toFinset : Set Label) := by
    ext label
    simp [visiting.mem_iff]
  rw [dependencyCount_eq_ncard, same, Set.ncard_coe_finset,
    List.toFinset_card_of_nodup visiting.distinct]

end Visiting

end Registry

/-! ### Counting with a memo -/

namespace Memo

variable {registry : Registry} {memo : Memo} {start : Label} {visited stack : List Label}

/-- A traversal that asks a memo of true answers is carried through to the end. -/
theorem Valid.visit (valid : memo.Valid registry)
    (visiting : registry.Visiting start visited stack) :
    registry.Visiting start (Memo.visit registry start visited stack memo).1 [] ∧
      (Memo.visit registry start visited stack memo).2.Valid registry := by
  fun_induction Memo.visit registry start visited stack memo with
  | case1 => exact ⟨visiting, valid⟩
  | case2 visited memo label rest known ih => exact ih valid (visiting.skip known)
  | case3 visited memo label rest new asked ih =>
      obtain ⟨answer, stillValid⟩ := valid.dependenciesOf label
      apply ih stillValid
      rw [answer]
      exact visiting.visit new

/-- The count is true, whether it was worked out before or not, and so is all that is kept of it. -/
theorem Valid.countOf (valid : memo.Valid registry) (label : Label) :
    (memo.countOf registry label).1 = registry.dependencyCount label ∧
      (memo.countOf registry label).2.Valid registry := by
  unfold Memo.countOf
  split
  · rename_i count kept
    exact ⟨valid.counts kept, valid⟩
  · obtain ⟨answer, stillValid⟩ := valid.dependenciesOf label
    simp only [answer]
    have first : registry.Visiting label [] (registry.dependencies label).reverse := .begin
    obtain ⟨visiting, finallyValid⟩ := stillValid.visit first
    refine ⟨visiting.length_eq, finallyValid.dependencies, ?_⟩
    intro other count kept
    rw [Table.get?_insert] at kept
    split at kept
    · rename_i same
      cases kept
      rw [same, visiting.length_eq]
    · exact finallyValid.counts kept

end Memo

end BuildDeps.Export
