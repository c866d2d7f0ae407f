import BuildDeps.Label

/-!
The order of labels.

Relative labels come before absolute ones, and labels of one kind go by their texts, compared by
code points.  Labels that were put together from arbitrary parts may share a text; they are then
told apart by repository, package and target, so only equal labels compare equal.
-/

namespace BuildDeps.Label

/-- Relative labels come first. -/
def rank (label : Label) : Nat :=
  if label.relative then 0 else 1

/-- By kind, then by text, then by the parts. -/
def order : Label → Label → Ordering :=
  compareLex (compareOn rank) <| compareLex (compareOn text) <|
    compareLex (compareOn repository) <| compareLex (compareOn package) (compareOn target)

instance : Ord Label := ⟨order⟩

instance : Std.TransOrd Label :=
  inferInstanceAs (Std.TransCmp (compareLex (compareOn rank) <| compareLex (compareOn text) <|
    compareLex (compareOn repository) <| compareLex (compareOn package) (compareOn target)))

/-- Labels have one rank if they are both relative or both absolute. -/
theorem rank_eq_iff {left right : Label} :
    left.rank = right.rank ↔ left.relative = right.relative := by
  unfold rank
  cases left.relative <;> cases right.relative <;> simp

/-- Only equal labels compare equal. -/
instance : Std.LawfulEqOrd Label where
  eq_of_compare := by
    intro left right equal
    have parts : order left right = .eq := equal
    simp only [order, compareLex_eq_eq, compareOn, Std.compare_eq_iff_eq] at parts
    obtain ⟨rank, _, repository, package, target⟩ := parts
    have relative := rank_eq_iff.1 rank
    cases left
    cases right
    simp_all

end BuildDeps.Label
