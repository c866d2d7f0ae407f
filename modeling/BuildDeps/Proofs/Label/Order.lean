import BuildDeps.Label.Order
import BuildDeps.Proofs.ByteOrder
import BuildDeps.Proofs.Label.RoundTrip

/-!
The order of labels, level by level.

`Precedes` states the order by the bytes of texts, one rule for each level at which it can be decided.
Comparing labels computes it, and it is a total order of all labels: two labels that were put together from
different parts and share a text are told apart by their parts.  Labels that were read have no text in
common, so that for them the levels after the text never count.
-/

namespace BuildDeps.Label

variable {one other : Label}

/-- One label stands before another: a relative label before an absolute one, labels of one kind by the
bytes of their texts, and labels of one text by the bytes of their repositories, packages and targets. -/
inductive Precedes (one other : Label) : Prop where
  | kind (relative : one.relative = true) (absolute : other.relative = false) : Precedes one other
  | text (kind : one.relative = other.relative) (less : bytesOf one.text < bytesOf other.text) :
      Precedes one other
  | repository (kind : one.relative = other.relative) (text : one.text = other.text)
      (less : bytesOf one.repository < bytesOf other.repository) : Precedes one other
  | package (kind : one.relative = other.relative) (text : one.text = other.text)
      (repository : one.repository = other.repository)
      (less : bytesOf one.package < bytesOf other.package) : Precedes one other
  | target (kind : one.relative = other.relative) (text : one.text = other.text)
      (repository : one.repository = other.repository) (package : one.package = other.package)
      (less : bytesOf one.target < bytesOf other.target) : Precedes one other

/-- The lesser rank is that of the relative label, if the other one is absolute. -/
theorem rank_lt_iff : one.rank < other.rank ↔ one.relative = true ∧ other.relative = false := by
  unfold rank
  cases one.relative <;> cases other.relative <;> simp

/-- Comparing labels finds the one that stands before the other. -/
theorem compare_eq_lt_iff_precedes : compare one other = .lt ↔ one.Precedes other := by
  have levels : compare one other = .lt ↔
      (one.relative = true ∧ other.relative = false) ∨ one.relative = other.relative ∧
        (bytesOf one.text < bytesOf other.text ∨ one.text = other.text ∧
          (bytesOf one.repository < bytesOf other.repository ∨ one.repository = other.repository ∧
            (bytesOf one.package < bytesOf other.package ∨ one.package = other.package ∧
              bytesOf one.target < bytesOf other.target))) := by
    show order one other = .lt ↔ _
    simp only [order, compareLex, compareOn, Ordering.then_eq_lt, compare_lt_iff_lt,
      compare_eq_iff_eq, rank_lt_iff, rank_eq_iff, lt_iff_bytesOf_lt]
  rw [levels]
  constructor
  · rintro (⟨relative, absolute⟩ | ⟨kind, less | ⟨text, less | ⟨repository, less | ⟨package, less⟩⟩⟩⟩)
    · exact .kind relative absolute
    · exact .text kind less
    · exact .repository kind text less
    · exact .package kind text repository less
    · exact .target kind text repository package less
  · intro precedes
    cases precedes with
    | kind relative absolute => exact Or.inl ⟨relative, absolute⟩
    | text kind less => exact Or.inr ⟨kind, Or.inl less⟩
    | repository kind text less => exact Or.inr ⟨kind, Or.inr ⟨text, Or.inl less⟩⟩
    | package kind text repository less =>
        exact Or.inr ⟨kind, Or.inr ⟨text, Or.inr ⟨repository, Or.inl less⟩⟩⟩
    | target kind text repository package less =>
        exact Or.inr ⟨kind, Or.inr ⟨text, Or.inr ⟨repository, Or.inr ⟨package, less⟩⟩⟩⟩

/-- Labels are equal in their order if they are the same, part by part. -/
theorem compare_eq_eq_iff_parts : compare one other = .eq ↔
    one.repository = other.repository ∧ one.package = other.package ∧
      one.target = other.target ∧ one.relative = other.relative := by
  rw [Std.compare_eq_iff_eq]
  cases one
  cases other
  rw [mk.injEq]

/-- What the order compares first is the kind. -/
theorem compare_rank : compare one.rank other.rank = compare other.relative one.relative := by
  unfold rank
  cases one.relative <;> cases other.relative <;> rfl

/-- Labels that can be read go by their kinds and their texts, since no two of them have one text. -/
theorem WellFormed.compare_eq (wellFormed : one.WellFormed) (otherWellFormed : other.WellFormed) :
    compare one other =
      (compare other.relative one.relative).then (compare one.text other.text) := by
  have levels : compare one other = (compare one.rank other.rank).then
      ((compare one.text other.text).then ((compare one.repository other.repository).then
        ((compare one.package other.package).then (compare one.target other.target)))) := rfl
  rw [levels, compare_rank]
  cases texts : compare one.text other.text with
  | lt => rfl
  | gt => rfl
  | eq =>
      have same : one = other :=
        wellFormed.eq_of_text_eq otherWellFormed (Std.LawfulEqCmp.eq_of_compare texts)
      subst same
      simp only [Std.ReflCmp.compare_self, Ordering.then_eq]

/-- Labels are totally ordered, whatever they are made of: comparing them tells which stands before the
other, and only labels that agree in all parts are equal in the order.  Relative labels come first.  Of
labels that were read, no more than the kind and the text has a say. -/
theorem order_is_total :
    (∀ one other : Label, compare one other = .lt ↔ one.Precedes other) ∧
    (∀ one other : Label, compare one other = .eq ↔
      one.repository = other.repository ∧ one.package = other.package ∧
        one.target = other.target ∧ one.relative = other.relative) ∧
    ((∀ one other : Label, compare other one = (compare one other).swap) ∧
      (∀ one other : Label, (compare one other).isLE → (compare other one).isLE → one = other) ∧
      (∀ one other third : Label, (compare one other).isLE → (compare other third).isLE →
        (compare one third).isLE) ∧
      ∀ one other : Label, (compare one other).isLE ∨ (compare other one).isLE) ∧
    (∀ one other : Label, one.relative = true → other.relative = false →
      compare one other = .lt) ∧
    ∀ (input otherInput : String) (one other : Label), parse input = .ok one →
      parse otherInput = .ok other → compare one other =
        (compare other.relative one.relative).then (compare one.text other.text) := by
  refine ⟨fun _ _ => compare_eq_lt_iff_precedes, fun _ _ => compare_eq_eq_iff_parts,
    ⟨?_, ?_, ?_, ?_⟩, ?_, ?_⟩
  · intro one other
    exact Std.OrientedCmp.eq_swap
  · intro one other below above
    exact Std.LawfulEqCmp.eq_of_compare (Std.OrientedCmp.isLE_antisymm below above)
  · intro one other third below above
    exact Std.TransCmp.isLE_trans below above
  · intro one other
    have swapped : compare other one = (compare one other).swap := Std.OrientedCmp.eq_swap
    rw [swapped]
    cases compare one other <;> decide
  · intro one other relative absolute
    exact compare_eq_lt_iff_precedes.2 (.kind relative absolute)
  · intro input otherInput one other read otherRead
    exact (wellFormed_of_parse read).compare_eq (wellFormed_of_parse otherRead)

/-- A relative label stands before an absolute one whose text is less, of two labels that were read the one
whose text begins with a slash stands first, and two labels that share a text go by their packages. -/
theorem kind_text_and_package_decide_in_turn :
    compare (⟨"", "", "z", true⟩ : Label) ⟨"", "a", "a", false⟩ = .lt ∧
    (parse "//z" = .ok ⟨"", "z", "z", false⟩ ∧ parse "@maven//:b" = .ok ⟨"maven", "", "b", false⟩ ∧
      compare (⟨"", "z", "z", false⟩ : Label) ⟨"maven", "", "b", false⟩ = .lt) ∧
    text ⟨"", "a", "b:c", false⟩ = text ⟨"", "a:b", "c", false⟩ ∧
      compare (⟨"", "a", "b:c", false⟩ : Label) ⟨"", "a:b", "c", false⟩ = .lt := by
  obtain ⟨precedes, _, _, relativeFirst, decided⟩ := order_is_total
  have near : parse "//z" = .ok ⟨"", "z", "z", false⟩ := rfl
  have far : parse "@maven//:b" = .ok ⟨"maven", "", "b", false⟩ := rfl
  have shared : text ⟨"", "a", "b:c", false⟩ = text ⟨"", "a:b", "c", false⟩ := by decide
  have packages : bytesOf "a" < bytesOf "a:b" := lt_iff_bytesOf_lt.1 (by decide)
  refine ⟨relativeFirst _ _ rfl rfl, ⟨near, far, ?_⟩, shared,
    (precedes _ _).2 (.package rfl shared rfl packages)⟩
  rw [decided _ _ _ _ near far]
  decide

end BuildDeps.Label
