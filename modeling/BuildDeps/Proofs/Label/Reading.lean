import BuildDeps.Proofs.Label.RoundTrip

/-!
What the labels in a dependency list stand for.

A rule writes labels down in their shortest form.  Read in the package of the rule, such a text gives
the label back, save that the current repository may have lost its name.  Read for itself, it gives a
label that is written down in the same way.
-/

namespace BuildDeps.Label

variable {label origin named : Label} {current package : String}

/-- The label that a text stands for in a package. -/
def readIn (package text : String) : Except Malformed Label :=
  (parse text).map (·.absolute "" package)

/-- A label without the name of the current repository. -/
def unqualified (label : Label) (current : String) : Label :=
  if label.repository = current then { label with repository := "" } else label

/-- A label of the current repository has no name of a repository to leave out. -/
theorem unqualified_of_local (here : label.repository = "") : label.unqualified current = label := by
  unfold unqualified
  split
  · cases label
    cases here
    rfl
  · rfl

/-- The text of an absolute label is read alike in every package. -/
theorem readIn_text (wellFormed : label.WellFormed) (absolute : label.relative = false) :
    readIn package label.text = .ok label := by
  rw [readIn, parse_text wellFormed]
  simp [Except.map, Label.absolute, absolute]

/-- The shortest form of a label stands for the label in the package that it was made for. -/
theorem readIn_simplify (wellFormed : label.WellFormed) (absolute : label.relative = false) :
    readIn origin.package (label.simplify current origin).text =
      .ok (label.unqualified current) := by
  have unnamed : WellFormed { label with repository := "" } :=
    ⟨Or.inl rfl, wellFormed.package, wellFormed.target, fun relative => by
      rw [absolute] at relative
      cases relative⟩
  unfold simplify
  split
  · rename_i here
    have same : label.unqualified current = { label with repository := "" } := by
      rcases here with qualified | here
      · rw [unqualified, if_pos qualified]
      · rw [unqualified_of_local here]
        cases label
        cases here
        rfl
    rw [same]
    split
    · rename_i near
      have target : isTarget ({ label with relative := true } : Label).target.toList = true :=
        wellFormed.target
      rw [readIn, parse_text_of_relative target rfl, ← near]
      cases label
      cases absolute
      rfl
    · exact readIn_text unnamed absolute
  · rename_i elsewhere
    rw [not_or] at elsewhere
    rw [unqualified, if_neg elsewhere.1]
    exact readIn_text wellFormed absolute

/-- A label of another repository keeps the name of the repository, so that it stands for no label of
the current one. -/
theorem repository_of_readIn_simplify (elsewhere : label.repository ≠ "")
    (other : label.repository ≠ current) (absolute : label.relative = false)
    (reads : readIn package (label.simplify current origin).text = .ok named) :
    named.repository ≠ "" := by
  have unchanged : label.simplify current origin = label := by
    rw [simplify, if_neg (not_or.2 ⟨other, elsewhere⟩)]
  rw [unchanged, readIn] at reads
  cases found : parse label.text with
  | error fault =>
      rw [found] at reads
      cases reads
  | ok parsed =>
      have accepted := read_of_parse_eq_ok found
      rw [toList_text_of_external elsewhere absolute] at accepted
      obtain ⟨_, nonempty, kind⟩ := wellFormed_of_read_at accepted
      rw [found] at reads
      simp only [Except.map, Label.absolute, kind, Bool.false_eq_true, if_false,
        Except.ok.injEq] at reads
      exact reads ▸ nonempty

/-! ### Lists that are read again -/

/-- The labels that a rule can write down.  Of a relative label only the target counts. -/
structure Writable (label : Label) : Prop where
  target : isTarget label.target.toList = true
  absolute : label.relative = false → label.WellFormed

theorem WellFormed.writable (wellFormed : label.WellFormed) : label.Writable :=
  ⟨wellFormed.target, fun _ => wellFormed⟩

/-- The shortest form of a well-formed label can be written down. -/
theorem WellFormed.writable_simplify (wellFormed : label.WellFormed) :
    (label.simplify current origin).Writable := by
  unfold simplify
  split
  · split
    · exact ⟨wellFormed.target, nofun⟩
    · refine ⟨wellFormed.target, fun absolute => ?_⟩
      exact ⟨Or.inl rfl, wellFormed.package, wellFormed.target, fun relative => by
        rw [absolute] at relative
        cases relative⟩
  · exact wellFormed.writable

/-- What is written down reads as a label of the same kind, target and text. -/
theorem Writable.exists_reading (writable : label.Writable) : ∃ reading,
    parse label.text = .ok reading ∧ reading.relative = label.relative ∧
      reading.target = label.target ∧ reading.text = label.text := by
  cases kind : label.relative with
  | true =>
      refine ⟨_, parse_text_of_relative writable.target kind, rfl, rfl, ?_⟩
      simp [text, kind]
  | false => exact ⟨label, parse_text (writable.absolute kind), kind, rfl, rfl⟩

end BuildDeps.Label
