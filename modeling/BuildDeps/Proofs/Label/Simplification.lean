import BuildDeps.Proofs.Label.Reading
import BuildDeps.Resolution.Deps

/-!
The targets that shortened labels name.

A label names a target of a package: a relative label is filled up with the package, and the name of
the current repository makes no difference.  Shortening a label for a rule leaves out what the rule's
own package and repository say, and nothing else, so the shortened text names the same target there,
and labels that are shortened to one text name one target.
-/

namespace BuildDeps.Label

variable {label one other origin : Label} {current package text : String}

/-- The target that a label names where it is written in a package of the current repository. -/
def targetIn (label : Label) (current package : String) : Label :=
  (label.absolute "" package).unqualified current

/-- A text reads as a label that names the target where it is written in a package. -/
def Names (current package text : String) (target : Label) : Prop :=
  ∃ reading, parse text = .ok reading ∧ reading.targetIn current package = target

/-! ### Parts of shortened labels -/

@[simp] theorem target_simplify : (label.simplify current origin).target = label.target := by
  unfold simplify
  split
  · split <;> rfl
  · rfl

/-- A relative label stays relative. -/
theorem relative_simplify (relative : label.relative = true) :
    (label.simplify current origin).relative = true := by
  unfold simplify
  split
  · split
    · rfl
    · exact relative
  · exact relative

/-- Of a relative label, the text shows the target alone. -/
theorem text_of_relative (relative : label.relative = true) : label.text = ":" ++ label.target := by
  simp [Label.text, relative]

/-- An absolute label needs no filling up. -/
theorem absolute_of_absolute (absolute : label.relative = false) :
    label.absolute "" package = label := by
  simp [Label.absolute, absolute]

/-- An absolute label names one target in all packages. -/
theorem targetIn_of_absolute (absolute : label.relative = false) :
    label.targetIn current package = label.unqualified current := by
  rw [targetIn, absolute_of_absolute absolute]

/-- A relative label names a target of the package that it is written in. -/
theorem targetIn_of_relative (relative : label.relative = true) :
    label.targetIn current package = ⟨"", package, label.target, false⟩ := by
  rw [targetIn, Label.absolute, if_pos relative]
  exact unqualified_of_local rfl

/-- Of a label of the current repository the repository is left out. -/
theorem unqualified_of_home (home : label.repository = "" ∨ label.repository = current) :
    label.unqualified current = { label with repository := "" } := by
  rcases home with here | named
  · rw [unqualified_of_local here]
    cases label
    cases here
    rfl
  · rw [unqualified, if_pos named]

/-- A repository that was left out is not there to be left out again. -/
theorem unqualified_unqualified :
    (label.unqualified current).unqualified current = label.unqualified current := by
  by_cases named : label.repository = current
  · rw [unqualified_of_home (Or.inr named)]
    exact unqualified_of_local rfl
  · have unchanged : label.unqualified current = label := if_neg named
    rw [unchanged, unchanged]

/-- Shortening a label once more changes nothing. -/
theorem simplify_simplify :
    (label.simplify current origin).simplify current origin = label.simplify current origin := by
  by_cases home : label.repository = current ∨ label.repository = ""
  · by_cases near : label.package = origin.package
    · simp [simplify, home, near]
    · simp [simplify, home, near]
  · simp [simplify, home]

/-! ### Texts and targets -/

/-- Filling up a label for a package and shortening it there leads back to the short text. -/
theorem text_simplify_absolute :
    ((label.absolute "" origin.package).simplify current origin).text =
      (label.simplify current origin).text := by
  cases kind : label.relative with
  | false => rw [absolute_of_absolute kind]
  | true =>
      have near : ((label.absolute "" origin.package).simplify current origin).relative = true := by
        simp [simplify, Label.absolute, kind]
      rw [text_of_relative near, text_of_relative (relative_simplify kind)]
      simp [Label.absolute, kind]

/-- Whether the current repository is named or left out makes no difference to the short text. -/
theorem text_simplify_unqualified :
    ((label.unqualified current).simplify current origin).text =
      (label.simplify current origin).text := by
  by_cases named : label.repository = current
  · rw [unqualified_of_home (Or.inr named)]
    by_cases near : label.package = origin.package
    · simp [simplify, named, near, Label.text]
    · simp [simplify, named, near]
  · rw [unqualified, if_neg named]

/-- The text of a shortened label is a matter of its target alone. -/
theorem text_simplify_eq_of_targetIn_eq
    (same : one.targetIn current origin.package = other.targetIn current origin.package) :
    (one.simplify current origin).text = (other.simplify current origin).text := by
  have ofTarget : ∀ label : Label,
      ((label.targetIn current origin.package).simplify current origin).text =
        (label.simplify current origin).text := by
    intro label
    rw [targetIn, text_simplify_unqualified, text_simplify_absolute]
  rw [← ofTarget one, ← ofTarget other, same]

/-- The shortened text of a label that can be written down names the target of the label. -/
theorem Writable.names_text_simplify (writable : label.Writable) (current : String)
    (origin : Label) :
    Names current origin.package (label.simplify current origin).text
      (label.targetIn current origin.package) := by
  cases kind : label.relative with
  | true =>
      have target : isTarget (label.simplify current origin).target.toList = true := by
        rw [target_simplify]
        exact writable.target
      refine ⟨_, parse_text_of_relative target (relative_simplify kind), ?_⟩
      rw [targetIn_of_relative rfl, targetIn_of_relative kind, target_simplify]
  | false =>
      have reads : readIn origin.package (label.simplify current origin).text =
          .ok (label.unqualified current) := readIn_simplify (writable.absolute kind) kind
      unfold readIn at reads
      cases found : parse (label.simplify current origin).text with
      | error fault =>
          rw [found] at reads
          cases reads
      | ok reading =>
          rw [found] at reads
          have filled : reading.absolute "" origin.package = label.unqualified current :=
            Except.ok.inj reads
          refine ⟨reading, found, ?_⟩
          rw [targetIn, filled, unqualified_unqualified, targetIn_of_absolute kind]

/-- A text names one target. -/
theorem Names.eq {target others : Label} (names : Names current package text target)
    (namesOther : Names current package text others) : target = others := by
  obtain ⟨reading, found, rfl⟩ := names
  obtain ⟨again, foundAgain, rfl⟩ := namesOther
  rw [found, Except.ok.injEq] at foundAgain
  rw [foundAgain]

/-- Labels that can be written down are shortened to one text if and only if they name one target. -/
theorem Writable.text_simplify_eq_iff (writable : one.Writable) (otherWritable : other.Writable) :
    (one.simplify current origin).text = (other.simplify current origin).text ↔
      one.targetIn current origin.package = other.targetIn current origin.package := by
  constructor
  · intro same
    have names := writable.names_text_simplify current origin
    rw [same] at names
    exact names.eq (otherWritable.names_text_simplify current origin)
  · exact text_simplify_eq_of_targetIn_eq

/-! ### The rule itself -/

section Self

variable (absolute : origin.relative = false)
  (home : origin.repository = "" ∨ origin.repository = current)

include absolute home

/-- A rule of the current repository is known by its package and its target. -/
theorem unqualified_origin : origin.unqualified current = ⟨"", origin.package, origin.target, false⟩ := by
  rw [unqualified_of_home home]
  cases origin
  cases absolute
  rfl

/-- A shortened label is left out as the rule itself if and only if it names the rule. -/
theorem isSelf_simplify_iff (label : Label) :
    Resolution.isSelf origin (label.simplify current origin) = true ↔
    label.targetIn current origin.package = origin.unqualified current := by
  rw [unqualified_origin absolute home, Resolution.isSelf, target_simplify, Bool.and_eq_true,
    decide_eq_true_iff]
  cases kind : label.relative with
  | true => simp [relative_simplify kind, targetIn_of_relative kind]
  | false =>
      rw [targetIn_of_absolute kind]
      by_cases here : label.repository = "" ∨ label.repository = current
      · rw [unqualified_of_home here, Label.mk.injEq]
        by_cases near : label.package = origin.package
        · simp [simplify, here.symm, near, kind]
        · simp [simplify, here.symm, near, kind]
      · have elsewhere := not_or.1 here
        rw [unqualified, if_neg elsewhere.2]
        have unchanged : label.simplify current origin = label := by
          rw [simplify, if_neg (fun either => here either.symm)]
        rw [unchanged, kind]
        simp only [Bool.false_eq_true, false_and, false_iff]
        intro same
        exact elsewhere.1 (congrArg Label.repository same)

/-- What is shortened for a rule keeps its target.  The text of a shortened label can be read, and
names what the label did; two labels are shortened to one text exactly if they name one target, and
what names the rule, and nothing else, is shortened to the relative label of the rule's own name.
Shortening a label once more changes nothing. -/
theorem simplify_keeps_target :
    (∀ {input label}, parse input = .ok label → label.relative = false →
      (∃ reading, parse (label.simplify current origin).text = .ok reading ∧
        (reading.absolute "" origin.package).unqualified current = label.unqualified current) ∧
      (Resolution.isSelf origin (label.simplify current origin) = true ↔
        label.unqualified current = origin.unqualified current)) ∧
    (∀ {input otherInput one other}, parse input = .ok one → parse otherInput = .ok other →
      one.relative = false → other.relative = false →
        ((one.simplify current origin).text = (other.simplify current origin).text ↔
          one.unqualified current = other.unqualified current)) ∧
    ∀ label : Label,
      (label.simplify current origin).simplify current origin = label.simplify current origin := by
  refine ⟨?_, ?_, fun label => simplify_simplify⟩
  · intro input label read kind
    have writable := (wellFormed_of_parse read).writable
    have named := writable.names_text_simplify current origin
    have self := isSelf_simplify_iff absolute home label
    rw [targetIn_of_absolute kind] at named self
    exact ⟨named, self⟩
  · intro input otherInput one other read otherRead kind otherKind
    have texts : (one.simplify current origin).text = (other.simplify current origin).text ↔
        one.targetIn current origin.package = other.targetIn current origin.package :=
      (wellFormed_of_parse read).writable.text_simplify_eq_iff
        (wellFormed_of_parse otherRead).writable
    rwa [targetIn_of_absolute kind, targetIn_of_absolute otherKind] at texts

end Self

/-- For a rule of the repository `main`, a label of the rule's package is shortened to one text with
and without the repository, and the text names it; the rule itself is left out, and its namesake in
another package is not. -/
theorem simplify_keeps_target_with_repository :
    let origin : Label := ⟨"main", "app", "app", false⟩
    let qualified : Label := ⟨"main", "app", "lib", false⟩
    let plain : Label := ⟨"", "app", "lib", false⟩
    (parse "@main//app:lib" = .ok qualified ∧ parse "//app:lib" = .ok plain ∧
      (qualified.simplify "main" origin).text = (plain.simplify "main" origin).text) ∧
    (∃ reading, parse (qualified.simplify "main" origin).text = .ok reading ∧
      (reading.absolute "" "app").unqualified "main" = qualified.unqualified "main") ∧
    (parse "//app" = .ok ⟨"", "app", "app", false⟩ ∧
      Resolution.isSelf origin (Label.simplify ⟨"", "app", "app", false⟩ "main" origin) = true) ∧
    parse "@main//other:app" = .ok ⟨"main", "other", "app", false⟩ ∧
      Resolution.isSelf origin (Label.simplify ⟨"main", "other", "app", false⟩ "main" origin) =
        false := by
  intro origin qualified plain
  have qualifiedRead : parse "@main//app:lib" = .ok qualified := rfl
  have plainRead : parse "//app:lib" = .ok plain := rfl
  have itself : parse "//app" = .ok ⟨"", "app", "app", false⟩ := rfl
  have namesake : parse "@main//other:app" = .ok ⟨"main", "other", "app", false⟩ := rfl
  obtain ⟨targets, texts, _⟩ :=
    @simplify_keeps_target origin "main" rfl (Or.inr rfl)
  refine ⟨⟨qualifiedRead, plainRead, ?_⟩, ?_, ⟨itself, ?_⟩, namesake, ?_⟩
  · exact (texts qualifiedRead plainRead rfl rfl).2 (by decide)
  · exact (targets qualifiedRead rfl).1
  · exact (targets itself rfl).2.2 (by decide)
  · rw [Bool.eq_false_iff]
    intro same
    exact absurd ((targets namesake rfl).2.1 same) (by decide)

end BuildDeps.Label
