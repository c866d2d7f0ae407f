import BuildDeps.Proofs.Label.Grammar
import BuildDeps.Proofs.Maven.ArtifactLabel
import BuildDeps.Proofs.Maven.Coordinate

/-!
Target names of artifacts.

A target name keeps the letters, digits and underscores of an artifact text and has one `_` for each
longest run of other characters.  `Sanitized` states this without a scan; the scan finds the one name that
there is.  A target name only has characters that are kept, so that it is its own target name.
-/

namespace BuildDeps.Maven

variable {c mark : Char} {chars name run rest : List Char}

/-- The characters that target names are made of: ASCII letters and digits, and the underscore. -/
def WordChar (c : Char) : Prop :=
  ('A' ≤ c ∧ c ≤ 'Z') ∨ ('a' ≤ c ∧ c ≤ 'z') ∨ ('0' ≤ c ∧ c ≤ '9') ∨ c = '_'

/-- A text and its target name.  A run of characters that are not kept is not empty, and what follows
it, if anything does, is kept. -/
inductive Sanitized : List Char → List Char → Prop where
  | nil : Sanitized [] []
  | word {c : Char} {rest name : List Char} (word : WordChar c) (later : Sanitized rest name) :
      Sanitized (c :: rest) (c :: name)
  | run {run rest name : List Char} (some : run ≠ []) (marks : ∀ c ∈ run, ¬ WordChar c)
      (longest : ∀ c ∈ rest.head?, WordChar c) (later : Sanitized rest name) :
      Sanitized (run ++ rest) ('_' :: name)

/-- The test of characters goes by the bounds of the ASCII classes. -/
theorem isWordChar_iff : isWordChar c = true ↔ WordChar c := by
  have between : ∀ low high : Char, (decide (low ≤ c) && decide (c ≤ high)) = true ↔
      low ≤ c ∧ c ≤ high := by
    intro low high
    rw [Bool.and_eq_true, decide_eq_true_iff, decide_eq_true_iff]
  have digit : c.isDigit = true ↔ '0' ≤ c ∧ c ≤ '9' := between '0' '9'
  have upper : c.isUpper = true ↔ 'A' ≤ c ∧ c ≤ 'Z' := decide_eq_true_iff
  have lower : c.isLower = true ↔ 'a' ≤ c ∧ c ≤ 'z' := between 'a' 'z'
  have word : isWordChar c = (c.isUpper || c.isLower || c.isDigit || decide (c = '_')) := rfl
  rw [word, Bool.or_eq_true, Bool.or_eq_true, Bool.or_eq_true, decide_eq_true_iff, digit, upper,
    lower, or_assoc, or_assoc, WordChar]

/-! ### Runs -/

/-- Within a run nothing is written. -/
theorem sanitizeChars_append (marks : ∀ c ∈ run, ¬ WordChar c) :
    sanitizeChars true (run ++ rest) = sanitizeChars true rest := by
  induction run with
  | nil => rfl
  | cons first more ih =>
      rw [List.forall_mem_cons, ← isWordChar_iff] at marks
      rw [List.cons_append, sanitizeChars, if_neg marks.1, if_pos rfl, ih marks.2]

/-- Before a character that is kept it makes no difference whether a run has ended. -/
theorem sanitizeChars_of_head (stop : ∀ c ∈ rest.head?, WordChar c) :
    sanitizeChars true rest = sanitizeChars false rest := by
  cases rest with
  | nil => rfl
  | cons first more =>
      have word := isWordChar_iff.2 (stop first rfl)
      rw [sanitizeChars, sanitizeChars, if_pos word, if_pos word]

/-- The scan finds every target name that the text has, so that there is only one. -/
theorem Sanitized.eq_sanitizeChars (sanitized : Sanitized chars name) :
    name = sanitizeChars false chars := by
  induction sanitized with
  | nil => rfl
  | word word later ih => rw [sanitizeChars, if_pos (isWordChar_iff.2 word), ih]
  | @run run rest name some marks longest later ih =>
      obtain ⟨first, more, rfl⟩ := List.exists_cons_of_ne_nil some
      rw [List.forall_mem_cons, ← isWordChar_iff] at marks
      rw [List.cons_append, sanitizeChars, if_neg marks.1, if_neg Bool.false_ne_true,
        sanitizeChars_append marks.2, sanitizeChars_of_head longest, ih]

/-- A run at the beginning may be longer. -/
theorem Sanitized.extend (sanitized : Sanitized (c :: rest) ('_' :: name)) (other : ¬ WordChar c)
    (alsoOther : ¬ WordChar mark) : Sanitized (mark :: c :: rest) ('_' :: name) := by
  generalize whole : c :: rest = chars at sanitized
  cases sanitized with
  | word word later =>
      cases whole
      exact absurd word other
  | @run run after _ some marks longest later =>
      rw [← List.cons_append]
      exact .run (List.cons_ne_nil _ _) (List.forall_mem_cons.2 ⟨alsoOther, marks⟩) longest later

/-- The scan finds a target name, at the start of a text and after a character that is not kept. -/
theorem sanitized_sanitizeChars (chars : List Char) :
    Sanitized chars (sanitizeChars false chars) ∧
      ∀ mark, ¬ WordChar mark → Sanitized (mark :: chars) ('_' :: sanitizeChars true chars) := by
  induction chars with
  | nil =>
      refine ⟨.nil, fun mark other => ?_⟩
      exact @Sanitized.run [mark] _ _ (List.cons_ne_nil _ _) (by simpa using other) nofun .nil
  | cons c rest ih =>
      by_cases word : isWordChar c = true
      · have kept := isWordChar_iff.1 word
        rw [sanitizeChars, sanitizeChars, if_pos word, if_pos word]
        refine ⟨.word kept ih.1, fun mark other => ?_⟩
        exact @Sanitized.run [mark] _ _ (List.cons_ne_nil _ _) (by simpa using other)
          (by simpa using kept) (.word kept ih.1)
      · have other := mt isWordChar_iff.2 word
        rw [sanitizeChars, sanitizeChars, if_neg word, if_neg word, if_neg Bool.false_ne_true,
          if_pos rfl]
        exact ⟨ih.2 c other, fun mark alsoOther => (ih.2 c other).extend other alsoOther⟩

/-- A text has the target name that is worked out for it, and no other. -/
theorem sanitized_iff {text : String} :
    Sanitized text.toList name ↔ name = (sanitize text).toList := by
  rw [sanitize, String.toList_ofList]
  constructor
  · exact Sanitized.eq_sanitizeChars
  · rintro rfl
    exact (sanitized_sanitizeChars _).1

/-! ### Names that stay as they are -/

/-- A text of characters that are kept is its own target name. -/
theorem sanitizeChars_eq_self (words : ∀ c ∈ chars, isWordChar c = true) :
    sanitizeChars false chars = chars := by
  induction chars with
  | nil => rfl
  | cons first rest ih =>
      rw [List.forall_mem_cons] at words
      rw [sanitizeChars, if_pos words.1, ih words.2]

/-- A target name is made of characters that are kept. -/
theorem isWordChar_of_mem_sanitize {text : String} (member : c ∈ (sanitize text).toList) :
    isWordChar c = true := by
  rw [sanitize, String.toList_ofList] at member
  exact isWordChar_of_mem_sanitizeChars member

theorem sanitize_sanitize (text : String) : sanitize (sanitize text) = sanitize text := by
  have words : ∀ c ∈ (sanitize text).toList, isWordChar c = true :=
    fun _ member => isWordChar_of_mem_sanitize member
  rw [sanitize, sanitizeChars_eq_self words, String.ofList_toList]

/-! ### Labels of coordinates -/

/-- The label of an artifact is read again from its text in any repository that can be written down, and
its target is the target name of the artifact: not empty, made of characters that are kept, and with one
underscore for each run of others.  Versions and packagings make no difference to it, and neither does
taking the target name of a target name. -/
theorem artifact_labels_are_readable_and_stable :
    (∀ (input repository : String) (coordinate : Coordinate),
      Coordinate.parse input = .ok coordinate →
      repository = "" ∨ Label.RepositoryName repository →
      let label := artifactLabel repository coordinate.artifactText
      Label.parse label.text = .ok label ∧ label.target ≠ "" ∧
        (∀ c ∈ label.target.toList, WordChar c) ∧
        ∀ name, Sanitized coordinate.artifactText.toList name ↔ name = label.target.toList) ∧
    (∀ (repository : String) (coordinate : Coordinate) (packaging : Option String)
        (version : String),
      artifactLabel repository
          { coordinate with packaging := packaging, version := version }.artifactText =
        artifactLabel repository coordinate.artifactText) ∧
    ∀ text : String, sanitize (sanitize text) = sanitize text := by
  refine ⟨?_, ?_, sanitize_sanitize⟩
  · intro input repository coordinate read named label
    have wellFormed : label.WellFormed :=
      wellFormed_artifactLabel (named.imp_right Label.isRepository_iff.2) coordinate
    refine ⟨Label.parse_text wellFormed, (Label.isTarget_iff.1 wellFormed.target).nonempty, ?_,
      fun name => sanitized_iff⟩
    intro c member
    exact isWordChar_iff.1 (isWordChar_of_mem_sanitize member)
  · intro repository coordinate packaging version
    exact congrArg _ (Coordinate.artifactText_eq_of_identity_eq rfl)

/-- Where the target name is the name of the repository, the label is written as the repository alone. -/
theorem sources_are_labelled_in_any_version :
    Label.parse "@g_a_sources" = .ok (artifactLabel "g_a_sources" "g:a:sources") ∧
      artifactLabel "maven" (Coordinate.artifactText ⟨"g", "a", some "jar", some "sources", "1"⟩) =
        artifactLabel "maven" (Coordinate.artifactText ⟨"g", "a", none, some "sources", "2"⟩) := by
  obtain ⟨readable, stable, _⟩ := artifact_labels_are_readable_and_stable
  have read : Coordinate.parse "g:a:jar:sources:1" =
    .ok ⟨"g", "a", some "jar", some "sources", "1"⟩ := rfl
  have named : Label.RepositoryName "g_a_sources" := Label.isRepository_iff.1 (by decide)
  have text : (artifactLabel "g_a_sources" "g:a:sources").text = "@g_a_sources" := rfl
  have artifact : Coordinate.artifactText ⟨"g", "a", some "jar", some "sources", "1"⟩ =
    "g:a:sources" := rfl
  have again := (readable _ "g_a_sources" _ read (Or.inr named)).1
  rw [artifact, text] at again
  exact ⟨again, stable "maven" ⟨"g", "a", none, some "sources", "2"⟩ (some "jar") "1"⟩

end BuildDeps.Maven
