import BuildDeps.Proofs.Maven.Coordinate

/-!
The texts of coordinates, read again.

Reading tells fields by their places, where a field may be left empty, and printing leaves out the
fields that are absent.  So the fields of a coordinate are found where they were, with one exception: a
classifier that was written after an empty packaging moves up into the place of the packaging, and what
is read then is another artifact.
-/

namespace BuildDeps.Maven.Coordinate

variable {input field value : String} {coordinate : Coordinate}

/-! ### What coordinates are read -/

/-- A field counts if it is not empty. -/
theorem optional_eq_some_iff : optional field = some value ↔ field = value ∧ value ≠ "" := by
  unfold optional
  split
  · rename_i empty
    subst empty
    simp [eq_comm]
  · rename_i filled
    rw [Option.some.injEq]
    constructor
    · intro same
      exact ⟨same, same ▸ filled⟩
    · exact And.left

theorem optional_eq_none_iff : optional field = none ↔ field = "" := by
  simp [optional]

/-- No field has a separator in it, and a field that may be absent is not empty where it is there. -/
structure WellFormed (coordinate : Coordinate) : Prop where
  group : ':' ∉ coordinate.group.toList
  artifact : ':' ∉ coordinate.artifact.toList
  packaging : ∀ packaging ∈ coordinate.packaging, packaging ≠ "" ∧ ':' ∉ packaging.toList
  classifier : ∀ classifier ∈ coordinate.classifier, classifier ≠ "" ∧ ':' ∉ classifier.toList
  version : ':' ∉ coordinate.version.toList

/-- No part of a coordinate that was read has a colon in it, and none but the group, the artifact and
the version can be empty. -/
theorem wellFormed_of_parse (read : parse input = .ok coordinate) : coordinate.WellFormed := by
  have free : ∀ part ∈ Text.fields ':' input, ':' ∉ part.toList :=
    fun part member => Text.not_mem_of_mem_fields member
  have filled : ∀ part ∈ Text.fields ':' input, ∀ value ∈ optional part,
      value ≠ "" ∧ ':' ∉ value.toList := by
    intro part member value present
    obtain ⟨rfl, some⟩ := optional_eq_some_iff.1 present
    exact ⟨some, free part member⟩
  unfold parse at read
  split at read
  · rename_i fields
    cases read
    simp only [fields, List.forall_mem_cons] at free
    exact ⟨free.1, free.2.1, nofun, nofun, free.2.2.1⟩
  · rename_i fields
    cases read
    simp only [fields, List.forall_mem_cons] at free filled
    exact ⟨free.1, free.2.1, filled.2.2.1, nofun, free.2.2.2.1⟩
  · rename_i version more fields
    cases read
    have last : more.getLastD version ∈ version :: more := by
      rw [← List.getLast_eq_getLastD (List.cons_ne_nil version more)]
      exact List.getLast_mem _
    simp only [fields, List.forall_mem_cons] at free filled
    have freeLast : ∀ part ∈ version :: more, ':' ∉ part.toList :=
      List.forall_mem_cons.2 free.2.2.2.2
    exact ⟨free.1, free.2.1, filled.2.2.1, filled.2.2.2.1, freeLast _ last⟩
  · cases read

/-! ### What is read from the text of a coordinate -/

/-- The coordinate has a classifier, and no packaging before it. -/
def HasGap (coordinate : Coordinate) : Prop :=
  coordinate.packaging = none ∧ coordinate.classifier ≠ none

/-- The coordinate with its classifier in the place of a packaging that is absent. -/
def withoutGap (coordinate : Coordinate) : Coordinate :=
  match coordinate.packaging with
  | some _ => coordinate
  | none => { coordinate with packaging := coordinate.classifier, classifier := none }

/-- Closing the gap moves the classifier up to the packaging. -/
theorem HasGap.withoutGap_eq (gap : coordinate.HasGap) : coordinate.withoutGap =
    { coordinate with packaging := coordinate.classifier, classifier := none } := by
  rw [withoutGap, gap.1]

/-- Where there is no gap, nothing moves. -/
theorem withoutGap_eq_self_iff : coordinate.withoutGap = coordinate ↔ ¬ coordinate.HasGap := by
  obtain ⟨group, artifact, packaging, classifier, version⟩ := coordinate
  cases packaging <;> cases classifier <;> simp [withoutGap, HasGap]

/-- The fields of the text are the parts that are there, in their order. -/
theorem WellFormed.fields_text (wellFormed : coordinate.WellFormed) :
    Text.fields ':' coordinate.text = [coordinate.group, coordinate.artifact] ++
      coordinate.packaging.toList ++ coordinate.classifier.toList ++ [coordinate.version] := by
  apply Text.fields_joinFields
  · simp
  · intro part member
    simp only [List.mem_append, List.mem_cons, List.not_mem_nil, or_false, Option.mem_toList,
      or_assoc] at member
    rcases member with rfl | rfl | packaging | classifier | rfl
    · exact wellFormed.group
    · exact wellFormed.artifact
    · exact (wellFormed.packaging part packaging).2
    · exact (wellFormed.classifier part classifier).2
    · exact wellFormed.version

/-- The fields of a text close up. -/
theorem WellFormed.parse_text (wellFormed : coordinate.WellFormed) :
    parse coordinate.text = .ok coordinate.withoutGap := by
  have fields := wellFormed.fields_text
  obtain ⟨group, artifact, packaging, classifier, version⟩ := coordinate
  -- No field that is printed is empty, so each is read as it is, in the place that it has now.
  have read : ∀ {field : String}, field ≠ "" → optional field = some field :=
    fun filled => optional_eq_some_iff.2 ⟨rfl, filled⟩
  rw [parse, fields]
  cases packaging with
  | none =>
      cases classifier with
      | none => rfl
      | some classifier =>
          simp only [Option.toList, List.cons_append, List.nil_append, withoutGap,
            read (wellFormed.classifier classifier rfl).1]
  | some packaging =>
      cases classifier with
      | none =>
          simp only [Option.toList, List.cons_append, List.nil_append, List.append_nil, withoutGap,
            read (wellFormed.packaging packaging rfl).1]
      | some classifier =>
          simp only [Option.toList, List.cons_append, List.nil_append, withoutGap,
            read (wellFormed.packaging packaging rfl).1,
            read (wellFormed.classifier classifier rfl).1, List.getLastD_nil]

/-- A gap is a field for the packaging that was left empty before a classifier that was not. -/
theorem hasGap_iff_of_parse (read : parse input = .ok coordinate) :
    coordinate.HasGap ↔ ∃ group artifact classifier version more,
      Text.fields ':' input = group :: artifact :: "" :: classifier :: version :: more ∧
        classifier ≠ "" := by
  unfold parse at read
  split at read
  · rename_i fields
    cases read
    simp [HasGap, fields]
  · rename_i fields
    cases read
    simp [HasGap, fields]
  · rename_i group artifact packaging classifier version more fields
    cases read
    simp only [HasGap, optional_eq_none_iff, fields, ne_eq]
    constructor
    · intro gap
      obtain ⟨empty, filled⟩ := gap
      subst empty
      exact ⟨group, artifact, classifier, version, more, rfl, filled⟩
    · intro gap
      obtain ⟨_, _, _, _, _, same, filled⟩ := gap
      cases same
      exact ⟨rfl, filled⟩
  · cases read

/-- A coordinate that was read is read again from its own text, unless a classifier was written after a
packaging that was left empty.  Then its text is read too, with the classifier for the packaging, and
the artifact is no longer the same. -/
theorem read_again_unless_packaging_is_left_empty (read : parse input = .ok coordinate) :
    (parse coordinate.text = .ok coordinate ↔ ¬ coordinate.HasGap) ∧
    (coordinate.HasGap ↔ ∃ group artifact classifier version more,
      Text.fields ':' input = group :: artifact :: "" :: classifier :: version :: more ∧
        classifier ≠ "") ∧
    (coordinate.HasGap → ∃ other, parse coordinate.text = .ok other ∧
      other = { coordinate with packaging := coordinate.classifier, classifier := none } ∧
      other.artifactText = coordinate.unversioned ∧
      coordinate.artifactText ≠ coordinate.unversioned) := by
  have again := (wellFormed_of_parse read).parse_text
  refine ⟨?_, hasGap_iff_of_parse read, ?_⟩
  · rw [again, Except.ok.injEq, withoutGap_eq_self_iff]
  · intro gap
    refine ⟨_, again, gap.withoutGap_eq, ?_, ?_⟩
    · rw [gap.withoutGap_eq]
      exact artifactText_of_identity_eq rfl
    · exact fun same => gap.2 (artifactText_eq_unversioned_iff.1 same)

end BuildDeps.Maven.Coordinate

/-! ### A classifier after an empty packaging -/

namespace BuildDeps.Maven.EmptyPackaging

/-- The classifier stands in the fourth field, and the third is empty. -/
def sources : Coordinate := ⟨"g", "a", none, some "sources", "1.0"⟩

theorem parse_sources : Coordinate.parse "g:a::sources:1.0" = .ok sources := rfl

theorem hasGap : sources.HasGap := ⟨rfl, nofun⟩

/-- The text of this coordinate is that of another artifact, of packaging `sources`. -/
theorem sources_become_a_packaging :
    Coordinate.parse sources.text ≠ .ok sources ∧
      ∃ other, Coordinate.parse sources.text = .ok other ∧ other.packaging = some "sources" ∧
        other.artifactText = "g:a" := by
  obtain ⟨same, _, moved⟩ :=
    Coordinate.read_again_unless_packaging_is_left_empty parse_sources
  obtain ⟨other, read, rfl, text, _⟩ := moved hasGap
  have unversioned : sources.unversioned = "g:a" := rfl
  exact ⟨fun kept => same.1 kept hasGap, _, read, rfl, text.trans unversioned⟩

/-- Not every coordinate is read again from its text. -/
theorem not_always_read_again :
    ¬ ∀ (input : String) (coordinate : Coordinate), Coordinate.parse input = .ok coordinate →
      Coordinate.parse coordinate.text = .ok coordinate := by
  intro kept
  have again := kept "g:a::sources:1.0" sources parse_sources
  have other : Coordinate.parse sources.text = .ok ⟨"g", "a", some "sources", none, "1.0"⟩ := by
    rfl
  rw [other] at again
  cases again

end BuildDeps.Maven.EmptyPackaging
