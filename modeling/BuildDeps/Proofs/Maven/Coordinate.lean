import BuildDeps.Maven.Coordinate
import BuildDeps.Text.Fields

/-!
The fields of coordinates.

No field has a separator in it, so that fields which are joined can be told apart again.  A
coordinate is therefore known by its fields: `group:artifact` is no coordinate of a version, and the
text of an artifact is `group:artifact` exactly where the artifact has no classifier.
-/

namespace BuildDeps.Maven.Coordinate

variable {input : String} {coordinate other : Coordinate}

/-! ### What is read as a coordinate -/

/-- `group:artifact` has no version. -/
theorem parse_of_fields_eq_pair {group artifact : String}
    (fields : Text.fields ':' input = [group, artifact]) : parse input = .error ⟨input⟩ := by
  rw [parse, fields]

/-- A text that is read begins with a group and an artifact. -/
theorem exists_fields_of_parse (read : parse input = .ok coordinate) :
    ∃ more, Text.fields ':' input = coordinate.group :: coordinate.artifact :: more := by
  unfold parse at read
  split at read
  · rename_i fields
    cases read
    exact ⟨_, fields⟩
  · rename_i fields
    cases read
    exact ⟨_, fields⟩
  · rename_i fields
    cases read
    exact ⟨_, fields⟩
  · cases read

/-- Of a coordinate that was read, `group:artifact` has these two fields. -/
theorem fields_unversioned (read : parse input = .ok coordinate) :
    Text.fields ':' coordinate.unversioned = [coordinate.group, coordinate.artifact] := by
  obtain ⟨more, fields⟩ := exists_fields_of_parse read
  apply Text.fields_joinFields (List.cons_ne_nil _ _)
  intro part member
  have field : part ∈ Text.fields ':' input := by
    simp only [fields, List.mem_cons, List.not_mem_nil, or_false] at member ⊢
    exact member.imp_right Or.inl
  exact Text.not_mem_of_mem_fields field

/-! ### What coordinates of one artifact have in common -/

/-- What names an artifact whatever its version and packaging. -/
def identity (coordinate : Coordinate) : String × String × Option String :=
  (coordinate.group, coordinate.artifact, coordinate.classifier)

/-- The artifact text leaves out the version and the packaging. -/
theorem artifactText_eq_of_identity_eq (same : coordinate.identity = other.identity) :
    coordinate.artifactText = other.artifactText := by
  simp only [identity, Prod.mk.injEq] at same
  obtain ⟨group, artifact, classifier⟩ := same
  rw [artifactText, artifactText, group, artifact, classifier]

/-- The classifier is what an artifact text has more than group and artifact. -/
theorem artifactText_eq_unversioned_iff :
    coordinate.artifactText = coordinate.unversioned ↔ coordinate.classifier = none := by
  constructor
  · intro same
    cases found : coordinate.classifier with
    | none => rfl
    | some classifier =>
        rw [artifactText, unversioned, found, Text.joinFields, Text.joinFields] at same
        have lengths := congrArg List.length (String.ofList_injective same)
        simp [List.intercalate] at lengths
  · intro plain
    rw [artifactText, unversioned, plain]
    rfl

/-- A coordinate of an artifact without classifier has the text `group:artifact`. -/
theorem artifactText_of_identity_eq
    (plain : coordinate.identity = (other.group, other.artifact, none)) :
    coordinate.artifactText = other.unversioned := by
  simp only [identity, Prod.mk.injEq] at plain
  obtain ⟨group, artifact, classifier⟩ := plain
  rw [artifactText_eq_unversioned_iff.2 classifier, unversioned, unversioned, group, artifact]

end BuildDeps.Maven.Coordinate
