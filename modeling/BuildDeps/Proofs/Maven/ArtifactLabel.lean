import BuildDeps.Proofs.Label.RoundTrip
import BuildDeps.Proofs.Maven.Providers

/-!
Labels of external artifacts.

An artifact text has a `:` between its group and its artifact, so that something is left of it when
runs of other characters give way to `_`.  What is left is a target name, and with a repository that
can be written down the label of the artifact is well formed.
-/

namespace BuildDeps.Maven

variable {c : Char} {chars : List Char} {inRun : Bool}
  {repository artifact one other : String}

/-! ### Target names -/

/-- Whatever is kept of an artifact text may stand in the name of a target. -/
theorem isTargetChar_of_isWordChar (word : isWordChar c = true) : Label.isTargetChar c = true := by
  rw [isWordChar, Bool.or_eq_true, decide_eq_true_iff] at word
  rw [Label.isTargetChar, Bool.or_eq_true]
  apply word.imp_right
  rintro rfl
  decide

/-- Only characters that are kept are written, and the underscore is one of them. -/
theorem isWordChar_of_mem_sanitizeChars (member : c ∈ sanitizeChars inRun chars) :
    isWordChar c = true := by
  induction chars generalizing inRun with
  | nil => cases member
  | cons first rest ih =>
      unfold sanitizeChars at member
      split at member
      · rename_i word
        rcases List.mem_cons.1 member with rfl | later
        · exact word
        · exact ih later
      · split at member
        · exact ih member
        · rcases List.mem_cons.1 member with rfl | later
          · decide
          · exact ih later

/-- The first character of a text leaves a mark, whether it is kept or not. -/
theorem sanitizeChars_ne_nil (named : chars ≠ []) : sanitizeChars false chars ≠ [] := by
  obtain ⟨first, rest, rfl⟩ := List.exists_cons_of_ne_nil named
  unfold sanitizeChars
  split <;> simp

/-- What is left of a text that is not empty is a target name. -/
theorem isTarget_sanitize (named : artifact.toList ≠ []) :
    Label.isTarget (sanitize artifact).toList = true := by
  rw [sanitize, String.toList_ofList, Label.isTarget, Bool.and_eq_true, List.all_eq_true]
  constructor
  · simpa using sanitizeChars_ne_nil named
  · intro c member
    exact isTargetChar_of_isWordChar (isWordChar_of_mem_sanitizeChars member)

theorem artifactText_ne_nil (coordinate : Coordinate) : coordinate.artifactText.toList ≠ [] := by
  rw [Coordinate.artifactText, Text.joinFields, String.toList_ofList]
  simp [List.intercalate]

/-- The label of an artifact is well formed in any repository that can be written down. -/
theorem wellFormed_artifactLabel
    (named : repository = "" ∨ Label.isRepository repository.toList = true)
    (coordinate : Coordinate) : (artifactLabel repository coordinate.artifactText).WellFormed where
  repository := named
  package := rfl
  target := isTarget_sanitize (artifactText_ne_nil coordinate)
  relative := nofun

/-! ### Texts -/

/-- Behind the repository, labels of artifacts are written alike only for one target name. -/
theorem sanitize_eq_of_pathText_eq
    (same : (artifactLabel repository one).pathText = (artifactLabel repository other).pathText) :
    sanitize one = sanitize other :=
  String.toList_inj.1 (List.cons.inj same).2

/-- In one repository, labels of artifacts are told apart by their texts. -/
theorem text_artifactLabel_eq_iff :
    (artifactLabel repository one).text = (artifactLabel repository other).text ↔
      artifactLabel repository one = artifactLabel repository other := by
  refine ⟨fun same => ?_, congrArg Label.text⟩
  suffices targets : sanitize one = sanitize other by rw [artifactLabel, artifactLabel, targets]
  have chars := congrArg String.toList same
  by_cases here : repository = ""
  · rw [Label.toList_text_of_local here rfl, Label.toList_text_of_local here rfl] at chars
    exact sanitize_eq_of_pathText_eq (List.cons.inj (List.cons.inj chars).2).2
  · rw [Label.toList_text_of_external here rfl, Label.toList_text_of_external here rfl] at chars
    have rest := List.append_cancel_left (List.cons.inj chars).2
    split at rest <;> split at rest
    · rename_i oneNamed otherNamed
      exact oneNamed.2.trans otherNamed.2.symm
    · cases rest
    · cases rest
    · exact sanitize_eq_of_pathText_eq (List.cons.inj (List.cons.inj rest).2).2

/-! ### The artifacts of an install file -/

namespace ArtifactIndex

/-- All artifacts of an index are those of coordinates. -/
def OfCoordinates (index : ArtifactIndex) : Prop :=
  ∀ package, ∀ artifact ∈ (index.get? package).getD [],
    ∃ coordinate : Coordinate, artifact = coordinate.artifactText

/-- An install file lists coordinates. -/
theorem ofCoordinates_ofInstallFile (file : InstallFile) : (ofInstallFile file).OfCoordinates := by
  intro package artifact member
  obtain ⟨_, taken, _, _, named⟩ := mem_artifactsOf_ofInstallFile.1 member
  exact ⟨taken, named.symm⟩

end ArtifactIndex

end BuildDeps.Maven
