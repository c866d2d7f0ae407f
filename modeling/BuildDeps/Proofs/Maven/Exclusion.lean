import BuildDeps.Proofs.Maven.ArtifactLabel

/-!
Excluding artifacts.

An exclusion takes candidates away and never brings one in.  It names a label, while the candidates
are artifacts, and artifacts may share a label: `a.b:c` and `a:b.c` both become `a_b_c`.  Excluding
all other labels therefore leaves as many candidates as there are artifacts of the label that stays,
and settles the package exactly if there is one.
-/

namespace BuildDeps.Maven

namespace ArtifactIndex

variable {index : ArtifactIndex} {file : InstallFile} {package : JvmPackage} {label : Label}
  {listed : List Label} {excluded larger : List String} {repository : String}

/-! ### Answers and candidates -/

/-- A package is unprovided if it has no candidates. -/
theorem resolve_eq_unprovided_iff :
    index.resolve package excluded repository = .error (.unprovided package) ↔
      index.candidates package excluded repository = [] := by
  unfold resolve
  rcases index.candidates package excluded repository with _ | ⟨first, _ | ⟨second, rest⟩⟩ <;> simp

/-- A package is settled on its candidate if it has one, counted with repeats. -/
theorem resolve_eq_ok_iff : index.resolve package excluded repository = .ok label ↔
    index.candidates package excluded repository = [label] := by
  unfold resolve
  rcases index.candidates package excluded repository with _ | ⟨first, _ | ⟨second, rest⟩⟩ <;> simp

/-- A package of several candidates is reported with all of them. -/
theorem resolve_eq_ambiguous_iff :
    index.resolve package excluded repository = .error (.ambiguous package listed) ↔
      index.candidates package excluded repository = listed ∧ 2 ≤ listed.length := by
  unfold resolve
  rcases index.candidates package excluded repository with _ | ⟨first, _ | ⟨second, rest⟩⟩
  · simp only [reduceCtorEq, Except.error.injEq, false_iff]
    rintro ⟨rfl, long⟩
    simp at long
  · simp only [reduceCtorEq, false_iff]
    rintro ⟨rfl, long⟩
    simp at long
  · simp only [Except.error.injEq, Unresolved.ambiguous.injEq, true_and]
    refine (and_iff_left_of_imp ?_).symm
    rintro rfl
    simp

/-- The candidates are the labels of the artifacts of the package, less those that are excluded. -/
theorem mem_candidates_iff : label ∈ index.candidates package excluded repository ↔
    (∃ artifact ∈ index.artifactsOf package, artifactLabel repository artifact = label) ∧
      label.text ∉ excluded := by
  simp [candidates, artifactsOf]

/-- Further exclusions take away what they name. -/
theorem candidates_of_includes (includes : ∀ text ∈ excluded, text ∈ larger) :
    index.candidates package larger repository =
      (index.candidates package excluded repository).filter (!larger.contains ·.text) := by
  rw [candidates, candidates, List.filter_filter]
  apply List.filter_congr
  intro label _
  by_cases named : label.text ∈ excluded
  · simp [named, includes _ named]
  · simp [named]

/-- Further exclusions leave a package without an artifact as it is, and of a package with one they
leave that one or none. -/
theorem resolve_of_includes (includes : ∀ text ∈ excluded, text ∈ larger) :
    (index.resolve package excluded repository = .error (.unprovided package) →
      index.resolve package larger repository = .error (.unprovided package)) ∧
    ∀ label, index.resolve package excluded repository = .ok label →
      index.resolve package larger repository = .ok label ∨
        index.resolve package larger repository = .error (.unprovided package) := by
  simp only [resolve_eq_unprovided_iff, resolve_eq_ok_iff, candidates_of_includes includes]
  constructor
  · intro none
    rw [none, List.filter_nil]
  · intro label only
    rw [only, List.filter_singleton]
    cases larger.contains label.text with
    | false => exact Or.inl rfl
    | true => exact Or.inr rfl

/-- A label that is excluded is not answered with. -/
theorem resolve_of_mem_excluded (member : label.text ∈ excluded) :
    index.resolve package excluded repository ≠ .ok label ∧
    ∀ listed, index.resolve package excluded repository = .error (.ambiguous package listed) →
      label ∉ listed := by
  have absent : label ∉ index.candidates package excluded repository :=
    fun candidate => (mem_candidates_iff.1 candidate).2 member
  constructor
  · intro resolved
    rw [resolve_eq_ok_iff.1 resolved] at absent
    exact absent List.mem_cons_self
  · intro listed ambiguous
    rwa [(resolve_eq_ambiguous_iff.1 ambiguous).1] at absent

/-! ### Settling an ambiguity -/

/-- Without the texts of all other candidates, a label is left as often as it was listed. -/
theorem candidates_of_others_excluded (member : label ∈ index.candidates package excluded repository)
    (others : ∀ text, text ∈ larger ↔ text ∈ excluded ∨
      ∃ other ∈ index.candidates package excluded repository, other ≠ label ∧ other.text = text) :
    index.candidates package larger repository =
      List.replicate ((index.candidates package excluded repository).count label) label := by
  rw [candidates_of_includes fun text known => (others text).2 (Or.inl known), ← List.filter_beq]
  apply List.filter_congr
  intro candidate listed
  obtain ⟨⟨artifact, _, rfl⟩, free⟩ := mem_candidates_iff.1 listed
  rw [Bool.eq_iff_iff, Bool.not_eq_true', List.contains_eq_mem, decide_eq_false_iff_not, beq_iff_eq,
    others, not_or, and_iff_right free]
  constructor
  · intro unnamed
    by_contra different
    exact unnamed ⟨_, listed, different, rfl⟩
  · rintro rfl ⟨other, otherListed, different, same⟩
    obtain ⟨⟨_, _, rfl⟩, _⟩ := mem_candidates_iff.1 otherListed
    exact different (text_artifactLabel_eq_iff.1 same)

/-- One label that is left settles the package if it is left once. -/
theorem resolve_of_candidates_eq_replicate {times : Nat} (some : 0 < times)
    (left : index.candidates package excluded repository = List.replicate times label) :
    index.resolve package excluded repository = if times = 1 then .ok label
      else .error (.ambiguous package (List.replicate times label)) := by
  by_cases single : times = 1
  · rw [if_pos single, resolve_eq_ok_iff, left, single, List.replicate_one]
  · rw [if_neg single, resolve_eq_ambiguous_iff, List.length_replicate]
    exact ⟨left, by omega⟩

/-- An ambiguous package lists the label of every artifact that provides it and is not excluded, so that
no label is listed twice exactly if no two of these artifacts have one target name.  Excluding all
other labels settles the package on the label that stays if that is listed once, and else leaves the
package ambiguous between the artifacts of that one label. -/
theorem excluding_others_settles_unless_label_is_shared (file : InstallFile)
    (ambiguous : (ofInstallFile file).resolve package excluded repository =
      .error (.ambiguous package listed)) :
    (listed.Nodup ↔ ∀ one other, file.Provides package one → file.Provides package other →
      (artifactLabel repository one).text ∉ excluded → sanitize one = sanitize other → one = other) ∧
    ∀ label ∈ listed, ∀ larger : List String,
      (∀ text, text ∈ larger ↔ text ∈ excluded ∨
        ∃ other ∈ listed, other ≠ label ∧ other.text = text) →
      (ofInstallFile file).resolve package larger repository =
        if listed.count label = 1 then .ok label
        else .error (.ambiguous package (List.replicate (listed.count label) label)) := by
  obtain ⟨rfl, _⟩ := resolve_eq_ambiguous_iff.1 ambiguous
  constructor
  · have distinct : ((ofInstallFile file).admitted package excluded repository).Nodup :=
      (tidy_ofInstallFile file).ascending_admitted.nodup
    have labels : ∀ one other, artifactLabel repository one = artifactLabel repository other ↔
        sanitize one = sanitize other := by
      simp [artifactLabel]
    simp only [candidates_eq, List.nodup_map_iff_inj_on distinct, mem_admitted,
      mem_artifactsOf_ofInstallFile, labels]
    constructor
    · intro apart one other oneProvides otherProvides free same
      refine apart one ⟨oneProvides, free⟩ other ⟨otherProvides, ?_⟩ same
      rwa [← (labels one other).2 same]
    · intro apart one oneAdmitted other otherAdmitted same
      exact apart one other oneAdmitted.1 otherAdmitted.1 oneAdmitted.2 same
  · intro label member larger others
    apply resolve_of_candidates_eq_replicate (List.count_pos_iff.2 member)
    exact candidates_of_others_excluded member others

end ArtifactIndex

end BuildDeps.Maven

/-! ### Artifacts that share a label -/

namespace BuildDeps.Maven.SharedLabel

def package : JvmPackage := ⟨"split"⟩

/-- Of the three artifacts that provide a package, the first two have one target name. -/
def file : InstallFile where
  version := InstallFile.embeddedVersion
  dependencies := [{ coordinate := "a.b:c:1.0", packages := ["split"] },
    { coordinate := "a:b.c:1.0", packages := ["split"] },
    { coordinate := "d:e:1.0", packages := ["split"] }]

def shared : Label := ⟨"maven", "", "a_b_c", false⟩

def third : Label := ⟨"maven", "", "d_e", false⟩

theorem ambiguous : (ArtifactIndex.ofInstallFile file).resolve package [] "maven" =
    .error (.ambiguous package [shared, shared, third]) := by
  decide +kernel

theorem without_shared (text : String) : text ∈ [shared.text] ↔ text ∈ ([] : List String) ∨
    ∃ other ∈ [shared, shared, third], other ≠ third ∧ other.text = text := by
  have apart : shared ≠ third := by decide
  simp [apart, eq_comm]

theorem without_third (text : String) : text ∈ [third.text] ↔ text ∈ ([] : List String) ∨
    ∃ other ∈ [shared, shared, third], other ≠ shared ∧ other.text = text := by
  have apart : third ≠ shared := by decide
  simp [apart, eq_comm]

/-- Excluding the label of the first two settles the package on the third; excluding that leaves the
first two, which no exclusion tells apart. -/
theorem third_is_settled_and_shared_is_not :
    (ArtifactIndex.ofInstallFile file).resolve package [] "maven" =
      .error (.ambiguous package [shared, shared, third]) ∧
    (ArtifactIndex.ofInstallFile file).resolve package [shared.text] "maven" = .ok third ∧
    (ArtifactIndex.ofInstallFile file).resolve package [third.text] "maven" =
      .error (.ambiguous package [shared, shared]) := by
  have settle :=
    (ArtifactIndex.excluding_others_settles_unless_label_is_shared file ambiguous).2
  exact ⟨ambiguous, settle third (by decide) [shared.text] without_shared,
    settle shared (by decide) [third.text] without_third⟩

/-- Neither is every list of candidates without repeats, nor does excluding all other candidates
always settle a package. -/
theorem not_always_settled_by_exclusion :
    (¬ ∀ (file : InstallFile) (package : JvmPackage) (excluded : List String) (repository : String)
      (listed : List Label), (ArtifactIndex.ofInstallFile file).resolve package excluded repository =
        .error (.ambiguous package listed) → listed.Nodup) ∧
    ¬ ∀ (file : InstallFile) (package : JvmPackage) (excluded : List String) (repository : String)
      (listed : List Label), (ArtifactIndex.ofInstallFile file).resolve package excluded repository =
        .error (.ambiguous package listed) → ∀ label ∈ listed, ∀ larger : List String,
          (∀ text, text ∈ larger ↔ text ∈ excluded ∨
            ∃ other ∈ listed, other ≠ label ∧ other.text = text) →
          (ArtifactIndex.ofInstallFile file).resolve package larger repository = .ok label := by
  constructor
  · intro distinct
    exact absurd (distinct file package [] "maven" _ ambiguous) (by decide)
  · intro settled
    have answer := settled file package [] "maven" _ ambiguous shared (by decide) _ without_third
    have left : (ArtifactIndex.ofInstallFile file).resolve package [third.text] "maven" =
        .error (.ambiguous package [shared, shared]) := by
      decide +kernel
    rw [left] at answer
    cases answer

end BuildDeps.Maven.SharedLabel
