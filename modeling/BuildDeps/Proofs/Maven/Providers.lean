import BuildDeps.Maven.ArtifactIndex
import BuildDeps.Proofs.Collections
import BuildDeps.Proofs.Maven.InstallFile

/-!
The artifact index of an install file is that file turned around.

Every dependency adds its artifact to the packages that it lists, so that after all of them a package
has just the artifacts that provide it.  They stand in ascending order whatever the order of the
file, and a package without artifacts is not known at all: the index shows no more of the file than
which artifact provides which package.
-/

namespace BuildDeps.Maven

namespace ArtifactIndex

variable {index one other : ArtifactIndex} {file : InstallFile} {dependency : Dependency}
  {package asked : JvmPackage} {artifact provider repository : String}
  {artifacts packages excluded : List String}

/-- The artifacts of a package; an unknown package has none. -/
def artifactsOf (index : ArtifactIndex) (package : JvmPackage) : List String :=
  (index.get? package).getD []

/-! ### What a dependency adds -/

/-- Adding an artifact changes the artifacts of its package alone. -/
theorem get?_add : (index.add package artifact).get? asked =
    if asked = package then some (Ordered.insert artifact (index.artifactsOf package))
    else index.get? asked :=
  Table.get?_insert ..

/-- An artifact that is added provides the package from then on, and those before it still do. -/
theorem mem_artifactsOf_add : provider ∈ (index.add package artifact).artifactsOf asked ↔
    (asked = package ∧ provider = artifact) ∨ provider ∈ index.artifactsOf asked := by
  rw [artifactsOf, get?_add]
  by_cases same : asked = package
  · simp [same]
  · simp [same, artifactsOf]

/-- An artifact provides all packages that are listed with it. -/
theorem mem_artifactsOf_addArtifact :
    provider ∈ (index.addArtifact artifact packages).artifactsOf asked ↔
      (asked.name ∈ packages ∧ provider = artifact) ∨ provider ∈ index.artifactsOf asked := by
  induction packages generalizing index with
  | nil => simp [addArtifact]
  | cons package rest ih =>
      have named : asked = ⟨package⟩ ↔ asked.name = package :=
        ⟨fun same => same ▸ rfl, fun same => same ▸ rfl⟩
      show provider ∈ ((index.add ⟨package⟩ artifact).addArtifact artifact rest).artifactsOf asked ↔ _
      rw [ih, mem_artifactsOf_add, named, List.mem_cons, or_and_right, ← or_assoc,
        or_comm (a := asked.name ∈ rest ∧ _)]

/-- A dependency adds the artifact that is taken for it, if any, to the packages that it lists. -/
theorem mem_artifactsOf_addDependency :
    provider ∈ (index.addDependency file dependency).artifactsOf asked ↔
      (asked.name ∈ dependency.packages ∧
        ∃ taken, file.Takes dependency.coordinate taken ∧ taken.artifactText = provider) ∨
      provider ∈ index.artifactsOf asked := by
  simp only [InstallFile.takes_iff]
  unfold addDependency
  cases file.resolvedCoordinate dependency with
  | error fault => simp
  | ok coordinate => simp [mem_artifactsOf_addArtifact, eq_comm]

/-- After some dependencies, a package has the artifacts of those that list it. -/
theorem mem_artifactsOf_foldl {dependencies : List Dependency} :
    provider ∈ (dependencies.foldl (addDependency file) index).artifactsOf asked ↔
      (∃ dependency ∈ dependencies, asked.name ∈ dependency.packages ∧
        ∃ taken, file.Takes dependency.coordinate taken ∧ taken.artifactText = provider) ∨
      provider ∈ index.artifactsOf asked := by
  induction dependencies generalizing index with
  | nil => simp
  | cons dependency rest ih =>
      rw [List.foldl_cons, ih, mem_artifactsOf_addDependency, List.exists_mem_cons_iff, ← or_assoc,
        or_comm (a := ∃ dependency ∈ rest, _)]

/-- The index of an install file has just the artifacts that provide a package. -/
theorem mem_artifactsOf_ofInstallFile :
    provider ∈ (ofInstallFile file).artifactsOf package ↔ file.Provides package provider := by
  have unknown : provider ∉ empty.artifactsOf package := List.not_mem_nil
  rw [ofInstallFile, mem_artifactsOf_foldl, or_iff_left unknown]
  constructor
  · intro found
    obtain ⟨dependency, member, lists, taken, takes, named⟩ := found
    exact ⟨_, taken, ⟨dependency, member, rfl, lists⟩, takes, named⟩
  · intro provides
    obtain ⟨_, taken, ⟨dependency, member, rfl, lists⟩, takes, named⟩ := provides
    exact ⟨dependency, member, lists, taken, takes, named⟩

/-! ### The form of an index -/

/-- Every known package has artifacts, in ascending order. -/
def Tidy (index : ArtifactIndex) : Prop :=
  ∀ package artifacts, index.get? package = some artifacts →
    artifacts ≠ [] ∧ Ordered.Ascending artifacts

namespace Tidy

/-- The artifacts of a package ascend, those of an unknown package being none. -/
theorem ascending (tidy : index.Tidy) (package : JvmPackage) :
    Ordered.Ascending (index.artifactsOf package) := by
  unfold artifactsOf
  cases known : index.get? package with
  | none => exact List.Pairwise.nil
  | some artifacts => exact (tidy package artifacts known).2

/-- Adding an artifact keeps the order of the others, and leaves no package empty. -/
theorem add (tidy : index.Tidy) (package : JvmPackage) (artifact : String) :
    (index.add package artifact).Tidy := by
  intro asked artifacts known
  rw [get?_add] at known
  split at known
  · cases known
    have member : artifact ∈ Ordered.insert artifact (index.artifactsOf package) :=
      Ordered.mem_insert.2 (Or.inl rfl)
    exact ⟨List.ne_nil_of_mem member, Ordered.ascending_insert artifact (tidy.ascending package)⟩
  · exact tidy asked artifacts known

/-- A dependency adds one artifact after the other, or nothing. -/
theorem addDependency (tidy : index.Tidy) (file : InstallFile) (dependency : Dependency) :
    (index.addDependency file dependency).Tidy := by
  unfold ArtifactIndex.addDependency
  split
  · exact List.foldlRecOn dependency.packages _ tidy fun _ tidy package _ => tidy.add ⟨package⟩ _
  · exact tidy

/-- A package is known with its artifacts if it has any. -/
theorem get?_eq_some_iff (tidy : index.Tidy) : index.get? package = some artifacts ↔
    artifacts ≠ [] ∧ index.artifactsOf package = artifacts := by
  unfold artifactsOf
  cases known : index.get? package with
  | none => simp [eq_comm]
  | some found =>
      have inhabited := (tidy package found known).1
      simp only [Option.some.injEq, Option.getD_some]
      constructor
      · rintro rfl
        exact ⟨inhabited, rfl⟩
      · exact And.right

/-- A package with artifacts is known with them, and any other is unknown. -/
theorem get?_eq (oneTidy : one.Tidy) (otherTidy : other.Tidy)
    (same : one.artifactsOf package = other.artifactsOf package) :
    one.get? package = other.get? package := by
  apply Option.ext
  intro artifacts
  rw [oneTidy.get?_eq_some_iff, otherTidy.get?_eq_some_iff, same]

/-- The packages that are known are those that have artifacts. -/
theorem mem_keys_iff (tidy : index.Tidy) :
    package ∈ index.artifacts.keys ↔ index.artifactsOf package ≠ [] := by
  rw [Table.mem_keys, Table.contains_iff]
  show (∃ artifacts, index.get? package = some artifacts) ↔ _
  simp [tidy.get?_eq_some_iff]

/-- The listing has every package with a name and artifacts, with its artifacts. -/
theorem mem_listing_iff (tidy : index.Tidy) : (package, artifacts) ∈ index.listing ↔
    package.name ≠ "" ∧ artifacts ≠ [] ∧ index.artifactsOf package = artifacts := by
  have named : (!package.isUnnamed) = true ↔ package.name ≠ "" := by
    simp [JvmPackage.isUnnamed]
  unfold listing
  simp only [List.mem_map, List.mem_filter, Ordered.mem_ofList, tidy.mem_keys_iff, Prod.mk.injEq]
  constructor
  · intro listed
    obtain ⟨_, ⟨inhabited, unnamed⟩, rfl, rfl⟩ := listed
    exact ⟨named.1 unnamed, inhabited, rfl⟩
  · intro listed
    obtain ⟨unnamed, inhabited, rfl⟩ := listed
    exact ⟨package, ⟨inhabited, named.2 unnamed⟩, rfl, rfl⟩

/-- What an index lists is a matter of the artifacts of each package. -/
theorem listing_eq (oneTidy : one.Tidy) (otherTidy : other.Tidy)
    (same : ∀ package, one.artifactsOf package = other.artifactsOf package) :
    one.listing = other.listing := by
  have keys : Ordered.ofList one.artifacts.keys = Ordered.ofList other.artifacts.keys := by
    apply Ordered.ofList_eq_of_mem_iff
    intro package
    rw [oneTidy.mem_keys_iff, otherTidy.mem_keys_iff, same]
  unfold listing
  rw [keys]
  apply List.map_congr_left
  intro package _
  exact congrArg (Prod.mk package) (same package)

end Tidy

/-- The packages are listed in their order, each once. -/
theorem ascending_listing (index : ArtifactIndex) :
    Ordered.Ascending (index.listing.map Prod.fst) := by
  have packages : index.listing.map Prod.fst =
      (Ordered.ofList index.artifacts.keys).filter (!·.isUnnamed) := by
    simp [listing, Function.comp_def]
  rw [packages]
  exact (Ordered.ascending_ofList _).filter _

/-- The index of an install file is put together by additions alone. -/
theorem tidy_ofInstallFile (file : InstallFile) : (ofInstallFile file).Tidy :=
  List.foldlRecOn file.dependencies (addDependency file) (motive := Tidy) nofun
    fun _ tidy dependency _ => tidy.addDependency file dependency

/-! ### Answers -/

/-- The artifacts of a package whose labels are not excluded. -/
def admitted (index : ArtifactIndex) (package : JvmPackage) (excluded : List String)
    (repository : String) : List String :=
  (index.artifactsOf package).filter fun artifact =>
    !excluded.contains (artifactLabel repository artifact).text

/-- The artifacts that are admitted provide the package, and their labels are not excluded. -/
theorem mem_admitted : artifact ∈ index.admitted package excluded repository ↔
    artifact ∈ index.artifactsOf package ∧ (artifactLabel repository artifact).text ∉ excluded := by
  simp [admitted]

/-- The candidates are the labels of the artifacts that are admitted, repeats included. -/
theorem candidates_eq : index.candidates package excluded repository =
    (index.admitted package excluded repository).map (artifactLabel repository) :=
  List.filter_map

/-- Exclusion keeps the order of the artifacts. -/
theorem Tidy.ascending_admitted (tidy : index.Tidy) :
    Ordered.Ascending (index.admitted package excluded repository) :=
  (tidy.ascending package).filter _

/-- How a package is settled, by the artifacts that are admitted. -/
theorem resolve_eq : index.resolve package excluded repository =
    match index.admitted package excluded repository with
    | [] => .error (.unprovided package)
    | [only] => .ok (artifactLabel repository only)
    | many => .error (.ambiguous package (many.map (artifactLabel repository))) := by
  rw [resolve, candidates_eq]
  rcases index.admitted package excluded repository with _ | ⟨first, _ | ⟨second, rest⟩⟩ <;> rfl

/-! ### What does not show -/

/-- What is taken for a dependency is a matter of the conflict tables, whatever other dependencies there
are. -/
theorem takes_of_dependencies {dependencies : List Dependency} {written : String}
    {taken : Coordinate} :
    InstallFile.Takes { file with dependencies } written taken ↔ file.Takes written taken :=
  (@InstallFile.takes_iff { file with dependencies } taken ⟨written, []⟩).trans
    (@InstallFile.takes_iff file taken ⟨written, []⟩).symm

/-- Which artifacts provide a package is a matter of which coordinates list it. -/
theorem artifactsOf_eq_of_records {dependencies : List Dependency}
    (same : ∀ written package, InstallFile.Records { file with dependencies } written package ↔
      file.Records written package) (package : JvmPackage) :
    (ofInstallFile { file with dependencies }).artifactsOf package =
      (ofInstallFile file).artifactsOf package := by
  apply ((tidy_ofInstallFile _).ascending package).eq_of_mem_iff
    ((tidy_ofInstallFile file).ascending package)
  intro artifact
  simp only [mem_artifactsOf_ofInstallFile, InstallFile.Provides, same, takes_of_dependencies]

/-- A dependency for which nothing is taken leaves the index as it was. -/
theorem addDependency_of_unreadable
    (unreadable : ∀ taken, ¬ file.Takes dependency.coordinate taken) :
    index.addDependency file dependency = index := by
  unfold addDependency
  split
  · rename_i taken resolved
    exact absurd (InstallFile.takes_iff.2 resolved) (unreadable taken)
  · rfl

/-- The index of an install file answers for a package with the artifacts that provide it, in ascending
order and less the excluded ones: with the label of the only one, or with none or all of them as an
error.  It lists every named package that an artifact provides, each with all its artifacts in
ascending order.  Neither shows in which order, or how often, the file has dependencies and packages;
and a dependency that cannot be read is as good as not there. -/
theorem ofInstallFile_exact (file : InstallFile) :
    (∀ package excluded repository, ∃ providers : List String, Ordered.Ascending providers ∧
      (∀ artifact, artifact ∈ providers ↔ file.Provides package artifact ∧
        (artifactLabel repository artifact).text ∉ excluded) ∧
      (ofInstallFile file).resolve package excluded repository =
        match providers with
        | [] => .error (.unprovided package)
        | [only] => .ok (artifactLabel repository only)
        | many => .error (.ambiguous package (many.map (artifactLabel repository)))) ∧
    (Ordered.Ascending ((ofInstallFile file).listing.map Prod.fst) ∧ ∀ package artifacts,
      (package, artifacts) ∈ (ofInstallFile file).listing ↔
        package.name ≠ "" ∧ artifacts ≠ [] ∧ Ordered.Ascending artifacts ∧
        ∀ artifact, artifact ∈ artifacts ↔ file.Provides package artifact) ∧
    (∀ dependencies, (∀ written package,
        InstallFile.Records { file with dependencies } written package ↔
          file.Records written package) →
      let other := ofInstallFile { file with dependencies }
      other.listing = (ofInstallFile file).listing ∧ ∀ package excluded repository,
        other.resolve package excluded repository =
          (ofInstallFile file).resolve package excluded repository) ∧
    ∀ before skipped after, file.dependencies = before ++ skipped :: after →
      (∀ taken, ¬ file.Takes skipped.coordinate taken) →
      ofInstallFile { file with dependencies := before ++ after } = ofInstallFile file := by
  have tidy := tidy_ofInstallFile file
  refine ⟨?_, ⟨ascending_listing _, ?_⟩, ?_, ?_⟩
  · intro package excluded repository
    refine ⟨_, tidy.ascending_admitted, ?_, resolve_eq⟩
    intro artifact
    rw [mem_admitted, mem_artifactsOf_ofInstallFile]
  · intro package artifacts
    rw [tidy.mem_listing_iff]
    refine and_congr_right fun _ => and_congr_right fun _ => ?_
    constructor
    · rintro rfl
      exact ⟨tidy.ascending package, fun artifact => mem_artifactsOf_ofInstallFile⟩
    · intro listed
      apply (tidy.ascending package).eq_of_mem_iff listed.1
      intro artifact
      rw [mem_artifactsOf_ofInstallFile, listed.2]
  · intro dependencies same
    have artifacts := artifactsOf_eq_of_records same
    refine ⟨(tidy_ofInstallFile _).listing_eq tidy artifacts, ?_⟩
    intro package excluded repository
    rw [resolve_eq, resolve_eq, admitted, admitted, artifacts]
  · intro before skipped after split unreadable
    rw [ofInstallFile, ofInstallFile, split, List.foldl_append, List.foldl_append, List.foldl_cons,
      addDependency_of_unreadable unreadable]
    rfl

end ArtifactIndex

end BuildDeps.Maven

/-! ### A file that lists an artifact twice -/

namespace BuildDeps.Maven.Pinned

def left : Dependency := { coordinate := "org.split:left:1.0", packages := ["split", "split.left"] }

def right : Dependency := { coordinate := "org.split:right:jar:linux:1.0", packages := ["split"] }

def unversioned : Dependency := { coordinate := "org.split:middle", packages := ["split"] }

/-- Of three dependencies, one was taken in another version, and one has no version. -/
def file : InstallFile where
  version := "2"
  conflicts := some (.ofList [("org.split:left:1.0", "org.split:left:2.0")])
  dependencies := [right, unversioned, left]

/-- The same, in another order and with a package listed twice. -/
def reordered : List Dependency :=
  [left, { left with packages := ["split.left"] }, unversioned, right]

example : (ArtifactIndex.ofInstallFile file).listing =
    [(⟨"split"⟩, ["org.split:left", "org.split:right:linux"]),
      (⟨"split.left"⟩, ["org.split:left"])] := by
  decide +kernel

theorem unreadable (taken : Coordinate) : ¬ file.Takes unversioned.coordinate taken := by
  rw [InstallFile.takes_iff]
  have malformed : file.resolvedCoordinate unversioned = .error ⟨unversioned.coordinate⟩ := by
    decide +kernel
  rw [malformed]
  exact nofun

theorem records_reordered (written package : String) :
    InstallFile.Records { file with dependencies := reordered } written package ↔
      file.Records written package := by
  simp only [InstallFile.Records, file, reordered, List.exists_mem_cons_iff, List.not_mem_nil,
    false_and, exists_false, or_false]
  grind [left]

/-- Neither the order of the file nor the dependency without a version shows. -/
theorem ofInstallFile_exact_reordered :
    (∀ written package, InstallFile.Records { file with dependencies := reordered } written package ↔
      file.Records written package) ∧
    (ArtifactIndex.ofInstallFile { file with dependencies := reordered }).listing =
      (ArtifactIndex.ofInstallFile file).listing ∧
    (∀ taken, ¬ file.Takes unversioned.coordinate taken) ∧
    ArtifactIndex.ofInstallFile { file with dependencies := [right, left] } =
      ArtifactIndex.ofInstallFile file := by
  have exact := (ArtifactIndex.ofInstallFile_exact file).2.2
  exact ⟨records_reordered, (exact.1 reordered records_reordered).1, unreadable,
    exact.2 [right] unversioned [left] rfl unreadable⟩

end BuildDeps.Maven.Pinned
