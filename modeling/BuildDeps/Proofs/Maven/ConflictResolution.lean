import BuildDeps.Proofs.Maven.Coordinate
import BuildDeps.Proofs.Maven.Providers

/-!
What conflict resolution does to an artifact.

A conflict table is there to change versions: what a key maps to is the artifact that the key names,
in the version that was taken.  Of a dependency whose own coordinate is a key this leaves the artifact
as it is.  A dependency that is found under `group:artifact` is taken for the artifact of that name
without classifier, whatever classifier it has itself.
-/

namespace BuildDeps.Maven

variable {file : InstallFile} {index : ArtifactIndex} {dependency : Dependency} {table : ConflictTable}
  {written : String} {declared taken : Coordinate} {package : JvmPackage}

/-! ### Tables that change versions only -/

/-- The artifact that a key of a conflict table names: a coordinate its own, and `group:artifact` the one
without classifier. -/
inductive KeyNames : String → String × String × Option String → Prop
  | inAnyVersion {key group artifact : String} (fields : Text.fields ':' key = [group, artifact]) :
      KeyNames key (group, artifact, none)
  | coordinate {key : String} {listed : Coordinate} (read : Coordinate.parse key = .ok listed) :
      KeyNames key listed.identity

/-- Every key maps to a coordinate of the artifact that it names. -/
def ConflictTable.KeepsIdentities (table : ConflictTable) : Prop :=
  ∀ key row, table.get? key = some row →
    ∃ taken, Coordinate.parse row = .ok taken ∧ KeyNames key taken.identity

/-- A coordinate that is a key names the artifact that it is. -/
theorem identity_of_keyNames (names : KeyNames written taken.identity)
    (read : Coordinate.parse written = .ok declared) : taken.identity = declared.identity := by
  generalize taken.identity = identity at names
  cases names with
  | inAnyVersion fields =>
      rw [Coordinate.parse_of_fields_eq_pair fields] at read
      cases read
  | coordinate other =>
      cases read.symm.trans other
      rfl

/-- The key `group:artifact` of a coordinate names its artifact without classifier. -/
theorem identity_of_keyNames_unversioned (names : KeyNames declared.unversioned taken.identity)
    (read : Coordinate.parse written = .ok declared) :
    taken.identity = (declared.group, declared.artifact, none) := by
  have pair := Coordinate.fields_unversioned read
  generalize taken.identity = identity at names
  cases names with
  | inAnyVersion fields =>
      cases pair.symm.trans fields
      rfl
  | coordinate other =>
      rw [Coordinate.parse_of_fields_eq_pair pair] at other
      cases other

namespace InstallFile

/-- The classifier of a dependency is lost: it has one, its coordinate is no key of the conflict table,
and `group:artifact` is. -/
structure LosesClassifier (file : InstallFile) (written : String) (declared : Coordinate) : Prop where
  classified : declared.classifier ≠ none
  foundInAnyVersion : ∃ table row, file.Applies table ∧ table.get? written = none ∧
    table.get? declared.unversioned = some row

/-- The file without its conflict tables. -/
def withoutConflicts (file : InstallFile) : InstallFile :=
  { file with treeConflicts := none, conflicts := none }

/-- A file without conflict tables has none that applies. -/
theorem not_applies_withoutConflicts : ¬ file.withoutConflicts.Applies table := by
  intro applies
  cases applies with
  | beside pinned beside => cases beside
  | within pinned noneBeside within => cases within

/-- Without conflict tables, what is taken is what is declared. -/
theorem takes_withoutConflicts :
    file.withoutConflicts.Takes written taken ↔ Coordinate.parse written = .ok taken := by
  have unlisted : ∀ declared row, ¬ file.withoutConflicts.Replaces written declared row := by
    intro declared row replaces
    obtain ⟨_, _, applies, _⟩ := replaces.exists_listed
    exact not_applies_withoutConflicts applies
  constructor
  · intro takes
    cases takes with
    | replaced read replaces => exact absurd replaces (unlisted _ _)
    | asDeclared read => exact read
  · intro read
    exact .asDeclared read (unlisted taken)

section Keeping

variable (keeps : ∀ table, file.Applies table → table.KeepsIdentities)

include keeps

/-- What is taken for a dependency is the artifact that it declares, unless its classifier is lost. -/
theorem artifactText_of_takes (takes : file.Takes written taken)
    (read : Coordinate.parse written = .ok declared) :
    (taken.artifactText = declared.artifactText ∧ ¬ file.LosesClassifier written declared) ∨
      (taken.artifactText = declared.unversioned ∧ file.LosesClassifier written declared) := by
  cases takes with
  | asDeclared other unlisted =>
      cases read.symm.trans other
      refine Or.inl ⟨rfl, fun loses => ?_⟩
      obtain ⟨table, row, applies, missing, listed⟩ := loses.foundInAnyVersion
      exact unlisted row (.inAnyVersion applies missing listed)
  | replaced other replaces rowRead =>
      cases read.symm.trans other
      cases replaces with
      | asWritten applies listed =>
          obtain ⟨_, again, names⟩ := keeps _ applies _ _ listed
          cases rowRead.symm.trans again
          have same := identity_of_keyNames names read
          refine Or.inl ⟨Coordinate.artifactText_eq_of_identity_eq same, fun loses => ?_⟩
          obtain ⟨table, row, otherApplies, missing, _⟩ := loses.foundInAnyVersion
          rw [← applies.unique otherApplies, listed] at missing
          cases missing
      | inAnyVersion applies unlisted listed =>
          obtain ⟨_, again, names⟩ := keeps _ applies _ _ listed
          cases rowRead.symm.trans again
          have plain : taken.artifactText = declared.unversioned :=
            Coordinate.artifactText_of_identity_eq (identity_of_keyNames_unversioned names read)
          by_cases classified : declared.classifier = none
          · rw [← Coordinate.artifactText_eq_unversioned_iff] at classified
            refine Or.inl ⟨plain.trans classified.symm, fun loses => ?_⟩
            exact loses.classified (Coordinate.artifactText_eq_unversioned_iff.1 classified)
          · exact Or.inr ⟨plain, classified, _, _, applies, unlisted, listed⟩

/-- Something is taken for every dependency that can be read. -/
theorem exists_takes (read : Coordinate.parse written = .ok declared) :
    ∃ taken, file.Takes written taken := by
  by_cases replaced : ∃ row, file.Replaces written declared row
  · obtain ⟨row, replaces⟩ := replaced
    obtain ⟨table, key, applies, listed⟩ := replaces.exists_listed
    obtain ⟨taken, rowRead, _⟩ := keeps table applies key row listed
    exact ⟨taken, .replaced read replaces rowRead⟩
  · exact ⟨declared, .asDeclared read fun row replaces => replaced ⟨row, replaces⟩⟩

/-- Where no classifier is lost, a dependency stands for the artifact that it declares. -/
theorem exists_takes_iff {artifact : String}
    (kept : ∀ declared, Coordinate.parse written = .ok declared →
      ¬ file.LosesClassifier written declared) :
    (∃ taken, file.Takes written taken ∧ taken.artifactText = artifact) ↔
      ∃ taken, file.withoutConflicts.Takes written taken ∧ taken.artifactText = artifact := by
  simp only [takes_withoutConflicts]
  constructor
  · intro found
    obtain ⟨taken, takes, rfl⟩ := found
    obtain ⟨declared, read⟩ := takes.exists_declared
    rcases artifactText_of_takes keeps takes read with ⟨same, _⟩ | ⟨_, loses⟩
    · exact ⟨declared, read, same.symm⟩
    · exact absurd loses (kept declared read)
  · intro found
    obtain ⟨declared, read, rfl⟩ := found
    obtain ⟨taken, takes⟩ := exists_takes keeps read
    rcases artifactText_of_takes keeps takes read with ⟨same, _⟩ | ⟨_, loses⟩
    · exact ⟨taken, takes, same⟩
    · exact absurd loses (kept declared read)

/-- Which artifact provides a package is a matter of what the dependencies declare, as long as no
classifier is lost on the way. -/
theorem provides_withoutConflicts_iff {artifact : String}
    (kept : ∀ dependency ∈ file.dependencies, package.name ∈ dependency.packages → ∀ declared,
      Coordinate.parse dependency.coordinate = .ok declared →
        ¬ file.LosesClassifier dependency.coordinate declared) :
    file.Provides package artifact ↔ file.withoutConflicts.Provides package artifact := by
  unfold Provides
  simp only [exists_and_left]
  apply exists_congr
  intro written
  apply and_congr_right
  intro records
  obtain ⟨dependency, member, rfl, lists⟩ := records
  exact exists_takes_iff keeps (kept dependency member lists)

end Keeping

end InstallFile

namespace ArtifactIndex

/-- What a dependency adds is a matter of the artifact that it stands for. -/
theorem addDependency_congr {other : InstallFile}
    (same : ∀ artifact,
      (∃ taken, file.Takes dependency.coordinate taken ∧ taken.artifactText = artifact) ↔
        ∃ taken, other.Takes dependency.coordinate taken ∧ taken.artifactText = artifact) :
    index.addDependency file dependency = index.addDependency other dependency := by
  simp only [InstallFile.takes_iff] at same
  unfold addDependency
  cases resolved : file.resolvedCoordinate dependency with
  | error fault =>
      cases otherResolved : other.resolvedCoordinate dependency with
      | error otherFault => rfl
      | ok otherTaken =>
          obtain ⟨taken, found, _⟩ := (same _).2 ⟨otherTaken, otherResolved, rfl⟩
          rw [resolved] at found
          cases found
  | ok taken =>
      obtain ⟨otherTaken, found, text⟩ := (same _).1 ⟨taken, resolved, rfl⟩
      simp only [found, text]

/-- Under a conflict table whose keys map to coordinates of the artifacts that they name, every dependency
that can be read resolves to a coordinate of the artifact that it declares, unless its classifier is
lost: then it resolves to `group:artifact`.  So the artifacts of a package that no such dependency lists
are those without the table, and so is the index of a file without such dependencies. -/
theorem resolution_keeps_artifact_unless_classifier_is_lost (file : InstallFile)
    (keeps : ∀ table, file.Applies table → table.KeepsIdentities) :
    (∀ (dependency : Dependency) (declared : Coordinate),
      Coordinate.parse dependency.coordinate = .ok declared →
      ∃ taken, file.resolvedCoordinate dependency = .ok taken ∧
        (taken.artifactText = declared.artifactText ↔
          ¬ file.LosesClassifier dependency.coordinate declared) ∧
        (file.LosesClassifier dependency.coordinate declared →
          taken.artifactText = declared.unversioned)) ∧
    (∀ package : JvmPackage, (∀ dependency ∈ file.dependencies, package.name ∈ dependency.packages →
        ∀ declared, Coordinate.parse dependency.coordinate = .ok declared →
          ¬ file.LosesClassifier dependency.coordinate declared) →
      (ofInstallFile file).get? package = (ofInstallFile file.withoutConflicts).get? package) ∧
    ((∀ dependency ∈ file.dependencies, ∀ declared,
        Coordinate.parse dependency.coordinate = .ok declared →
          ¬ file.LosesClassifier dependency.coordinate declared) →
      ofInstallFile file = ofInstallFile file.withoutConflicts) := by
  refine ⟨?_, ?_, ?_⟩
  · intro dependency declared read
    obtain ⟨taken, takes⟩ := InstallFile.exists_takes keeps read
    refine ⟨taken, InstallFile.takes_iff.1 takes, ?_⟩
    rcases InstallFile.artifactText_of_takes keeps takes read with ⟨same, kept⟩ | ⟨plain, loses⟩
    · exact ⟨iff_of_true same kept, fun loses => absurd loses kept⟩
    · refine ⟨iff_of_false ?_ (not_not_intro loses), fun _ => plain⟩
      rw [plain, eq_comm, Coordinate.artifactText_eq_unversioned_iff]
      exact loses.classified
  · intro package kept
    apply (tidy_ofInstallFile file).get?_eq (tidy_ofInstallFile _)
    apply ((tidy_ofInstallFile file).ascending package).eq_of_mem_iff
      ((tidy_ofInstallFile _).ascending package)
    intro artifact
    rw [mem_artifactsOf_ofInstallFile, mem_artifactsOf_ofInstallFile,
      InstallFile.provides_withoutConflicts_iff keeps kept]
  · intro kept
    apply List.foldl_ext
    intro index dependency member
    exact addDependency_congr fun _ => InstallFile.exists_takes_iff keeps (kept dependency member)

end ArtifactIndex

end BuildDeps.Maven

/-! ### A classifier that is lost -/

namespace BuildDeps.Maven.Classified

def sources : Dependency := { coordinate := "g:a:jar:sources:1.0", packages := ["split"] }

def plain : Dependency := { coordinate := "g:b:1.0", packages := ["plain"] }

def table : ConflictTable := .ofList [("g:a", "g:a:2.0"), ("g:b", "g:b:2.0")]

/-- Both dependencies are found under `group:artifact`, and the first has a classifier. -/
def file : InstallFile where
  version := "2"
  conflicts := some table
  dependencies := [sources, plain]

/-- The file has this one table. -/
theorem applies_eq {other : ConflictTable} (applies : file.Applies other) : other = table :=
  applies.unique (.beside (by decide) rfl)

theorem keepsIdentities : table.KeepsIdentities := by
  intro key row listed
  have rows : (key, row) ∈ [("g:b", "g:b:2.0"), ("g:a", "g:a:2.0")] := Table.mem_rows_of_get? listed
  simp only [List.mem_cons, Prod.mk.injEq, List.not_mem_nil, or_false] at rows
  rcases rows with ⟨rfl, rfl⟩ | ⟨rfl, rfl⟩
  · exact ⟨⟨"g", "b", none, none, "2.0"⟩, by decide +kernel, .inAnyVersion (by decide +kernel)⟩
  · exact ⟨⟨"g", "a", none, none, "2.0"⟩, by decide +kernel, .inAnyVersion (by decide +kernel)⟩

theorem keeps (other : ConflictTable) (applies : file.Applies other) : other.KeepsIdentities :=
  applies_eq applies ▸ keepsIdentities

def declared : Coordinate := ⟨"g", "a", some "jar", some "sources", "1.0"⟩

theorem read_sources : Coordinate.parse sources.coordinate = .ok declared := by decide +kernel

/-- The artifact of sources is found under the names of group and artifact alone. -/
theorem losesClassifier : file.LosesClassifier sources.coordinate declared where
  classified := nofun
  foundInAnyVersion := ⟨table, "g:a:2.0", .beside (by decide) rfl, by decide, by decide +kernel⟩

/-- An artifact without classifier has none to lose. -/
theorem not_losesClassifier {read : Coordinate} (parsed : Coordinate.parse plain.coordinate = .ok read) :
    ¬ file.LosesClassifier plain.coordinate read := by
  have found : Coordinate.parse plain.coordinate = .ok ⟨"g", "b", none, none, "1.0"⟩ := by
    decide +kernel
  cases found.symm.trans parsed
  intro loses
  exact loses.classified rfl

/-- The first dependency becomes the artifact without classifier; the package of the second is provided
as without the table. -/
theorem sources_are_lost_and_plain_is_kept :
    (∀ other, file.Applies other → other.KeepsIdentities) ∧
    (∃ taken, file.resolvedCoordinate sources = .ok taken ∧ taken.artifactText = "g:a") ∧
    (ArtifactIndex.ofInstallFile file).get? ⟨"plain"⟩ =
      (ArtifactIndex.ofInstallFile file.withoutConflicts).get? ⟨"plain"⟩ := by
  obtain ⟨resolves, index, _⟩ :=
    ArtifactIndex.resolution_keeps_artifact_unless_classifier_is_lost file keeps
  refine ⟨keeps, ?_, ?_⟩
  · obtain ⟨taken, resolved, _, lost⟩ := resolves sources declared read_sources
    have unversioned : declared.unversioned = "g:a" := by decide +kernel
    exact ⟨taken, resolved, (lost losesClassifier).trans unversioned⟩
  · apply index
    intro dependency member lists read parsed
    have second : dependency = plain := by
      simp only [file, List.mem_cons, List.not_mem_nil, or_false] at member
      apply member.resolve_left
      rintro rfl
      exact absurd lists (by decide)
    subst second
    exact not_losesClassifier parsed

/-- Not every dependency stays the artifact that it declares, nor the index as it is without the
table. -/
theorem not_always_the_artifact_declared :
    (¬ ∀ file : InstallFile, (∀ table, file.Applies table → table.KeepsIdentities) →
      ∀ (dependency : Dependency) (declared : Coordinate),
        Coordinate.parse dependency.coordinate = .ok declared →
        ∃ taken, file.resolvedCoordinate dependency = .ok taken ∧
          taken.artifactText = declared.artifactText) ∧
    ¬ ∀ file : InstallFile, (∀ table, file.Applies table → table.KeepsIdentities) →
      ArtifactIndex.ofInstallFile file = ArtifactIndex.ofInstallFile file.withoutConflicts := by
  constructor
  · intro kept
    obtain ⟨taken, resolved, same⟩ := kept file keeps sources declared read_sources
    have found : file.resolvedCoordinate sources = .ok ⟨"g", "a", none, none, "2.0"⟩ := by
      decide +kernel
    cases found.symm.trans resolved
    exact absurd same (by decide +kernel)
  · intro kept
    exact absurd (kept file keeps) (by decide +kernel)

end BuildDeps.Maven.Classified
