import BuildDeps.JvmPackage
import BuildDeps.Maven.InstallFile

/-!
What an install file says of its dependencies.

Which table applies is a matter of the format, which row of it applies a matter of the coordinate,
and what is taken is the coordinate of that row or, without a row, the one that is written.
-/

namespace BuildDeps.Maven.InstallFile

variable {file : InstallFile} {table : ConflictTable} {written row : String} {declared taken : Coordinate}

/-- The conflict table of a file: none where its version says that the coordinates are the ones
taken, else the one beside the dependency tree if there is one, else the one within the tree. -/
inductive Applies (file : InstallFile) : ConflictTable → Prop
  | beside {table : ConflictTable} (pinned : file.version ≠ embeddedVersion)
      (beside : file.conflicts = some table) : Applies file table
  | within {table : ConflictTable} (pinned : file.version ≠ embeddedVersion)
      (noneBeside : file.conflicts = none) (within : file.treeConflicts = some table) :
      Applies file table

/-- The row of the conflict table for a dependency: that of the coordinate as it is written, else
that of `group:artifact`. -/
inductive Replaces (file : InstallFile) (written : String) (declared : Coordinate) : String → Prop
  | asWritten {table : ConflictTable} {row : String} (applies : file.Applies table)
      (listed : table.get? written = some row) : Replaces file written declared row
  | inAnyVersion {table : ConflictTable} {row : String} (applies : file.Applies table)
      (unlisted : table.get? written = none)
      (listed : table.get? declared.unversioned = some row) : Replaces file written declared row

/-- The coordinate that was taken for a dependency, both of which can be read. -/
inductive Takes (file : InstallFile) (written : String) : Coordinate → Prop
  | replaced {declared taken : Coordinate} {row : String}
      (read : Coordinate.parse written = .ok declared) (replaces : file.Replaces written declared row)
      (rowRead : Coordinate.parse row = .ok taken) : Takes file written taken
  | asDeclared {declared : Coordinate} (read : Coordinate.parse written = .ok declared)
      (unlisted : ∀ row, ¬ file.Replaces written declared row) : Takes file written declared

/-- A dependency with a coordinate lists a package. -/
def Records (file : InstallFile) (written package : String) : Prop :=
  ∃ dependency ∈ file.dependencies, dependency.coordinate = written ∧ package ∈ dependency.packages

/-- An artifact provides a package: it was taken for a dependency that lists the package. -/
def Provides (file : InstallFile) (package : JvmPackage) (artifact : String) : Prop :=
  ∃ written taken, file.Records written package.name ∧ file.Takes written taken ∧
    taken.artifactText = artifact

/-- Nothing is taken for a dependency that cannot be read. -/
theorem Takes.exists_declared (takes : file.Takes written taken) :
    ∃ declared, Coordinate.parse written = .ok declared := by
  cases takes with
  | replaced read => exact ⟨_, read⟩
  | asDeclared read => exact ⟨_, read⟩

/-- What replaces a coordinate stands in the conflict table. -/
theorem Replaces.exists_listed (replaces : file.Replaces written declared row) :
    ∃ table key, file.Applies table ∧ table.get? key = some row := by
  cases replaces with
  | asWritten applies listed => exact ⟨_, _, applies, listed⟩
  | inAnyVersion applies unlisted listed => exact ⟨_, _, applies, listed⟩

/-! ### The definitions agree with what is computed -/

/-- The table that applies is the one that is looked up. -/
theorem applies_iff : file.Applies table ↔ file.conflictTable? = some table := by
  unfold conflictTable? layout
  constructor
  · intro applies
    cases applies with
    | beside pinned beside => simp [pinned, beside]
    | within pinned noneBeside within => simp [pinned, noneBeside, within]
  · intro found
    by_cases embedded : file.version = embeddedVersion
    · simp [embedded] at found
    · cases conflicts : file.conflicts with
      | some other =>
          simp only [embedded, conflicts, if_false, Option.isSome_some, if_true] at found
          exact .beside embedded (conflicts.trans found)
      | none =>
          simp only [embedded, conflicts, if_false, Option.isSome_none] at found
          exact .within embedded conflicts found

/-- At most one table applies. -/
theorem Applies.unique {other : ConflictTable} (applies : file.Applies table)
    (otherApplies : file.Applies other) : table = other :=
  Option.some.inj ((applies_iff.1 applies).symm.trans (applies_iff.1 otherApplies))

/-- The row that replaces a dependency is the one that is looked up. -/
theorem replaces_iff : file.Replaces written declared row ↔
    file.replacement? written declared = some row := by
  unfold replacement?
  rw [Option.bind_eq_some_iff]
  constructor
  · intro replaces
    cases replaces with
    | asWritten applies listed => exact ⟨_, applies_iff.1 applies, by simp [listed]⟩
    | inAnyVersion applies unlisted listed =>
        exact ⟨_, applies_iff.1 applies, by simp [unlisted, listed]⟩
  · intro found
    obtain ⟨table, applies, listed⟩ := found
    rcases Option.or_eq_some_iff.1 listed with first | ⟨unlisted, second⟩
    · exact .asWritten (applies_iff.2 applies) first
    · exact .inAnyVersion (applies_iff.2 applies) unlisted second

/-- What is taken for a dependency is the coordinate that it is resolved to. -/
theorem takes_iff {dependency : Dependency} : file.Takes dependency.coordinate taken ↔
    file.resolvedCoordinate dependency = .ok taken := by
  unfold resolvedCoordinate
  constructor
  · intro takes
    cases takes with
    | replaced read replaces rowRead =>
        simp only [read, bind, Except.bind, replaces_iff.1 replaces, rowRead]
    | asDeclared read unlisted =>
        have none : file.replacement? dependency.coordinate taken = none :=
          Option.eq_none_iff_forall_ne_some.2 fun row found => unlisted row (replaces_iff.2 found)
        simp only [read, bind, Except.bind, none]
  · intro resolved
    cases read : Coordinate.parse dependency.coordinate with
    | error fault => simp [read, bind, Except.bind] at resolved
    | ok declared =>
        simp only [read, bind, Except.bind] at resolved
        split at resolved
        · rename_i row found
          exact .replaced read (replaces_iff.2 found) resolved
        · rename_i missing
          cases resolved
          refine .asDeclared read fun row replaces => ?_
          rw [replaces_iff.1 replaces] at missing
          cases missing

end BuildDeps.Maven.InstallFile
