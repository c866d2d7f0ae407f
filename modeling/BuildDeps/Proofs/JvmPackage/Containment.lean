import BuildDeps.Text.Fields
import BuildDeps.StandardLibrary
import Mathlib.Data.List.Basic

/-!
Packages within packages.

The name of a package that contains another is the same text, or stands in front of the other name up to a
dot.  Either way its segments are the first segments of the other, so that containment is an order of the
names, and a text that only begins alike (`kotlin` and `kotlinx`) makes no difference.  The packages of a
runtime are those within the listed ones, whatever else is in them.
-/

namespace BuildDeps

namespace JvmPackage

variable {package ancestor one other third : JvmPackage}

/-- The segments of a name between its dots.  The unnamed package has one segment, which is empty. -/
def segments (package : JvmPackage) : List String :=
  Text.fields '.' package.name

/-- A name is known by its segments. -/
theorem eq_of_segments_eq (same : one.segments = other.segments) : one = other := by
  obtain ⟨name⟩ := one
  obtain ⟨otherName⟩ := other
  rw [mk.injEq, ← Text.joinFields_fields '.' name, ← Text.joinFields_fields '.' otherName]
  exact congrArg (Text.joinFields '.') same

/-- What is left of a name after the name of a package that contains it begins with a dot. -/
theorem isWithin_iff_name : package.isWithin ancestor = true ↔
    package.name = ancestor.name ∨
      ∃ rest, package.name.toList = ancestor.name.toList ++ '.' :: rest := by
  have same : package = ancestor ↔ package.name = ancestor.name := by
    cases package
    cases ancestor
    rw [mk.injEq]
  rw [isWithin, Bool.or_eq_true, decide_eq_true_iff, same]
  apply or_congr_right
  cases stripped : ancestor.name.toList.isPrefixOf? package.name.toList with
  | none =>
      refine ⟨nofun, ?_⟩
      rintro ⟨rest, whole⟩
      rw [List.isPrefixOf?_eq_some_iff_append_eq.2 whole.symm] at stripped
      cases stripped
  | some left =>
      rw [List.isPrefixOf?_eq_some_iff_append_eq] at stripped
      simp only [← stripped, List.append_cancel_left_eq]
      constructor
      · intro dotted
        split at dotted
        · rename_i rest found
          exact ⟨rest, Option.some.inj found⟩
        · cases dotted
      · rintro ⟨rest, rfl⟩
        rfl

/-- A package is within another if its segments begin with those of the other. -/
theorem isWithin_iff : package.isWithin ancestor = true ↔ ancestor.segments <+: package.segments := by
  rw [isWithin_iff_name, segments, segments, Text.fields_prefix_iff]

theorem isWithin_self (package : JvmPackage) : package.isWithin package = true :=
  isWithin_iff.2 List.prefix_rfl

/-- Packages lie within each other in layers. -/
theorem isWithin_trans (inner : one.isWithin other = true) (outer : other.isWithin third = true) :
    one.isWithin third = true :=
  isWithin_iff.2 ((isWithin_iff.1 outer).trans (isWithin_iff.1 inner))

/-- Two packages lie within each other only if they are the same. -/
theorem isWithin_antisymm (inner : one.isWithin other = true) (outer : other.isWithin one = true) :
    one = other := by
  have longer := isWithin_iff.1 inner
  have shorter := isWithin_iff.1 outer
  exact eq_of_segments_eq (shorter.eq_of_length_le longer.length_le)

end JvmPackage

namespace StandardLibrary

open JvmPackage

variable {package inner : JvmPackage} {language : Language}

/-- A runtime provides what lies within one of its packages. -/
theorem provides_iff : provides package language = true ↔
    ∃ ancestor ∈ packages language, ancestor.segments <+: package.segments := by
  rw [provides, List.any_eq_true]
  simp only [isWithin_iff]

/-- A runtime provides whole packages. -/
theorem provides_of_isWithin (provided : provides package language = true)
    (within : inner.isWithin package = true) : provides inner language = true := by
  obtain ⟨ancestor, listed, around⟩ := provides_iff.1 provided
  exact provides_iff.2 ⟨ancestor, listed, around.trans (isWithin_iff.1 within)⟩

/-- The runtime of Kotlin is that of Java with one package of its own, and what lies within it. -/
theorem provides_kotlin_iff : provides package .kotlin = true ↔
    provides package .java = true ∨ ["kotlin"] <+: package.segments := by
  have kotlin : segments ⟨"kotlin"⟩ = ["kotlin"] := rfl
  simp only [provides_iff, packages, List.mem_append, List.mem_singleton, or_and_right, exists_or,
    exists_eq_left, kotlin]

/-- A package is within another exactly if the segments of the other are its first segments, which makes
containment an order of names.  A runtime provides all that lies within what it provides: Java what extends
the segments of a listed package, and Kotlin that and what extends its own. -/
theorem containment_is_by_segments :
    (∀ package ancestor : JvmPackage,
      package.isWithin ancestor = true ↔ ancestor.segments <+: package.segments) ∧
    ((∀ package : JvmPackage, package.isWithin package = true) ∧
      (∀ one other : JvmPackage, one.isWithin other = true → other.isWithin one = true →
        one = other) ∧
      ∀ one other third : JvmPackage, one.isWithin other = true → other.isWithin third = true →
        one.isWithin third = true) ∧
    (∀ (language : Language) (package inner : JvmPackage), provides package language = true →
      inner.isWithin package = true → provides inner language = true) ∧
    (∀ package : JvmPackage, provides package .java = true ↔
      ∃ listed ∈ java, listed.segments <+: package.segments) ∧
    ∀ package : JvmPackage, provides package .kotlin = true ↔
      provides package .java = true ∨ ["kotlin"] <+: package.segments := by
  refine ⟨fun _ _ => isWithin_iff, ⟨isWithin_self, ?_, ?_⟩, ?_, fun _ => provides_iff,
    fun _ => provides_kotlin_iff⟩
  · intro one other inner outer
    exact isWithin_antisymm inner outer
  · intro one other third inner outer
    exact isWithin_trans inner outer
  · intro language package inner provided within
    exact provides_of_isWithin provided within

/-- Java provides what lies within its utilities.  A name that only begins as the name of a listed package
is neither within that package nor provided, and an empty segment counts as one. -/
theorem zip_is_provided_and_inject_is_not :
    (isWithin ⟨"java.util.zip"⟩ ⟨"java.util"⟩ = true ∧ provides ⟨"java.util.zip"⟩ .java = true) ∧
    (isWithin ⟨"javax.inject"⟩ ⟨"java"⟩ = false ∧ provides ⟨"javax.inject"⟩ .java = false) ∧
    isWithin ⟨".util"⟩ ⟨""⟩ = true := by
  obtain ⟨exact, ⟨_, _, _⟩, closed, listed, _⟩ := containment_is_by_segments
  have within : isWithin ⟨"java.util.zip"⟩ ⟨"java.util"⟩ = true :=
    (exact _ _).2 ⟨["zip"], rfl⟩
  have provided : provides ⟨"java.util"⟩ .java = true :=
    (listed _).2 ⟨⟨"java"⟩, by decide, ["util"], rfl⟩
  refine ⟨⟨within, closed _ _ _ provided within⟩, ⟨?_, ?_⟩, (exact _ _).2 ⟨["util"], rfl⟩⟩
  · rw [← Bool.not_eq_true, exact]
    decide
  · rw [← Bool.not_eq_true, listed]
    decide

end StandardLibrary

end BuildDeps
