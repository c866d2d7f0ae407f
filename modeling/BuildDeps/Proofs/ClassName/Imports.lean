import BuildDeps.ImportName
import BuildDeps.Proofs.ClassName.Division
import Mathlib.Data.List.TakeDrop

/-!
Class names and imports.

A dotted name has one package as a class name and another as an import: the one is found from the end, as
what is left before the longest run of capitalised segments, and the other from the start, as what stands
before the first segment that ends a package.  The two agree where that segment is the last, or where the
run reaches back to it; a member of a class that begins with a small letter is what keeps them apart.
-/

namespace BuildDeps

variable {capital ends : String → Bool} {input outer segment : String}
  {segments packages inner before rest : List String}

/-- For any two kinds of segments of which the second includes the first: what is left before the classes
is what stands before the first segment of the second kind if there is one, and it is the last or begins
the classes. -/
theorem ClassName.Division.eq_takeWhile_iff (included : ∀ segment, capital segment = true →
      ends segment = true) (division : ClassName.Division capital packages outer inner) :
    packages = (packages ++ outer :: inner).takeWhile (!ends ·) ↔
      ∃ before boundary rest, packages ++ outer :: inner = before ++ boundary :: rest ∧
        (∀ segment ∈ before, ends segment = false) ∧ ends boundary = true ∧
        (rest = [] ∨ ∀ segment ∈ boundary :: rest, capital segment = true) := by
  constructor
  · intro same
    have whole := List.takeWhile_append_dropWhile (p := (!ends ·)) (l := packages ++ outer :: inner)
    rw [← same] at whole
    have later := List.append_cancel_left whole
    have stop := List.head?_dropWhile_not (!ends ·) (packages ++ outer :: inner)
    rw [later] at stop
    refine ⟨packages, outer, inner, rfl, ?_, by simpa using stop, ?_⟩
    · intro segment member
      rw [same] at member
      simpa using List.mem_takeWhile_imp member
    · cases division with
      | capitalised classes _ => exact Or.inr classes
      | plain _ => exact Or.inl rfl
  · rintro ⟨before, boundary, rest, same, clear, stops, tail⟩
    have small : ∀ segment ∈ before, capital segment = false := by
      intro segment member
      by_contra capitalised
      have stopsEarly := included segment (eq_true_of_ne_false capitalised)
      rw [clear segment member] at stopsEarly
      cases stopsEarly
    have package : ∀ last ∈ before.getLast?, capital last = false :=
      fun last found => small last (List.mem_of_getLast? found)
    have other : Division capital before boundary rest := by
      rcases tail with rfl | classes
      · cases first : capital boundary with
        | true => exact .capitalised (by simpa using first) package
        | false => exact .plain first
      · exact .capitalised classes package
    obtain ⟨rfl, rfl, rfl⟩ := division.unique other same
    have passes : ∀ segment ∈ packages, (!ends segment) = true := by
      intro segment member
      rw [clear segment member]
      rfl
    rw [List.takeWhile_append_of_pos passes, List.takeWhile_cons_of_neg (by simp [stops]),
      List.append_nil]

namespace ImportName

/-! ### Where the package of an import ends -/

/-- A segment that ends a package is capitalised, or begins with an underscore and not with the marker of
test-only packages. -/
def Ends (segment : String) : Prop :=
  Text.startsUppercase segment = true ∨
    ['_'] <+: segment.toList ∧ ¬ "_TESTONLY".toList <+: segment.toList

instance : DecidablePred Ends :=
  fun _ => inferInstanceAs (Decidable (_ ∨ _))

/-- The scan of a segment finds out whether it ends the package. -/
theorem endsPackage_iff : endsPackage segment = true ↔ Ends segment := by
  have underscore : segment.toList.head? = some '_' ↔ ['_'] <+: segment.toList := by
    cases segment.toList <;> simp [eq_comm]
  simp only [endsPackage, testOnlyMarker, Bool.or_eq_true, Bool.and_eq_true, decide_eq_true_eq,
    Bool.not_eq_true', Bool.eq_false_iff, ne_eq, List.isPrefixOf_iff_prefix, underscore, Ends]

/-- A name without the signs of nested classes and wildcards is read as it is. -/
theorem clean_eq_self (plain : '$' ∉ input.toList) (whole : ¬ ['.', '*'] <:+ input.toList) :
    clean input = input := by
  have kept : input.toList.filter (· ≠ '$') = input.toList := by
    rw [List.filter_eq_self]
    intro c member
    rw [decide_eq_true_iff]
    rintro rfl
    exact plain member
  unfold clean
  simp only [kept]
  split
  · rename_i rest found
    refine absurd ⟨rest.reverse, ?_⟩ whole
    rw [← List.reverse_inj, found]
    simp
  · exact String.ofList_toList

theorem package_parse (plain : '$' ∉ input.toList) (whole : ¬ ['.', '*'] <:+ input.toList) :
    (parse input).package =
      ⟨Text.joinFields '.' ((Text.fields '.' input).takeWhile (!endsPackage ·))⟩ := by
  rw [parse, clean_eq_self plain whole, List.span_eq_takeWhile_dropWhile]

/-- A dotted name is in the same package as a class name and as an import exactly if some segment of it
ends a package, and the first such segment is the last segment, or all segments from there on are
capitalised. -/
theorem same_package_iff (input : String) (filled : "" ∉ Text.fields '.' input)
    (plain : '$' ∉ input.toList) (whole : ¬ ['.', '*'] <:+ input.toList) :
    ∃ className, ClassName.parse input = .ok className ∧
      (className.package = (parse input).package ↔
        ∃ before boundary rest, Text.fields '.' input = before ++ boundary :: rest ∧
          (∀ segment ∈ before, ¬ Ends segment) ∧ Ends boundary ∧
          (rest = [] ∨ ∀ segment ∈ boundary :: rest, Text.startsUppercase segment = true)) := by
  have read := ClassName.parse_eq_ok_iff_filled.2 ⟨filled, rfl⟩
  obtain ⟨packages, segments, package, division⟩ := ClassName.exists_division_of_parse read
  refine ⟨_, read, ?_⟩
  have named : ∀ segment ∈ Text.fields '.' input, segment ≠ "" ∧ '.' ∉ segment.toList := by
    intro segment member
    refine ⟨?_, Text.not_mem_of_mem_fields member⟩
    rintro rfl
    exact filled member
  have packagesNamed : ∀ segment ∈ packages, segment ≠ "" ∧ '.' ∉ segment.toList :=
    fun segment member => named segment (segments ▸ List.mem_append_left _ member)
  have beforeNamed : ∀ segment ∈ (Text.fields '.' input).takeWhile (!endsPackage ·),
      segment ≠ "" ∧ '.' ∉ segment.toList :=
    fun segment member => named segment ((List.takeWhile_sublist _).subset member)
  have included : ∀ segment, Text.startsUppercase segment = true → endsPackage segment = true :=
    fun segment capitalised => endsPackage_iff.2 (Or.inl capitalised)
  rw [package, package_parse plain whole, JvmPackage.mk.injEq]
  have texts : Text.joinFields '.' packages =
        Text.joinFields '.' ((Text.fields '.' input).takeWhile (!endsPackage ·)) ↔
      packages = (Text.fields '.' input).takeWhile (!endsPackage ·) :=
    ⟨Text.eq_of_joinFields_eq packagesNamed beforeNamed, congrArg _⟩
  rw [texts]
  simp only [← endsPackage_iff, Bool.not_eq_true]
  rw [segments]
  exact division.eq_takeWhile_iff included

end ImportName

end BuildDeps

/-! ### A nested class and a member -/

namespace BuildDeps.ImportName.Members

/-- A nested class is in the package of its outermost class either way.  An import takes a member to be in
that package as well, and a class name takes it to be a class in a package that ends in `Outer`. -/
theorem nested_agrees_and_member_does_not :
    (∃ className, ClassName.parse "com.Outer.Inner" = .ok className ∧
      className.package = (parse "com.Outer.Inner").package) ∧
    ∃ className, ClassName.parse "com.Outer.inner" = .ok className ∧
      className.package ≠ (parse "com.Outer.inner").package := by
  have nested : Text.fields '.' "com.Outer.Inner" = ["com", "Outer", "Inner"] := rfl
  have member : Text.fields '.' "com.Outer.inner" = ["com", "Outer", "inner"] := rfl
  obtain ⟨className, read, same⟩ := same_package_iff "com.Outer.Inner"
    (nested ▸ by decide) (by decide) (by decide)
  obtain ⟨other, otherRead, apart⟩ := same_package_iff "com.Outer.inner"
    (member ▸ by decide) (by decide) (by decide)
  refine ⟨⟨className, read, same.2 ?_⟩, other, otherRead, mt apart.1 ?_⟩
  · exact ⟨["com"], "Outer", ["Inner"], nested, by decide, by decide, Or.inr (by decide)⟩
  · rw [member]
    rintro ⟨before, boundary, rest, segments, clear, stops, tail⟩
    rcases before with _ | ⟨first, _ | ⟨second, others⟩⟩
    · cases segments
      exact absurd stops (by decide)
    · cases segments
      rcases tail with last | classes
      · cases last
      · exact absurd (classes "inner" (by simp)) (by decide)
    · simp only [List.cons_append, List.cons.injEq] at segments
      obtain ⟨rfl, rfl, _⟩ := segments
      exact clear "Outer" (by simp) (by decide)

end BuildDeps.ImportName.Members
