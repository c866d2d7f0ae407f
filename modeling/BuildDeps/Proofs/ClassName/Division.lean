import BuildDeps.ClassName
import BuildDeps.Text.Fields
import Mathlib.Data.List.DropRight

/-!
How class names are divided.

A class name is scanned from its end for as long as its segments are capitalised.  What the scan finds is
the one division of the segments in which all classes are capitalised and the package does not end in a
capitalised segment; where the last segment is not capitalised, it is the class, and the only one.  No
segment is lost, so a name that was read is put together again from its parts, and the order of full names
tells all such names apart.
-/

namespace BuildDeps.ClassName

variable {capital : String → Bool} {input outer otherOuter : String}
  {segments packages otherPackages inner otherInner : List String} {className : ClassName}

/-- Segments of a package before an outermost class and the classes nested in it.  The classes are the
longest run of capitalised segments at the end, or the last segment if it is not capitalised. -/
inductive Division (capital : String → Bool) : List String → String → List String → Prop where
  | capitalised {packages inner : List String} {outer : String}
      (classes : ∀ segment ∈ outer :: inner, capital segment = true)
      (package : ∀ last ∈ packages.getLast?, capital last = false) :
      Division capital packages outer inner
  | plain {packages : List String} {outer : String} (small : capital outer = false) :
      Division capital packages outer []

namespace Division

/-- The scan from the end counts the classes. -/
theorem length_classes (division : Division capital packages outer inner) :
    max ((packages ++ outer :: inner).rtakeWhile capital).length 1 = inner.length + 1 := by
  cases division with
  | capitalised classes package =>
      have all : ∀ segment ∈ (outer :: inner).reverse, capital segment = true :=
        fun segment member => classes segment (List.mem_reverse.1 member)
      have stop : packages.rtakeWhile capital = [] := by
        rw [List.rtakeWhile_eq_nil_iff]
        intro some
        rw [package _ (List.getLast?_eq_some_getLast some)]
        exact Bool.false_ne_true
      have run : (packages ++ outer :: inner).rtakeWhile capital =
          packages.rtakeWhile capital ++ outer :: inner := by
        rw [List.rtakeWhile, List.reverse_append, List.takeWhile_append_of_pos all,
          List.reverse_append, List.reverse_reverse, ← List.rtakeWhile]
      rw [run, stop, List.nil_append, List.length_cons]
      exact Nat.max_eq_left (Nat.le_add_left 1 _)
  | plain small =>
      rw [List.rtakeWhile_concat_neg _ _ _ (by simp [small])]
      rfl

/-- Segments are divided in one way. -/
theorem unique (division : Division capital packages outer inner)
    (other : Division capital otherPackages otherOuter otherInner)
    (same : packages ++ outer :: inner = otherPackages ++ otherOuter :: otherInner) :
    packages = otherPackages ∧ outer = otherOuter ∧ inner = otherInner := by
  have counted := division.length_classes
  rw [same, other.length_classes] at counted
  have lengths : (outer :: inner).length = (otherOuter :: otherInner).length := counted.symm
  obtain ⟨packages, classes⟩ := List.append_inj' same lengths
  exact ⟨packages, List.cons.inj classes⟩

/-- Segments, if there are any, can be divided. -/
theorem exists_of_ne_nil (capital : String → Bool) (some : segments ≠ []) :
    ∃ packages outer inner, segments = packages ++ outer :: inner ∧
      Division capital packages outer inner := by
  cases run : segments.rtakeWhile capital with
  | nil =>
      obtain ⟨packages, outer, rfl⟩ := (List.eq_nil_or_concat' segments).resolve_left some
      have last := List.rtakeWhile_eq_nil_iff.1 run some
      rw [List.getLast_append_singleton, Bool.not_eq_true] at last
      exact ⟨packages, outer, [], rfl, .plain last⟩
  | cons outer inner =>
      have whole := List.rdropWhile_append_rtakeWhile (p := capital) (l := segments)
      rw [run] at whole
      refine ⟨_, outer, inner, whole.symm, .capitalised ?_ ?_⟩
      · intro segment member
        exact List.mem_rtakeWhile_imp (run ▸ member)
      · intro last found
        obtain ⟨named, rfl⟩ := List.mem_getLast?_eq_getLast found
        exact eq_false_of_ne_true (List.rdropWhile_last_not capital segments named)

end Division

/-! ### What is read as a class name -/

/-- Segments that are divided into the packages, the outer classes and the inner class make up the class
name of these parts. -/
theorem ofSegments_of_division (division : Division Text.startsUppercase packages outer inner) :
    ofSegments (packages ++ outer :: inner) = ⟨⟨Text.joinFields '.' packages⟩, outer, inner⟩ := by
  have count : classCount (packages ++ outer :: inner) = (outer :: inner).length := by
    have counted := division.length_classes
    rwa [List.rtakeWhile, List.length_reverse] at counted
  have start : (packages ++ outer :: inner).length - classCount (packages ++ outer :: inner) =
      packages.length := by
    rw [count, List.length_append, Nat.add_sub_cancel]
  rw [ofSegments, start, List.take_left, List.drop_left]
  rfl

/-- A text is a class name if none of the fields between its dots is empty, and it is the class name of
these fields. -/
theorem parse_eq_ok_iff_filled :
    parse input = .ok className ↔
      "" ∉ Text.fields '.' input ∧ ofSegments (Text.fields '.' input) = className := by
  unfold parse
  by_cases empty : input = ""
  · subst empty
    simp [Text.fields]
  · by_cases gap : "" ∈ Text.fields '.' input
    · simp [empty, gap]
    · simp [empty, gap]

/-- A class name that is read divides the segments of its text. -/
theorem exists_division_of_parse (read : parse input = .ok className) :
    ∃ packages, Text.fields '.' input = packages ++ className.outer :: className.inner ∧
      className.package = ⟨Text.joinFields '.' packages⟩ ∧
      Division Text.startsUppercase packages className.outer className.inner := by
  obtain ⟨_, rfl⟩ := parse_eq_ok_iff_filled.1 read
  obtain ⟨packages, outer, inner, segments, division⟩ :=
    Division.exists_of_ne_nil Text.startsUppercase (Text.fields_ne_nil '.' input)
  rw [segments, ofSegments_of_division division]
  exact ⟨packages, rfl, rfl, division⟩

/-- The parts of a class name make up the text that it was read from. -/
theorem fullName_of_parse (read : parse input = .ok className) : className.fullName = input := by
  obtain ⟨packages, segments, package, _⟩ := exists_division_of_parse read
  have filled : "" ∉ Text.fields '.' input := (parse_eq_ok_iff_filled.1 read).1
  have packagesFilled : ∀ segment ∈ packages, segment ≠ "" := by
    rintro segment member rfl
    exact filled (segments ▸ List.mem_append_left _ member)
  have joined : Text.joinFields '.' (packages ++ className.outer :: className.inner) = input := by
    rw [← segments, Text.joinFields_fields]
  rw [fullName, package]
  by_cases unnamed : packages = []
  · subst unnamed
    exact joined
  · have named : JvmPackage.isUnnamed ⟨Text.joinFields '.' packages⟩ = false := by
      rw [JvmPackage.isUnnamed, String.isEmpty_eq_false_iff]
      exact mt (Text.joinFields_eq_empty_iff packagesFilled).1 unnamed
    rw [named, if_neg Bool.false_ne_true, List.singleton_append,
      ← Text.joinFields_append unnamed (List.cons_ne_nil _ _), joined]

/-- Class names are equal in their order if they are written alike. -/
theorem compare_eq_eq_iff {one other : ClassName} :
    compare one other = .eq ↔ one.fullName = other.fullName := by
  have names : compare one other = compareOn fullName one other := rfl
  rw [names, compareOn, Std.compare_eq_iff_eq]

/-- A text is read as a class name if it is not empty and has no empty segment.  The class name has the
text for its full name and divides the segments of the text into a package and the classes after it.  So
names that were read are equal in their order only if they are the same. -/
theorem parse_divides (input : String) :
    ((∃ className, parse input = .ok className) ↔ input ≠ "" ∧ "" ∉ Text.fields '.' input) ∧
    (∀ className, parse input = .ok className → className.fullName = input ∧
      ∃ packages, Text.fields '.' input = packages ++ className.outer :: className.inner ∧
        className.package = ⟨Text.joinFields '.' packages⟩ ∧
        Division Text.startsUppercase packages className.outer className.inner) ∧
    ∀ other one another, parse input = .ok one → parse other = .ok another →
      (compare one another = .eq ↔ one = another) := by
  refine ⟨?_, fun className read => ⟨fullName_of_parse read, exists_division_of_parse read⟩, ?_⟩
  · constructor
    · rintro ⟨className, read⟩
      have filled := (parse_eq_ok_iff_filled.1 read).1
      refine ⟨?_, filled⟩
      rintro rfl
      simp [Text.fields] at filled
    · rintro ⟨_, filled⟩
      exact ⟨_, parse_eq_ok_iff_filled.2 ⟨filled, rfl⟩⟩
  · intro other one another oneRead anotherRead
    rw [compare_eq_eq_iff, fullName_of_parse oneRead, fullName_of_parse anotherRead]
    constructor
    · rintro rfl
      exact Except.ok.inj (oneRead.symm.trans anotherRead)
    · rintro rfl
      rw [← fullName_of_parse oneRead, fullName_of_parse anotherRead]

end BuildDeps.ClassName

/-! ### A nested class and a member -/

namespace BuildDeps.ClassName.Members

def nested : ClassName := ⟨⟨"com.example"⟩, "Outer", ["Inner"]⟩

/-- Read as a class name, a member has the class that it is of in its package. -/
def member : ClassName := ⟨⟨"com.example.Outer"⟩, "inner", []⟩

/-- Capitalised segments at the end are classes within each other.  Where the last segment is not
capitalised, it stands alone for the class, and the class before it counts with the package. -/
theorem nested_and_member_are_divided :
    (parse "com.example.Outer.Inner" = .ok nested ∧ nested.fullName = "com.example.Outer.Inner") ∧
      (parse "com.example.Outer.inner" = .ok member ∧ member.fullName = "com.example.Outer.inner") ∧
      compare nested member ≠ .eq := by
  have nestedRead : parse "com.example.Outer.Inner" = .ok nested := rfl
  have memberRead : parse "com.example.Outer.inner" = .ok member := rfl
  obtain ⟨_, divides, apart⟩ := parse_divides "com.example.Outer.Inner"
  obtain ⟨_, memberDivides, _⟩ := parse_divides "com.example.Outer.inner"
  refine ⟨⟨nestedRead, (divides nested nestedRead).1⟩,
    ⟨memberRead, (memberDivides member memberRead).1⟩, ?_⟩
  rw [ne_eq, apart _ _ _ nestedRead memberRead]
  decide

end BuildDeps.ClassName.Members
