import BuildDeps.Text.Fields

/-!
Names of JVM packages: dot-separated, such as `com.example.util`.  The empty name is the unnamed
package.
-/

namespace BuildDeps

/-- The name of a package of compiled classes. -/
structure JvmPackage where
  name : String
deriving DecidableEq, Repr, Inhabited

namespace JvmPackage

instance : Ord JvmPackage := ⟨compareOn name⟩

instance : Std.TransOrd JvmPackage := inferInstanceAs (Std.TransCmp (compareOn name))

instance : Std.LawfulEqOrd JvmPackage where
  eq_of_compare := by
    intro left right equal
    have names : compare left.name right.name = .eq := equal
    cases left
    cases right
    simp_all

/-- Whether this is the unnamed package. -/
def isUnnamed (package : JvmPackage) : Bool :=
  package.name.isEmpty

/-- Whether `ancestor` names the package itself or one that contains it.  Only whole segments
count: `kotlin` contains `kotlin.collections` and not `kotlinx`. -/
def isWithin (package ancestor : JvmPackage) : Bool :=
  package = ancestor ||
    match ancestor.name.toList.isPrefixOf? package.name.toList with
    | some ('.' :: _) => true
    | _ => false

end JvmPackage

end BuildDeps
