import BuildDeps.JvmPackage
import BuildDeps.Text.CharClass

/-!
Imports as source files write them: `com.example.Foo`, `com.example.Outer.Inner.member`,
`com.example.*`.

Package segments are in small letters by convention, so the package ends at the first segment that
begins with a capital.  A segment that begins with an underscore also ends it, since it names a
member, unless it is the marker of test-only packages.
-/

namespace BuildDeps

/-- An import, split where its classes begin. -/
structure ImportName where
  package : JvmPackage
  classes : List String
deriving DecidableEq, Repr, Inhabited

namespace ImportName

/-- The segment that begins with an underscore and still belongs to a package. -/
def testOnlyMarker : String := "_TESTONLY"

/-- Whether a segment ends the package. -/
def endsPackage (segment : String) : Bool :=
  Text.startsUppercase segment ||
    (segment.toList.head? = some '_' && !testOnlyMarker.toList.isPrefixOf segment.toList)

/-- Leaves out the `$` of nested class names and one final `.*`. -/
def clean (raw : String) : String :=
  let chars := raw.toList.filter (· ≠ '$')
  match chars.reverse with
  | '*' :: '.' :: rest => String.ofList rest.reverse
  | _ => String.ofList chars

/-- Splits an import at its first class. -/
def parse (raw : String) : ImportName :=
  let (package, classes) := (Text.fields '.' (clean raw)).span (!endsPackage ·)
  ⟨⟨Text.joinFields '.' package⟩, classes⟩

end ImportName

end BuildDeps
