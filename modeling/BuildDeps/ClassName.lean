import BuildDeps.JvmPackage
import BuildDeps.Text.CharClass
import BuildDeps.Text.Quoted

/-!
Fully qualified class names.

A name such as `com.example.Outer.Inner` falls into a package, an outermost class and a chain of
nested classes.  Classes are capitalised and packages are not, so the longest run of capitalised
segments at the end is the class chain; a name that ends in a small letter still has its last
segment as its class.
-/

namespace BuildDeps

/-- A class, by its package, its outermost class and the classes nested in that. -/
structure ClassName where
  package : JvmPackage
  outer : String
  inner : List String
deriving DecidableEq, Repr, Inhabited

namespace ClassName

/-- Why a text is no class name. -/
inductive Malformed where
  | empty
  | emptySegment (input : String)
deriving DecidableEq, Repr, Inhabited

/-- The wording of a malformed class name. -/
def Malformed.message : Malformed → String
  | .empty => "Parsing Error in class name: empty class name"
  | .emptySegment input => "Parsing Error in class name: empty segment in " ++ Text.quoted input

/-- How many segments at the end are classes: the longest capitalised run, and at least one. -/
def classCount (segments : List String) : Nat :=
  max (segments.reverse.takeWhile Text.startsUppercase).length 1

/-- Splits segments where their classes begin. -/
def ofSegments (segments : List String) : ClassName :=
  let start := segments.length - classCount segments
  let classes := segments.drop start
  ⟨⟨Text.joinFields '.' (segments.take start)⟩, classes.headD "", classes.tail⟩

/-- Reads a class name.  No segment may be empty. -/
def parse (input : String) : Except Malformed ClassName :=
  let segments := Text.fields '.' input
  if input = "" then .error .empty
  else if segments.contains "" then .error (.emptySegment input)
  else .ok (ofSegments segments)

/-- The name with its package in front; the unnamed package adds nothing. -/
def fullName (className : ClassName) : String :=
  Text.joinFields '.'
    ((if className.package.isUnnamed then [] else [className.package.name]) ++
      className.outer :: className.inner)

/-- Class names are ordered by their full names. -/
instance : Ord ClassName := ⟨compareOn fullName⟩

end ClassName

end BuildDeps
