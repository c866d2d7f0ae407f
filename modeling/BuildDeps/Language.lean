/-!
The source languages of the rules.
-/

namespace BuildDeps

/-- A language that compiles to JVM packages. -/
inductive Language where
  | java
  | kotlin
deriving DecidableEq, Repr, Inhabited

namespace Language

/-- The written name of a language. -/
def name : Language → String
  | .java => "java"
  | .kotlin => "kotlin"

/-- The language of a written name. -/
def ofName? : String → Option Language
  | "java" => some .java
  | "kotlin" => some .kotlin
  | _ => none

/-- The name under which rules of the language are indexed.  Kotlin shares the name of Java, since
rules of either language declare the same kind of package. -/
def indexName : Language → String
  | .java => "java"
  | .kotlin => "java"

end Language

end BuildDeps
