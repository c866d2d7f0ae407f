import BuildDeps.JvmPackage
import BuildDeps.Language

/-!
The packages that come with the language runtime and need no dependency.
-/

namespace BuildDeps.StandardLibrary

/-- The packages of the Java runtime, each with all packages within it. -/
def java : List JvmPackage :=
  [
    ⟨"com.sun.management"⟩, ⟨"com.sun.net.httpserver"⟩, ⟨"java"⟩, ⟨"javax.annotation.security"⟩,
    ⟨"javax.crypto"⟩, ⟨"javax.management"⟩, ⟨"javax.naming"⟩, ⟨"javax.net"⟩, ⟨"javax.security"⟩,
    ⟨"javax.xml"⟩, ⟨"jdk"⟩, ⟨"org.w3c.dom"⟩, ⟨"org.xml.sax"⟩, ⟨"sun"⟩
  ]

/-- The packages of a language's runtime.  Kotlin adds its own to those of Java. -/
def packages : Language → List JvmPackage
  | .java => java
  | .kotlin => java ++ [⟨"kotlin"⟩]

/-- Whether a package comes with the runtime of a language. -/
def provides (package : JvmPackage) (language : Language) : Bool :=
  (packages language).any package.isWithin

end BuildDeps.StandardLibrary
