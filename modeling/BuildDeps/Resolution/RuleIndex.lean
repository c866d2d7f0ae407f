import BuildDeps.JvmPackage
import BuildDeps.Label
import BuildDeps.Language
import BuildDeps.Table

/-!
Which rules declare a package.
-/

namespace BuildDeps.Resolution

/-- The rules of each package, in the order in which they were added.  Packages of languages with
one index name are the same packages. -/
structure RuleIndex where
  rules : Table (String × JvmPackage) (List Label)
deriving DecidableEq, Repr

namespace RuleIndex

/-- The index without rules. -/
def empty : RuleIndex := ⟨Table.empty⟩

instance : Inhabited RuleIndex := ⟨empty⟩

/-- The rules that declare a package. -/
def find (index : RuleIndex) (language : Language) (package : JvmPackage) : List Label :=
  (index.rules.get? (language.indexName, package)).getD []

/-- Adds a rule to those that declare a package, once. -/
def add (index : RuleIndex) (language : Language) (package : JvmPackage) (label : Label) :
    RuleIndex :=
  let declaring := index.find language package
  ⟨index.rules.insert (language.indexName, package)
    (if declaring.contains label then declaring else declaring ++ [label])⟩

/-- Takes away all rules that declare a package. -/
def remove (index : RuleIndex) (language : Language) (package : JvmPackage) : RuleIndex :=
  ⟨index.rules.erase (language.indexName, package)⟩

end RuleIndex

end BuildDeps.Resolution
