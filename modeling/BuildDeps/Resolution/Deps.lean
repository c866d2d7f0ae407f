import BuildDeps.ImportName
import BuildDeps.Resolution.Package

/-!
The dependency list of a rule.

The imports of a rule are taken together by package, each package is resolved once, and the labels
found are written down with those that the rule lists already: in their shortest form, relative ones
first and by their texts, each once, and without the rule itself.
-/

namespace BuildDeps.Resolution

/-- A line of a dependency list: the text of a label, which stands before or among the others by
whether the label is relative. -/
structure Line where
  rank : Nat
  text : String
deriving DecidableEq, Repr, Inhabited

namespace Line

/-- The line of a label. -/
def ofLabel (label : Label) : Line :=
  ⟨label.rank, label.text⟩

/-- Relative labels first, then by text. -/
def order : Line → Line → Ordering :=
  compareLex (compareOn rank) (compareOn text)

instance : Ord Line := ⟨order⟩

instance : Std.TransOrd Line :=
  inferInstanceAs (Std.TransCmp (compareLex (compareOn rank) (compareOn text)))

instance : Std.LawfulEqOrd Line where
  eq_of_compare := by
    intro left right equal
    have parts : order left right = .eq := equal
    simp only [order, compareLex_eq_eq, compareOn, Std.compare_eq_iff_eq] at parts
    cases left
    cases right
    simp_all

end Line

/-- Whether a label, as a rule would write it, is that rule. -/
def isSelf (origin label : Label) : Bool :=
  label.relative && label.target = origin.target

/-- The dependency list of a rule from the labels that it is to hold. -/
def depsOfLabels (origin : Label) (labels : List Label) : List String :=
  (Ordered.ofList ((labels.filter (!isSelf origin ·)).map Line.ofLabel)).map (·.text)

/-- Packages with the classes that are imported from them, in ascending order of the packages. -/
abbrev PackageClasses := List (JvmPackage × List String)

/-- Adds the outermost class of an import to those of its package, once. -/
def addImport (packages : Table JvmPackage (List String)) (name : ImportName) :
    Table JvmPackage (List String) :=
  let classes := (packages.get? name.package).getD []
  packages.insert name.package
    (match name.classes.head? with
    | some outer => if classes.contains outer then classes else classes ++ [outer]
    | none => classes)

/-- Whether an import needs no dependency whatever provides its package. -/
def isOwnImport (origin : Origin) (name : ImportName) : Bool :=
  name.package.isUnnamed || origin.ownPackages.contains name.package

/-- Takes imports together by package, leaving out the packages of the rule itself. -/
def groupImports (origin : Origin) (imports : List String) : PackageClasses :=
  let names := (imports.map ImportName.parse).filter (!isOwnImport origin ·)
  let packages := names.foldl addImport Table.empty
  (Ordered.ofList packages.keys).map fun package =>
    (package, (packages.get? package).getD [])

namespace Context

/-- The labels that provide packages to a rule, in the form in which the rule writes them. -/
def resolveEach (context : Context) (origin : Origin) :
    PackageClasses → Cache → Outcome (List Label)
  | [], cache => ⟨[], cache, []⟩
  | (package, classes) :: rest, cache =>
    let first := context.resolvePackage origin package classes cache
    let others := resolveEach context origin rest first.cache
    { answer :=
        (first.answer.map (·.simplify context.config.repository origin.label)).toList ++
          others.answer
      cache := others.cache
      diagnostics := first.diagnostics ++ others.diagnostics }

/-- The dependency list of a rule that needs packages and lists labels already.  The first
malformed one of the latter is the error. -/
def resolvePackages (context : Context) (origin : Origin) (packages : PackageClasses)
    (existing : List String) (cache : Cache) :
    Outcome (Except Label.Malformed (List String)) :=
  let found := context.resolveEach origin packages cache
  { answer := (existing.mapM Label.parse).map fun listed =>
      depsOfLabels origin.label (found.answer ++ listed)
    cache := found.cache
    diagnostics := found.diagnostics }

/-- The dependency list of a rule from its imports. -/
def resolveImports (context : Context) (origin : Origin) (imports existing : List String)
    (cache : Cache) : Outcome (Except Label.Malformed (List String)) :=
  context.resolvePackages origin (groupImports origin imports) existing cache

end Context

end BuildDeps.Resolution
