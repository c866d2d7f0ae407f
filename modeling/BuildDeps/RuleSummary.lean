import BuildDeps.ClassName
import BuildDeps.Ordered
import BuildDeps.SourceUnit

/-!
What the export phase has to know about a rule: the packages it declares, those it imports from
elsewhere, and those it exports.  All three are ascending and without repeats.
-/

namespace BuildDeps

/-- The packages of a rule. -/
structure RuleSummary where
  declares : List JvmPackage
  imports : List JvmPackage
  exports : List JvmPackage
deriving DecidableEq, Repr, Inhabited

namespace RuleSummary

/-- A summary from packages in any order.  A package that the rule declares itself is no import. -/
def ofPackages (declares imports exports : List JvmPackage) : RuleSummary where
  declares := Ordered.ofList declares
  imports := Ordered.ofList (imports.filter (!declares.contains ·))
  exports := Ordered.ofList exports

/-- The packages of those texts that are class names. -/
def classPackages (classes : List String) : List JvmPackage :=
  classes.filterMap fun text => (ClassName.parse text).toOption.map (·.package)

/-- The packages that a unit imports, of classes and as a whole. -/
def importedPackages (unit : SourceUnit) : List JvmPackage :=
  classPackages unit.importedClasses ++ unit.importedPackages.map JvmPackage.mk

/-- The summary of a rule that is compiled from source units.  A text that is no class name says
nothing, and the unnamed package cannot be imported. -/
def ofUnits (units : List SourceUnit) : RuleSummary :=
  ofPackages (units.map (·.package))
    ((units.flatMap importedPackages).filter (!·.isUnnamed))
    (units.flatMap fun unit => classPackages unit.exportedClasses)

end RuleSummary

end BuildDeps
