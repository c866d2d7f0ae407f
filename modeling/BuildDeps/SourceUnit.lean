import BuildDeps.Json.Record
import BuildDeps.JvmPackage

/-!
What a source parser reports about the files of one package.
-/

namespace BuildDeps

/-- The package of some source files, what they import, and the classes that their own interface
shows. -/
structure SourceUnit where
  package : JvmPackage
  importedClasses : List String := []
  importedPackages : List String := []
  exportedClasses : List String := []
  mains : List String := []
deriving DecidableEq, Repr, Inhabited

namespace SourceUnit

/-- All imports as they are written: of classes first, then of whole packages. -/
def rawImports (unit : SourceUnit) : List String :=
  unit.importedClasses ++ unit.importedPackages

/-- Reads a unit; only its package has to be there. -/
def ofJson? (json : Json) : Option SourceUnit := do
  let record ← json.record?
    ["package_name", "imported_classes", "imported_packages", "exported_classes", "mains"]
  let package ← record.required "package_name" Json.text?
  let importedClasses ← record.texts "imported_classes"
  let importedPackages ← record.texts "imported_packages"
  let exportedClasses ← record.texts "exported_classes"
  let mains ← record.texts "mains"
  some ⟨⟨package⟩, importedClasses, importedPackages, exportedClasses, mains⟩

end SourceUnit

end BuildDeps
