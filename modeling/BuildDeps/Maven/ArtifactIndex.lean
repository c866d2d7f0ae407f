import BuildDeps.Diagnostic
import BuildDeps.Ordered

/-!
Which artifacts provide a package.

The index turns the install file around: it has, for every package, the artifacts that list it,
ascending and without repeats.
-/

namespace BuildDeps.Maven

/-- The artifacts of each package, by their texts. -/
structure ArtifactIndex where
  artifacts : Table JvmPackage (List String)
deriving DecidableEq, Repr

namespace ArtifactIndex

/-- The index without packages. -/
def empty : ArtifactIndex := ⟨Table.empty⟩

instance : Inhabited ArtifactIndex := ⟨empty⟩

/-- The artifacts of a package, if it is known. -/
def get? (index : ArtifactIndex) (package : JvmPackage) : Option (List String) :=
  index.artifacts.get? package

/-- Adds an artifact to those of a package. -/
def add (index : ArtifactIndex) (package : JvmPackage) (artifact : String) : ArtifactIndex :=
  ⟨index.artifacts.insert package (Ordered.insert artifact ((index.get? package).getD []))⟩

/-- The number of packages. -/
def size (index : ArtifactIndex) : Nat := index.artifacts.size

/-- Whether no package is known. -/
def isEmpty (index : ArtifactIndex) : Bool := index.size = 0

/-- The named packages in ascending order, each with its artifacts. -/
def listing (index : ArtifactIndex) : List (JvmPackage × List String) :=
  ((Ordered.ofList index.artifacts.keys).filter (!·.isUnnamed)).map fun package =>
    (package, (index.get? package).getD [])

/-- Adds an artifact to the packages that it provides. -/
def addArtifact (index : ArtifactIndex) (artifact : String) (packages : List String) :
    ArtifactIndex :=
  packages.foldl (fun index package => index.add ⟨package⟩ artifact) index

/-- Adds what an install file records of one artifact; one with a malformed coordinate adds
nothing. -/
def addDependency (file : InstallFile) (index : ArtifactIndex) (dependency : Dependency) :
    ArtifactIndex :=
  match file.resolvedCoordinate dependency with
  | .ok coordinate => index.addArtifact coordinate.artifactText dependency.packages
  | .error _ => index

/-- The index of an install file. -/
def ofInstallFile (file : InstallFile) : ArtifactIndex :=
  file.dependencies.foldl (addDependency file) empty

/-- The dependencies of an install file that its index passes over. -/
def skipped (file : InstallFile) : List Diagnostic :=
  file.dependencies.filterMap fun dependency =>
    match file.resolvedCoordinate dependency with
    | .ok _ => none
    | .error error => some (.skippedDependency dependency.coordinate error)

/-- Reads the index of an install file.  Without a readable file no package is known, which is
reported and is no failure. -/
def load {m : Type → Type} [Monad m] (files : FileAccess m) (path : String) :
    m (ArtifactIndex × List Diagnostic) := do
  match ← InstallFile.load files path with
  | .ok file => return (ofInstallFile file, skipped file)
  | .error error => return (empty, [.noInstallFile path error])

/-- Why a package has no artifact. -/
inductive Unresolved where
  | unprovided (package : JvmPackage)
  | ambiguous (package : JvmPackage) (candidates : List Label)
deriving DecidableEq, Repr, Inhabited

/-- The wording of a package without an artifact. -/
def Unresolved.message : Unresolved → String
  | .unprovided package => "no external imports provide package " ++ package.name
  | .ambiguous package candidates =>
    "package " ++ package.name ++ " is provided by multiple artifacts: " ++
      ", ".intercalate (candidates.map Label.text)

/-- The labels of the artifacts that provide a package, less those whose texts are excluded. -/
def candidates (index : ArtifactIndex) (package : JvmPackage) (excluded : List String)
    (repository : String) : List Label :=
  (((index.get? package).getD []).map (artifactLabel repository)).filter
    (!excluded.contains ·.text)

/-- The artifact that provides a package, if there is only one. -/
def resolve (index : ArtifactIndex) (package : JvmPackage) (excluded : List String)
    (repository : String) : Except Unresolved Label :=
  match index.candidates package excluded repository with
  | [] => .error (.unprovided package)
  | [only] => .ok only
  | many => .error (.ambiguous package many)

end ArtifactIndex

end BuildDeps.Maven
