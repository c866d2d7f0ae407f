import BuildDeps.Resolution.Cache
import BuildDeps.Resolution.Context
import BuildDeps.StandardLibrary

/-!
The label that provides a package.

An override decides in any case.  Then come the rules of the repository, what was found before, the
runtime of the language, and the external artifacts.  What is found is kept for later, but for an
override and for an export that stands in for a rule: the latter depends on who asks.  A package
that nothing provides, or that several things do, is reported and has no label.
-/

namespace BuildDeps.Resolution

/-- The answer of a computation that uses the cache and reports what it comes across. -/
structure Outcome (α : Type) where
  answer : α
  cache : Cache
  diagnostics : List Diagnostic
deriving Inhabited

/-- What provides a package outside the repository. -/
inductive Provider where
  /-- The runtime of the language, without any label. -/
  | runtime
  /-- A label. -/
  | label (label : Label)
  /-- Several artifacts. -/
  | several (candidates : List Label)
  /-- Nothing. -/
  | nothing
deriving DecidableEq, Repr, Inhabited

/-- The package that gives a program access to its files at run time. -/
def runfilesPackage : JvmPackage := ⟨"com.google.devtools.build.runfiles"⟩

/-- The label that provides it. -/
def runfilesLabel : Label := ⟨"bazel_tools", "tools/java/runfiles", "runfiles", false⟩

namespace Context

/-- What provides a package outside the repository. -/
def provider (context : Context) (language : Language) (package : JvmPackage) : Provider :=
  if StandardLibrary.provides package language then .runtime
  else if package = runfilesPackage then .label runfilesLabel
  else
    match context.artifacts.resolve package context.config.excluded
        context.config.mavenRepository with
    | .ok label => .label label
    | .error (.unprovided _) => .nothing
    | .error (.ambiguous _ candidates) => .several candidates

/-- The report that nothing provides a package.  A test may declare packages itself that nothing
else provides. -/
def unprovided (origin : Origin) (package : JvmPackage) (classes : List String) :
    List Diagnostic :=
  if origin.isTest && origin.ownPackages.contains package then []
  else [.unprovided package origin.label classes]

/-- The report that several artifacts provide a package. -/
def choices (package : JvmPackage) (classes : List String) (candidates : List Label) :
    List Diagnostic :=
  .ambiguousArtifacts classes :: candidates.map (.artifactChoice package)

/-- The label of a package that the rules of the repository leave open. -/
def resolveElsewhere (context : Context) (origin : Origin) (package : JvmPackage)
    (classes : List String) (cache : Cache) : Outcome (Option Label) :=
  match cache.get package with
  | (some label, cache) => ⟨some label, cache, []⟩
  | (none, cache) =>
    match context.provider origin.language package with
    | .runtime => ⟨none, cache, []⟩
    | .label label => ⟨some label, cache.insert package label, []⟩
    | .several candidates =>
      ⟨none, cache, choices package classes candidates ++ unprovided origin package classes⟩
    | .nothing => ⟨none, cache, unprovided origin package classes⟩

/-- The label that provides a package to a rule.  The classes that the rule imports from it only
show in reports. -/
def resolvePackage (context : Context) (origin : Origin) (package : JvmPackage)
    (classes : List String) (cache : Cache) : Outcome (Option Label) :=
  match context.config.override? package with
  | some label => ⟨some label, cache, []⟩
  | none =>
    match context.ruleMatch origin package with
    | .unique label => ⟨some label, cache.insert package label, []⟩
    | .standIn exporter => ⟨some exporter, cache, []⟩
    | unsettled =>
      let outcome := context.resolveElsewhere origin package classes cache
      { outcome with
        diagnostics := unsettled.remarks package origin.label ++ outcome.diagnostics }

end Context

end BuildDeps.Resolution
