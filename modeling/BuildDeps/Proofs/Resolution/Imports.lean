import BuildDeps.Proofs.Collections
import BuildDeps.Proofs.Resolution.Deps
import BuildDeps.Proofs.Resolution.RuleIndex

/-!
Imports as a set of packages.

The packages that a rule asks for are those that its imports name and that are neither unnamed nor its
own, in ascending order.  How an import is spelled, which class of a package it names, and how often
and where in the list it stands, only shows in what is reported: neither the dependency list nor the
cache depends on it.
-/

namespace BuildDeps.Resolution

variable {context : Context} {origin : Origin} {package : JvmPackage} {classes given : List String}
  {cache : Cache} {packages others : PackageClasses} {imports one other existing : List String}

/-! ### The packages that are asked for -/

/-- A package that a rule needs for one of its imports: it is not the unnamed package, and no package of
the rule itself. -/
structure Needs (origin : Origin) (imports : List String) (package : JvmPackage) : Prop where
  imported : ∃ raw ∈ imports, (ImportName.parse raw).package = package
  named : package.isUnnamed = false
  foreign : package ∉ origin.ownPackages

/-- The packages that a rule asks for are those that it needs. -/
theorem mem_packages_groupImports :
    package ∈ (groupImports origin imports).map (·.1) ↔ Needs origin imports package := by
  have listed : package ∈ (groupImports origin imports).map (·.1) ↔
      ∃ classes, (package, classes) ∈ groupImports origin imports := by
    simp [List.mem_map]
  rw [listed, exists_mem_groupImports]
  simp only [isOwnImport, Bool.or_eq_false_iff, List.contains_eq_mem, decide_eq_false_iff_not]
  constructor
  · intro needed
    obtain ⟨raw, present, ⟨named, foreign⟩, rfl⟩ := needed
    exact ⟨⟨raw, present, rfl⟩, named, foreign⟩
  · intro needs
    obtain ⟨raw, present, rfl⟩ := needs.imported
    exact ⟨raw, present, ⟨needs.named, needs.foreign⟩, rfl⟩

/-- A rule asks for its packages in their order, for each once. -/
theorem ascending_packages_groupImports :
    Ordered.Ascending ((groupImports origin imports).map (·.1)) := by
  rw [groupImports, List.map_map]
  exact (List.map_id _).symm ▸ Ordered.ascending_ofList _

/-- Imports that need the same packages have the rule ask for the same packages in the same order. -/
theorem packages_groupImports_eq
    (same : ∀ package, Needs origin one package ↔ Needs origin other package) :
    (groupImports origin one).map (·.1) = (groupImports origin other).map (·.1) := by
  apply ascending_packages_groupImports.eq_of_mem_iff ascending_packages_groupImports
  intro package
  rw [mem_packages_groupImports, mem_packages_groupImports, same]

/-! ### Classes in reports -/

/-- Two outcomes that differ in nothing but what is reported. -/
structure Outcome.SameResult {α : Type} (one other : Outcome α) : Prop where
  answer : one.answer = other.answer
  cache : one.cache = other.cache

namespace Context

/-- The classes of a package only show in what is reported of it. -/
theorem sameResult_resolveElsewhere :
    (context.resolveElsewhere origin package classes cache).SameResult
      (context.resolveElsewhere origin package given cache) := by
  unfold resolveElsewhere
  cases cache.get package with
  | mk kept used =>
      cases kept with
      | some label => exact ⟨rfl, rfl⟩
      | none => cases context.provider origin.language package <;> exact ⟨rfl, rfl⟩

/-- The classes that are imported from a package only show in reports. -/
theorem sameResult_resolvePackage :
    (context.resolvePackage origin package classes cache).SameResult
      (context.resolvePackage origin package given cache) := by
  have elsewhere : (context.resolveElsewhere origin package classes cache).SameResult
      (context.resolveElsewhere origin package given cache) := sameResult_resolveElsewhere
  unfold resolvePackage
  cases context.config.override? package with
  | some label => exact ⟨rfl, rfl⟩
  | none =>
      cases context.ruleMatch origin package with
      | unique label => exact ⟨rfl, rfl⟩
      | standIn exporter => exact ⟨rfl, rfl⟩
      | absent | several | severalStandIns => exact ⟨elsewhere.answer, elsewhere.cache⟩

/-- Each call leaves the same cache to the next one, so that packages come to the same with any
classes. -/
theorem sameResult_resolveEach (same : packages.map (·.1) = others.map (·.1)) :
    (context.resolveEach origin packages cache).SameResult
      (context.resolveEach origin others cache) := by
  induction packages generalizing others cache with
  | nil =>
      cases others with
      | nil => exact ⟨rfl, rfl⟩
      | cons entry rest => cases same
  | cons entry rest ih =>
      cases others with
      | nil => cases same
      | cons otherEntry otherRest =>
          obtain ⟨package, classes⟩ := entry
          obtain ⟨otherPackage, given⟩ := otherEntry
          obtain ⟨samePackage, sameRest⟩ := List.cons.inj same
          obtain rfl : package = otherPackage := samePackage
          have first : (context.resolvePackage origin package classes cache).SameResult
              (context.resolvePackage origin package given cache) := sameResult_resolvePackage
          -- The hypothesis is about any cache; here both runs go on from the same one.
          have later : (context.resolveEach origin rest
                (context.resolvePackage origin package classes cache).cache).SameResult
              (context.resolveEach origin otherRest
                (context.resolvePackage origin package given cache).cache) := by
            rw [first.cache]
            exact ih sameRest
          refine ⟨?_, later.cache⟩
          rw [resolveEach, resolveEach, first.answer, later.answer]

/-- Of its imports, the dependency list of a rule and the cache that is left behind only show which
packages the rule needs. -/
theorem resolveImports_depends_on_needed_packages (context : Context) (origin : Origin)
    (existing : List String) (cache : Cache) {one other : List String}
    (same : ∀ package, Needs origin one package ↔ Needs origin other package) :
    (context.resolveImports origin one existing cache).answer =
        (context.resolveImports origin other existing cache).answer ∧
      (context.resolveImports origin one existing cache).cache =
        (context.resolveImports origin other existing cache).cache := by
  have found : (context.resolveEach origin (groupImports origin one) cache).SameResult
      (context.resolveEach origin (groupImports origin other) cache) :=
    sameResult_resolveEach (packages_groupImports_eq same)
  refine ⟨?_, found.cache⟩
  simp only [resolveImports, resolvePackages, found.answer]

end Context

end BuildDeps.Resolution

/-! ### Imports that are spelled otherwise -/

namespace BuildDeps.Resolution.Respelled

open Export.Layered

def origin : Origin := { label := app, ownPackages := [⟨"app"⟩] }

/-- A package twice, another one by a nested class, and a package of the rule itself. -/
def imports : List String := ["util.Text", "app.Main", "core.$Engine$State", "util.List"]

/-- The same packages in another order, as a whole or by other classes. -/
def respelled : List String := ["core.Engine.start", "Unnamed", "util.*"]

theorem same (package : JvmPackage) :
    Needs origin imports package ↔ Needs origin respelled package := by
  have list : (groupImports origin imports).map (·.1) = [⟨"core"⟩, ⟨"util"⟩] := by decide +kernel
  have otherList : (groupImports origin respelled).map (·.1) = [⟨"core"⟩, ⟨"util"⟩] := rfl
  rw [← mem_packages_groupImports, ← mem_packages_groupImports, list, otherList]

/-- With either spelling, the rule is given the kit for the package that the kit exports, and the rule
that declares the other package. -/
theorem respelled_imports_need_kit_and_util :
    (Layered.context.resolveImports origin respelled [] (.ofCapacity 1)).answer =
        .ok ["//dist:kit", "//util"] ∧
      (Layered.context.resolveImports origin respelled [] (.ofCapacity 1)).cache =
        (Layered.context.resolveImports origin imports [] (.ofCapacity 1)).cache := by
  obtain ⟨answers, caches⟩ := Layered.context.resolveImports_depends_on_needed_packages origin []
    (.ofCapacity 1) same
  have found : (Layered.context.resolveImports origin imports [] (.ofCapacity 1)).answer =
      .ok ["//dist:kit", "//util"] := by decide +kernel
  exact ⟨answers.symm.trans found, caches.symm⟩

end BuildDeps.Resolution.Respelled
