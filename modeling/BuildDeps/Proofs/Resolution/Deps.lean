import BuildDeps.Proofs.Resolution.Provenance
import BuildDeps.Resolution.Deps

/-!
What a dependency list holds.

The members of the list are the texts of labels that single calls answer with, each call on a cache
that earlier calls led to.
-/

namespace BuildDeps.Resolution

variable {context : Context} {origin : Origin} {package : JvmPackage} {classes : List String}
  {cache : Cache} {label found : Label} {text : String} {packages : PackageClasses}
  {imports existing : List String}

/-- A dependency list has the texts of all labels that are not the rule itself. -/
theorem mem_depsOfLabels {owner : Label} {labels : List Label} :
    text ∈ depsOfLabels owner labels ↔
      ∃ label ∈ labels, isSelf owner label = false ∧ label.text = text := by
  simp only [depsOfLabels, List.mem_map, Ordered.mem_ofList, List.mem_filter, Bool.not_eq_true']
  constructor
  · intro written
    obtain ⟨line, ⟨label, ⟨member, other⟩, rfl⟩, rfl⟩ := written
    exact ⟨label, member, other, rfl⟩
  · intro written
    obtain ⟨label, member, other, rfl⟩ := written
    exact ⟨.ofLabel label, ⟨label, ⟨member, other⟩, rfl⟩, rfl⟩

/-- After some imports, the packages are those that were there and those of the imports. -/
theorem contains_foldl_addImport (names : List ImportName)
    (packages : Table JvmPackage (List String)) :
    (names.foldl addImport packages).contains package = true ↔
      packages.contains package = true ∨ ∃ name ∈ names, name.package = package := by
  induction names generalizing packages with
  | nil => simp
  | cons name rest ih =>
      rw [List.foldl_cons, ih, addImport, Table.contains_insert, List.exists_mem_cons_iff,
        ← or_assoc, or_comm (a := package = name.package), eq_comm (a := package)]

/-- The packages to resolve are those of the imports that need a dependency. -/
theorem exists_mem_groupImports :
    (∃ classes, (package, classes) ∈ groupImports origin imports) ↔
      ∃ raw ∈ imports, isOwnImport origin (ImportName.parse raw) = false ∧
        (ImportName.parse raw).package = package := by
  have members : (∃ classes, (package, classes) ∈ groupImports origin imports) ↔
      ∃ name ∈ (imports.map ImportName.parse).filter (!isOwnImport origin ·),
        name.package = package := by
    simp only [groupImports, List.mem_map, Ordered.mem_ofList, Table.mem_keys,
      contains_foldl_addImport, Prod.mk.injEq]
    constructor
    · rintro ⟨classes, other, declared | named, rfl, _⟩
      · cases declared
      · exact named
    · intro named
      exact ⟨_, package, Or.inr named, rfl, rfl⟩
  rw [members]
  constructor
  · intro named
    obtain ⟨name, member, rfl⟩ := named
    obtain ⟨listed, needed⟩ := List.mem_filter.1 member
    obtain ⟨raw, present, rfl⟩ := List.mem_map.1 listed
    exact ⟨raw, present, by simpa using needed, rfl⟩
  · intro imported
    obtain ⟨raw, present, needed, rfl⟩ := imported
    refine ⟨ImportName.parse raw, List.mem_filter.2 ⟨?_, by simpa using needed⟩, rfl⟩
    exact List.mem_map.2 ⟨raw, present, rfl⟩

namespace Context

/-- Every label is one that some call answered with. -/
theorem exists_answer_of_mem_resolveEach (reached : context.Reached cache)
    (member : label ∈ (context.resolveEach origin packages cache).answer) :
    ∃ package classes earlier found, (package, classes) ∈ packages ∧ context.Reached earlier ∧
      (context.resolvePackage origin package classes earlier).answer = some found ∧
      label = found.simplify context.config.repository origin.label := by
  induction packages generalizing cache with
  | nil => cases member
  | cons first rest ih =>
      obtain ⟨package, classes⟩ := first
      rw [resolveEach, List.mem_append] at member
      rcases member with now | later
      · rw [Option.mem_toList, Option.map_eq_some_iff] at now
        obtain ⟨found, answered, rfl⟩ := now
        exact ⟨package, classes, cache, found, List.mem_cons_self, reached, answered, rfl⟩
      · obtain ⟨other, others, earlier, found, listed, rest⟩ :=
          ih (reached.call origin package classes) later
        exact ⟨other, others, earlier, found, List.mem_cons_of_mem _ listed, rest⟩

/-- A label that a package has in any case is among those found. -/
theorem mem_resolveEach_of_answer (member : (package, classes) ∈ packages)
    (always : ∀ cache,
      (context.resolvePackage origin package classes cache).answer = some found) :
    found.simplify context.config.repository origin.label ∈
      (context.resolveEach origin packages cache).answer := by
  induction packages generalizing cache with
  | nil => cases member
  | cons first rest ih =>
      obtain ⟨other, others⟩ := first
      rw [resolveEach, List.mem_append]
      rcases List.mem_cons.1 member with same | later
      · cases same
        rw [always cache]
        exact Or.inl List.mem_cons_self
      · exact Or.inr (ih later)

/-- The caches that the calls of a rule lead to are in use. -/
theorem Reached.resolveEach (reached : context.Reached cache) (origin : Origin)
    (packages : PackageClasses) :
    context.Reached (context.resolveEach origin packages cache).cache := by
  induction packages generalizing cache with
  | nil => exact reached
  | cons first rest ih => exact ih (reached.call origin first.1 first.2)

end Context

end BuildDeps.Resolution
