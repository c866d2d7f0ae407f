import BuildDeps.Proofs.Resolution.Imports
import BuildDeps.Proofs.Resolution.Listing

/-!
What is reported of imports.

Each package that a rule needs is asked for once.  If the call has a label, then the label is in the
dependency list, unless it is the rule itself; if it has none, then there is one warning that nothing
provides the package, unless the package comes with the runtime of the rule's language.  So nothing that
a rule imports is passed over in silence, and nothing is reported twice.
-/

namespace BuildDeps

namespace Diagnostic

variable {diagnostic : Diagnostic} {package wanted : JvmPackage}

/-- Whether a diagnostic is the warning that nothing provides a package. -/
def warnsOf (wanted : JvmPackage) (diagnostic : Diagnostic) : Bool :=
  diagnostic.level = .warning ∧
    diagnostic.message = "Unable to find package for import in any dependency" ∧
      ("package", wanted.name) ∈ diagnostic.fields

/-- The warning of an unprovided package warns of that package, whatever the origin. -/
theorem warnsOf_unprovided {origin : Label} {classes : List String} :
    (unprovided package origin classes).warnsOf wanted = true ↔ wanted = package := by
  have worded : (unprovided package origin classes).message =
      "Unable to find package for import in any dependency" := rfl
  have names : wanted = package ↔ wanted.name = package.name := by
    rw [JvmPackage.mk.injEq]
  simp [warnsOf, level, worded, fields, names]

/-- No other diagnostic can be taken for the warning: its level is another, or it does not name a
package. -/
theorem exists_eq_unprovided_of_warnsOf (warns : diagnostic.warnsOf wanted = true) :
    ∃ origin classes, diagnostic = unprovided wanted origin classes := by
  cases diagnostic with
  | unprovided package origin classes =>
      obtain rfl := warnsOf_unprovided.1 warns
      exact ⟨origin, classes, rfl⟩
  | skippedDependency | noInstallFile | exportWithSources => simp [warnsOf, fields] at warns
  | exportConflict | ambiguousExports | ambiguousRules | ambiguousArtifacts | artifactChoice =>
      simp [warnsOf, level] at warns

end Diagnostic

namespace Resolution

variable {context : Context} {origin : Origin} {package wanted : JvmPackage} {classes : List String}
  {cache : Cache} {packages earlier later : PackageClasses} {imports existing deps : List String}
  {label : Label}

/-- The warnings among diagnostics that nothing provides a package. -/
def warningsOf (wanted : JvmPackage) (diagnostics : List Diagnostic) : List Diagnostic :=
  diagnostics.filter (·.warnsOf wanted)

theorem warningsOf_append {diagnostics more : List Diagnostic} :
    warningsOf wanted (diagnostics ++ more) = warningsOf wanted diagnostics ++ warningsOf wanted more :=
  List.filter_append _ _

/-- Only the warnings of unprovided packages warn of any. -/
theorem warningsOf_eq_nil {diagnostics : List Diagnostic}
    (others : ∀ origin classes, .unprovided wanted origin classes ∉ diagnostics) :
    warningsOf wanted diagnostics = [] := by
  apply List.filter_eq_nil_iff.2
  intro diagnostic member warns
  obtain ⟨origin, classes, rfl⟩ := Diagnostic.exists_eq_unprovided_of_warnsOf warns
  exact others origin classes member

/-- What is remarked of several matches is no warning. -/
theorem warningsOf_remarks {found : RuleMatch} :
    warningsOf wanted (found.remarks package label) = [] := by
  apply warningsOf_eq_nil
  intro origin classes member
  cases found with
  | several | severalStandIns => cases List.mem_singleton.1 member
  | absent | unique | standIn => cases member

/-- The choices that a package leaves open are no warning. -/
theorem warningsOf_choices {candidates : List Label} :
    warningsOf wanted (Context.choices package classes candidates) = [] := by
  apply warningsOf_eq_nil
  intro origin classes member
  simp [Context.choices] at member

/-- A package that is not one of the rule itself is warned of once. -/
theorem warningsOf_unprovided_self (foreign : package ∉ origin.ownPackages) :
    warningsOf package (Context.unprovided origin package classes) =
      [.unprovided package origin.label classes] := by
  have reported : Context.unprovided origin package classes =
      [.unprovided package origin.label classes] := by
    simp [Context.unprovided, foreign]
  rw [reported, warningsOf, List.filter_cons_of_pos (Diagnostic.warnsOf_unprovided.2 rfl),
    List.filter_nil]

/-- Of one package that is unprovided there is no warning for another. -/
theorem warningsOf_unprovided_of_ne (different : wanted ≠ package) :
    warningsOf wanted (Context.unprovided origin package classes) = [] := by
  apply warningsOf_eq_nil
  intro other given member
  unfold Context.unprovided at member
  split at member
  · cases member
  · cases List.mem_singleton.1 member
    exact different rfl

namespace Context

/-- The runtime is what provides a package exactly if the package comes with it, whatever artifacts
there are. -/
theorem provider_eq_runtime_iff {language : Language} :
    context.provider language package = .runtime ↔
      StandardLibrary.provides package language = true := by
  constructor
  · intro found
    by_contra missing
    unfold provider at found
    rw [if_neg missing] at found
    split at found
    · cases found
    · split at found <;> cases found
  · exact provider_of_provides

/-! ### The warnings of a call -/

/-- Where neither the cache nor anything outside has a label for a package, there is a warning, unless
it comes with the runtime. -/
theorem warningsOf_resolveElsewhere :
    let outcome := context.resolveElsewhere origin package classes cache
    warningsOf wanted outcome.diagnostics =
      if outcome.answer = none ∧ StandardLibrary.provides package origin.language = false
      then warningsOf wanted (unprovided origin package classes) else [] := by
  unfold resolveElsewhere
  cases cache.get package with
  | mk kept used =>
      cases kept with
      | some label => simp [warningsOf]
      | none =>
          cases found : context.provider origin.language package with
          | runtime => simp [warningsOf, provider_eq_runtime_iff.1 found]
          | label label => simp [warningsOf]
          | several | nothing =>
              have missing : StandardLibrary.provides package origin.language = false := by
                rw [Bool.eq_false_iff, ne_eq, ← provider_eq_runtime_iff, found]
                nofun
              simp [missing, warningsOf_append, warningsOf_choices]

/-- A call warns of a package that it has no label for, unless the package comes with the runtime. -/
theorem warningsOf_resolvePackage :
    let outcome := context.resolvePackage origin package classes cache
    warningsOf wanted outcome.diagnostics =
      if outcome.answer = none ∧ StandardLibrary.provides package origin.language = false
      then warningsOf wanted (unprovided origin package classes) else [] := by
  unfold resolvePackage
  cases context.config.override? package with
  | some label => simp [warningsOf]
  | none =>
      cases context.ruleMatch origin package with
      | unique label => simp [warningsOf]
      | standIn exporter => simp [warningsOf]
      -- No single match: what is remarked of the matches is no warning, and the search goes on.
      | absent | several | severalStandIns =>
          simp only [warningsOf_append, warningsOf_remarks, List.nil_append]
          exact warningsOf_resolveElsewhere

/-- A call warns of no package but its own. -/
theorem warningsOf_resolvePackage_of_ne (different : wanted ≠ package) :
    warningsOf wanted (context.resolvePackage origin package classes cache).diagnostics = [] := by
  rw [warningsOf_resolvePackage, warningsOf_unprovided_of_ne different, ite_self]

/-! ### The warnings of calls made one after the other -/

/-- Calls for other packages do not warn of a package. -/
theorem warningsOf_resolveEach_of_absent (absent : wanted ∉ packages.map (·.1)) :
    warningsOf wanted (context.resolveEach origin packages cache).diagnostics = [] := by
  induction packages generalizing cache with
  | nil => rfl
  | cons entry rest ih =>
      obtain ⟨package, classes⟩ := entry
      rw [List.map_cons, List.mem_cons, not_or] at absent
      rw [resolveEach, warningsOf_append, warningsOf_resolvePackage_of_ne absent.1, ih absent.2]
      rfl

/-- Of a package that is asked for once, the warnings are those of its call. -/
theorem warningsOf_resolveEach (before : wanted ∉ earlier.map (·.1))
    (after : wanted ∉ later.map (·.1)) :
    warningsOf wanted
        (context.resolveEach origin (earlier ++ (wanted, classes) :: later) cache).diagnostics =
      warningsOf wanted (context.resolvePackage origin wanted classes
        (context.cacheAfter (callsFor origin earlier) cache)).diagnostics := by
  induction earlier generalizing cache with
  | nil =>
      rw [List.nil_append, resolveEach, warningsOf_append, warningsOf_resolveEach_of_absent after,
        List.append_nil]
      rfl
  | cons entry rest ih =>
      obtain ⟨package, given⟩ := entry
      rw [List.map_cons, List.mem_cons, not_or] at before
      rw [List.cons_append, resolveEach, warningsOf_append,
        warningsOf_resolvePackage_of_ne before.1, ih before.2]
      rfl

/-! ### Imports -/

/-- The rule asks for the packages in their order, and the call for one of them has the outcome. -/
def AskedInTurn (context : Context) (origin : Origin) (packages : PackageClasses) (cache : Cache)
    (wanted : JvmPackage) (outcome : Outcome (Option Label)) : Prop :=
  ∃ earlier classes later, packages = earlier ++ (wanted, classes) :: later ∧
    outcome = context.resolvePackage origin wanted classes
      (context.cacheAfter (callsFor origin earlier) cache)

/-- A package that stands among others is neither before nor after itself. -/
theorem absent_of_nodup
    (distinct : ((earlier ++ (wanted, classes) :: later).map (·.1)).Nodup) :
    wanted ∉ earlier.map (·.1) ∧ wanted ∉ later.map (·.1) := by
  rw [List.map_append, List.map_cons, List.nodup_append, List.nodup_cons] at distinct
  obtain ⟨_, ⟨after, _⟩, apart⟩ := distinct
  exact ⟨fun before => apart wanted before wanted List.mem_cons_self rfl, after⟩

/-- Of distinct packages, each is asked for by one call. -/
theorem AskedInTurn.unique {outcome other : Outcome (Option Label)}
    (distinct : (packages.map (·.1)).Nodup)
    (asked : context.AskedInTurn origin packages cache wanted outcome)
    (again : context.AskedInTurn origin packages cache wanted other) : other = outcome := by
  obtain ⟨earlier, classes, later, split, rfl⟩ := asked
  obtain ⟨before, given, after, resplit, rfl⟩ := again
  have unlisted : ∀ {packages : PackageClasses} {classes : List String},
      wanted ∉ packages.map (·.1) → (wanted, classes) ∉ packages :=
    fun absent member => absent (List.mem_map.2 ⟨_, member, rfl⟩)
  obtain ⟨notBefore, notAfter⟩ := absent_of_nodup (split ▸ distinct)
  -- The list splits at the package in one way only, so both calls find the same cache.
  rw [split] at resplit
  obtain ⟨rfl, same, _⟩ := (List.append_cons_inj_of_notMem (unlisted notBefore)
    (unlisted notAfter)).1 resplit
  cases same
  rfl

/-- Each package that a rule needs is asked for in its turn. -/
theorem exists_askedInTurn (context : Context) (cache : Cache) (needs : Needs origin imports wanted) :
    ∃ outcome, context.AskedInTurn origin (groupImports origin imports) cache wanted outcome := by
  obtain ⟨entry, member, rfl⟩ := List.mem_map.1 (mem_packages_groupImports.2 needs)
  obtain ⟨earlier, later, split⟩ := List.append_of_mem member
  exact ⟨_, earlier, entry.2, later, split, rfl⟩

/-- What is found for a package is in the list, unless it is the rule itself. -/
theorem AskedInTurn.mem_deps {outcome : Outcome (Option Label)}
    (asked : context.AskedInTurn origin packages cache wanted outcome)
    (succeeds : (context.resolvePackages origin packages existing cache).answer = .ok deps)
    (answered : outcome.answer = some label) :
    (label.simplify context.config.repository origin.label).text ∈ deps ∨
      isSelf origin.label (label.simplify context.config.repository origin.label) = true := by
  obtain ⟨earlier, classes, later, split, rfl⟩ := asked
  have found := mem_resolveEach.2 ⟨label, ⟨earlier, wanted, classes, later, split, answered⟩, rfl⟩
  cases read : existing.mapM Label.parse with
  | error fault =>
      rw [answer_resolvePackages_eq_error_iff.2 read] at succeeds
      cases succeeds
  | ok listed =>
      rw [answer_resolvePackages read, Except.ok.injEq] at succeeds
      subst succeeds
      by_cases self :
          isSelf origin.label (label.simplify context.config.repository origin.label) = true
      · exact Or.inr self
      · exact Or.inl (mem_depsOfLabels.2
          ⟨_, List.mem_append_left _ found, Bool.eq_false_iff.2 self, rfl⟩)

/-- Of distinct packages, the warnings of one that is foreign to the rule are settled by its call. -/
theorem AskedInTurn.warnings_eq {outcome : Outcome (Option Label)}
    (asked : context.AskedInTurn origin packages cache wanted outcome)
    (distinct : (packages.map (·.1)).Nodup) (foreign : wanted ∉ origin.ownPackages) :
    ∃ classes, warningsOf wanted (context.resolveEach origin packages cache).diagnostics =
      if outcome.answer = none ∧ StandardLibrary.provides wanted origin.language = false
      then [.unprovided wanted origin.label classes] else [] := by
  obtain ⟨earlier, classes, later, split, rfl⟩ := asked
  obtain ⟨notBefore, notAfter⟩ := absent_of_nodup (split ▸ distinct)
  refine ⟨classes, ?_⟩
  rw [split, warningsOf_resolveEach notBefore notAfter, warningsOf_resolvePackage,
    warningsOf_unprovided_self foreign]

/-- A package that a rule needs is asked for by one call.  If the call has a label, then the label is in
the dependency list, unless it is the rule itself, and there is no warning of the package; if it has
none, then there is one warning of the package, which names the rule, or none where the package comes
with the runtime of the language. -/
theorem needed_package_is_listed_or_reported_once (context : Context) (origin : Origin)
    (imports existing : List String) (cache : Cache) {deps : List String} {package : JvmPackage}
    (succeeds : (context.resolveImports origin imports existing cache).answer = .ok deps)
    (needs : Needs origin imports package) :
    let warnings := warningsOf package
      (context.resolveImports origin imports existing cache).diagnostics
    ∃ outcome, (∀ other, context.AskedInTurn origin (groupImports origin imports) cache package other ↔
        other = outcome) ∧
      (∀ found, outcome.answer = some found →
        let label := found.simplify context.config.repository origin.label
        (label.text ∈ deps ∨ label.relative = true ∧ label.target = origin.label.target) ∧
          warnings = []) ∧
      (outcome.answer = none →
        if StandardLibrary.provides package origin.language = true then warnings = []
        else ∃ classes, warnings = [.unprovided package origin.label classes]) := by
  intro warnings
  have distinct : ((groupImports origin imports).map (·.1)).Nodup :=
    ascending_packages_groupImports.nodup
  obtain ⟨outcome, asked⟩ := context.exists_askedInTurn cache needs
  obtain ⟨classes, reported⟩ := asked.warnings_eq distinct needs.foreign
  have warned : warnings =
      if outcome.answer = none ∧ StandardLibrary.provides package origin.language = false
      then [.unprovided package origin.label classes] else [] := reported
  refine ⟨outcome, ?_, ?_, ?_⟩
  · intro other
    constructor
    · exact asked.unique distinct
    · intro same
      exact same ▸ asked
  · intro found answered
    constructor
    · have either := asked.mem_deps succeeds answered
      simpa only [isSelf, Bool.and_eq_true, decide_eq_true_eq] using either
    · rw [warned, answered]
      rfl
  · intro unanswered
    cases runtime : StandardLibrary.provides package origin.language with
    | true => simp [warned, runtime]
    | false =>
        rw [if_neg Bool.false_ne_true]
        refine ⟨classes, ?_⟩
        rw [warned, if_pos ⟨unanswered, runtime⟩]

end Context

end Resolution

end BuildDeps

/-! ### A package that nothing provides -/

namespace BuildDeps.Resolution.Lost

/-- A rule declares one package, and there are no artifacts. -/
def context : Context where
  config := {}
  rules := RuleIndex.empty.add .java ⟨"core"⟩ ⟨"", "core", "core", false⟩
  artifacts := default
  exports := none

def origin : Origin := { label := ⟨"", "app", "app", false⟩, ownPackages := [⟨"app"⟩] }

/-- Nothing provides the first package, which is imported twice, and the last comes with the runtime. -/
def imports : List String := ["lost.Thing", "core.Engine", "lost.Other", "java.util.List"]

theorem groups : groupImports origin imports =
    [(⟨"core"⟩, ["Engine"]), (⟨"java.util"⟩, ["List"]), (⟨"lost"⟩, ["Thing", "Other"])] := by decide +kernel

theorem needs (package : JvmPackage) (listed : package ∈ [⟨"core"⟩, ⟨"java.util"⟩, ⟨"lost"⟩]) :
    Needs origin imports package := by
  rw [← mem_packages_groupImports, groups]
  exact listed

theorem succeeds : (context.resolveImports origin imports [] (.ofCapacity 1)).answer =
    .ok ["//core"] := by
  rw [Context.resolveImports, groups]
  rfl

/-- There is one warning of the package that nothing provides, and none of the others. -/
theorem lost_is_reported_once :
    let warnings := fun package => warningsOf package
      (context.resolveImports origin imports [] (.ofCapacity 1)).diagnostics
    (∃ classes, warnings ⟨"lost"⟩ = [.unprovided ⟨"lost"⟩ origin.label classes]) ∧
      warnings ⟨"java.util"⟩ = [] ∧ warnings ⟨"core"⟩ = [] := by
  intro warnings
  have settled := fun package listed =>
    context.needed_package_is_listed_or_reported_once origin imports [] (.ofCapacity 1) succeeds
      (needs package listed)
  obtain ⟨lost, lostAsked, _, reported⟩ := settled ⟨"lost"⟩ (by simp)
  obtain ⟨runtime, runtimeAsked, _, silent⟩ := settled ⟨"java.util"⟩ (by simp)
  obtain ⟨core, coreAsked, listed, _⟩ := settled ⟨"core"⟩ (by simp)
  -- Each outcome is that of the call which the groups show.
  have lostCall := (lostAsked _).1
    ⟨[(⟨"core"⟩, ["Engine"]), (⟨"java.util"⟩, ["List"])], _, [], groups, rfl⟩
  have runtimeCall := (runtimeAsked _).1 ⟨[(⟨"core"⟩, ["Engine"])], _, _, groups, rfl⟩
  have coreCall := (coreAsked _).1 ⟨[], _, _, groups, rfl⟩
  subst lostCall runtimeCall coreCall
  refine ⟨?_, ?_, ?_⟩
  · exact reported rfl
  · exact silent rfl
  · exact (listed ⟨"", "core", "core", false⟩ rfl).2

end BuildDeps.Resolution.Lost
