import BuildDeps.Proofs.Config.Overrides
import BuildDeps.Proofs.Maven.ArtifactLabel
import BuildDeps.Proofs.Resolution.Rereading
import BuildDeps.Proofs.Workspace.Run

/-!
Runs on their own results.

The lists that a run produces can be given to the rules as the lists that they come with.  What the
rules import and what they are matched against stays the same, so that every call of the second run
meets the cache that it met in the first and has the answer that it had; and the lines that a rule now
comes with are among those it gets anyway.
-/

namespace BuildDeps

open Resolution (Cache Context RuleIndex)
open Export (Registry)

variable {workspace : Workspace} {config : Config}
  {artifacts : Maven.ArtifactIndex} {registry : Registry} {context : Context}
  {index : Export.Index} {cache : Cache} {rule : WorkspaceRule} {result : ResolvedRule}
  {rules : List WorkspaceRule} {resolved listing : List ResolvedRule} {label : Label}
  {language : Language} {package : JvmPackage}

/-! ### Rules with other lists -/

namespace WorkspaceRule

/-- The rule with another list. -/
def withDeps (rule : WorkspaceRule) (deps : List String) : WorkspaceRule :=
  { rule with deps }

@[simp] theorem origin_withDeps {deps : List String} :
    (rule.withDeps deps).origin = rule.origin := rfl

@[simp] theorem neededPackages_withDeps {deps : List String} :
    (rule.withDeps deps).neededPackages = rule.neededPackages := rfl

@[simp] theorem exportedPackages_withDeps {deps : List String} :
    (rule.withDeps deps).exportedPackages = rule.exportedPackages := rfl

/-- Only the lines of what a rule lists show in its result. -/
theorem resultOf_withDeps {deps : List String} {listed reread needed exported : List Label}
    (same : Resolution.depsOfLabels rule.label (needed ++ reread) =
      Resolution.depsOfLabels rule.label (needed ++ listed)) :
    (rule.withDeps deps).resultOf config index reread needed exported =
      rule.resultOf config index listed needed exported := by
  rw [resultOf, resultOf, ← same]
  rfl

/-- The list that was produced for the rule. -/
def depsIn (resolved : List ResolvedRule) (rule : WorkspaceRule) : List String :=
  ((resolved.find? (·.label = rule.label)).map (·.deps)).getD rule.deps

/-- Once the list of a rule is read, resolving it takes two steps. -/
theorem cache_resolve {listed : List Label} (read : rule.deps.mapM Label.parse = .ok listed) :
    (rule.resolve context index cache).cache = (context.resolveEach rule.origin rule.exportedPackages
      (context.resolveEach rule.origin rule.neededPackages cache).cache).cache := by
  unfold resolve
  simp only [Context.resolveImports, Context.resolvePackages, read]
  rfl

/-- What was read can be written so that it is read again. -/
theorem writable_of_read {texts : List String} {listed : List Label}
    (read : texts.mapM Label.parse = .ok listed) : ∀ label ∈ listed, label.Writable := by
  intro label member
  obtain ⟨text, _, parsed⟩ := (mem_of_mapM_eq_ok read).1 member
  exact (Label.wellFormed_of_parse parsed).writable

/-- Resolving a rule with another list, which adds to what is found the same lines, gives the same
result and leaves the same cache. -/
theorem resolve_withDeps_of_read {deps : List String} {listed reread : List Label}
    (read : rule.deps.mapM Label.parse = .ok listed) (readAgain : deps.mapM Label.parse = .ok reread)
    (same : let found := (context.resolveEach rule.origin rule.neededPackages cache).answer
      Resolution.depsOfLabels rule.label (found ++ reread) =
        Resolution.depsOfLabels rule.label (found ++ listed)) :
    ((rule.withDeps deps).resolve context index cache).answer =
        (rule.resolve context index cache).answer ∧
      ((rule.withDeps deps).resolve context index cache).cache =
        (rule.resolve context index cache).cache := by
  have readDeps : (rule.withDeps deps).deps.mapM Label.parse = .ok reread := readAgain
  constructor
  · rw [answer_resolve, answer_resolve, read, readDeps]
    simp only [Except.map, origin_withDeps, neededPackages_withDeps, exportedPackages_withDeps,
      resultOf_withDeps same]
  · rw [cache_resolve read, cache_resolve readDeps, origin_withDeps, neededPackages_withDeps,
      exportedPackages_withDeps]

/-- Resolved with the list that was produced for it, a rule has the same result and leaves the same
cache. -/
theorem resolve_withDeps (wellFormed : context.WellFormed) (readable : Context.Readable cache)
    (succeeds : (rule.resolve context index cache).answer = .ok result) :
    ((rule.withDeps result.deps).resolve context index cache).answer = .ok result ∧
      ((rule.withDeps result.deps).resolve context index cache).cache =
        (rule.resolve context index cache).cache := by
  obtain ⟨listed, read, same⟩ := resolve_eq_ok succeeds
  have found := (wellFormed.writable_resolveEach readable rule.origin rule.neededPackages).1
  have writable : ∀ label ∈ (context.resolveEach rule.origin rule.neededPackages cache).answer ++
      listed, label.Writable := by
    intro label member
    rcases List.mem_append.1 member with first | given
    · exact found label first
    · exact writable_of_read read label given
  obtain ⟨reread, readAgain, sameList⟩ := Resolution.depsOfLabels_reread rule.label writable
  have deps : result.deps = Resolution.depsOfLabels rule.label
      ((context.resolveEach rule.origin rule.neededPackages cache).answer ++ listed) :=
    congrArg ResolvedRule.deps same
  rw [← succeeds, deps]
  exact resolve_withDeps_of_read read readAgain sameList

/-- Resolving a rule leaves a cache of labels that can be read. -/
theorem readable_resolve (wellFormed : context.WellFormed) (readable : Context.Readable cache) :
    Context.Readable (rule.resolve context index cache).cache :=
  cache_resolve_induction readable fun packages kept =>
    (wellFormed.writable_resolveEach kept rule.origin packages).2

end WorkspaceRule

namespace Workspace

/-- The workspace with the lists that were produced for its rules. -/
def withDepsOf (resolved : List ResolvedRule) (workspace : Workspace) : Workspace :=
  { workspace with rules := workspace.rules.map fun rule => rule.withDeps (rule.depsIn resolved) }

/-- The lists of rules are no part of what is recorded. -/
theorem recordRules_withDepsOf :
    (workspace.withDepsOf resolved).recordRules = workspace.recordRules := by
  rw [recordRules, withDepsOf, List.foldl_map]
  rfl

/-- Nor are they part of what rules are matched against. -/
theorem contextWith_withDepsOf :
    (workspace.withDepsOf resolved).contextWith config artifacts registry =
      workspace.contextWith config artifacts registry := by
  have sameIndex : (workspace.withDepsOf resolved).ruleIndex = workspace.ruleIndex := by
    rw [ruleIndex, withDepsOf, List.foldl_map]
    rfl
  rw [contextWith, contextWith, sameIndex]

/-- With the list that was produced for it in place of its own, every rule has the same result. -/
theorem resolveRules_again (wellFormed : context.WellFormed) (readable : Context.Readable cache)
    (succeeds : (resolveRules context index rules cache).answer = .ok listing)
    {rewrite : WorkspaceRule → WorkspaceRule}
    (rewritten : ∀ rule ∈ rules, ∀ result ∈ listing, result.label = rule.label →
      rewrite rule = rule.withDeps result.deps) :
    (resolveRules context index (rules.map rewrite) cache).answer = .ok listing := by
  -- Both runs pass the same caches on, so the induction is over any readable cache.
  induction rules generalizing cache listing with
  | nil => exact succeeds
  | cons rule rest ih =>
      unfold resolveRules at succeeds
      simp only at succeeds
      split at succeeds
      · cases succeeds
      · rename_i result first
        cases others : (resolveRules context index rest
            (rule.resolve context index cache).cache).answer with
        | error fault =>
            rw [others] at succeeds
            cases succeeds
        | ok later =>
            rw [others] at succeeds
            cases succeeds
            have same := rewritten rule List.mem_cons_self result List.mem_cons_self
              (WorkspaceRule.deps_of_resolve first).1
            obtain ⟨again, sameCache⟩ := WorkspaceRule.resolve_withDeps wellFormed readable first
            have othersAgain := ih (WorkspaceRule.readable_resolve wellFormed readable) others
              fun rule member result present =>
                rewritten rule (List.mem_cons_of_mem _ member) result (List.mem_cons_of_mem _ present)
            simp only [List.map_cons, resolveRules, same, again, sameCache, othersAgain]
            rfl

/-! ### The labels of a run -/

/-- Where rules and overrides were read and the repository of artifacts can be written down, all
labels that a run can find can be read. -/
theorem wellFormed_contextWith (file : Maven.InstallFile) (overrides : config.OverridesRead)
    (repository : config.mavenRepository = "" ∨
      Label.isRepository config.mavenRepository.toList = true)
    (labels : ∀ rule ∈ workspace.rules, ∃ text, Label.parse text = .ok rule.label)
    (recorded : (recordExports workspace.recordRules workspace.exports).answer = .ok registry) :
    (workspace.contextWith config (.ofInstallFile file) registry).WellFormed where
  overrides override := by
    obtain ⟨text, parsed⟩ := overrides _ _ override
    exact Label.wellFormed_of_parse parsed
  rules member := by
    obtain ⟨rule, present, rfl⟩ := exists_rule_of_mem_find member
    obtain ⟨text, parsed⟩ := labels rule present
    exact Label.wellFormed_of_parse parsed
  exporters exports owned := by
    cases exports
    have isExport := (Registry.owner?_eq_some_iff.1 owned).1.isExport
    obtain ⟨rule, _, parsed⟩ := exists_exporter_of_isExport recorded isExport
    exact Label.wellFormed_of_parse parsed
  artifacts listed := by
    obtain ⟨coordinate, rfl⟩ := Maven.ArtifactIndex.ofCoordinates_ofInstallFile file _ _ listed
    exact Maven.wellFormed_artifactLabel repository coordinate

/-! ### The second run -/

/-- Under distinct labels, the list that was produced for a rule is found by its label. -/
theorem depsIn_eq_of_label (distinct : (resolved.map (·.label)).Nodup) (member : result ∈ resolved)
    (same : result.label = rule.label) : rule.depsIn resolved = result.deps := by
  have found : resolved.find? (·.label = rule.label) = some result := by
    cases first : resolved.find? (·.label = rule.label) with
    | none =>
        have other := List.find?_eq_none.1 first result member
        simp [same] at other
    | some other =>
        have otherLabel : other.label = rule.label := by simpa using List.find?_some first
        rw [List.inj_on_of_nodup_map distinct (List.mem_of_find?_eq_some first) member
          (otherLabel.trans same.symm)]
  rw [WorkspaceRule.depsIn, found]
  rfl

/-- A run on the lists that a run produced produces them again, with all else that it answered. -/
theorem run_withDepsOf_eq_ok (config : Config) (file : Maven.InstallFile)
    (repository : config.mavenRepository = "" ∨
      Label.isRepository config.mavenRepository.toList = true)
    (overrides : config.OverridesRead)
    (labels : ∀ rule ∈ workspace.rules, ∃ text, Label.parse text = .ok rule.label)
    (distinct : (workspace.rules.map (·.label)).Nodup)
    (succeeds : (workspace.run config (.ofInstallFile file)).answer = .ok resolved) :
    ((workspace.withDepsOf resolved).run config (.ofInstallFile file)).answer = .ok resolved := by
  obtain ⟨registry, listing, recorded, found, rfl⟩ := run_eq_ok succeeds
  have wellFormed := wellFormed_contextWith file overrides repository labels recorded
  have sameLabels := map_label_eq_of_forall₂ <| (forall₂_of_resolveRules (.fresh _) found).imp
    fun rule result ⟨_, _, resolved⟩ => (WorkspaceRule.deps_of_resolve resolved).1
  have sortedDistinct : ((sortRules listing).map (·.label)).Nodup := by
    rw [((sortRules_perm listing).map _).nodup_iff, sameLabels]
    exact distinct
  have recordedAgain : (recordExports (workspace.withDepsOf (sortRules listing)).recordRules
      workspace.exports).answer = .ok registry := by
    rw [recordRules_withDepsOf]
    exact recorded
  apply run_of_eq_ok recordedAgain
  rw [contextWith_withDepsOf]
  apply resolveRules_again wellFormed (Cache.holds_ofCapacity _) found
  intro rule _ result member same
  rw [depsIn_eq_of_label sortedDistinct (mem_sortRules.2 member) same]

end Workspace

end BuildDeps

/-! ### Lists with labels in short forms -/

namespace BuildDeps.Workspace.Shorthand

open Resolution (Cache)

def app : WorkspaceRule where
  label := ⟨"", "app", "app", false⟩
  units := [{ package := ⟨"app"⟩, importedPackages := ["ext", "gen"] }]
  deps := [":app", "helper", "//lib:lib", "@@old//:old"]

def lib : WorkspaceRule where
  label := ⟨"", "lib", "lib", false⟩
  units := [{ package := ⟨"lib"⟩, importedPackages := ["app", "ext"] }]

/-- Two rules, of which the first lists itself and labels in longer forms than needed. -/
def workspace : Workspace := ⟨[app, lib], []⟩

/-- An artifact with a label that bears the name of its repository. -/
def file : Maven.InstallFile where
  dependencies := [{ coordinate := "g:a:1.0", packages := ["ext"] }]

/-- One package is overridden with a relative label. -/
def config : Config where
  mavenRepository := "g_a"
  overrides := .ofList [(⟨"gen"⟩, ⟨"", "", "made", true⟩)]

/-- What the rules are resolved to. -/
def resolved : List ResolvedRule :=
  [⟨app.label, [":helper", ":made", "//lib", "@g_a", "@old"], [], none⟩,
    ⟨lib.label, ["//app", "@g_a"], [], none⟩]

theorem overridesRead : config.OverridesRead := by
  have parsed : Label.parse ":made" = .ok ⟨"", "", "made", true⟩ := rfl
  have added : Config.addOverride { mavenRepository := "g_a" } "gen" ":made" = .ok config := by
    rw [Config.addOverride, parsed]
    rfl
  have unset : Config.OverridesRead { mavenRepository := "g_a" } := by
    intro package label override
    cases override
  exact unset.addOverride added

theorem run_eq : (workspace.run config (.ofInstallFile file)).answer = .ok resolved := by
  have found : (resolveRules (workspace.contextWith config (.ofInstallFile file)
      workspace.recordRules) workspace.recordRules.finalize workspace.rules
      (.ofCapacity Cache.defaultCapacity)).answer = .ok resolved := by decide
  exact run_of_eq_ok_of_inOrder rfl found (by decide)

/-- The short forms that a run writes are read, and written again, as they are. -/
theorem run_withDepsOf_shorthand :
    ((workspace.withDepsOf resolved).run config (.ofInstallFile file)).answer = .ok resolved := by
  refine run_withDepsOf_eq_ok config file (Or.inr (by decide)) overridesRead ?_ (by decide) run_eq
  intro rule member
  rcases List.mem_pair.1 member with rfl | rfl
  · exact ⟨"//app", rfl⟩
  · exact ⟨"//lib", rfl⟩

end BuildDeps.Workspace.Shorthand
