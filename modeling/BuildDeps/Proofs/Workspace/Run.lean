import BuildDeps.Proofs.Resolution.Deps
import BuildDeps.Proofs.Resolution.RuleIndex
import BuildDeps.Workspace.Run

/-!
What a run records and what it answers.

Where rules have labels and packages of their own, the registry and the rule index of a run have the
rules as they are written.  Every rule then has one result, which was worked out on a cache that the
calls before it led to.
-/

namespace BuildDeps

open Resolution (Cache Context RuleIndex)
open Export (Registry)

variable {workspace : Workspace} {config : Config} {artifacts : Maven.ArtifactIndex}
  {registry next : Registry} {label : Label} {package : JvmPackage} {summary : RuleSummary}
  {context : Context} {index : Export.Index} {cache : Cache} {rule : WorkspaceRule}
  {result : ResolvedRule}

/-- Rules under distinct labels, no two of which declare one package. -/
structure DistinctRules (rules : List WorkspaceRule) : Prop where
  labels : (rules.map (·.label)).Nodup
  packages : ∀ {one other package}, one ∈ rules → other ∈ rules →
    package ∈ one.summary.declares → package ∈ other.summary.declares → one.label = other.label

namespace DistinctRules

variable {rules : List WorkspaceRule}

/-- Two rules are distinct if their labels are, and neither declares what the other one does. -/
theorem pair {one other : WorkspaceRule} (labels : one.label ≠ other.label)
    (packages : ∀ package ∈ one.summary.declares, package ∉ other.summary.declares) :
    DistinctRules [one, other] where
  labels := by simpa using labels
  packages := by
    intro first second package firstMember secondMember declared again
    rcases List.mem_pair.1 firstMember with rfl | rfl <;>
      rcases List.mem_pair.1 secondMember with rfl | rfl
    · rfl
    · exact absurd again (packages package declared)
    · exact absurd declared (packages package again)
    · rfl

/-- Rules without their last one are distinct as well, so that the induction may be on the end of the
list. -/
theorem of_append_singleton (distinct : DistinctRules (rules ++ [rule])) : DistinctRules rules where
  labels := by
    have labels := distinct.labels
    rw [List.map_append] at labels
    exact (List.nodup_append.1 labels).1
  packages oneMember otherMember :=
    distinct.packages (List.mem_append_left _ oneMember) (List.mem_append_left _ otherMember)

/-- The last rule has a label that none before it has. -/
theorem label_ne (distinct : DistinctRules (rules ++ [rule])) {other : WorkspaceRule}
    (member : other ∈ rules) : other.label ≠ rule.label := by
  have labels := distinct.labels
  rw [List.map_append, List.map_singleton] at labels
  exact (List.nodup_append.1 labels).2.2 _ (List.mem_map.2 ⟨other, member, rfl⟩) _
    (List.mem_singleton_self _)

/-- A label leads to one rule. -/
theorem eq_of_label_eq (distinct : DistinctRules rules) {one other : WorkspaceRule}
    (oneMember : one ∈ rules) (otherMember : other ∈ rules) (same : one.label = other.label) :
    one = other :=
  List.inj_on_of_nodup_map distinct.labels oneMember otherMember same

end DistinctRules

/-! ### What is recorded -/

/-- Where the rules of a registry are those of a list, so are the declarations. -/
theorem declares_iff_of_summaries {rules : List WorkspaceRule}
    (summaries : ∀ {label summary}, registry.rules.get? label = some summary ↔
      ∃ rule ∈ rules, rule.label = label ∧ rule.summary = summary) :
    registry.Declares label package ↔
      ∃ rule ∈ rules, rule.label = label ∧ package ∈ rule.summary.declares := by
  simp only [Registry.Declares, summaries]
  constructor
  · intro declares
    obtain ⟨summary, ⟨rule, member, sameLabel, rfl⟩, declared⟩ := declares
    exact ⟨rule, member, sameLabel, declared⟩
  · intro declares
    obtain ⟨rule, member, sameLabel, declared⟩ := declares
    exact ⟨_, ⟨rule, member, sameLabel, rfl⟩, declared⟩

/-- The registry of some rules. -/
def recordAll (rules : List WorkspaceRule) : Registry :=
  rules.foldl (fun registry rule => registry.recordRule rule.label rule.summary) .empty

/-- The index of some rules. -/
def indexAll (rules : List WorkspaceRule) : RuleIndex :=
  rules.foldl (fun index rule => rule.addTo index) .empty

/-- The last rule is recorded last. -/
theorem recordAll_append_singleton (rules : List WorkspaceRule) (rule : WorkspaceRule) :
    recordAll (rules ++ [rule]) = (recordAll rules).recordRule rule.label rule.summary := by
  rw [recordAll, List.foldl_append]
  rfl

/-- Recording rules records no exports. -/
theorem exports_recordAll (rules : List WorkspaceRule) :
    (recordAll rules).exports = Table.empty := by
  induction rules using List.reverseRecOn with
  | nil => rfl
  | append_singleton rules rule ih =>
      rw [recordAll_append_singleton]
      exact ih

/-- The last rule is added to the index last. -/
theorem indexAll_append_singleton (rules : List WorkspaceRule) (rule : WorkspaceRule) :
    indexAll (rules ++ [rule]) = rule.addTo (indexAll rules) := by
  rw [indexAll, List.foldl_append]
  rfl

namespace DistinctRules

variable {rules : List WorkspaceRule}

/-- The registry has the summary of each rule. -/
theorem get?_rules (distinct : DistinctRules rules) :
    (recordAll rules).rules.get? label = some summary ↔
      ∃ rule ∈ rules, rule.label = label ∧ rule.summary = summary := by
  induction rules using List.reverseRecOn with
  | nil => simp [recordAll, Registry.empty]
  | append_singleton rules rule ih =>
      rw [recordAll_append_singleton, Registry.get?_rules_recordRule]
      by_cases same : label = rule.label
      · subst same
        simp only [if_true, Option.some.injEq]
        constructor
        · intro found
          exact ⟨rule, List.mem_append_right _ (List.mem_singleton_self _), rfl, found⟩
        · intro recorded
          obtain ⟨other, member, sameLabel, rfl⟩ := recorded
          rcases List.mem_append.1 member with earlier | last
          · exact absurd sameLabel (distinct.label_ne earlier)
          · rw [List.mem_singleton.1 last]
      · simp only [same, if_false, ih distinct.of_append_singleton]
        constructor
        · intro recorded
          obtain ⟨other, member, both⟩ := recorded
          exact ⟨other, List.mem_append_left _ member, both⟩
        · intro recorded
          obtain ⟨other, member, sameLabel, found⟩ := recorded
          rcases List.mem_append.1 member with earlier | last
          · exact ⟨other, earlier, sameLabel, found⟩
          · rw [List.mem_singleton.1 last] at sameLabel
            exact absurd sameLabel.symm same

/-- The declarations on record are those of the rules. -/
theorem declares (distinct : DistinctRules rules) :
    (recordAll rules).Declares label package ↔
      ∃ rule ∈ rules, rule.label = label ∧ package ∈ rule.summary.declares :=
  declares_iff_of_summaries distinct.get?_rules

/-- The label of the last rule is free before it is recorded. -/
theorem get?_rules_eq_none (distinct : DistinctRules (rules ++ [rule])) :
    (recordAll rules).rules.get? rule.label = none := by
  rw [Option.eq_none_iff_forall_ne_some]
  intro summary found
  obtain ⟨other, member, same, _⟩ := distinct.of_append_singleton.get?_rules.1 found
  exact distinct.label_ne member same

/-- Distinct rules are recorded without competing for a label or a package. -/
theorem unambiguous (distinct : DistinctRules rules) : (recordAll rules).Unambiguous := by
  induction rules using List.reverseRecOn with
  | nil => exact .empty
  | append_singleton rules rule ih =>
      have before := distinct.of_append_singleton
      rw [recordAll_append_singleton]
      refine .rule (ih before) distinct.get?_rules_eq_none ?_
      intro package declared label other
      obtain ⟨earlier, member, _, declaredEarlier⟩ := before.declares.1 other
      exact distinct.label_ne member <| distinct.packages (List.mem_append_left _ member)
        (List.mem_append_right _ (List.mem_singleton_self _)) declaredEarlier declared

/-- The index and the registry of distinct rules are in step. -/
theorem lists (distinct : DistinctRules rules) : (indexAll rules).Lists (recordAll rules) := by
  induction rules using List.reverseRecOn with
  | nil => exact .empty
  | append_singleton rules rule ih =>
      rw [recordAll_append_singleton, indexAll_append_singleton]
      exact (ih distinct.of_append_singleton).rule rule.language rule.label rule.summary
        distinct.get?_rules_eq_none

end DistinctRules

namespace Workspace

/-- What holds of a registry and is kept by recording an export holds after recording exports. -/
theorem recordExports_induction {motive : Registry → Prop} {exports : List ExportRule}
    (start : motive registry)
    (step : ∀ {registry next label rule}, rule ∈ exports → Label.parse rule.label = .ok label →
      motive registry → registry.recordExport label rule = .ok next → motive next)
    (succeeds : (recordExports registry exports).answer = .ok next) : motive next := by
  induction exports generalizing registry with
  | nil =>
      cases succeeds
      exact start
  | cons rule rest ih =>
      unfold recordExports at succeeds
      split at succeeds
      · cases succeeds
      · rename_i label parsed
        simp only at succeeds
        split at succeeds
        · cases succeeds
        · rename_i more recorded
          refine ih (step List.mem_cons_self parsed start recorded) ?_ succeeds
          intro registry next label rule member
          exact step (List.mem_cons_of_mem _ member)

/-- Recording exports leaves the rules alone. -/
theorem recordExports_spec {exports : List ExportRule}
    (succeeds : (recordExports registry exports).answer = .ok next) :
    next.rules = registry.rules ∧ (registry.Unambiguous → next.Unambiguous) ∧
      ∀ label, next.isExport label = true → registry.isExport label = true ∨
        ∃ rule ∈ exports, Label.parse rule.label = .ok label := by
  refine recordExports_induction (motive := fun next => next.rules = registry.rules ∧
    (registry.Unambiguous → next.Unambiguous) ∧ ∀ label, next.isExport label = true →
      registry.isExport label = true ∨ ∃ rule ∈ exports, Label.parse rule.label = .ok label)
    ⟨rfl, id, fun _ => Or.inl⟩ ?_ succeeds
  rintro registry next label rule member parsed ⟨rules, unambiguous, known⟩ recorded
  have last : ∀ other, next.isExport other = true → other = label ∨
      registry.isExport other = true := by
    obtain ⟨_, _, rfl⟩ := Registry.recordExport_eq_ok recorded
    intro other
    exact Table.contains_insert.1
  have same : next.rules = registry.rules := by
    obtain ⟨_, _, rfl⟩ := Registry.recordExport_eq_ok recorded
    rfl
  refine ⟨same.trans rules, fun start => .exporter (unambiguous start) recorded, ?_⟩
  intro other exports
  rcases last other exports with rfl | earlier
  · exact Or.inr ⟨rule, member, parsed⟩
  · exact known other earlier

/-- All exports that are recorded in a run are exports of the workspace. -/
theorem exists_exporter_of_isExport
    (recorded : (recordExports workspace.recordRules workspace.exports).answer = .ok registry)
    (isExport : registry.isExport label = true) :
    ∃ exporter ∈ workspace.exports, Label.parse exporter.label = .ok label := by
  apply ((recordExports_spec recorded).2.2 label isExport).resolve_left
  have unrecorded : workspace.recordRules.exports = Table.empty := exports_recordAll workspace.rules
  rw [Registry.isExport, unrecorded]
  exact Bool.false_ne_true

/-- All rules that are found for a package are rules of the workspace. -/
theorem exists_rule_of_mem_find {rules : List WorkspaceRule} {language : Language}
    (member : label ∈ (indexAll rules).find language package) :
    ∃ rule ∈ rules, rule.label = label := by
  induction rules using List.reverseRecOn with
  | nil => cases member
  | append_singleton rules rule ih =>
      rw [indexAll_append_singleton, WorkspaceRule.addTo, RuleIndex.mem_find_foldl_add] at member
      rcases member with ⟨rfl, _⟩ | earlier
      · exact ⟨rule, List.mem_append_right _ (List.mem_singleton_self _), rfl⟩
      · obtain ⟨other, present, same⟩ := ih earlier
        exact ⟨other, List.mem_append_left _ present, same⟩

/-! ### Results in order -/

theorem sortRules_perm (listing : List ResolvedRule) : (sortRules listing).Perm listing :=
  List.mergeSort_perm _ _

/-- Sorting neither adds nor drops a result. -/
theorem mem_sortRules {listing : List ResolvedRule} :
    result ∈ sortRules listing ↔ result ∈ listing :=
  (sortRules_perm listing).mem_iff

/-- Results that are in the order of their labels stay as they are. -/
theorem sortRules_of_pairwise {listing : List ResolvedRule}
    (inOrder : listing.Pairwise fun one other => (compare one.label other.label).isLE = true) :
    sortRules listing = listing :=
  List.mergeSort_of_pairwise inOrder

/-! ### What is answered -/

/-- What the rules of a workspace are resolved against once its exports are recorded. -/
def contextWith (workspace : Workspace) (config : Config) (artifacts : Maven.ArtifactIndex)
    (registry : Registry) : Context :=
  ⟨config, workspace.ruleIndex, artifacts, some registry.finalize⟩

/-- A run that succeeds has recorded all exports and resolved all rules. -/
theorem run_eq_ok {resolved : List ResolvedRule}
    (succeeds : (workspace.run config artifacts).answer = .ok resolved) :
    ∃ registry listing,
      (recordExports workspace.recordRules workspace.exports).answer = .ok registry ∧
      (resolveRules (workspace.contextWith config artifacts registry) registry.finalize workspace.rules
        (.ofCapacity Cache.defaultCapacity)).answer = .ok listing ∧
      resolved = sortRules listing := by
  unfold run at succeeds
  simp only at succeeds
  split at succeeds
  · cases succeeds
  · rename_i registry recorded
    cases found : (resolveRules (workspace.contextWith config artifacts registry) registry.finalize
        workspace.rules (.ofCapacity Cache.defaultCapacity)).answer with
    | error error =>
        rw [contextWith] at found
        simp only [found] at succeeds
        cases succeeds
    | ok listing =>
        refine ⟨registry, listing, recorded, found, ?_⟩
        rw [contextWith] at found
        simp only [found] at succeeds
        cases succeeds
        rfl

/-- A run answers with the results of its rules, once its exports are recorded. -/
theorem answer_run_of_recorded
    (recorded : (recordExports workspace.recordRules workspace.exports).answer = .ok registry) :
    (workspace.run config artifacts).answer =
      (resolveRules (workspace.contextWith config artifacts registry) registry.finalize
        workspace.rules (.ofCapacity Cache.defaultCapacity)).answer.map sortRules := by
  simp only [run, recorded]
  rfl

/-- A run that records all exports and resolves all rules succeeds. -/
theorem run_of_eq_ok {listing : List ResolvedRule}
    (recorded : (recordExports workspace.recordRules workspace.exports).answer = .ok registry)
    (found : (resolveRules (workspace.contextWith config artifacts registry) registry.finalize
      workspace.rules (.ofCapacity Cache.defaultCapacity)).answer = .ok listing) :
    (workspace.run config artifacts).answer = .ok (sortRules listing) := by
  rw [answer_run_of_recorded recorded, found]
  rfl

/-- A run whose results are worked out in the order of their labels answers with them as they are. -/
theorem run_of_eq_ok_of_inOrder {listing : List ResolvedRule}
    (recorded : (recordExports workspace.recordRules workspace.exports).answer = .ok registry)
    (found : (resolveRules (workspace.contextWith config artifacts registry) registry.finalize
      workspace.rules (.ofCapacity Cache.defaultCapacity)).answer = .ok listing)
    (inOrder : listing.Pairwise fun one other => (compare one.label other.label).isLE = true) :
    (workspace.run config artifacts).answer = .ok listing := by
  rw [run_of_eq_ok recorded found, sortRules_of_pairwise inOrder]

end Workspace

namespace WorkspaceRule

/-- The packages that the rule needs for its imports, with the classes imported from them. -/
def neededPackages (rule : WorkspaceRule) : Resolution.PackageClasses :=
  Resolution.groupImports rule.origin rule.rawImports

/-- The packages that the rule exports. -/
def exportedPackages (rule : WorkspaceRule) : Resolution.PackageClasses :=
  rule.summary.exports.map fun package => (package, [])

/-- The result of a rule from the labels that it lists and those found for its packages. -/
def resultOf (rule : WorkspaceRule) (config : Config) (index : Export.Index)
    (listed needed exported : List Label) : ResolvedRule where
  label := rule.label
  deps := Resolution.depsOfLabels rule.label (needed ++ listed)
  exports := Resolution.depsOfLabels rule.label exported
  visibility := rule.visibility config index

/-- What a rule lists already is all that can be malformed. -/
theorem answer_resolve (rule : WorkspaceRule) (context : Context) (index : Export.Index)
    (cache : Cache) :
    (rule.resolve context index cache).answer =
      (rule.deps.mapM Label.parse).map fun listed =>
        rule.resultOf context.config index listed
          (context.resolveEach rule.origin rule.neededPackages cache).answer
          (context.resolveEach rule.origin rule.exportedPackages
            (context.resolveEach rule.origin rule.neededPackages cache).cache).answer := by
  unfold resolve
  simp only [Context.resolveImports, Context.resolvePackages]
  have unlisted : ([] : List String).mapM Label.parse = .ok [] := rfl
  cases rule.deps.mapM Label.parse with
  | error fault => rfl
  | ok listed =>
      simp only [Except.map, unlisted, List.append_nil]
      rfl

/-- A rule that has a result has a list that can be read. -/
theorem resolve_eq_ok (succeeds : (rule.resolve context index cache).answer = .ok result) :
    ∃ listed, rule.deps.mapM Label.parse = .ok listed ∧
      result = rule.resultOf context.config index listed
        (context.resolveEach rule.origin rule.neededPackages cache).answer
        (context.resolveEach rule.origin rule.exportedPackages
          (context.resolveEach rule.origin rule.neededPackages cache).cache).answer := by
  rw [answer_resolve] at succeeds
  cases read : rule.deps.mapM Label.parse with
  | error fault =>
      rw [read] at succeeds
      cases succeeds
  | ok listed =>
      rw [read] at succeeds
      cases succeeds
      exact ⟨listed, rfl, rfl⟩

/-- The result of a rule has its label and the dependency list of its imports. -/
theorem deps_of_resolve (succeeds : (rule.resolve context index cache).answer = .ok result) :
    result.label = rule.label ∧
      (context.resolveImports rule.origin rule.rawImports rule.deps cache).answer =
        .ok result.deps := by
  obtain ⟨listed, read, rfl⟩ := resolve_eq_ok succeeds
  refine ⟨rfl, ?_⟩
  rw [Context.resolveImports, Context.resolvePackages, read]
  rfl

/-- The dependency list of a rule that lists none is what is found for its imports. -/
theorem deps_eq_of_resolve (unlisted : rule.deps = [])
    (succeeds : (rule.resolve context index cache).answer = .ok result) :
    result.deps = Resolution.depsOfLabels rule.label (context.resolveEach rule.origin
      (Resolution.groupImports rule.origin rule.rawImports) cache).answer := by
  obtain ⟨listed, read, rfl⟩ := resolve_eq_ok succeeds
  rw [unlisted, List.mapM_nil] at read
  obtain rfl : [] = listed := Except.ok.inj read
  rw [resultOf, List.append_nil]
  rfl

/-- What holds of a cache and is kept by resolving packages for the rule holds after resolving it. -/
theorem cache_resolve_induction {motive : Cache → Prop} (start : motive cache)
    (step : ∀ {cache} packages, motive cache →
      motive (context.resolveEach rule.origin packages cache).cache) :
    motive (rule.resolve context index cache).cache := by
  have imports : motive
      (context.resolveImports rule.origin rule.rawImports rule.deps cache).cache := step _ start
  unfold resolve
  simp only
  split
  · exact imports
  · exact step _ imports

/-- Resolving a rule leaves a cache in use. -/
theorem reached_resolve (reached : context.Reached cache) :
    context.Reached (rule.resolve context index cache).cache :=
  cache_resolve_induction reached fun packages earlier => earlier.resolveEach rule.origin packages

end WorkspaceRule

namespace Workspace

/-- Every rule has one result, in order, and there are no others. -/
theorem forall₂_of_resolveRules {rules : List WorkspaceRule} {listing : List ResolvedRule}
    (reached : context.Reached cache)
    (succeeds : (resolveRules context index rules cache).answer = .ok listing) :
    List.Forall₂ (fun rule result => ∃ earlier, context.Reached earlier ∧
      (rule.resolve context index earlier).answer = .ok result) rules listing := by
  induction rules generalizing cache listing with
  | nil =>
      cases succeeds
      exact .nil
  | cons rule rest ih =>
      unfold resolveRules at succeeds
      simp only at succeeds
      split at succeeds
      · cases succeeds
      · rename_i result resolved
        cases others : (resolveRules context index rest
            (rule.resolve context index cache).cache).answer with
        | error error =>
            rw [others] at succeeds
            cases succeeds
        | ok later =>
            rw [others] at succeeds
            cases succeeds
            exact .cons ⟨cache, reached, resolved⟩
              (ih (WorkspaceRule.reached_resolve reached) others)

/-- Results stand in the order of their rules. -/
theorem map_label_eq_of_forall₂ {rules : List WorkspaceRule} {listing : List ResolvedRule}
    (same : List.Forall₂ (fun rule result => result.label = rule.label) rules listing) :
    listing.map (·.label) = rules.map (·.label) := by
  induction same with
  | nil => rfl
  | cons first _ ih => rw [List.map_cons, List.map_cons, first, ih]

end Workspace

end BuildDeps
