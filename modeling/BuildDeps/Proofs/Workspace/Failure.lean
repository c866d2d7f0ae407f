import BuildDeps.Proofs.Workspace.Recording

/-!
What a run fails on, and what it leaves out.

All texts that a run reads as labels are those of its exports and the dependency lists of its rules, in
the order in which they are given.  A run fails as the first of them that is no label, and on nothing
else: classes that cannot be read, packages that nothing or too much provides and exports in conflict are
only reported.  A run that succeeds has one result for each rule, in the order of the labels; rules under
one label stay in the order in which they are given.
-/

namespace BuildDeps

open Resolution (Cache Context)
open Export (Registry)

variable {workspace : Workspace} {config : Config} {artifacts : Maven.ArtifactIndex}
  {registry : Registry} {context : Context} {index : Export.Index} {cache : Cache}
  {resolved : List ResolvedRule}

namespace Workspace

/-- All texts that a run reads as labels: those of the exports, then those that the rules list. -/
def labelTexts (workspace : Workspace) : List String :=
  workspace.exports.flatMap ExportRule.labelTexts ++ workspace.rules.flatMap (·.deps)

/-! ### Rules -/

/-- Whatever is found for its packages, a rule is resolved unless a text that it lists is no label. -/
theorem failure?_resolve (rule : WorkspaceRule) (context : Context) (index : Export.Index)
    (cache : Cache) :
    failure? (rule.resolve context index cache).answer = rule.deps.findSome? Label.malformed? := by
  rw [WorkspaceRule.answer_resolve, failure?_map, failure?_mapM]
  rfl

/-- Rules are resolved up to the first text in their lists that is no label. -/
theorem failure?_resolveRules (rules : List WorkspaceRule) (cache : Cache) :
    failure? (resolveRules context index rules cache).answer =
      (rules.flatMap (·.deps)).findSome? Label.malformed? := by
  induction rules generalizing cache with
  | nil => rfl
  | cons rule rest ih =>
      have first := failure?_resolve rule context index cache
      rw [List.flatMap_cons, List.findSome?_append, ← first, resolveRules]
      cases (rule.resolve context index cache).answer with
      | error fault => rfl
      | ok result => exact (failure?_map _ _).trans (ih _)

/-- A run fails as the first text that is no label. -/
theorem failure?_run (workspace : Workspace) (config : Config) (artifacts : Maven.ArtifactIndex) :
    failure? (workspace.run config artifacts).answer =
      workspace.labelTexts.findSome? Label.malformed? := by
  have recording := failure?_recordExports workspace.recordRules workspace.exports
  rw [labelTexts, List.findSome?_append, ← recording]
  cases recorded : (recordExports workspace.recordRules workspace.exports).answer with
  | error fault =>
      simp only [run, recorded]
      rfl
  | ok registry =>
      rw [answer_run_of_recorded recorded, failure?_map, failure?_resolveRules]
      rfl

/-! ### Results -/

/-- A result that a rule can have in a run: what it is resolved to on a cache that calls lead to. -/
def HasResult (context : Context) (index : Export.Index) (rule : WorkspaceRule)
    (result : ResolvedRule) : Prop :=
  ∃ cache, context.Reached cache ∧ (rule.resolve context index cache).answer = .ok result

/-- A result bears the label of its rule. -/
theorem label_of_hasResult {rule : WorkspaceRule} {result : ResolvedRule}
    (hasResult : HasResult context index rule result) : result.label = rule.label := by
  obtain ⟨cache, _, resolves⟩ := hasResult
  exact (WorkspaceRule.deps_of_resolve resolves).1

/-- The rules under one label have their results in the order in which they are given. -/
theorem forall₂_hasResult_filter {rules : List WorkspaceRule} {listing : List ResolvedRule}
    (results : List.Forall₂ (HasResult context index) rules listing) (label : Label) :
    List.Forall₂ (HasResult context index) (rules.filter (·.label = label))
      ((sortRules listing).filter (·.label = label)) := by
  have kept : (sortRules listing).filter (·.label = label) = listing.filter (·.label = label) :=
    filter_mergeSort_compareOn ResolvedRule.label label listing
  rw [kept]
  apply List.rel_filter _ results
  intro rule result hasResult
  simp [label_of_hasResult hasResult]

/-- A run fails exactly if some text of an export, or some text that a rule lists, is no label, and it
fails as the first such text.  Otherwise its results are those of the rules, one for each, in the order of
their labels, and those under one label in the order in which the rules are given. -/
theorem run_fails_only_on_malformed_labels (workspace : Workspace) (config : Config)
    (artifacts : Maven.ArtifactIndex) :
    ((∃ error, (workspace.run config artifacts).answer = .error error) ↔
      ∃ text ∈ workspace.labelTexts, ∃ error, Label.parse text = .error error) ∧
    (∀ error, (workspace.run config artifacts).answer = .error error ↔
      ∃ before text after, workspace.labelTexts = before ++ text :: after ∧
        Label.parse text = .error error ∧
        ∀ earlier ∈ before, ∃ label, Label.parse earlier = .ok label) ∧
    ∀ resolved, (workspace.run config artifacts).answer = .ok resolved →
      (resolved.map (·.label)).Perm (workspace.rules.map (·.label)) ∧
      (resolved.Pairwise fun one other => (compare one.label other.label).isLE = true) ∧
      ∃ registry, (recordExports workspace.recordRules workspace.exports).answer = .ok registry ∧
        ∀ label, List.Forall₂
          (HasResult (workspace.contextWith config artifacts registry) registry.finalize)
          (workspace.rules.filter (·.label = label)) (resolved.filter (·.label = label)) := by
  have fails : ∀ error, (workspace.run config artifacts).answer = .error error ↔
      workspace.labelTexts.findSome? Label.malformed? = some error := by
    intro error
    rw [← failure?_run workspace config artifacts, failure?_eq_some_iff]
  refine ⟨?_, ?_, ?_⟩
  · simp only [fails, ← Option.isSome_iff_exists, List.isSome_findSome?, List.any_eq_true,
      Label.malformed?, ← failure?_eq_some_iff]
  · intro error
    simp only [fails, List.findSome?_eq_some_iff, Label.malformed?, failure?_eq_some_iff,
      failure?_eq_none_iff]
  · intro resolved succeeds
    obtain ⟨registry, listing, recorded, found, rfl⟩ := run_eq_ok succeeds
    have results := forall₂_of_resolveRules (.fresh _) found
    refine ⟨?_, pairwise_mergeSort_compareOn ResolvedRule.label listing, registry, recorded,
      forall₂_hasResult_filter results⟩
    rw [← map_label_eq_of_forall₂ (results.imp fun _ _ => label_of_hasResult)]
    exact (sortRules_perm listing).map _

end Workspace

end BuildDeps

/-! ### Two rules under one label -/

namespace BuildDeps.Workspace.Twins

def app : Label := ⟨"", "app", "app", false⟩

def workspace : Workspace where
  rules := [{ label := app, deps := [":two"] }, { label := app, deps := [":one"] }]

/-- Three texts are no labels: two of the second export, and one that the rule lists. -/
def broken : Workspace where
  rules := [{ label := app, deps := [":"] }]
  exports := [{ label := "//dist:kit", exports := ["//app"] },
    { label := "//dist:sdk", deps := ["//a:b:c"], runtimeDeps := [""] }]

/-- The results stay in the order of the rules, and a run fails on the first text that is no label. -/
theorem twins_keep_their_order_and_first_malformed_label_fails :
    ((workspace.run {} default).answer =
        .ok [⟨app, [":two"], [], none⟩, ⟨app, [":one"], [], none⟩] ∧
      [app, app].Perm (workspace.rules.map (·.label))) ∧
    (broken.run {} default).answer = .error ⟨"//a:b:c", .invalidTarget⟩ := by
  have succeeds : (workspace.run {} default).answer =
      .ok [⟨app, [":two"], [], none⟩, ⟨app, [":one"], [], none⟩] :=
    run_of_eq_ok_of_inOrder rfl (by decide +kernel) (by decide)
  obtain ⟨_, _, results⟩ := run_fails_only_on_malformed_labels workspace {} default
  obtain ⟨_, fails, _⟩ := run_fails_only_on_malformed_labels broken {} default
  refine ⟨⟨succeeds, (results _ succeeds).1⟩, (fails _).2 ?_⟩
  refine ⟨["//dist:kit", "//app", "//dist:sdk"], "//a:b:c", ["", ":"], rfl, rfl, ?_⟩
  intro earlier member
  simp only [List.mem_cons, List.not_mem_nil, or_false] at member
  rcases member with rfl | rfl | rfl
  · exact ⟨⟨"", "dist", "kit", false⟩, rfl⟩
  · exact ⟨app, rfl⟩
  · exact ⟨⟨"", "dist", "sdk", false⟩, rfl⟩

end BuildDeps.Workspace.Twins
