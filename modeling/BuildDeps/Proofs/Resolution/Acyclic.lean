import BuildDeps.Proofs.Export.Absorption
import BuildDeps.Proofs.Resolution.StandIns

/-!
Resolving to exports brings no cycles about.

Exports and what they absorbed form groups, and the rules that no export absorbed are a last group.
Groups are ordered as their exports claim, the last one after all others.  An edge of the rewritten
graph either leads to an earlier group, or it stays within a group and is an edge of the recorded
graph; a cycle could therefore only be one of the recorded graph.
-/

namespace BuildDeps.Export.Registry

variable {registry : Registry} {one other third label middle exporter : Label}

/-- The export that a label belongs to: itself, or the one that absorbed it. -/
def group (registry : Registry) (label : Label) : Option Label :=
  if registry.isExport label then some label else registry.finalize.owner? label

/-- The order of groups: as their exports claim, and rules that belong to none come last. -/
inductive GroupBefore (registry : Registry) : Option Label → Option Label → Prop
  | claims {one other : Label} (precedes : registry.Precedes one other) :
      GroupBefore registry (some one) (some other)
  | unowned (one : Label) : GroupBefore registry (some one) none

/-- Nothing comes after the last group, so that only claims have to be compared. -/
theorem GroupBefore.trans {first second last : Option Label}
    (before : registry.GroupBefore first second) (after : registry.GroupBefore second last) :
    registry.GroupBefore first last := by
  cases before with
  | claims precedes =>
      cases after with
      | claims later => exact .claims (precedes.trans later)
      | unowned => exact .unowned _
  | unowned => cases after

/-- No group comes before itself, the last one included. -/
theorem not_groupBefore_self {group : Option Label} : ¬ registry.GroupBefore group group := by
  intro before
  cases before with
  | claims precedes => exact not_precedes_self precedes

/-- An export belongs to itself, since exports are never absorbed. -/
theorem group_of_isExport (exports : registry.isExport label = true) :
    registry.group label = some label := by
  simp [group, exports]

/-- A rule belongs to its owner. -/
theorem group_of_plain (plain : registry.isExport label = false) :
    registry.group label = registry.finalize.owner? label := by
  simp [group, plain]

/-- A step down the order of groups, or a path of the recorded graph within a group. -/
def Descends (registry : Registry) (one other : Label) : Prop :=
  registry.GroupBefore (registry.group other) (registry.group one) ∨
    registry.group other = registry.group one ∧
      Relation.TransGen registry.RecordedEdge one other

/-- A step to an earlier group is one whatever comes before or after it within a group. -/
theorem Descends.trans (first : registry.Descends one other)
    (second : registry.Descends other third) : registry.Descends one third := by
  rcases first with down | ⟨same, path⟩
  · rcases second with further | ⟨level, _⟩
    · exact Or.inl (further.trans down)
    · exact Or.inl (level ▸ down)
  · rcases second with further | ⟨level, rest⟩
    · exact Or.inl (same ▸ further)
    · exact Or.inr ⟨level.trans same, path.trans rest⟩

namespace Unambiguous

variable (unambiguous : registry.Unambiguous)
  (acyclic : ∀ label, ¬ Relation.TransGen registry.RecordedEdge label label)

include unambiguous in
/-- Whatever is reached is reached along edges that were recorded. -/
theorem path_of_reaches (reaches : registry.Reaches one other) :
    Relation.TransGen registry.RecordedEdge one other :=
  Relation.TransGen.mono (fun _ _ => unambiguous.recordedEdge_of_dependsOn) _ _ reaches

include unambiguous acyclic in
/-- Without cycles, what an export reaches claims before it. -/
theorem precedes_of_reaches_of_acyclic (reaches : registry.Reaches one other) :
    registry.Precedes other one := by
  apply precedes_of_reaches reaches
  intro back
  exact acyclic one (unambiguous.path_of_reaches (reaches.trans back))

include unambiguous acyclic in
/-- A rule depends on exports of earlier groups only. -/
theorem groupBefore_of_dependsOn_export (plain : registry.isExport one = false)
    (depends : registry.DependsOn one exporter) (exports : registry.isExport exporter = true) :
    registry.GroupBefore (registry.group exporter) (registry.group one) := by
  rw [group_of_isExport exports, group_of_plain plain]
  cases owned : registry.finalize.owner? one with
  | none => exact .unowned exporter
  | some owner =>
      have covers := (owner?_eq_some_iff.1 owned).1
      apply GroupBefore.claims
      exact unambiguous.precedes_of_reaches_of_acyclic acyclic (covers.reaches.tail depends)

end Unambiguous

/-- Where a rule and what it depends on have different owners, the latter has one and it claims first:
an owner of the rule covers both. -/
theorem exists_owner_before (depends : registry.DependsOn one other)
    (plain : registry.isExport other = false)
    (different : registry.finalize.owner? one ≠ registry.finalize.owner? other) :
    ∃ exporter, registry.finalize.owner? other = some exporter ∧
      registry.GroupBefore (some exporter) (registry.finalize.owner? one) := by
  cases owned : registry.finalize.owner? one with
  | none =>
      rw [owned] at different
      obtain ⟨exporter, found⟩ := Option.ne_none_iff_exists'.1 different.symm
      exact ⟨exporter, found, .unowned exporter⟩
  | some owner =>
      have covers := (owner?_eq_some_iff.1 owned).1.onward depends plain
      obtain ⟨exporter, first, order⟩ := covers.exists_owner
      refine ⟨exporter, first, ?_⟩
      rcases order with same | precedes
      · rw [owned, first, same] at different
        exact absurd rfl different
      · exact .claims precedes

namespace Unambiguous

variable (unambiguous : registry.Unambiguous)
  (acyclic : ∀ label, ¬ Relation.TransGen registry.RecordedEdge label label)

include unambiguous acyclic in
/-- What an export lists leads down: to an export that claims before it, or to a rule that it absorbs or
that an earlier one did. -/
theorem descends_of_listed {listing : List Label}
    (recorded : registry.exports.get? exporter = some listing) (member : label ∈ listing) :
    registry.Descends exporter label := by
  have exports : registry.isExport exporter = true := Table.contains_iff.2 ⟨listing, recorded⟩
  have depends : registry.DependsOn exporter label := .listed recorded member
  cases kind : registry.isExport label with
  | true =>
      apply Or.inl
      rw [group_of_isExport exports, group_of_isExport kind]
      exact .claims (unambiguous.precedes_of_reaches_of_acyclic acyclic (.single depends))
  | false =>
      have covers : registry.Covers exporter label := .direct exports depends kind
      obtain ⟨owner, first, order⟩ := covers.exists_owner
      rw [Descends, group_of_isExport exports, group_of_plain kind, first]
      rcases order with same | precedes
      · exact Or.inr ⟨same ▸ rfl, .single (.listed recorded member)⟩
      · exact Or.inl (.claims precedes)

include unambiguous acyclic in
/-- What a rule is answered with for an import leads down: to an export of an earlier group, or to a rule
of its own group. -/
theorem descends_of_resolved {package : JvmPackage} {declaring : Label}
    (plain : registry.isExport one = false) (imports : registry.Imports one package)
    (declares : registry.Declares declaring package) :
    registry.Descends one
      ((Resolution.RuleMatch.standIn? registry.finalize one declaring).getD declaring) := by
  have edge : registry.RecordedEdge one declaring := .imported plain imports declares
  have other : declaring ≠ one := by
    rintro rfl
    exact acyclic declaring (.single edge)
  have depends := unambiguous.dependsOn_of_recordedEdge edge other
  cases kind : registry.isExport declaring with
  | true =>
      have exports : registry.finalize.isExport declaring = true := kind
      simp only [Resolution.RuleMatch.standIn?, exports, if_true, Option.getD_some]
      exact Or.inl (unambiguous.groupBefore_of_dependsOn_export acyclic plain depends kind)
  | false =>
      have notExport : registry.finalize.isExport declaring = false := kind
      simp only [Resolution.RuleMatch.standIn?, notExport, Bool.false_eq_true, if_false]
      by_cases same : registry.finalize.owner? one = registry.finalize.owner? declaring
      · rw [if_pos same, Option.getD_none]
        refine Or.inr ⟨?_, .single edge⟩
        rw [group_of_plain kind, group_of_plain plain, same]
      · obtain ⟨exporter, found, before⟩ := exists_owner_before depends kind same
        have exports := (owner?_eq_some_iff.1 found).1.isExport
        rw [if_neg same, found, Option.getD_some]
        apply Or.inl
        rw [group_of_isExport exports, group_of_plain plain]
        exact before

end Unambiguous

end BuildDeps.Export.Registry

namespace BuildDeps.Resolution

open Export (Registry)

variable {context : Context} {registry : Registry}

/-- The graph after resolution: an export depends on what it lists, and another rule on the labels
that it is answered with for the packages that it imports and some rule declares. -/
inductive Context.RewrittenEdge (context : Context) (registry : Registry) : Label → Label → Prop
  | listed {exporter label : Label} {listing : List Label}
      (recorded : registry.exports.get? exporter = some listing) (member : label ∈ listing) :
      RewrittenEdge context registry exporter label
  | resolved {origin : Origin} {package : JvmPackage} {declaring label : Label}
      {classes : List String} {cache : Cache}
      (plain : registry.isExport origin.label = false)
      (imports : registry.Imports origin.label package)
      (declares : registry.Declares declaring package)
      (answered : (context.resolvePackage origin package classes cache).answer = some label) :
      RewrittenEdge context registry origin.label label

section

variable (exports : context.exports = some registry.finalize)
  (enabled : context.config.resolveToExports = true)
  (noOverrides : ∀ package, context.config.override? package = none)
  (unambiguous : registry.Unambiguous) (lists : context.rules.Lists registry)

include exports enabled noOverrides unambiguous lists

/-- A declared package is settled by the rule that declares it, whatever the cache holds. -/
theorem Context.settled_by_declaring_rule {package : JvmPackage} {declaring : Label}
    (declares : registry.Declares declaring package) (origin : Origin) (classes : List String)
    (cache : Cache) :
    (context.ruleMatch origin package).label? =
        some ((RuleMatch.standIn? registry.finalize origin.label declaring).getD declaring) ∧
      (context.resolvePackage origin package classes cache).answer =
        (context.ruleMatch origin package).label? := by
  have only : context.rules.find origin.language package = [declaring] :=
    lists.find_eq unambiguous declares
  have settled := label?_ruleMatch_of_find_eq_singleton exports enabled only
  refine ⟨settled, ?_⟩
  rw [answer_of_label? (noOverrides package) settled, settled]

/-- If the recorded graph has no cycle, then neither has the graph after resolution, in which the
rules of the repository answer for every package that one of them declares. -/
theorem Context.resolution_keeps_acyclic
    (acyclic : ∀ label, ¬ Relation.TransGen registry.RecordedEdge label label) :
    (∀ {declaring : Label} {package : JvmPackage}, registry.Declares declaring package →
      ∀ origin classes cache, ∃ label, (context.ruleMatch origin package).label? = some label ∧
        (context.resolvePackage origin package classes cache).answer = some label) ∧
      ∀ label, ¬ Relation.TransGen (context.RewrittenEdge registry) label label := by
  have settled := @settled_by_declaring_rule context registry exports enabled noOverrides
    unambiguous lists
  constructor
  · intro declaring package declares origin classes cache
    obtain ⟨found, answered⟩ := settled declares origin classes cache
    exact ⟨_, found, answered.trans found⟩
  · have descends : ∀ {one other}, context.RewrittenEdge registry one other →
        registry.Descends one other := by
      intro one other edge
      cases edge with
      | listed recorded member => exact unambiguous.descends_of_listed acyclic recorded member
      | @resolved origin package declaring label classes cache plain imports declares answered =>
          obtain ⟨found, same⟩ := settled declares origin classes cache
          cases answered.symm.trans (same.trans found)
          exact unambiguous.descends_of_resolved acyclic plain imports declares
    have path_descends : ∀ {one other}, Relation.TransGen (context.RewrittenEdge registry) one other →
        registry.Descends one other := by
      intro one other path
      induction path with
      | single edge => exact descends edge
      | tail _ edge ih => exact ih.trans (descends edge)
    intro label cycle
    rcases path_descends cycle with down | ⟨_, recorded⟩
    · exact Registry.not_groupBefore_self down
    · exact acyclic label recorded

end

end BuildDeps.Resolution

/-! ### Two layers of exports -/

namespace BuildDeps.Resolution.Layered

open Export.Layered

/-- How far the labels of the two layers are from the last. -/
def height (label : Label) : Nat :=
  if label = core then 0 else if label = app then 2 else if label = suite then 3 else 1

/-- Every edge leads down, so that there are no cycles. -/
theorem height_lt {one other : Label} (edge : registry.RecordedEdge one other) :
    height other < height one := by
  cases edge with
  | listed recorded member =>
      have row := Table.mem_rows_of_get? recorded
      have rows : registry.exports.rows = [(kit, [core]), (suite, [app])] := rfl
      rw [rows] at row
      rcases List.mem_pair.1 row with same | same <;> cases same <;>
        cases List.mem_singleton.1 member <;> decide
  | imported plain imports declares =>
      obtain ⟨summary, recorded, member⟩ := imports
      have found := registry_unambiguous.get?_declaring.2 declares
      rcases eq_of_get?_rules recorded with ⟨rfl, rfl⟩ | ⟨rfl, rfl⟩ | ⟨rfl, rfl⟩
      · rcases List.mem_pair.1 member with rfl | rfl <;> cases found <;> decide
      · cases List.mem_singleton.1 member
        cases found
        decide
      · cases member

theorem registry_acyclic (label : Label) :
    ¬ Relation.TransGen registry.RecordedEdge label label := by
  have lower : ∀ {one other}, Relation.TransGen registry.RecordedEdge one other →
      height other < height one := by
    intro one other path
    induction path with
    | single edge => exact height_lt edge
    | tail _ edge ih => exact (height_lt edge).trans ih
  exact fun cycle => absurd (lower cycle) (lt_irrefl _)

/-- The two exports are in conflict about the last rule; the first rule then depends on the export
that absorbed it, and there is still no cycle. -/
theorem resolution_keeps_acyclic_with_conflict :
    registry.finalize.conflicts = [⟨core, suite, kit⟩] ∧
      context.RewrittenEdge registry app kit ∧
      ∀ label, ¬ Relation.TransGen (context.RewrittenEdge registry) label label := by
  have imports : registry.Imports app ⟨"core"⟩ := ⟨_, rfl, List.mem_cons_self⟩
  have declares : registry.Declares core ⟨"core"⟩ := ⟨_, rfl, List.mem_cons_self⟩
  have answered : (context.resolvePackage { label := app } ⟨"core"⟩ [] default).answer =
      some kit := by decide +kernel
  refine ⟨by decide +kernel, ?_, ?_⟩
  · exact .resolved rfl imports declares answered
  · exact (Context.resolution_keeps_acyclic rfl rfl (fun _ => rfl) registry_unambiguous lists
      registry_acyclic).2

end BuildDeps.Resolution.Layered
