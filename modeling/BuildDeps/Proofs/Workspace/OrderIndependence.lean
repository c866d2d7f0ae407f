import BuildDeps.Proofs.Resolution.OneLanguage
import BuildDeps.Proofs.Workspace.Recording

/-!
Runs do not show the order in which rules and exports are given.

The exports are recorded as a table, and what rules and exports depend on is the same graph in any
order.  In a repository of one language the cache shows nothing of the rules that were resolved
before, so that each rule has a result of its own, and the results are sorted in the end.
-/

namespace BuildDeps

open Resolution (Cache Context RuleIndex)
open Export (Registry)

variable {workspace one other : Workspace} {config : Config} {artifacts : Maven.ArtifactIndex}
  {registry next : Registry} {context : Context} {index : Export.Index} {cache : Cache}
  {language : Language} {rules others : List WorkspaceRule} {exports : List ExportRule}

/-! ### Exports with labels of their own -/

/-- Exports under distinct labels.  It is the labels that count and not their texts: `//app` and
`//app:app` are one label. -/
def DistinctExports (exports : List ExportRule) : Prop :=
  exports.Pairwise fun one other =>
    ∀ label, Label.parse one.label = .ok label → Label.parse other.label ≠ .ok label

namespace DistinctExports

/-- Which exports there are does not show the order in which they are given. -/
theorem of_perm {permuted : List ExportRule} (distinct : DistinctExports exports)
    (perm : exports.Perm permuted) : DistinctExports permuted := by
  apply (perm.pairwise_iff ?_).1 distinct
  intro one other apart label parsed same
  exact apart label same parsed

/-- Exports under distinct labels are read as rows with keys of their own. -/
theorem nodup_rows {rows : List (Label × List Label)} (distinct : DistinctExports exports)
    (read : exports.mapM ExportRule.row = .ok rows) : (rows.map (·.1)).Nodup := by
  rw [mapM_eq_ok_iff] at read
  induction read with
  | nil => exact List.nodup_nil
  | cons first later ih =>
      obtain ⟨apart, rest⟩ := List.pairwise_cons.1 distinct
      rw [List.map_cons, List.nodup_cons]
      refine ⟨?_, ih rest⟩
      intro again
      obtain ⟨row, member, same⟩ := List.mem_map.1 again
      obtain ⟨rule, present, readAgain⟩ := exists_related_of_mem later.flip member
      exact apart rule present _ (ExportRule.parse_of_row first)
        (same ▸ ExportRule.parse_of_row readAgain)

end DistinctExports

namespace Workspace

/-- The registry of some rules and of exports that were read. -/
def registryOf (rules : List WorkspaceRule) (rows : List (Label × List Label)) : Registry :=
  { recordAll rules with exports := .ofList rows }

/-- Exports are recorded if all of them can be read, each as its row. -/
theorem recordExports_eq_ok_iff : (recordExports (recordAll rules) exports).answer = .ok next ↔
    ∃ rows, exports.mapM ExportRule.row = .ok rows ∧ next = registryOf rules rows := by
  rw [answer_recordExports, exports_recordAll]
  cases exports.mapM ExportRule.row with
  | error fault => simp [Except.map]
  | ok rows => simp [Except.map, registryOf, Table.ofList, eq_comm]

end Workspace

/-! ### Rules in another order -/

namespace DistinctRules

/-- Which rules there are does not show the order in which they are given. -/
theorem of_perm (distinct : DistinctRules rules) (perm : rules.Perm others) :
    DistinctRules others where
  labels := (perm.map _).nodup_iff.1 distinct.labels
  packages oneMember otherMember :=
    distinct.packages (perm.mem_iff.2 oneMember) (perm.mem_iff.2 otherMember)

/-- The table of packages is that of the declarations, which no two rules share. -/
theorem get?_declaring_of_perm (distinct : DistinctRules rules) (perm : rules.Perm others)
    (package : JvmPackage) :
    (recordAll rules).declaring.get? package = (recordAll others).declaring.get? package := by
  apply Option.ext
  intro label
  rw [distinct.unambiguous.get?_declaring, (distinct.of_perm perm).unambiguous.get?_declaring,
    distinct.declares, (distinct.of_perm perm).declares]
  simp only [perm.mem_iff]

/-- The table of rules has every rule under its own label. -/
theorem get?_rules_of_perm (distinct : DistinctRules rules) (perm : rules.Perm others)
    (label : Label) :
    (recordAll rules).rules.get? label = (recordAll others).rules.get? label := by
  apply Option.ext
  intro summary
  rw [distinct.get?_rules, (distinct.of_perm perm).get?_rules]
  simp only [perm.mem_iff]

/-- A package has one rule at most, so that the index has no order to show. -/
theorem find_of_perm (distinct : DistinctRules rules) (perm : rules.Perm others)
    (language : Language) (package : JvmPackage) :
    (indexAll rules).find language package = (indexAll others).find language package := by
  rw [distinct.lists.find_eq_toList distinct.unambiguous,
    (distinct.of_perm perm).lists.find_eq_toList (distinct.of_perm perm).unambiguous,
    distinct.get?_declaring_of_perm perm]

end DistinctRules

namespace Workspace

/-- The records of rules and exports make the same graph in any order. -/
theorem sameGraph_of_perm {rows permuted : List (Label × List Label)}
    (distinct : DistinctRules rules) (apart : (rows.map (·.1)).Nodup) (perm : rules.Perm others)
    (rowsPerm : rows.Perm permuted) :
    (registryOf rules rows).SameGraph (registryOf others permuted) := by
  apply Registry.sameGraph_of_records
  · exact distinct.get?_declaring_of_perm perm
  · exact distinct.get?_rules_of_perm perm
  · intro label
    exact Table.get?_ofList_of_perm apart rowsPerm

/-- The contexts of two runs agree in all that is asked of them. -/
theorem contextWith_agree {rows permuted : List (Label × List Label)}
    (distinct : DistinctRules one.rules) (apart : (rows.map (·.1)).Nodup)
    (perm : one.rules.Perm other.rules) (rowsPerm : rows.Perm permuted) :
    (one.contextWith config artifacts (registryOf one.rules rows)).Agree
      (other.contextWith config artifacts (registryOf other.rules permuted)) where
  config := rfl
  artifacts := rfl
  find := distinct.find_of_perm perm
  exports := .some (sameGraph_of_perm distinct apart perm rowsPerm).finalize_agree

end Workspace

/-! ### Rules on their own -/

namespace WorkspaceRule

/-- The result of a rule whose packages have the labels that they have on their own. -/
def settled (context : Context) (index : Export.Index) (rule : WorkspaceRule) :
    Except Label.Malformed ResolvedRule :=
  (rule.deps.mapM Label.parse).map fun listed =>
    rule.resultOf context.config index listed
      (context.settleEach rule.origin rule.neededPackages)
      (context.settleEach rule.origin rule.exportedPackages)

/-- What a rule is settled on bears its label. -/
theorem label_of_settled {rule : WorkspaceRule} {result : ResolvedRule}
    (succeeds : rule.settled context index = .ok result) : result.label = rule.label := by
  unfold settled at succeeds
  cases listed : rule.deps.mapM Label.parse with
  | error fault =>
      rw [listed] at succeeds
      cases succeeds
  | ok labels =>
      rw [listed] at succeeds
      cases succeeds
      rfl

/-- Rules are settled alike where contexts and indexes agree. -/
theorem settled_of_agree {oneContext otherContext : Context} {oneIndex otherIndex : Export.Index}
    (contexts : oneContext.Agree otherContext) (indexes : oneIndex.Agree otherIndex) :
    settled oneContext oneIndex = settled otherContext otherIndex := by
  funext rule
  simp only [settled, resultOf, visibility, contexts.config, contexts.settleEach_eq,
    indexes.visibility?]

/-- A rule of the language has its own result, and leaves nothing to borrow. -/
theorem answer_resolve_of_holdsOf {rule : WorkspaceRule} (index : Export.Index)
    (holds : context.HoldsOf language cache) (same : rule.language = language) :
    (rule.resolve context index cache).answer = rule.settled context index ∧
      context.HoldsOf language (rule.resolve context index cache).cache := by
  have each : ∀ {cache} packages, context.HoldsOf language cache →
      (context.resolveEach rule.origin packages cache).answer =
          context.settleEach rule.origin packages ∧
        context.HoldsOf language (context.resolveEach rule.origin packages cache).cache :=
    fun packages holds => holds.answer_resolveEach same
  constructor
  · rw [answer_resolve, (each _ holds).1, (each _ (each _ holds).2).1]
    rfl
  · exact cache_resolve_induction holds fun packages kept => (each packages kept).2

end WorkspaceRule

namespace Workspace

/-- In a repository of one language, each rule has the result that it has on its own. -/
theorem answer_resolveRules_of_holdsOf (holds : context.HoldsOf language cache)
    (same : ∀ rule ∈ rules, rule.language = language) :
    (resolveRules context index rules cache).answer =
      rules.mapM (WorkspaceRule.settled context index) := by
  induction rules generalizing cache with
  | nil => rfl
  | cons rule rest ih =>
      obtain ⟨answered, kept⟩ := WorkspaceRule.answer_resolve_of_holdsOf index holds
        (same rule List.mem_cons_self)
      have others := ih kept fun later member => same later (List.mem_cons_of_mem _ member)
      rw [List.mapM_cons, resolveRules, ← answered, ← others]
      cases (rule.resolve context index cache).answer with
      | error fault => rfl
      | ok result =>
          simp only [bind, Except.bind]
          cases (resolveRules context index rest (rule.resolve context index cache).cache).answer <;>
            rfl

/-- A run in one language reads all exports and settles each rule on its own. -/
theorem run_eq_ok_iff {resolved : List ResolvedRule}
    (same : ∀ rule ∈ workspace.rules, rule.language = language) :
    (workspace.run config artifacts).answer = .ok resolved ↔ ∃ rows listing,
      workspace.exports.mapM ExportRule.row = .ok rows ∧
      workspace.rules.mapM (WorkspaceRule.settled
        (workspace.contextWith config artifacts (registryOf workspace.rules rows))
        (registryOf workspace.rules rows).finalize) = .ok listing ∧
      resolved = sortRules listing := by
  constructor
  · intro succeeds
    obtain ⟨registry, listing, recorded, found, rfl⟩ := run_eq_ok succeeds
    obtain ⟨rows, read, rfl⟩ := recordExports_eq_ok_iff.1 recorded
    rw [answer_resolveRules_of_holdsOf (Context.holdsOf_ofCapacity _) same] at found
    exact ⟨rows, listing, read, found, rfl⟩
  · rintro ⟨rows, listing, read, found, rfl⟩
    apply run_of_eq_ok (recordExports_eq_ok_iff.2 ⟨rows, read, rfl⟩)
    rw [answer_resolveRules_of_holdsOf (Context.holdsOf_ofCapacity _) same]
    exact found

/-- Results under distinct labels have one order. -/
theorem sortRules_eq_of_perm {results permuted : List ResolvedRule}
    (distinct : (results.map (·.label)).Nodup) (perm : results.Perm permuted) :
    sortRules results = sortRules permuted := by
  have sorted : ∀ rules : List ResolvedRule,
      (sortRules rules).Pairwise fun one other => (compare one.label other.label).isLE = true :=
    pairwise_mergeSort_compareOn ResolvedRule.label
  apply List.Perm.eq_of_pairwise ?_ (sorted results) (sorted permuted)
  · exact (sortRules_perm results).trans (perm.trans (sortRules_perm permuted).symm)
  · intro one other oneMember otherMember before after
    have label := Std.LawfulEqCmp.eq_of_compare (Std.OrientedCmp.isLE_antisymm before after)
    exact List.inj_on_of_nodup_map distinct (mem_sortRules.1 oneMember)
      (perm.mem_iff.2 (mem_sortRules.1 otherMember)) label

/-- What a run answers with rules and exports in one order, it answers with them in any other. -/
theorem run_eq_ok_of_perm {resolved : List ResolvedRule}
    (distinct : DistinctRules one.rules) (distinctExports : DistinctExports one.exports)
    (same : ∀ rule ∈ one.rules, rule.language = language)
    (rules : one.rules.Perm other.rules) (exports : one.exports.Perm other.exports)
    (succeeds : (one.run config artifacts).answer = .ok resolved) :
    (other.run config artifacts).answer = .ok resolved := by
  obtain ⟨rows, listing, read, settled, rfl⟩ := (run_eq_ok_iff same).1 succeeds
  obtain ⟨permutedRows, readPermuted, rowsPerm⟩ := exists_mapM_of_perm exports read
  obtain ⟨permuted, settledPermuted, listingPerm⟩ := exists_mapM_of_perm rules settled
  have apart := distinctExports.nodup_rows read
  -- Both runs settle each rule against contexts that agree, so only the order of results differs.
  rw [WorkspaceRule.settled_of_agree (contextWith_agree distinct apart rules rowsPerm)
    (sameGraph_of_perm distinct apart rules rowsPerm).finalize_agree] at settledPermuted
  have sameOther : ∀ rule ∈ other.rules, rule.language = language :=
    fun rule member => same rule (rules.mem_iff.2 member)
  refine (run_eq_ok_iff sameOther).2 ⟨permutedRows, permuted, readPermuted, settledPermuted, ?_⟩
  apply sortRules_eq_of_perm _ listingPerm
  have labels := (mapM_eq_ok_iff.1 settled).imp fun _ _ => WorkspaceRule.label_of_settled
  rw [map_label_eq_of_forall₂ labels]
  exact distinct.labels

/-- Where all rules are of one language, and rules and exports have labels and rules have packages of
their own, a run succeeds or not, and with the same results, whatever the order in which rules and
exports are given. -/
theorem run_independent_of_order (config : Config) (artifacts : Maven.ArtifactIndex)
    (language : Language) (same : ∀ rule ∈ one.rules, rule.language = language)
    (distinct : DistinctRules one.rules) (distinctExports : DistinctExports one.exports)
    (rules : one.rules.Perm other.rules) (exports : one.exports.Perm other.exports)
    (resolved : List ResolvedRule) :
    (one.run config artifacts).answer = .ok resolved ↔
      (other.run config artifacts).answer = .ok resolved := by
  constructor
  · exact run_eq_ok_of_perm distinct distinctExports same rules exports
  · exact run_eq_ok_of_perm (distinct.of_perm rules) (distinctExports.of_perm exports)
      (fun rule member => same rule (rules.mem_iff.2 member)) rules.symm exports.symm

end Workspace

end BuildDeps

/-! ### Two exports that reach one rule -/

namespace BuildDeps.Workspace.Shared

def app : WorkspaceRule where
  label := ⟨"", "app", "app", false⟩
  units := [{ package := ⟨"app"⟩, importedPackages := ["core"] }]

def core : WorkspaceRule where
  label := ⟨"", "core", "core", false⟩
  units := [{ package := ⟨"core"⟩ }]

def sdk : ExportRule where
  label := "//dist:sdk"
  exports := ["//app"]

def kit : ExportRule where
  label := "//dist:kit"
  exports := ["//core"]

/-- Both exports reach the second rule, which belongs to the kit. -/
def workspace : Workspace := ⟨[app, core], [sdk, kit]⟩

/-- The same rules and exports the other way round. -/
def reversed : Workspace := ⟨[core, app], [kit, sdk]⟩

theorem distinctRules : DistinctRules workspace.rules :=
  .pair (by decide) (by decide)

theorem distinctExports : DistinctExports workspace.exports := by
  have sdkLabel : Label.parse sdk.label = .ok ⟨"", "dist", "sdk", false⟩ := rfl
  have kitLabel : Label.parse kit.label = .ok ⟨"", "dist", "kit", false⟩ := rfl
  apply List.pairwise_pair.2
  intro label parsed same
  rw [← parsed, sdkLabel, kitLabel] at same
  simp at same

/-- Given the other way round, rules and exports have the same results. -/
theorem run_independent_of_order_shared :
    (reversed.run {} default).answer = .ok
      [⟨app.label, ["//dist:kit"], [], some ["//app:__pkg__", "//dist:__pkg__"]⟩,
        ⟨core.label, [], [], some ["//core:__pkg__", "//dist:__pkg__"]⟩] := by
  have given : (workspace.run {} default).answer = .ok
      [⟨app.label, ["//dist:kit"], [], some ["//app:__pkg__", "//dist:__pkg__"]⟩,
        ⟨core.label, [], [], some ["//core:__pkg__", "//dist:__pkg__"]⟩] :=
    run_of_eq_ok_of_inOrder rfl (by decide +kernel) (by decide)
  exact (run_independent_of_order {} default .java (by decide) distinctRules distinctExports
    (by decide) (by decide) _).1 given

end BuildDeps.Workspace.Shared
