import BuildDeps.Proofs.Export.Counting
import BuildDeps.Proofs.Export.Recording

/-!
Questions about the graph of what was recorded.

The edges of the graph are stated by the records themselves, of which the last that speaks of an export, a
rule or a package stands.  Whatever was recorded and whatever was asked before, the answers about a label
are the edges from it and the number of labels that they lead to.
-/

namespace BuildDeps.Export

/-- What is recorded in one step. -/
inductive Record where
  | rule (label : Label) (summary : RuleSummary)
  | exporter (label : Label) (rule : ExportRule)

namespace Record

/-- What the record lists for an export.  An export with a malformed dependency is not recorded. -/
def listing? (exporter : Label) : Record → Option (List Label)
  | .rule _ _ => none
  | .exporter label written =>
    if label = exporter then (written.dependencies label).toOption else none

/-- The packages that the record gives to a rule. -/
def summary? (label : Label) : Record → Option RuleSummary
  | .rule recorded summary => if recorded = label then some summary else none
  | .exporter _ _ => none

/-- The rule by which the record declares a package. -/
def declaring? (package : JvmPackage) : Record → Option Label
  | .rule label summary => if package ∈ summary.declares then some label else none
  | .exporter _ _ => none

/-- What is told by the last record that tells anything. -/
def latest {α : Type} (told : Record → Option α) (records : List Record) : Option α :=
  (records.filterMap told).getLast?

/-- A record at the end has the last word if it tells anything. -/
theorem latest_append_singleton {α : Type} (told : Record → Option α) (records : List Record)
    (record : Record) :
    latest told (records ++ [record]) = (told record).or (latest told records) := by
  rw [latest, List.filterMap_append]
  cases tells : told record <;> simp [latest, tells]

/-- One label depends on another by the records: an export on what its last record lists, whatever rules
are recorded under its label, and another rule on the other labels by which the packages it imports were
declared last. -/
inductive Edge (records : List Record) : Label → Label → Prop where
  | listed {exporter label : Label} {listing : List Label}
      (recorded : latest (listing? exporter) records = some listing) (member : label ∈ listing) :
      Edge records exporter label
  | imported {importer label : Label} {summary : RuleSummary} {package : JvmPackage}
      (plain : latest (listing? importer) records = none)
      (recorded : latest (summary? importer) records = some summary)
      (imports : package ∈ summary.imports)
      (declared : latest (declaring? package) records = some label) (other : label ≠ importer) :
      Edge records importer label

end Record

namespace Registry

variable {records : List Record} {label other : Label} {package : JvmPackage}

/-- Records a rule, or an export if it can be read. -/
def record (registry : Registry) : Record → Registry
  | .rule label summary => registry.recordRule label summary
  | .exporter label rule =>
    match registry.recordExport label rule with
    | .ok next => next
    | .error _ => registry

/-- The registry of what was recorded, one record after the other. -/
def ofRecords (records : List Record) : Registry :=
  records.foldl record empty

theorem ofRecords_append_singleton (records : List Record) (last : Record) :
    ofRecords (records ++ [last]) = (ofRecords records).record last := by
  rw [ofRecords, List.foldl_append]
  rfl

/-- An export that can be read is written into its table, and nothing else is. -/
theorem record_exporter (registry : Registry) (label : Label) (rule : ExportRule) :
    registry.record (.exporter label rule) =
      match rule.dependencies label with
      | .ok dependencies =>
        { registry with exports := registry.exports.insert label (Ordered.ofList dependencies) }
      | .error _ => registry := by
  rw [record, recordExport]
  cases rule.dependencies label <;> rfl

/-- The table of exports has what the last record of an export lists. -/
theorem get?_exports_ofRecords : (ofRecords records).exports.get? label =
    (Record.latest (Record.listing? label) records).map Ordered.ofList := by
  induction records using List.reverseRecOn with
  | nil => rfl
  | append_singleton records last ih =>
      rw [ofRecords_append_singleton, Record.latest_append_singleton]
      cases last with
      | rule recorded summary => exact ih
      | exporter recorded rule =>
          rw [record_exporter, Record.listing?]
          by_cases same : recorded = label
          · subst same
            cases rule.dependencies recorded <;>
              simp [Except.toOption, Table.get?_insert, ih]
          · cases rule.dependencies recorded <;>
              simp [same, Ne.symm same, Table.get?_insert, ih]

/-- The table of rules has the summary that was recorded last. -/
theorem get?_rules_ofRecords : (ofRecords records).rules.get? label =
    Record.latest (Record.summary? label) records := by
  induction records using List.reverseRecOn with
  | nil => rfl
  | append_singleton records last ih =>
      rw [ofRecords_append_singleton, Record.latest_append_singleton, ← ih]
      cases last with
      | rule recorded summary =>
          rw [record, get?_rules_recordRule, Record.summary?]
          by_cases same : recorded = label
          · simp [same]
          · simp [same, Ne.symm same]
      | exporter recorded rule =>
          rw [record_exporter]
          cases rule.dependencies recorded <;> rfl

/-- The table of packages has the rule that was recorded last with the package. -/
theorem get?_declaring_ofRecords : (ofRecords records).declaring.get? package =
    Record.latest (Record.declaring? package) records := by
  induction records using List.reverseRecOn with
  | nil => rfl
  | append_singleton records last ih =>
      rw [ofRecords_append_singleton, Record.latest_append_singleton, ← ih]
      cases last with
      | rule recorded summary =>
          rw [record, get?_declaring_recordRule, Record.declaring?]
          by_cases declares : package ∈ summary.declares <;> simp [declares]
      | exporter recorded rule =>
          rw [record_exporter]
          cases rule.dependencies recorded <;> rfl

/-- The graph of the tables is the graph of the records. -/
theorem dependsOn_ofRecords : (ofRecords records).DependsOn label other ↔
    Record.Edge records label other := by
  constructor
  · intro depends
    cases depends with
    | listed recorded member =>
        rw [get?_exports_ofRecords, Option.map_eq_some_iff] at recorded
        obtain ⟨listing, listed, rfl⟩ := recorded
        exact .listed listed (Ordered.mem_ofList.1 member)
    | imported plain recorded imports declared distinct =>
        rw [get?_exports_ofRecords, Option.map_eq_none_iff] at plain
        rw [get?_rules_ofRecords] at recorded
        rw [get?_declaring_ofRecords] at declared
        exact .imported plain recorded imports declared distinct
  · intro edge
    cases edge with
    | listed recorded member =>
        have found : (ofRecords records).exports.get? label = _ := get?_exports_ofRecords
        rw [recorded] at found
        exact .listed found (Ordered.mem_ofList.2 member)
    | imported plain recorded imports declared distinct =>
        have unlisted : (ofRecords records).exports.get? label = _ := get?_exports_ofRecords
        rw [plain] at unlisted
        rw [← get?_rules_ofRecords] at recorded
        rw [← get?_declaring_ofRecords] at declared
        exact .imported unlisted recorded imports declared distinct

/-- The direct dependencies of a label are listed in their order, each once. -/
theorem ascending_dependencies_ofRecords :
    Ordered.Ascending ((ofRecords records).dependencies label) := by
  unfold dependencies
  split
  · rename_i listing recorded
    rw [get?_exports_ofRecords, Option.map_eq_some_iff] at recorded
    obtain ⟨listed, _, rfl⟩ := recorded
    exact Ordered.ascending_ofList listed
  · split
    · exact Ordered.ascending_ofList _
    · exact List.Pairwise.nil

end Registry

/-! ### Any questions in any order -/

/-- A question about a label: what it depends on directly, or how many labels it depends on. -/
inductive Query where
  | dependencies (label : Label)
  | count (label : Label)

namespace Memo

variable {registry : Registry} {memo : Memo}

/-- What is kept after a question. -/
def ask (registry : Registry) (memo : Memo) : Query → Memo
  | .dependencies label => (memo.dependenciesOf registry label).2
  | .count label => (memo.countOf registry label).2

/-- What is kept after some questions, one after the other, when nothing was kept before. -/
def after (registry : Registry) (queries : List Query) : Memo :=
  queries.foldl (ask registry) empty

/-- Either question leaves a memo of true answers true. -/
theorem Valid.ask (valid : memo.Valid registry) (query : Query) :
    (memo.ask registry query).Valid registry := by
  cases query with
  | dependencies label => exact (valid.dependenciesOf label).2
  | count label => exact (valid.countOf label).2

/-- All that is kept is true. -/
theorem valid_after (registry : Registry) (queries : List Query) :
    (after registry queries).Valid registry := by
  induction queries using List.reverseRecOn with
  | nil => exact valid_empty
  | append_singleton queries last ih =>
      rw [after, List.foldl_append]
      exact ih.ask last

/-- Whatever was recorded and whatever was asked before, a label depends directly on the labels that the
edges of the records lead to, and its count is the number of labels other than itself that one or more
edges lead to.  The answers are those of a memo that was never asked. -/
theorem answers_are_exact (records : List Record) (queries : List Query) (label : Label) :
    let registry := Registry.ofRecords records
    let memo := after registry queries
    let reached := {other | Relation.TransGen (Record.Edge records) label other ∧ other ≠ label}
    (reached.Finite ∧ (memo.countOf registry label).1 = reached.ncard) ∧
      ((∀ other, other ∈ (memo.dependenciesOf registry label).1 ↔
          Record.Edge records label other) ∧
        Ordered.Ascending (memo.dependenciesOf registry label).1) ∧
      (memo.dependenciesOf registry label).1 = (empty.dependenciesOf registry label).1 ∧
      (memo.countOf registry label).1 = (empty.countOf registry label).1 := by
  intro registry memo reached
  have valid : memo.Valid registry := valid_after registry queries
  have unasked : empty.Valid registry := valid_empty
  have same : reached = registry.transitiveDependencies label := by
    have edges : Record.Edge records = registry.DependsOn := by
      funext one other
      exact propext Registry.dependsOn_ofRecords.symm
    simp only [reached, edges]
    rfl
  rw [(valid.dependenciesOf label).1, (unasked.dependenciesOf label).1, (valid.countOf label).1,
    (unasked.countOf label).1, same]
  refine ⟨⟨Registry.transitiveDependencies_finite, Registry.dependencyCount_eq_ncard⟩,
    ⟨fun other => ?_, Registry.ascending_dependencies_ofRecords⟩, rfl, rfl⟩
  rw [Registry.mem_dependencies, Registry.dependsOn_ofRecords]

/-- Of two rules that import each other, each counts the other and not itself. -/
example :
    let one : Label := ⟨"", "one", "one", false⟩
    let other : Label := ⟨"", "other", "other", false⟩
    (empty.countOf (Registry.ofRecords [.rule one ⟨[⟨"p"⟩], [⟨"q"⟩], []⟩,
      .rule other ⟨[⟨"q"⟩], [⟨"p"⟩], []⟩]) one).1 = 1 := by
  decide +kernel

end Memo

end BuildDeps.Export
