import BuildDeps.Export.Index
import BuildDeps.Proofs.Export.Counting

/-!
The order in which exports claim.

`Precedes` states the order by the number of labels that an export reaches and then by its label;
the list that the claims are made from has every export once, in this order.
-/

namespace BuildDeps.Export.Registry

variable {registry : Registry} {one other third label : Label}

/-- One export claims before another: it reaches fewer labels, or as many and its label is less. -/
def Precedes (registry : Registry) (one other : Label) : Prop :=
  (registry.transitiveDependencies one).ncard < (registry.transitiveDependencies other).ncard ∨
    (registry.transitiveDependencies one).ncard = (registry.transitiveDependencies other).ncard ∧
      compare one other = .lt

/-- The place of a label in the order of claims. -/
def rank (registry : Registry) (label : Label) : Ranked :=
  ⟨registry.dependencyCount label, label⟩

/-- The ranks of labels are compared as the labels precede each other. -/
theorem precedes_iff_compare_rank :
    registry.Precedes one other ↔ compare (registry.rank one) (registry.rank other) = .lt := by
  have parts : compare (registry.rank one) (registry.rank other) =
      (compare (registry.dependencyCount one) (registry.dependencyCount other)).then
        (compare one other) := rfl
  rw [parts, Ordering.then_eq_lt, Nat.compare_eq_lt, Nat.compare_eq_eq]
  simp only [Precedes, dependencyCount_eq_ncard]

/-- Precedence is transitive, as the order of the ranks is. -/
theorem Precedes.trans (first : registry.Precedes one other)
    (second : registry.Precedes other third) : registry.Precedes one third := by
  rw [precedes_iff_compare_rank] at first second ⊢
  exact Std.TransCmp.lt_trans first second

theorem not_precedes_self : ¬ registry.Precedes label label := by
  simp [precedes_iff_compare_rank, Std.ReflCmp.compare_self]

/-- Of two labels, at most one precedes the other. -/
theorem Precedes.asymm (before : registry.Precedes one other) :
    ¬ registry.Precedes other one :=
  fun after => not_precedes_self (before.trans after)

/-- Of two exports, one that reaches the other but is not reached from it claims later. -/
theorem precedes_of_reaches (forward : registry.Reaches one other)
    (oneWay : ¬ registry.Reaches other one) : registry.Precedes other one :=
  Or.inl (ncard_transitiveDependencies_lt forward oneWay)

/-- The exports in the order in which they claim. -/
def exportersInOrder (registry : Registry) : List Label :=
  registry.claimOrder.1.map (·.label)

/-- Ranking exports one after the other inserts the rank of each, whatever the memo holds. -/
theorem foldl_countOf (labels : List Label) {ranked : List Ranked} {memo : Memo}
    (ascending : Ordered.Ascending ranked) (valid : memo.Valid registry) :
    let result := labels.foldl
      (fun (ranked, memo) label =>
        let (count, memo) := memo.countOf registry label
        (Ordered.insert (⟨count, label⟩ : Ranked) ranked, memo))
      (ranked, memo)
    (∀ entry, entry ∈ result.1 ↔ entry ∈ ranked ∨ ∃ label ∈ labels, entry = registry.rank label) ∧
      Ordered.Ascending result.1 ∧ result.2.Valid registry := by
  induction labels generalizing ranked memo with
  | nil => exact ⟨by simp, ascending, valid⟩
  | cons label rest ih =>
      obtain ⟨count, stillValid⟩ := valid.countOf label
      obtain ⟨members, sorted⟩ := ih
        (Ordered.ascending_insert ⟨(memo.countOf registry label).1, label⟩ ascending) stillValid
      refine ⟨?_, sorted⟩
      intro entry
      apply (members entry).trans
      rw [Ordered.mem_insert, count, List.exists_mem_cons_iff, or_assoc, or_left_comm]
      rfl

/-- The order of claims has the rank of each export once, the least first, and the counts that were kept
on the way are true. -/
theorem claimOrder_spec :
    (∀ entry, entry ∈ registry.claimOrder.1 ↔
        ∃ label, registry.isExport label = true ∧ entry = registry.rank label) ∧
      Ordered.Ascending registry.claimOrder.1 ∧ registry.claimOrder.2.Valid registry := by
  have unranked : Ordered.Ascending ([] : List Ranked) := List.Pairwise.nil
  have unasked : Memo.empty.Valid registry := Memo.valid_empty
  obtain ⟨members, sorted⟩ :=
    foldl_countOf (Ordered.ofList registry.exports.keys) unranked unasked
  refine ⟨?_, sorted⟩
  intro entry
  apply (members entry).trans
  simp only [List.not_mem_nil, false_or, Ordered.mem_ofList, Table.mem_keys]
  rfl

/-- Every export has its turn, and nothing else has. -/
theorem mem_exportersInOrder : label ∈ registry.exportersInOrder ↔ registry.isExport label := by
  rw [exportersInOrder, List.mem_map]
  constructor
  · intro listed
    obtain ⟨entry, member, rfl⟩ := listed
    obtain ⟨label, exports, rfl⟩ := (claimOrder_spec.1 entry).1 member
    exact exports
  · intro exports
    exact ⟨registry.rank label, (claimOrder_spec.1 _).2 ⟨label, exports, rfl⟩, rfl⟩

/-- Exports have their turns by precedence. -/
theorem pairwise_exportersInOrder : registry.exportersInOrder.Pairwise registry.Precedes := by
  rw [exportersInOrder, List.pairwise_map]
  apply claimOrder_spec.2.1.imp_of_mem
  intro one other oneMember otherMember less
  obtain ⟨first, _, rfl⟩ := (claimOrder_spec.1 one).1 oneMember
  obtain ⟨second, _, rfl⟩ := (claimOrder_spec.1 other).1 otherMember
  exact precedes_iff_compare_rank.2 less

theorem nodup_exportersInOrder : registry.exportersInOrder.Nodup := by
  apply pairwise_exportersInOrder.imp
  rintro one other before rfl
  exact not_precedes_self before

end BuildDeps.Export.Registry
