import BuildDeps.Proofs.Collections
import BuildDeps.Proofs.Export.Visibility

/-!
What the settled exports depend on.

Which labels are exports, and which label depends on which, is all that the claims are made from.  Two
registries that agree on this much have the same order of claims and settle on the same owner and the
same visibility for every label, however they came by their records.
-/

namespace BuildDeps.Export

/-- Two indexes with the same answer to every question about a label. -/
structure Index.Agree (one other : Index) : Prop where
  isExport : ∀ label, one.isExport label = other.isExport label
  owner? : ∀ label, one.owner? label = other.owner? label
  visibility? : ∀ label, one.visibility? label = other.visibility? label

namespace Registry

variable {one other : Registry} {exporter label importer earlier later : Label}

/-- Two registries with the same exports and the same dependencies between labels. -/
structure SameGraph (one other : Registry) : Prop where
  isExport : ∀ label, one.isExport label = other.isExport label
  dependsOn : ∀ importer label, one.DependsOn importer label ↔ other.DependsOn importer label

/-- Registries in which every package and every label is recorded alike have the same graph. -/
theorem sameGraph_of_records
    (declaring : ∀ package, one.declaring.get? package = other.declaring.get? package)
    (rules : ∀ label, one.rules.get? label = other.rules.get? label)
    (exports : ∀ label, one.exports.get? label = other.exports.get? label) :
    one.SameGraph other where
  isExport label := congrArg Option.isSome (exports label)
  dependsOn importer label := by
    rw [← mem_dependencies, ← mem_dependencies, dependencies, dependencies, exports, rules,
      funext declaring]

namespace SameGraph

/-- Agreement goes both ways, so that the statements below need one direction only. -/
theorem symm (same : one.SameGraph other) : other.SameGraph one where
  isExport label := (same.isExport label).symm
  dependsOn importer label := (same.dependsOn importer label).symm

/-- What a label reaches is a matter of the edges. -/
theorem reaches_eq (same : one.SameGraph other) : one.Reaches = other.Reaches := by
  have edges : one.DependsOn = other.DependsOn :=
    funext fun importer => funext fun label => propext (same.dependsOn importer label)
  rw [Reaches, Reaches, edges]

/-- The order of claims is by the number of labels reached, and so by the edges. -/
theorem precedes_iff (same : one.SameGraph other) :
    one.Precedes earlier later ↔ other.Precedes earlier later := by
  simp only [Precedes, transitiveDependencies, same.reaches_eq]

theorem covers (same : one.SameGraph other) (covers : one.Covers exporter label) :
    other.Covers exporter label := by
  induction covers with
  | direct exports depends plain =>
      rw [same.isExport] at exports plain
      exact .direct exports ((same.dependsOn _ _).1 depends) plain
  | onward _ depends plain ih =>
      rw [same.isExport] at plain
      exact .onward ih ((same.dependsOn _ _).1 depends) plain

/-- Two registries that agree cover the same labels by the same exports. -/
theorem covers_iff (same : one.SameGraph other) :
    one.Covers exporter label ↔ other.Covers exporter label :=
  ⟨same.covers, same.symm.covers⟩

/-- Coverage and the order of claims being the same, so is the first export to cover a label. -/
theorem firstToCover_iff (same : one.SameGraph other) :
    one.FirstToCover exporter label ↔ other.FirstToCover exporter label := by
  simp only [FirstToCover, same.covers_iff, same.precedes_iff]

/-- A label has one owner in both indexes. -/
theorem owner?_eq (same : one.SameGraph other) (label : Label) :
    one.finalize.owner? label = other.finalize.owner? label := by
  apply Option.ext
  intro exporter
  rw [owner?_eq_some_iff, owner?_eq_some_iff, same.firstToCover_iff]

theorem absorbedBy_iff (same : one.SameGraph other) :
    one.finalize.AbsorbedBy label exporter ↔ other.finalize.AbsorbedBy label exporter := by
  rw [Registry.absorbedBy_iff, Registry.absorbedBy_iff, same.owner?_eq]

end SameGraph

/-- An export is seen everywhere. -/
theorem visibility?_of_isExport {registry : Registry} (exports : registry.isExport label = true) :
    registry.finalize.visibility? label = some [Label.everywhere] := by
  have exports : registry.finalize.isExport label = true := exports
  rw [Index.visibility?, if_pos exports]

/-- Of a label that is no export and that no export absorbs, nothing is said. -/
theorem visibility?_of_unowned {registry : Registry} (plain : registry.isExport label = false)
    (unowned : registry.finalize.owner? label = none) :
    registry.finalize.visibility? label = none := by
  have plain : registry.finalize.isExport label = false := plain
  simp [Index.visibility?, plain, Index.exportedBy, unowned]

namespace SameGraph

/-- Visibility is stated by owners and exports alone, so it cannot tell the two indexes apart. -/
theorem visibility?_eq (same : one.SameGraph other) (label : Label) :
    one.finalize.visibility? label = other.finalize.visibility? label := by
  cases plain : one.isExport label with
  | true =>
      have otherExports := (same.isExport label).symm.trans plain
      rw [visibility?_of_isExport plain, visibility?_of_isExport otherExports]
  | false =>
      cases owned : one.finalize.owner? label with
      | none =>
          rw [visibility?_of_unowned plain owned]
          rw [same.isExport] at plain
          rw [same.owner?_eq] at owned
          exact (visibility?_of_unowned plain owned).symm
      | some exporter =>
          have absorbed := Registry.absorbedBy_iff.2 owned
          obtain ⟨ones, found, onesAscending, onesMembers⟩ := visibility?_of_absorbedBy absorbed
          obtain ⟨others, foundOther, othersAscending, othersMembers⟩ :=
            visibility?_of_absorbedBy (same.absorbedBy_iff.1 absorbed)
          rw [found, foundOther, onesAscending.eq_of_mem_iff othersAscending]
          intro spec
          simp only [onesMembers, othersMembers, same.absorbedBy_iff]

/-- The settled exports of registries with one graph give the same answers. -/
theorem finalize_agree (same : one.SameGraph other) : one.finalize.Agree other.finalize where
  isExport := same.isExport
  owner? := same.owner?_eq
  visibility? := same.visibility?_eq

end SameGraph

end Registry

end BuildDeps.Export
