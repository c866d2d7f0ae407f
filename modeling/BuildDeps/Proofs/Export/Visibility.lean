import BuildDeps.Proofs.Export.Absorption

/-!
The visibility of absorbed labels, and the conflicts that explain where it ends.

An absorbed label is seen from the packages of its export and of all that the export absorbed.  Where
an export lists a label that another export absorbed, its package may be left out, and then there is
a conflict on record.
-/

namespace BuildDeps.Export.Registry

variable {registry : Registry} {exporter label owner : Label}

/-- What an absorbed label is seen from: the package of its export, and those of all labels that the
export absorbed. -/
theorem visibility?_of_absorbedBy (absorbed : registry.finalize.AbsorbedBy label exporter) :
    ∃ specs, registry.finalize.visibility? label = some specs ∧ Ordered.Ascending specs ∧
      ∀ spec, spec ∈ specs ↔ spec = exporter.packageVisibility ∨
        ∃ other, registry.finalize.AbsorbedBy other exporter ∧ spec = other.packageVisibility := by
  have covers := (owner?_eq_some_iff.1 (absorbedBy_iff.1 absorbed)).1
  have member := covers.mem_exportersInOrder
  refine ⟨registry.claims.seenBy exporter, ?_, registry.claims_settled.ascending member, ?_⟩
  · obtain ⟨listing, recorded⟩ := Table.contains_iff.1 covers.isExport
    have notExport : registry.finalize.isExport label = false := covers.plain
    have aggregate : registry.finalize.aggregate? exporter =
        some ⟨exporter, listing, registry.claims.seenBy exporter⟩ := by
      have found : registry.finalize.exports.get? exporter = some listing := recorded
      rw [Index.aggregate?, found]
      rfl
    have owned : registry.finalize.owner? label = some exporter := absorbedBy_iff.1 absorbed
    simp [Index.visibility?, notExport, Index.exportedBy, owned, aggregate]
  · intro spec
    apply (registry.claims_settled.sees member).trans
    simp only [absorbedBy_iff]
    rfl

/-- An export that lists a label which another export absorbed is in conflict with it. -/
theorem mem_conflicts_of_dependsOn (exports : registry.isExport exporter = true)
    (depends : registry.DependsOn exporter label)
    (absorbed : registry.finalize.AbsorbedBy label owner) (different : owner ≠ exporter) :
    ⟨label, exporter, owner⟩ ∈ registry.finalize.conflicts :=
  registry.claims_settled.conflicts (mem_exportersInOrder.2 exports) depends
    (absorbedBy_iff.1 absorbed) different

/-- What an export lists is absorbed by some export, unless it is an export. -/
theorem exists_absorbedBy_of_dependsOn (exports : registry.isExport exporter = true)
    (depends : registry.DependsOn exporter label) (plain : registry.isExport label = false) :
    ∃ owner, registry.finalize.AbsorbedBy label owner := by
  have covers : registry.Covers exporter label := .direct exports depends plain
  obtain ⟨owner, found, _⟩ := covers.exists_owner
  exact ⟨owner, absorbedBy_iff.2 found⟩

end BuildDeps.Export.Registry
