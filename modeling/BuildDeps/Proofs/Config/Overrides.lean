import BuildDeps.Config.Load
import BuildDeps.Proofs.Collections

/-!
Where the overrides of a configuration come from.

An override is only ever added with a label that was read, and no other setting touches it, so that a
configuration put together from a settings file and the environment has readable overrides.
-/

namespace BuildDeps.Config

variable {config next : Config}

/-- All overrides have labels that were read. -/
def OverridesRead (config : Config) : Prop :=
  ∀ package label, config.override? package = some label → ∃ text, Label.parse text = .ok label

namespace OverridesRead

/-- An override is read before it is added. -/
theorem addOverride (read : config.OverridesRead) {package text : String}
    (succeeds : config.addOverride package text = .ok next) : next.OverridesRead := by
  unfold Config.addOverride at succeeds
  cases parsed : Label.parse text with
  | error fault =>
      rw [parsed] at succeeds
      cases succeeds
  | ok label =>
      rw [parsed] at succeeds
      cases succeeds
      intro other found override
      rw [override?, Table.get?_insert] at override
      split at override
      · cases override
        exact ⟨text, parsed⟩
      · exact read other found override

/-- Exclusions do not touch the overrides. -/
theorem exclude (read : config.OverridesRead) {artifact : String}
    (succeeds : config.exclude artifact = .ok next) : next.OverridesRead := by
  unfold Config.exclude at succeeds
  cases found : config.exclusionLabel artifact with
  | error fault =>
      rw [found] at succeeds
      cases succeeds
  | ok label =>
      rw [found] at succeeds
      cases succeeds
      exact read

theorem addOverrides (read : config.OverridesRead) {overrides : List (String × String)}
    (succeeds : config.addOverrides overrides = .ok next) : next.OverridesRead :=
  foldlM_induction read (fun _ known added => known.addOverride added) succeeds

theorem excludeAll (read : config.OverridesRead) {artifacts : List String}
    (succeeds : config.excludeAll artifacts = .ok next) : next.OverridesRead :=
  foldlM_induction read (fun _ known excluded => known.exclude excluded) succeeds

end OverridesRead

/-- Whatever settings are put together, their overrides have labels that were read. -/
theorem overridesRead_of_assemble {file : File} {directory : String} {environment : Environment}
    (succeeds : assemble file directory environment = .ok config) : config.OverridesRead := by
  unfold assemble at succeeds
  cases applied : applyFile {} file directory with
  | error fault =>
      rw [applied] at succeeds
      cases succeeds
  | ok filed =>
      rw [applied] at succeeds
      unfold applyFile at applied
      have read : filed.OverridesRead := by
        apply OverridesRead.addOverrides _ applied
        intro package label override
        cases override
      have kept : (filed.applyEnvironment environment).OverridesRead := read
      exact kept.excludeAll succeeds

end BuildDeps.Config
