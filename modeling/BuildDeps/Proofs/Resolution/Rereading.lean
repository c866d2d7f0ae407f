import BuildDeps.Proofs.Collections
import BuildDeps.Proofs.Label.Reading
import BuildDeps.Proofs.Resolution.Deps
import BuildDeps.Proofs.Resolution.StandIns

/-!
Dependency lists that are read again.

Where overrides, rules, exports and artifacts have labels that can be read, so has every answer, and
so can the list of a rule.  What is read from the list takes the lines of the labels that the list was
made of, so that it adds nothing when it is merged with the answers once more.
-/

namespace BuildDeps.Resolution

variable {owner label reading : Label} {found listed reread ones others labels : List Label}

/-! ### Lists -/

/-- A label takes the same line as another, and is the same rule or not. -/
structure Alike (label reading : Label) : Prop where
  line : Line.ofLabel reading = Line.ofLabel label
  isSelf : ∀ owner, isSelf owner reading = isSelf owner label

/-- What is read from the text of a label takes the line of that label. -/
theorem exists_alike (writable : label.Writable) :
    ∃ reading, Label.parse label.text = .ok reading ∧ Alike label reading := by
  obtain ⟨reading, parsed, kind, target, text⟩ := writable.exists_reading
  refine ⟨reading, parsed, ?_, ?_⟩
  · rw [Line.ofLabel, Line.ofLabel, text, Label.rank_eq_iff.2 kind]
  · intro owner
    rw [Resolution.isSelf, Resolution.isSelf, kind, target]

/-- Only the lines of the labels show in a list. -/
theorem depsOfLabels_eq_of_alike
    (forward : ∀ one ∈ ones, isSelf owner one = false → ∃ other ∈ others, Alike one other)
    (backward : ∀ other ∈ others, isSelf owner other = false → ∃ one ∈ ones, Alike other one) :
    depsOfLabels owner ones = depsOfLabels owner others := by
  have subset : ∀ {froms tos : List Label} {line : Line},
      (∀ one ∈ froms, isSelf owner one = false → ∃ other ∈ tos, Alike one other) →
      line ∈ (froms.filter (!isSelf owner ·)).map Line.ofLabel →
        line ∈ (tos.filter (!isSelf owner ·)).map Line.ofLabel := by
    intro froms tos line related member
    obtain ⟨label, kept, rfl⟩ := List.mem_map.1 member
    obtain ⟨present, apart⟩ := List.mem_filter.1 kept
    rw [Bool.not_eq_true'] at apart
    obtain ⟨other, otherPresent, alike⟩ := related label present apart
    refine List.mem_map.2 ⟨other, List.mem_filter.2 ⟨otherPresent, ?_⟩, alike.line⟩
    rw [alike.isSelf, apart]
    rfl
  rw [depsOfLabels, depsOfLabels, Ordered.ofList_eq_of_mem_iff]
  intro line
  exact ⟨subset forward, subset backward⟩

/-- A list can be read, and merging what is read from it with what was found gives the same list. -/
theorem depsOfLabels_reread (owner : Label) (writable : ∀ label ∈ found ++ listed, label.Writable) :
    ∃ reread, (depsOfLabels owner (found ++ listed)).mapM Label.parse = .ok reread ∧
      depsOfLabels owner (found ++ reread) = depsOfLabels owner (found ++ listed) := by
  have readable : ∀ text ∈ depsOfLabels owner (found ++ listed),
      ∃ reading, Label.parse text = .ok reading := by
    intro text member
    obtain ⟨label, present, _, rfl⟩ := mem_depsOfLabels.1 member
    obtain ⟨reading, parsed, _⟩ := exists_alike (writable label present)
    exact ⟨reading, parsed⟩
  obtain ⟨reread, parsed⟩ := exists_mapM_eq_ok readable
  refine ⟨reread, parsed, depsOfLabels_eq_of_alike ?_ ?_⟩
  -- A label that was read comes from a text of the list, which some label was written as.
  · intro one member apart
    rcases List.mem_append.1 member with first | again
    · exact ⟨one, List.mem_append_left _ first, rfl, fun _ => rfl⟩
    · obtain ⟨text, written, read⟩ := (mem_of_mapM_eq_ok parsed).1 again
      obtain ⟨label, present, _, rfl⟩ := mem_depsOfLabels.1 written
      obtain ⟨reading, readAgain, alike⟩ := exists_alike (writable label present)
      cases readAgain.symm.trans read
      exact ⟨label, present, alike.line.symm, fun owner => (alike.isSelf owner).symm⟩
  · intro other member apart
    obtain ⟨reading, read, alike⟩ := exists_alike (writable other member)
    have written := mem_depsOfLabels.2 ⟨other, member, apart, rfl⟩
    exact ⟨reading, List.mem_append_right _ ((mem_of_mapM_eq_ok parsed).2 ⟨_, written, read⟩), alike⟩

/-! ### Answers -/

namespace RuleMatch

variable {index : Export.Index} {origin : Label} {candidates : List Label}

/-- Candidates settle a package with one of themselves. -/
theorem mem_of_ofCandidates (settled : (ofCandidates candidates).label? = some label) :
    label ∈ candidates := by
  unfold ofCandidates at settled
  split at settled
  · cases settled
  · cases settled
    exact List.mem_singleton_self _
  · cases settled

/-- A match settles on a candidate or on the owner of one. -/
theorem source_of_throughExports
    (settled : (throughExports index origin candidates).label? = some label) :
    label ∈ candidates ∨ ∃ candidate, index.owner? candidate = some label := by
  cases found : throughExports index origin candidates with
  | unique only =>
      rw [found] at settled
      cases settled
      rw [(eq_of_throughExports_eq_unique found).1]
      exact Or.inl (List.mem_singleton_self _)
  | standIn exporter =>
      rw [found] at settled
      cases settled
      obtain ⟨candidate, member, standsIn⟩ := exists_standIn_of_throughExports_eq found
      unfold standIn? at standsIn
      split at standsIn
      · cases standsIn
        exact Or.inl member
      · split at standsIn
        · cases standsIn
        · exact Or.inr ⟨candidate, standsIn⟩
  | absent | several | severalStandIns =>
      rw [found] at settled
      cases settled

end RuleMatch

namespace Context

variable {context : Context} {origin : Origin} {package : JvmPackage} {classes : List String}
  {cache : Cache} {packages : PackageClasses}

/-- The rules settle a package with one of those that declare it, or with an export that owns something.
-/
theorem source_of_ruleMatch (settled : (context.ruleMatch origin package).label? = some label) :
    label ∈ context.rules.find origin.language package ∨
      ∃ index candidate, context.exports = some index ∧ index.owner? candidate = some label := by
  unfold ruleMatch at settled
  cases exports : context.exports with
  | none =>
      rw [exports] at settled
      exact Or.inl (RuleMatch.mem_of_ofCandidates settled)
  | some index =>
      rw [exports] at settled
      simp only at settled
      split at settled
      · rcases RuleMatch.source_of_throughExports settled with declaring | ⟨candidate, owned⟩
        · exact Or.inl declaring
        · exact Or.inr ⟨index, candidate, rfl, owned⟩
      · exact Or.inl (List.mem_filter.1 (RuleMatch.mem_of_ofCandidates settled)).1

/-- A context whose labels can all be read. -/
structure WellFormed (context : Context) : Prop where
  overrides : ∀ {package label}, context.config.override? package = some label → label.WellFormed
  rules : ∀ {language package label}, label ∈ context.rules.find language package →
    label.WellFormed
  exporters : ∀ {index label exporter}, context.exports = some index →
    index.owner? label = some exporter → exporter.WellFormed
  artifacts : ∀ {package artifact}, artifact ∈ (context.artifacts.get? package).getD [] →
    (Maven.artifactLabel context.config.mavenRepository artifact).WellFormed

theorem wellFormed_runfilesLabel : runfilesLabel.WellFormed where
  repository := by decide
  package := by decide
  target := by decide
  relative := nofun

/-- A cache whose labels can all be read. -/
def Readable (cache : Cache) : Prop :=
  Cache.Holds (fun _ label => label.WellFormed) cache.entries

namespace WellFormed

/-- A match can be read, since rules and owners can. -/
theorem of_ruleMatch (wellFormed : context.WellFormed)
    (settled : (context.ruleMatch origin package).label? = some label) : label.WellFormed := by
  rcases source_of_ruleMatch settled with declaring | ⟨index, candidate, exports, owned⟩
  · exact wellFormed.rules declaring
  · exact wellFormed.exporters exports owned

/-- What comes from outside can be read: artifacts have target names, and the runtime files are one
label. -/
theorem of_provider (wellFormed : context.WellFormed) {language : Language}
    (provided : context.provider language package = .label label) : label.WellFormed := by
  rcases source_of_provider provided with rfl | ⟨artifact, listed, rfl⟩
  · exact wellFormed_runfilesLabel
  · exact wellFormed.artifacts listed

/-- Every answer can be read. -/
theorem of_answer (wellFormed : context.WellFormed) (readable : Readable cache)
    (answered : (context.resolvePackage origin package classes cache).answer = some label) :
    label.WellFormed := by
  cases override : context.config.override? package with
  | some other =>
      rw [answer_resolvePackage, override, Option.some_or, Option.some.injEq] at answered
      exact answered ▸ wellFormed.overrides override
  | none =>
      rcases source_of_answer override answered with settled | ⟨_, kept | provided⟩
      · exact wellFormed.of_ruleMatch settled
      · exact readable.of_get kept
      · exact wellFormed.of_provider provided

/-- On a cache of labels that can be read, a call leaves such a cache. -/
theorem readable_resolvePackage (wellFormed : context.WellFormed) (readable : Readable cache)
    (origin : Origin) (package : JvmPackage) (classes : List String) :
    Readable (context.resolvePackage origin package classes cache).cache := by
  apply holds_resolvePackage readable
  · intro label unique
    exact wellFormed.of_ruleMatch (congrArg RuleMatch.label? unique)
  · intro label _ _ provided
    exact wellFormed.of_provider provided

/-- What is found for packages can be written down, and the cache stays readable. -/
theorem writable_resolveEach (wellFormed : context.WellFormed) (readable : Readable cache)
    (origin : Origin) (packages : PackageClasses) :
    (∀ label ∈ (context.resolveEach origin packages cache).answer, label.Writable) ∧
      Readable (context.resolveEach origin packages cache).cache := by
  induction packages generalizing cache with
  | nil => exact ⟨fun label member => absurd member List.not_mem_nil, readable⟩
  | cons entry rest ih =>
      obtain ⟨package, classes⟩ := entry
      obtain ⟨others, later⟩ :=
        ih (wellFormed.readable_resolvePackage readable origin package classes)
      refine ⟨?_, later⟩
      intro label member
      rw [resolveEach, List.mem_append] at member
      rcases member with now | further
      · rw [Option.mem_toList, Option.map_eq_some_iff] at now
        obtain ⟨answer, answered, rfl⟩ := now
        exact (wellFormed.of_answer readable answered).writable_simplify
      · exact others label further

end WellFormed

end Context

end BuildDeps.Resolution
