import BuildDeps.Proofs.Export.Visibility
import BuildDeps.Resolution.Package

/-!
Where the answer for a package comes from.

`resolvePackage_answer` lists the sources of an answer, and `Cache.Holds` carries a property of what
the cache keeps through any number of calls.  With exports on, a label that was kept is the only
match of its package or comes from outside of the repository; the former is never read back, because
a single match always settles the package before the cache is asked.
-/

namespace BuildDeps.Resolution

variable {package : JvmPackage} {label : Label} {cache : Cache}

/-! ### What a cache keeps -/

namespace Cache

variable {property : JvmPackage → Label → Prop} {entries : Table JvmPackage Entry}

/-- All labels among the entries of a cache have a property. -/
def Holds (property : JvmPackage → Label → Prop) (entries : Table JvmPackage Entry) : Prop :=
  ∀ package entry, entries.get? package = some entry → property package entry.label

theorem holds_ofCapacity (capacity : Nat) : Holds property (ofCapacity capacity).entries := by
  intro package entry found
  cases found

/-- Writing a label of the property keeps it, whatever the tick. -/
theorem Holds.write (holds : Holds property entries) (good : property package label) (tick : Nat) :
    Holds property (entries.insert package ⟨label, tick⟩) := by
  intro other entry found
  rw [Table.get?_insert] at found
  split at found
  · rename_i same
    cases found
    exact same ▸ good
  · exact holds other entry found

/-- Making room only takes entries away. -/
theorem Holds.fit (holds : Holds property entries) (capacity : Nat)
    (recency : List (Nat × JvmPackage)) :
    Holds property (Cache.fit capacity entries recency).1 := by
  induction recency generalizing entries with
  | nil => exact holds
  | cons oldest rest ih =>
      unfold Cache.fit
      split
      · exact holds
      · apply ih
        intro other entry found
        rw [Table.get?_erase] at found
        split at found
        · cases found
        · exact holds other entry found

/-- What a cache answers is one of its entries. -/
theorem Holds.of_get (holds : Holds property cache.entries)
    (found : (cache.get package).1 = some label) : property package label := by
  unfold get at found
  split at found
  · cases found
  · rename_i entry kept
    cases found
    exact holds package entry kept

/-- A question changes ticks and no labels. -/
theorem Holds.get (holds : Holds property cache.entries) (package : JvmPackage) :
    Holds property (cache.get package).2.entries := by
  unfold Cache.get
  split
  · exact holds
  · rename_i entry kept
    exact holds.write (holds package entry kept) _

/-- Making room takes entries away, and only the label that is inserted is new. -/
theorem Holds.insert (holds : Holds property cache.entries) (good : property package label) :
    Holds property (cache.insert package label).entries := by
  have used := holds.get package
  unfold Cache.insert
  split
  · rename_i found
    rw [found] at used
    exact used.write good _
  · rename_i found
    rw [found] at used
    exact (used.write good _).fit _ _

end Cache

/-! ### The sources of an answer -/

/-- A package that is resolved is resolved to the label of one of its artifacts. -/
theorem exists_artifact_of_resolve {index : Maven.ArtifactIndex} {excluded : List String}
    {repository : String} (resolved : index.resolve package excluded repository = .ok label) :
    ∃ artifact ∈ (index.get? package).getD [],
      label = Maven.artifactLabel repository artifact := by
  unfold Maven.ArtifactIndex.resolve at resolved
  split at resolved
  · cases resolved
  · rename_i only found
    cases resolved
    have member : label ∈ index.candidates package excluded repository := by
      rw [found]
      exact List.mem_singleton_self label
    obtain ⟨artifact, listed, same⟩ := List.mem_map.1 (List.mem_filter.1 member).1
    exact ⟨artifact, listed, same.symm⟩
  · cases resolved

/-- The label that a match of rules settles on, if it does. -/
def RuleMatch.label? : RuleMatch → Option Label
  | .unique label => some label
  | .standIn exporter => some exporter
  | _ => none

/-- The label that a provider outside the repository has, if it has one. -/
def Provider.label? : Provider → Option Label
  | .label label => some label
  | _ => none

theorem Provider.label?_eq_some_iff {provider : Provider} :
    provider.label? = some label ↔ provider = .label label := by
  cases provider <;> simp [label?]

namespace Context

variable {context : Context} {origin : Origin} {classes : List String} {index : Export.Index}

/-- A label that comes from outside of the repository. -/
def Outside (context : Context) (label : Label) : Prop :=
  label = runfilesLabel ∨ ∃ artifact, label = Maven.artifactLabel context.config.mavenRepository artifact

/-- What provides a package besides the rules is the runtime files of the repository, or an artifact.
-/
theorem source_of_provider {language : Language}
    (provided : context.provider language package = .label label) : label = runfilesLabel ∨
      ∃ artifact ∈ (context.artifacts.get? package).getD [],
        label = Maven.artifactLabel context.config.mavenRepository artifact := by
  unfold provider at provided
  split at provided
  · cases provided
  · split at provided
    · cases provided
      exact Or.inl rfl
    · split at provided
      · rename_i found resolved
        cases provided
        exact Or.inr (exists_artifact_of_resolve resolved)
      · cases provided
      · cases provided

/-- Whatever provides a package besides the rules is from outside. -/
theorem outside_of_provider {language : Language}
    (provided : context.provider language package = .label label) : context.Outside label := by
  rcases source_of_provider provided with same | ⟨artifact, _, same⟩
  · exact Or.inl same
  · exact Or.inr ⟨artifact, same⟩

/-- The cache is asked first, and then what else may provide the package. -/
theorem answer_resolveElsewhere :
    (context.resolveElsewhere origin package classes cache).answer =
      (cache.get package).1.or (context.provider origin.language package).label? := by
  unfold resolveElsewhere
  split
  · rename_i kept _ found
    rw [found]
    rfl
  · rename_i found
    rw [found]
    cases context.provider origin.language package <;> rfl

/-- The sources of an answer, in the order in which they are asked. -/
theorem answer_resolvePackage :
    (context.resolvePackage origin package classes cache).answer =
      (context.config.override? package).or
        ((context.ruleMatch origin package).label?.or
          ((cache.get package).1.or (context.provider origin.language package).label?)) := by
  unfold resolvePackage
  cases context.config.override? package with
  | some label => rfl
  | none =>
      rw [Option.none_or]
      cases context.ruleMatch origin package with
      | unique label => rfl
      | standIn exporter => rfl
      | absent => exact answer_resolveElsewhere
      | several candidates => exact answer_resolveElsewhere
      | severalStandIns exporters => exact answer_resolveElsewhere

/-- Without an override, the match of the rules has the first word. -/
theorem answer_of_label? (noOverride : context.config.override? package = none)
    (settled : (context.ruleMatch origin package).label? = some label) :
    (context.resolvePackage origin package classes cache).answer = some label := by
  rw [answer_resolvePackage, noOverride, settled]
  rfl

/-- The sources of an answer for a package without override. -/
theorem source_of_answer (noOverride : context.config.override? package = none)
    (answered : (context.resolvePackage origin package classes cache).answer = some label) :
    (context.ruleMatch origin package).label? = some label ∨
      (context.ruleMatch origin package).label? = none ∧
        ((cache.get package).1 = some label ∨
          context.provider origin.language package = .label label) := by
  rw [answer_resolvePackage, noOverride, Option.none_or, Option.or_eq_some_iff,
    Option.or_eq_some_iff] at answered
  rcases answered with settled | ⟨unsettled, kept | ⟨_, provided⟩⟩
  · exact Or.inl settled
  · exact Or.inr ⟨unsettled, Or.inl kept⟩
  · exact Or.inr ⟨unsettled, Or.inr (Provider.label?_eq_some_iff.1 provided)⟩

/-! ### Caches in use -/

/-- A call keeps nothing but a unique match of rules, or a label from outside for a package that the
rules leave open. -/
theorem holds_resolvePackage {property : JvmPackage → Label → Prop}
    (holds : Cache.Holds property cache.entries)
    (unique : ∀ {label}, context.ruleMatch origin package = .unique label →
      property package label)
    (provided : ∀ {label}, context.config.override? package = none →
      (context.ruleMatch origin package).label? = none →
      context.provider origin.language package = .label label → property package label) :
    Cache.Holds property (context.resolvePackage origin package classes cache).cache.entries := by
  have elsewhere : context.config.override? package = none →
      (context.ruleMatch origin package).label? = none → Cache.Holds property
        (context.resolveElsewhere origin package classes cache).cache.entries := by
    intro noOverride unsettled
    have used := holds.get package
    unfold resolveElsewhere
    split
    · rename_i found
      rw [found] at used
      exact used
    · rename_i found
      rw [found] at used
      split
      · exact used
      · rename_i found
        exact used.insert (provided noOverride unsettled found)
      · exact used
      · exact used
  unfold resolvePackage
  split
  · exact holds
  · rename_i noOverride
    cases found : context.ruleMatch origin package with
    | unique label => exact holds.insert (unique found)
    | standIn exporter => exact holds
    | absent | several | severalStandIns => exact elsewhere noOverride (by rw [found]; rfl)

/-- The caches that calls lead to from an empty one. -/
inductive Reached (context : Context) : Cache → Prop
  | fresh (capacity : Nat) : Reached context (Cache.ofCapacity capacity)
  | call {cache : Cache} (reached : Reached context cache) (origin : Origin)
      (package : JvmPackage) (classes : List String) :
      Reached context (context.resolvePackage origin package classes cache).cache

end Context

end BuildDeps.Resolution
