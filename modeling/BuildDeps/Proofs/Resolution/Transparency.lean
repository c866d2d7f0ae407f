import BuildDeps.Proofs.Resolution.StandIns

/-!
Whether what was asked before shows in an answer.

`Context.settle` is the answer that a package has for a rule on its own, without any cache.  The cache
is asked after the rules of the repository and before the runtime of the language, and it does not
know who put a label there, so there is one case in which a call is answered otherwise: a Kotlin rule
asks for a package that comes with its own runtime and not with that of Java, and a Java rule was
given a label for that package before.
-/

namespace BuildDeps

namespace StandardLibrary

variable {package : JvmPackage}

/-- Whatever comes with the runtime of Java comes with that of Kotlin. -/
theorem provides_kotlin_of_java (provided : provides package .java = true) :
    provides package .kotlin = true := by
  simp only [provides, packages, List.any_append, Bool.or_eq_true] at provided ⊢
  exact Or.inl provided

/-- Where the runtimes of two languages differ in a package, it is Kotlin's that has it. -/
theorem eq_of_provides_differ {one other : Language} (provided : provides package one = true)
    (missing : provides package other = false) : one = .kotlin ∧ other = .java := by
  cases one <;> cases other
  · simp [provided] at missing
  · simp [provides_kotlin_of_java provided] at missing
  · exact ⟨rfl, rfl⟩
  · simp [provided] at missing

end StandardLibrary

namespace Resolution

/-- A rule asks for the label of a package. -/
structure Call where
  origin : Origin
  package : JvmPackage
  classes : List String := []

namespace Cache

variable {cache : Cache} {package : JvmPackage}

/-- The answer of a cache is the label of its entry. -/
theorem get_fst : (cache.get package).1 = (cache.entries.get? package).map (·.label) := by
  unfold get
  cases cache.entries.get? package <;> rfl

end Cache

namespace Context

variable {context : Context} {origin : Origin} {package : JvmPackage} {label : Label}
  {cache : Cache} {call : Call} {asked : Call → Prop}

/-- Answers a call. -/
def ask (context : Context) (call : Call) (cache : Cache) : Outcome (Option Label) :=
  context.resolvePackage call.origin call.package call.classes cache

/-- The cache that calls leave behind, made one after the other. -/
def cacheAfter (context : Context) (calls : List Call) (cache : Cache) : Cache :=
  calls.foldl (fun cache call => (context.ask call cache).cache) cache

/-- The label that a package has for a rule on its own: by an override, by the rules of the
repository, or else from outside. -/
def settle (context : Context) (origin : Origin) (package : JvmPackage) : Option Label :=
  (context.config.override? package).or
    ((context.ruleMatch origin package).label?.or
      (context.provider origin.language package).label?)

/-- Neither an override nor a rule has a label for the package. -/
def LeavesOpen (context : Context) (origin : Origin) (package : JvmPackage) : Prop :=
  context.config.override? package = none ∧ (context.ruleMatch origin package).label? = none

/-- On an empty cache a call is answered on its own. -/
theorem answer_ofCapacity (capacity : Nat) :
    (context.ask call (.ofCapacity capacity)).answer = context.settle call.origin call.package := by
  rw [ask, answer_resolvePackage, settle, Cache.get_fst]
  rfl

/-- A package that is left open is settled from outside. -/
theorem settle_of_leavesOpen (leftOpen : context.LeavesOpen origin package) :
    context.settle origin package = (context.provider origin.language package).label? := by
  rw [settle, leftOpen.1, leftOpen.2]
  rfl

/-- The runtimes of the languages are all in which they differ about a package. -/
theorem provider_of_provides_eq {one other : Language}
    (same : StandardLibrary.provides package one = StandardLibrary.provides package other) :
    context.provider one package = context.provider other package := by
  rw [provider, provider, same]

/-- What comes with the runtime is looked for nowhere else. -/
theorem provider_of_provides {language : Language}
    (provided : StandardLibrary.provides package language = true) :
    context.provider language package = .runtime := by
  rw [provider, if_pos provided]

/-- A package with a label from outside does not come with the runtime. -/
theorem provides_of_provider_eq_label {language : Language}
    (provided : context.provider language package = .label label) :
    StandardLibrary.provides package language = false := by
  rw [Bool.eq_false_iff]
  intro runtime
  rw [provider_of_provides runtime] at provided
  cases provided

/-! ### What the cache may hold -/

/-- A single rule that declares a package settles it for whoever asks, in whatever language: with itself,
or with the export that stands in for it. -/
theorem isSome_label?_of_unique (shared : RuleIndex.SharedByLanguages context.rules.find)
    (unique : context.ruleMatch origin package = .unique label)
    (other : Origin) : ((context.ruleMatch other package).label?).isSome = true := by
  unfold ruleMatch at unique ⊢
  rw [shared other.language origin.language]
  cases found : context.exports with
  | none =>
      rw [found] at unique
      simp only at unique ⊢
      rw [unique]
      rfl
  | some index =>
      rw [found] at unique
      simp only at unique ⊢
      split at unique
      · rename_i enabled
        rw [if_pos enabled, (RuleMatch.eq_of_throughExports_eq_unique unique).1,
          RuleMatch.label?_throughExports_singleton]
        rfl
      · rename_i disabled
        rw [if_neg disabled, unique]
        rfl

/-- What a cache may hold after some calls: any label for a package that the rules settle for whoever
asks, since it is not read back, and otherwise the label that one of the calls had from outside. -/
def Warranted (context : Context) (asked : Call → Prop) (package : JvmPackage) (label : Label) :
    Prop :=
  (∀ origin, ((context.ruleMatch origin package).label?).isSome = true) ∨
    ∃ call, asked call ∧ call.package = package ∧ context.LeavesOpen call.origin package ∧
      context.provider call.origin.language package = .label label

/-- A call only writes what it warrants: the only rule of a package, or a label from outside. -/
theorem holds_ask (holds : Cache.Holds (context.Warranted asked) cache.entries)
    (member : asked call) :
    Cache.Holds (context.Warranted asked) (context.ask call cache).cache.entries := by
  apply holds_resolvePackage holds
  · intro label unique
    exact Or.inl (isSome_label?_of_unique context.rules.sharedByLanguages unique)
  · intro label noOverride unsettled provided
    exact Or.inr ⟨call, member, rfl, ⟨noOverride, unsettled⟩, provided⟩

/-- Any number of calls leave a cache that they warrant. -/
theorem holds_cacheAfter {calls : List Call}
    (holds : Cache.Holds (context.Warranted asked) cache.entries)
    (members : ∀ call ∈ calls, asked call) :
    Cache.Holds (context.Warranted asked) (context.cacheAfter calls cache).entries := by
  induction calls generalizing cache with
  | nil => exact holds
  | cons call rest ih =>
      apply ih (holds_ask holds (members call List.mem_cons_self))
      intro later member
      exact members later (List.mem_cons_of_mem _ member)

/-! ### What is read back -/

/-- A call is answered with a label that its own language has no use for: the package comes with the
runtime of Kotlin alone, the cache has a label for it, and nothing else comes before the cache. -/
structure Borrows (context : Context) (call : Call) (cache : Cache) : Prop where
  leftOpen : context.LeavesOpen call.origin call.package
  kotlin : call.origin.language = .kotlin
  runtime : StandardLibrary.provides call.package .kotlin = true
  notJava : StandardLibrary.provides call.package .java = false
  kept : cache.entries.contains call.package = true

/-- A label in the cache for a package that the rules leave open is one that an earlier call had from
outside. -/
theorem exists_lender (holds : Cache.Holds (context.Warranted asked) cache.entries)
    (leftOpen : context.LeavesOpen origin package) (kept : (cache.get package).1 = some label) :
    ∃ earlier, asked earlier ∧ earlier.package = package ∧
      context.LeavesOpen earlier.origin package ∧
        context.provider earlier.origin.language package = .label label := by
  rcases holds.of_get kept with settled | lent
  · have some := settled origin
    rw [leftOpen.2] at some
    cases some
  · exact lent

/-- The cache is asked about a package that is left open, before what is outside. -/
theorem answer_of_leavesOpen (leftOpen : context.LeavesOpen call.origin call.package) :
    (context.ask call cache).answer =
      (cache.get call.package).1.or (context.provider call.origin.language call.package).label? := by
  rw [ask, answer_resolvePackage, leftOpen.1, leftOpen.2]
  rfl

/-- A call that borrows nothing is answered on its own. -/
theorem answer_of_not_borrows (holds : Cache.Holds (context.Warranted asked) cache.entries)
    (own : ¬ context.Borrows call cache) :
    (context.ask call cache).answer = context.settle call.origin call.package := by
  by_cases leftOpen : context.LeavesOpen call.origin call.package
  · rw [answer_of_leavesOpen leftOpen, settle_of_leavesOpen leftOpen]
    cases kept : (cache.get call.package).1 with
    | none => rfl
    | some label =>
        obtain ⟨earlier, _, _, _, provided⟩ := exists_lender holds leftOpen kept
        have missing := provides_of_provider_eq_label provided
        cases runtime : StandardLibrary.provides call.package call.origin.language with
        | false =>
            rw [provider_of_provides_eq (runtime.trans missing.symm), provided]
            rfl
        | true =>
            obtain ⟨kotlin, java⟩ := StandardLibrary.eq_of_provides_differ runtime missing
            rw [kotlin] at runtime
            rw [java] at missing
            rw [Cache.get_fst, Option.map_eq_some_iff] at kept
            obtain ⟨entry, found, _⟩ := kept
            exact absurd ⟨leftOpen, kotlin, runtime, missing, Table.contains_iff.2 ⟨entry, found⟩⟩ own
  · rw [ask, answer_resolvePackage, settle]
    cases override : context.config.override? call.package with
    | some label => rfl
    | none =>
        cases settled : (context.ruleMatch call.origin call.package).label? with
        | some label => rfl
        | none => exact absurd ⟨override, settled⟩ leftOpen

/-- On its own, a call that borrows has no label. -/
theorem Borrows.settle_eq_none (borrows : context.Borrows call cache) :
    context.settle call.origin call.package = none := by
  rw [settle_of_leavesOpen borrows.leftOpen, borrows.kotlin, provider_of_provides borrows.runtime]
  rfl

/-- A call that borrows has the answer of an earlier call of a Java rule. -/
theorem Borrows.exists_lender (borrows : context.Borrows call cache)
    (holds : Cache.Holds (context.Warranted asked) cache.entries) :
    ∃ earlier label, asked earlier ∧ earlier.package = call.package ∧
      earlier.origin.language = .java ∧ context.settle earlier.origin earlier.package = some label ∧
        (context.ask call cache).answer = some label := by
  obtain ⟨entry, found⟩ := Table.contains_iff.1 borrows.kept
  have kept : (cache.get call.package).1 = some entry.label := by
    rw [Cache.get_fst, found]
    rfl
  obtain ⟨earlier, member, same, leftOpen, provided⟩ :=
    Context.exists_lender holds borrows.leftOpen kept
  obtain ⟨_, java⟩ := StandardLibrary.eq_of_provides_differ borrows.runtime
    (provides_of_provider_eq_label provided)
  refine ⟨earlier, entry.label, member, same, java, ?_, ?_⟩
  · rw [same, settle_of_leavesOpen leftOpen, provided]
    rfl
  · rw [answer_of_leavesOpen borrows.leftOpen, kept]
    rfl

/-- Every call is answered as it would be on an empty cache, whatever was asked before. -/
def Transparent (context : Context) : Prop :=
  ∀ (calls : List Call) (call : Call) (capacity : Nat),
    (context.ask call (context.cacheAfter calls (.ofCapacity capacity))).answer =
      (context.ask call (.ofCapacity capacity)).answer

/-- After any calls, a call is answered as on an empty cache, unless a Kotlin rule asks for a package
that comes with its own runtime and not with Java's while the cache has a label for it.  Then there is
no label on an empty cache, and the answer is that of an earlier call of a Java rule. -/
theorem answers_as_fresh_unless_borrowed (context : Context) (calls : List Call) (call : Call)
    (capacity : Nat) :
    (¬ context.Borrows call (context.cacheAfter calls (.ofCapacity capacity)) →
      (context.ask call (context.cacheAfter calls (.ofCapacity capacity))).answer =
        (context.ask call (.ofCapacity capacity)).answer) ∧
    (context.Borrows call (context.cacheAfter calls (.ofCapacity capacity)) →
      (context.ask call (.ofCapacity capacity)).answer = none ∧
      ∃ earlier ∈ calls, ∃ label, earlier.package = call.package ∧
        earlier.origin.language = .java ∧
        (context.ask earlier (.ofCapacity capacity)).answer = some label ∧
        (context.ask call (context.cacheAfter calls (.ofCapacity capacity))).answer = some label) := by
  have holds : Cache.Holds (context.Warranted (· ∈ calls))
      (context.cacheAfter calls (.ofCapacity capacity)).entries :=
    holds_cacheAfter (Cache.holds_ofCapacity capacity) fun _ member => member
  simp only [answer_ofCapacity]
  constructor
  · exact answer_of_not_borrows holds
  · intro borrows
    obtain ⟨earlier, label, member, same, java, lent, answered⟩ := borrows.exists_lender holds
    exact ⟨borrows.settle_eq_none, earlier, member, label, same, java, lent, answered⟩

end Context

end Resolution

end BuildDeps

/-! ### A package of the Kotlin runtime that an artifact provides -/

namespace BuildDeps.Resolution.MixedLanguages

/-- There are no rules, and one artifact. -/
def context : Context where
  config := {}
  rules := .empty
  artifacts := Maven.ArtifactIndex.empty.add ⟨"kotlin.collections"⟩ "kotlin:stdlib"
  exports := none

def javaCall : Call where
  origin := { label := ⟨"", "a", "a", false⟩ }
  package := ⟨"kotlin.collections"⟩

def kotlinCall : Call where
  origin := { label := ⟨"", "b", "b", false⟩, language := .kotlin }
  package := ⟨"kotlin.collections"⟩

theorem borrows : context.Borrows kotlinCall (context.cacheAfter [javaCall] (.ofCapacity 1)) where
  leftOpen := ⟨rfl, rfl⟩
  kotlin := rfl
  runtime := by decide
  notJava := by decide
  kept := by decide

/-- After a Java rule has asked, the Kotlin rule is given the artifact that its runtime makes
needless; the other way round, both are answered as on an empty cache. -/
theorem kotlin_call_borrows_from_java_call :
    (context.ask kotlinCall (.ofCapacity 1)).answer = none ∧
      (∃ label, (context.ask javaCall (.ofCapacity 1)).answer = some label ∧
        (context.ask kotlinCall (context.cacheAfter [javaCall] (.ofCapacity 1))).answer =
          some label) ∧
      (context.ask javaCall (context.cacheAfter [kotlinCall] (.ofCapacity 1))).answer =
        (context.ask javaCall (.ofCapacity 1)).answer := by
  obtain ⟨cold, earlier, member, label, _, _, lent, warm⟩ :=
    (Context.answers_as_fresh_unless_borrowed context [javaCall] kotlinCall 1).2 borrows
  cases List.mem_singleton.1 member
  refine ⟨cold, ⟨label, lent, warm⟩, ?_⟩
  apply (Context.answers_as_fresh_unless_borrowed context [kotlinCall] javaCall 1).1
  intro java
  cases java.kotlin

/-- The answer for one rule may depend on what another rule of another language asked before. -/
theorem not_transparent_for_mixed_languages : ¬ context.Transparent := by
  intro transparent
  have cold : (context.ask kotlinCall (.ofCapacity 1)).answer = none := by decide
  have warm : (context.ask kotlinCall (context.cacheAfter [javaCall] (.ofCapacity 1))).answer =
      some ⟨"maven", "", "kotlin_stdlib", false⟩ := by decide
  have same := transparent [javaCall] kotlinCall 1
  rw [cold, warm] at same
  cases same

end BuildDeps.Resolution.MixedLanguages
