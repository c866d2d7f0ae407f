import BuildDeps.Proofs.Export.Agreement
import BuildDeps.Proofs.Resolution.Alike
import BuildDeps.Proofs.Resolution.Transparency

/-!
Resolution in a repository of one language.

Where all calls come from rules of one language no call borrows, so the labels that packages have for
a rule are a matter of the context alone, whatever is in the cache.  Of the context, only the answers
of its parts count: contexts that agree in these settle on the same labels.
-/

namespace BuildDeps.Resolution

/-- Two contexts whose parts have the same answers. -/
structure Context.Agree (one other : Context) : Prop where
  config : one.config = other.config
  artifacts : one.artifacts = other.artifacts
  find : ∀ language package, one.rules.find language package = other.rules.find language package
  exports : Option.Rel Export.Index.Agree one.exports other.exports

namespace RuleMatch

variable {one other : Export.Index}

/-- Stand-ins are chosen by exports and owners alone. -/
theorem throughExports_eq (agree : one.Agree other) (origin : Label) (candidates : List Label) :
    throughExports one origin candidates = throughExports other origin candidates := by
  have sameStandIn : standIn? one origin = standIn? other origin := by
    funext candidate
    simp only [standIn?, agree.isExport, agree.owner?]
  rw [throughExports, throughExports, standIns, standIns, sameStandIn]

end RuleMatch

namespace Context

variable {context one other : Context} {origin : Origin} {packages : PackageClasses}
  {cache : Cache} {language : Language}

namespace Agree

/-- The match of a package is worked out from the rules that are found and the exports that there are.
-/
theorem ruleMatch_eq (agree : one.Agree other) (origin : Origin) (package : JvmPackage) :
    one.ruleMatch origin package = other.ruleMatch origin package := by
  have exports := agree.exports
  obtain ⟨config, rules, artifacts, oneExports⟩ := one
  obtain ⟨_, others, _, otherExports⟩ := other
  obtain rfl : config = _ := agree.config
  have find : rules.find origin.language package = others.find origin.language package :=
    agree.find origin.language package
  cases exports with
  | none => simp only [ruleMatch, find]
  | some same => simp only [ruleMatch, find, RuleMatch.throughExports_eq same, same.isExport]

theorem matchAlike (agree : one.Agree other) : one.MatchAlike other :=
  ⟨agree.config, agree.artifacts, agree.ruleMatch_eq⟩

/-- A package is settled by parts that have the same answers. -/
theorem settle_eq (agree : one.Agree other) (origin : Origin) (package : JvmPackage) :
    one.settle origin package = other.settle origin package := by
  rw [settle, settle, agree.config, agree.ruleMatch_eq, agree.matchAlike.provider_eq]

end Agree

/-- The labels that packages have for a rule on their own, in the form in which the rule writes
them. -/
def settleEach (context : Context) (origin : Origin) (packages : PackageClasses) : List Label :=
  packages.filterMap fun entry =>
    (context.settle origin entry.1).map (·.simplify context.config.repository origin.label)

/-- All packages of a rule are settled alike. -/
theorem Agree.settleEach_eq (agree : one.Agree other) (origin : Origin)
    (packages : PackageClasses) :
    one.settleEach origin packages = other.settleEach origin packages := by
  simp only [settleEach, agree.settle_eq, agree.config]

/-- What a cache may hold after calls of rules of one language. -/
def HoldsOf (context : Context) (language : Language) (cache : Cache) : Prop :=
  Cache.Holds (context.Warranted (·.origin.language = language)) cache.entries

theorem holdsOf_ofCapacity (capacity : Nat) : context.HoldsOf language (.ofCapacity capacity) :=
  Cache.holds_ofCapacity capacity

/-- The label of a Java rule is not there to borrow. -/
theorem HoldsOf.not_borrows (holds : context.HoldsOf language cache) (call : Call)
    (same : call.origin.language = language) : ¬ context.Borrows call cache := by
  intro borrows
  obtain ⟨earlier, _, sameLanguage, _, java, _, _⟩ := borrows.exists_lender holds
  have kotlin := borrows.kotlin
  rw [same, ← sameLanguage, java] at kotlin
  cases kotlin

/-- Rules of one language have for packages what these have on their own. -/
theorem HoldsOf.answer_resolveEach (holds : context.HoldsOf language cache)
    (same : origin.language = language) :
    (context.resolveEach origin packages cache).answer = context.settleEach origin packages ∧
      context.HoldsOf language (context.resolveEach origin packages cache).cache := by
  induction packages generalizing cache with
  | nil => exact ⟨rfl, holds⟩
  | cons entry rest ih =>
      obtain ⟨package, classes⟩ := entry
      -- Not to borrow is all that an answer needs to be the rule's own.
      have own := holds.not_borrows ⟨origin, package, classes⟩ same
      have answered : (context.resolvePackage origin package classes cache).answer =
          context.settle origin package := answer_of_not_borrows holds own
      have asked : context.HoldsOf language (context.ask ⟨origin, package, classes⟩ cache).cache :=
        holds_ask holds same
      have kept : context.HoldsOf language
          (context.resolvePackage origin package classes cache).cache := asked
      obtain ⟨others, later⟩ := ih kept
      refine ⟨?_, later⟩
      rw [resolveEach, answered, others, settleEach, settleEach, List.filterMap_cons]
      cases context.settle origin package <;> rfl

end Context

end BuildDeps.Resolution
