import BuildDeps.Resolution.Deps

/-!
Contexts that match rules alike.

Of its rules and exports, a context only shows how the rules match a package towards a rule that asks.
Two contexts that have the same settings and artifacts and match alike therefore answer every call in the
same way and leave the same cache to the next.  With exports off, the exports of a context come to no
more than a list of labels that do not count as matches.
-/

namespace BuildDeps.Resolution

/-- Labels are taken away from the rules of every package. -/
def RuleIndex.without (index : RuleIndex) (dropped : Label → Bool) : RuleIndex :=
  ⟨⟨index.rules.rows.map fun row => (row.1, row.2.filter (!dropped ·))⟩⟩

/-- Rules are found as before, less those that were taken away. -/
theorem RuleIndex.find_without {index : RuleIndex} {dropped : Label → Bool} {language : Language}
    {package : JvmPackage} : (index.without dropped).find language package =
      (index.find language package).filter (!dropped ·) := by
  simp only [find, without, Table.get?, List.find?_map, Function.comp_def]
  cases index.rules.rows.find? (·.1 = (language.indexName, package)) <;> rfl

/-- A rule asks for its dependency list, from its imports and from what it lists already. -/
structure ImportsCall where
  origin : Origin
  imports : List String
  existing : List String := []

namespace Context

variable {context one other : Context} {index : Export.Index} {origin : Origin}
  {package : JvmPackage}

/-- Rules ask for their dependency lists, one after the other over one cache. -/
def answerInTurn (context : Context) :
    List ImportsCall → Cache → Outcome (List (Except Label.Malformed (List String)))
  | [], cache => ⟨[], cache, []⟩
  | call :: rest, cache =>
    let first := context.resolveImports call.origin call.imports call.existing cache
    let others := answerInTurn context rest first.cache
    ⟨first.answer :: others.answer, others.cache, first.diagnostics ++ others.diagnostics⟩

/-- Two contexts with the same settings and artifacts, whose rules match alike. -/
structure MatchAlike (one other : Context) : Prop where
  config : one.config = other.config
  artifacts : one.artifacts = other.artifacts
  ruleMatch : ∀ origin package, one.ruleMatch origin package = other.ruleMatch origin package

namespace MatchAlike

theorem provider_eq (alike : one.MatchAlike other) : one.provider = other.provider := by
  funext language package
  rw [provider, provider, alike.config, alike.artifacts]

/-- An override comes before the match and the cache after it, and neither shows more of the context
than the settings and the artifacts. -/
theorem resolvePackage_eq (alike : one.MatchAlike other) :
    one.resolvePackage = other.resolvePackage := by
  have elsewhere : one.resolveElsewhere = other.resolveElsewhere := by
    funext origin package classes cache
    rw [resolveElsewhere, resolveElsewhere, alike.provider_eq]
  funext origin package classes cache
  rw [resolvePackage, resolvePackage, alike.config, alike.ruleMatch, elsewhere]

/-- The calls for packages are made one after the other, each on the cache that the call before left.
-/
theorem resolveEach_eq (alike : one.MatchAlike other) : one.resolveEach = other.resolveEach := by
  funext origin packages cache
  induction packages generalizing cache with
  | nil => rfl
  | cons entry rest ih =>
      rw [resolveEach, resolveEach, alike.resolvePackage_eq, alike.config, ih]

/-- What a rule lists already is read alike. -/
theorem resolvePackages_eq (alike : one.MatchAlike other) :
    one.resolvePackages = other.resolvePackages := by
  funext origin packages existing cache
  rw [resolvePackages, resolvePackages, alike.resolveEach_eq]

theorem resolveImports_eq (alike : one.MatchAlike other) :
    one.resolveImports = other.resolveImports := by
  funext origin imports existing cache
  rw [resolveImports, resolveImports, alike.resolvePackages_eq]

/-- Each call finds the cache that it finds in the other context, and leaves it so. -/
theorem answerInTurn_eq (alike : one.MatchAlike other) : one.answerInTurn = other.answerInTurn := by
  funext calls cache
  induction calls generalizing cache with
  | nil => rfl
  | cons call rest ih => rw [answerInTurn, answerInTurn, alike.resolveImports_eq, ih]

end MatchAlike

/-! ### Exports that are off -/

/-- With exports off, exports are no matches, and nothing stands in for what is left. -/
theorem ruleMatch_of_exports_off (off : context.config.resolveToExports = false)
    (exports : context.exports = some index) : context.ruleMatch origin package =
      .ofCandidates ((context.rules.find origin.language package).filter (!index.isExport ·)) := by
  simp only [ruleMatch, exports, off, Bool.false_eq_true, if_false]

/-- With exports off, a context with exports matches like one without any, whose rules do not include
the exports. -/
theorem matchAlike_without_exports (off : context.config.resolveToExports = false)
    (exports : context.exports = some index) : context.MatchAlike
      { context with rules := context.rules.without index.isExport, exports := none } where
  config := rfl
  artifacts := rfl
  ruleMatch origin package := by
    rw [ruleMatch_of_exports_off off exports, ← RuleIndex.find_without]
    rfl

end Context

end BuildDeps.Resolution
