import BuildDeps.Proofs.Collections
import BuildDeps.Proofs.Export.Recording
import BuildDeps.Resolution.Context

/-!
The rule index against the recorded rules.

`Lists` says that an index has exactly the recorded declarations.  Adding a rule to the index and
recording it keep the two in step.
-/

namespace BuildDeps.Resolution.RuleIndex

variable {index : RuleIndex} {registry : Export.Registry} {language other : Language}
  {package wanted : JvmPackage} {label added : Label}

/-! ### Packages of several languages -/

/-- Rules are found alike from all languages: a rule that declares a package in one of them declares it in
the others.  What a cache keeps for a rule of one language can be of use to a rule of another because the
rules of a repository are found in this way. -/
def SharedByLanguages (find : Language → JvmPackage → List Label) : Prop :=
  ∀ language other package, find language package = find other package

/-- The languages have one index name, under which all rules are found. -/
theorem sharedByLanguages (index : RuleIndex) : SharedByLanguages index.find := by
  intro language other package
  have oneName : language.indexName = other.indexName := by
    cases language <;> cases other <;> rfl
  rw [find, find, oneName]

/-! ### Adding rules -/

/-- A rule that is added stands behind those that declare the package already. -/
theorem find_add_self : (index.add language package added).find other package =
    if added ∈ index.find language package then index.find language package
    else index.find language package ++ [added] := by
  rw [sharedByLanguages _ other language, find, add, Table.get?_insert]
  simp

/-- Adding a rule to a package leaves the others as they are. -/
theorem find_add_of_ne (different : wanted ≠ package) :
    (index.add language package added).find other wanted = index.find other wanted := by
  simp [find, add, Table.get?_insert, different]

/-- A rule that is added to a package declares it from then on, in all languages. -/
theorem mem_find_add : label ∈ (index.add language package added).find other wanted ↔
    (label = added ∧ wanted = package) ∨ label ∈ index.find other wanted := by
  by_cases same : wanted = package
  · subst same
    rw [find_add_self, index.sharedByLanguages other language]
    split
    · rename_i present
      simp only [and_true]
      exact ⟨Or.inr, fun either => either.elim (fun new => new ▸ present) id⟩
    · simp [or_comm]
  · simp [find_add_of_ne same, same]

/-- No rule is added twice. -/
theorem nodup_find_add (distinct : (index.find other wanted).Nodup) :
    ((index.add language package added).find other wanted).Nodup := by
  by_cases same : wanted = package
  · subst same
    rw [index.sharedByLanguages other language] at distinct
    rw [find_add_self]
    split
    · exact distinct
    · rename_i absent
      exact List.nodup_append.2 ⟨distinct, List.nodup_singleton added, by
        rintro one member _ last rfl
        exact absent (List.mem_singleton.1 last ▸ member)⟩
  · rw [find_add_of_ne same]
    exact distinct

/-- Adding a rule to those that declare each of some packages. -/
theorem mem_find_foldl_add (packages : List JvmPackage) (index : RuleIndex) :
    label ∈ (packages.foldl (fun index package => index.add language package added) index).find
        other wanted ↔
      (label = added ∧ wanted ∈ packages) ∨ label ∈ index.find other wanted := by
  induction packages generalizing index with
  | nil => simp
  | cons package rest ih =>
      rw [List.foldl_cons, ih, mem_find_add, List.mem_cons, ← or_assoc, ← and_or_left,
        or_comm (a := wanted ∈ rest)]

theorem nodup_find_foldl_add (packages : List JvmPackage) (index : RuleIndex)
    (distinct : (index.find other wanted).Nodup) :
    ((packages.foldl (fun index package => index.add language package added) index).find
      other wanted).Nodup := by
  induction packages generalizing index with
  | nil => exact distinct
  | cons package rest ih => exact ih _ (nodup_find_add distinct)

/-- An index that lists exactly the declared packages, each with the rules that declare it. -/
def Lists (index : RuleIndex) (registry : Export.Registry) : Prop :=
  ∀ language package, (index.find language package).Nodup ∧
    ∀ label, label ∈ index.find language package ↔ registry.Declares label package

namespace Lists

/-- Without rules, nothing is declared and nothing is listed. -/
theorem empty : RuleIndex.empty.Lists .empty := by
  intro language package
  simp [find, RuleIndex.empty, Export.Registry.Declares, Export.Registry.empty]

/-- Adding a rule to its packages lists what recording it declares, and nothing else. -/
theorem rule (lists : index.Lists registry) (language : Language) (added : Label)
    (summary : RuleSummary) (fresh : registry.rules.get? added = none) :
    (summary.declares.foldl (fun index package => index.add language package added) index).Lists
      (registry.recordRule added summary) := by
  intro other package
  obtain ⟨distinct, members⟩ := lists other package
  refine ⟨nodup_find_foldl_add _ _ distinct, ?_⟩
  intro label
  rw [mem_find_foldl_add, members, Export.Registry.declares_recordRule fresh]

/-- Where no two rules declare one package, a declared package has its one rule. -/
theorem find_eq (lists : index.Lists registry) (unambiguous : registry.Unambiguous)
    (declares : registry.Declares label package) : index.find language package = [label] := by
  obtain ⟨distinct, members⟩ := lists language package
  have only : ∀ one ∈ index.find language package, one = label := by
    intro one member
    have found := unambiguous.get?_declaring.2 ((members one).1 member)
    rw [unambiguous.get?_declaring.2 declares] at found
    cases found
    rfl
  exact eq_singleton_of_mem distinct ((members label).2 declares) only

/-- Where no two rules declare one package, the index has no more than what is recorded of it. -/
theorem find_eq_toList (lists : index.Lists registry) (unambiguous : registry.Unambiguous)
    (language : Language) (package : JvmPackage) :
    index.find language package = (registry.declaring.get? package).toList := by
  cases found : registry.declaring.get? package with
  | some label => exact lists.find_eq unambiguous (unambiguous.get?_declaring.1 found)
  | none =>
      apply List.eq_nil_iff_forall_not_mem.2
      intro label member
      rw [(lists language package).2, ← unambiguous.get?_declaring, found] at member
      cases member

end Lists

end BuildDeps.Resolution.RuleIndex

namespace BuildDeps.Resolution.Layered

open Export.Layered

/-- The rules of the two layers, which resolve to the exports of both. -/
def context : Context where
  config := {}
  rules := ((RuleIndex.empty.add .java ⟨"core"⟩ core).add .java ⟨"util"⟩ util).add .java ⟨"app"⟩ app
  artifacts := default
  exports := some registry.finalize

theorem lists : context.rules.Lists registry := by
  have first := RuleIndex.Lists.empty.rule .java core ⟨[⟨"core"⟩], [], []⟩ rfl
  have second := first.rule .java util ⟨[⟨"util"⟩], [⟨"core"⟩], []⟩ rfl
  exact second.rule .java app ⟨[⟨"app"⟩], [⟨"core"⟩, ⟨"util"⟩], []⟩ rfl

end BuildDeps.Resolution.Layered
