import BuildDeps.Proofs.ByteOrder
import BuildDeps.Proofs.Collections
import BuildDeps.Proofs.Label.Reading
import BuildDeps.Proofs.Resolution.Deps
import BuildDeps.Proofs.Resolution.Transparency
import Mathlib.Data.List.Destutter

/-!
The dependency list of a rule, text by text.

A text shows whether it is that of a relative label, so the order of the list is an order of texts.  The
list has the texts of the labels that the packages of the rule are answered with, one call after the
other, and of those that the rule lists already; it is what sorting all these labels and dropping every
text that repeats its neighbour gives.
-/

namespace BuildDeps

namespace Label

variable {label : Label}

/-- The text of a label shows whether the label is relative. -/
theorem looksAbsolute_text : looksAbsolute label.text = !label.relative := by
  cases kind : label.relative with
  | true =>
      have text : label.text.toList = ':' :: label.target.toList := by
        simp [Label.text, kind]
      simp [looksAbsolute, text]
  | false =>
      by_cases here : label.repository = ""
      · simp [looksAbsolute, toList_text_of_local here kind]
      · simp [looksAbsolute, toList_text_of_external here kind]

end Label

namespace Resolution

variable {owner label one other : Label} {labels : List Label}

/-- The order of the texts in a dependency list: those of relative labels come first, and texts of one
kind go by their bytes. -/
def Before (one other : String) : Prop :=
  Label.looksAbsolute one = false ∧ Label.looksAbsolute other = true ∨
    Label.looksAbsolute one = Label.looksAbsolute other ∧ bytesOf one < bytesOf other

/-- No text comes before itself. -/
theorem not_before_self {text : String} : ¬ Before text text := by
  simp [Before, ← lt_iff_bytesOf_lt]

/-! ### Lines as texts -/

/-- The line of a text. -/
def Line.ofText (text : String) : Line :=
  ⟨if Label.looksAbsolute text then 1 else 0, text⟩

/-- The text of a label has the line of the label, since it shows the kind of the label. -/
theorem Line.ofText_text : Line.ofText label.text = Line.ofLabel label := by
  rw [Line.ofText, Line.ofLabel, Label.looksAbsolute_text, Label.rank]
  cases label.relative <;> rfl

/-- Lines are compared as texts come before each other. -/
theorem Line.compare_ofText {one other : String} :
    compare (Line.ofText one) (Line.ofText other) = .lt ↔ Before one other := by
  show compareLex (compareOn Line.rank) (compareOn Line.text) _ _ = .lt ↔ _
  rw [compareLex, Ordering.then_eq_lt, Before, ← lt_iff_bytesOf_lt]
  simp only [compareOn, Line.ofText, compare_lt_iff_lt, compare_eq_iff_eq]
  cases Label.looksAbsolute one <;> cases Label.looksAbsolute other <;> simp

/-- Texts are in their order if their lines ascend. -/
theorem pairwise_before_iff {texts : List String} :
    texts.Pairwise Before ↔ Ordered.Ascending (texts.map Line.ofText) := by
  simp only [Ordered.Ascending, List.pairwise_map, Line.compare_ofText]

/-- A list in this order is determined by its texts. -/
theorem eq_of_pairwise_before {texts others : List String} (ascending : texts.Pairwise Before)
    (othersAscending : others.Pairwise Before) (members : ∀ text, text ∈ texts ↔ text ∈ others) :
    texts = others := by
  have sameLines : texts.map Line.ofText = others.map Line.ofText := by
    apply (pairwise_before_iff.1 ascending).eq_of_mem_iff (pairwise_before_iff.1 othersAscending)
    intro line
    simp only [List.mem_map, members]
  have texts_of_lines : ∀ texts : List String, (texts.map Line.ofText).map (·.text) = texts := by
    intro texts
    rw [List.map_map]
    exact List.map_id texts
  rw [← texts_of_lines texts, ← texts_of_lines others, sameLines]

/-- The lines of a dependency list are those of its labels, ascending. -/
theorem map_ofText_depsOfLabels :
    (depsOfLabels owner labels).map Line.ofText =
      Ordered.ofList ((labels.filter (!isSelf owner ·)).map Line.ofLabel) := by
  rw [depsOfLabels, List.map_map]
  refine (List.map_congr_left ?_).trans (List.map_id _)
  intro line member
  rw [Ordered.mem_ofList, List.mem_map] at member
  obtain ⟨label, _, rfl⟩ := member
  exact Line.ofText_text

/-- The texts of a dependency list are in their order. -/
theorem pairwise_depsOfLabels : (depsOfLabels owner labels).Pairwise Before := by
  rw [pairwise_before_iff, map_ofText_depsOfLabels]
  exact Ordered.ascending_ofList _

/-- A dependency list is the one list in its order that has the texts of the labels. -/
theorem eq_depsOfLabels_iff {texts : List String} :
    texts = depsOfLabels owner labels ↔ texts.Pairwise Before ∧
      ∀ text, text ∈ texts ↔ ∃ label ∈ labels, isSelf owner label = false ∧ label.text = text := by
  constructor
  · intro same
    rw [same]
    exact ⟨pairwise_depsOfLabels, fun text => mem_depsOfLabels⟩
  · intro listed
    obtain ⟨ascending, members⟩ := listed
    apply eq_of_pairwise_before ascending pairwise_depsOfLabels
    intro text
    rw [members, mem_depsOfLabels]

/-! ### Sorting and dropping repeats -/

/-- Sorted labels have texts in the order of the list, save for repeats. -/
theorem before_or_eq_of_isLE (sorted : (compare one other).isLE = true) :
    Before one.text other.text ∨ one.text = other.text := by
  have parts : compare one other = (compare (Line.ofLabel one) (Line.ofLabel other)).then
      ((compareLex (compareOn Label.repository) <|
        compareLex (compareOn Label.package) (compareOn Label.target)) one other) := by
    show Label.order one other = (Line.order (Line.ofLabel one) (Line.ofLabel other)).then _
    simp only [Label.order, Line.order, compareLex, compareOn, Line.ofLabel, Ordering.then_assoc]
  rw [parts] at sorted
  cases lines : compare (Line.ofLabel one) (Line.ofLabel other) with
  | lt =>
      rw [← Line.ofText_text, ← Line.ofText_text] at lines
      exact Or.inl (Line.compare_ofText.1 lines)
  | eq => exact Or.inr (congrArg Line.text (Std.LawfulEqCmp.eq_of_compare lines))
  | gt =>
      rw [lines] at sorted
      cases sorted

instance : Std.Antisymm fun one other : String => Before one other ∨ one = other where
  antisymm := by
    intro one other first second
    apply first.elim _ id
    intro before
    apply second.elim _ Eq.symm
    intro after
    rw [← Line.compare_ofText] at before after
    exact absurd after (Std.OrientedCmp.not_lt_of_lt before)

/-- Sorts labels, and drops every label whose text is that of the label kept before it. -/
def sortedOnce (labels : List Label) : List Label :=
  (labels.mergeSort fun one other => (compare one other).isLE).destutter (·.text ≠ ·.text)

/-- A dependency list has the texts of the labels, sorted and without repeats. -/
theorem depsOfLabels_eq_map_sortedOnce :
    depsOfLabels owner labels = (sortedOnce (labels.filter (!isSelf owner ·))).map Label.text := by
  have dropped : ∀ labels : List Label, (labels.destutter (·.text ≠ ·.text)).map Label.text =
      (labels.map Label.text).destutter (· ≠ ·) :=
    fun labels => List.map_destutter fun _ _ _ _ => Iff.rfl
  -- Labels of one text stand together once sorted, whatever else they differ in, so that dropping
  -- neighbours drops all repeats.
  have ordered : (((labels.filter (!isSelf owner ·)).mergeSort fun one other =>
      (compare one other).isLE).map Label.text).Pairwise fun one other =>
        Before one other ∨ one = other := by
    rw [List.pairwise_map]
    apply (pairwise_mergeSort_compareOn id _).imp
    intro one other sorted
    exact before_or_eq_of_isLE sorted
  rw [sortedOnce, dropped, ordered.destutter_eq_dedup]
  symm
  rw [eq_depsOfLabels_iff]
  constructor
  · have apart := (ordered.sublist (List.dedup_sublist _)).and (List.nodup_dedup _)
    exact apart.imp fun both => both.1.resolve_right both.2
  · intro text
    simp [and_assoc]

/-! ### Calls made one after the other -/

section Calls

variable {context : Context} {origin : Origin} {packages : PackageClasses} {existing : List String}
  {cache : Cache} {found : Label}

/-- The calls of a rule for packages. -/
def callsFor (origin : Origin) (packages : PackageClasses) : List Call :=
  packages.map fun entry => ⟨origin, entry.1, entry.2⟩

/-- The rule asks for the packages in their order, and one of the calls is answered with the label. -/
def Context.AnswersInTurn (context : Context) (origin : Origin) (packages : PackageClasses)
    (cache : Cache) (found : Label) : Prop :=
  ∃ earlier package classes later, packages = earlier ++ (package, classes) :: later ∧
    (context.resolvePackage origin package classes
      (context.cacheAfter (callsFor origin earlier) cache)).answer = some found

theorem Context.answersInTurn_nil : ¬ context.AnswersInTurn origin [] cache found := by
  intro answers
  obtain ⟨earlier, package, classes, later, split, _⟩ := answers
  simp at split

/-- The first call is made on the cache at hand, and the others on the cache that it leaves behind. -/
theorem Context.answersInTurn_cons {package : JvmPackage} {classes : List String} :
    context.AnswersInTurn origin ((package, classes) :: packages) cache found ↔
      (context.resolvePackage origin package classes cache).answer = some found ∨
        context.AnswersInTurn origin packages
          (context.resolvePackage origin package classes cache).cache found := by
  constructor
  · intro answers
    obtain ⟨earlier, wanted, others, later, split, answered⟩ := answers
    cases earlier with
    | nil =>
        cases split
        exact Or.inl answered
    | cons first rest =>
        cases split
        exact Or.inr ⟨rest, wanted, others, later, rfl, answered⟩
  · intro answers
    cases answers with
    | inl answered => exact ⟨[], package, classes, packages, rfl, answered⟩
    | inr further =>
        obtain ⟨earlier, wanted, others, later, split, answered⟩ := further
        exact ⟨(package, classes) :: earlier, wanted, others, later, by rw [split]; rfl, answered⟩

/-- The labels found are the answers to the calls, in the form in which the rule writes them. -/
theorem Context.mem_resolveEach :
    label ∈ (context.resolveEach origin packages cache).answer ↔
      ∃ found, context.AnswersInTurn origin packages cache found ∧
        found.simplify context.config.repository origin.label = label := by
  induction packages generalizing cache with
  | nil =>
      constructor
      · intro member
        cases member
      · intro answers
        obtain ⟨found, answers, _⟩ := answers
        exact absurd answers answersInTurn_nil
  | cons entry rest ih =>
      obtain ⟨package, classes⟩ := entry
      rw [resolveEach, List.mem_append, ih, Option.mem_toList, Option.map_eq_some_iff]
      simp only [answersInTurn_cons, or_and_right, exists_or]

/-- A rule whose list can be read is answered with the labels that were found and those that were
listed. -/
theorem Context.answer_resolvePackages {listed : List Label}
    (read : existing.mapM Label.parse = .ok listed) :
    (context.resolvePackages origin packages existing cache).answer =
      .ok (depsOfLabels origin.label
        ((context.resolveEach origin packages cache).answer ++ listed)) := by
  rw [resolvePackages, read]
  rfl

/-- A rule gets no list only if a text that it lists already is malformed. -/
theorem Context.answer_resolvePackages_eq_error_iff {error : Label.Malformed} :
    (context.resolvePackages origin packages existing cache).answer = .error error ↔
      existing.mapM Label.parse = .error error := by
  unfold resolvePackages
  cases existing.mapM Label.parse <;> simp [Except.map]

/-- Where the labels of a list come from: an answer, shortened for the rule, or a text that was listed.
-/
theorem Context.mem_found_append {listed : List Label} (read : existing.mapM Label.parse = .ok listed) :
    label ∈ (context.resolveEach origin packages cache).answer ++ listed ↔
      (∃ found, context.AnswersInTurn origin packages cache found ∧
        found.simplify context.config.repository origin.label = label) ∨
      ∃ raw ∈ existing, Label.parse raw = .ok label := by
  rw [List.mem_append, mem_resolveEach, mem_of_mapM_eq_ok read]

/-- Of the listed texts, the dependency list is the one list in its order that has the texts of the
shortened answers and of the listed labels, but for those of the rule itself. -/
theorem Context.answer_resolvePackages_eq_ok_iff {listed : List Label} {deps : List String}
    (read : existing.mapM Label.parse = .ok listed) :
    (context.resolvePackages origin packages existing cache).answer = .ok deps ↔
      deps.Pairwise Before ∧ ∀ text, text ∈ deps ↔ ∃ label : Label, label.text = text ∧
        (label.relative && label.target = origin.label.target) = false ∧
        ((∃ found, context.AnswersInTurn origin packages cache found ∧
          found.simplify context.config.repository origin.label = label) ∨
        ∃ raw ∈ existing, Label.parse raw = .ok label) := by
  have sources : ∀ text, (∃ label ∈ (context.resolveEach origin packages cache).answer ++ listed,
      isSelf origin.label label = false ∧ label.text = text) ↔
      ∃ label : Label, label.text = text ∧ isSelf origin.label label = false ∧
        ((∃ found, context.AnswersInTurn origin packages cache found ∧
          found.simplify context.config.repository origin.label = label) ∨
        ∃ raw ∈ existing, Label.parse raw = .ok label) := by
    intro text
    simp only [mem_found_append read]
    apply exists_congr
    intro label
    constructor
    · intro listing
      obtain ⟨source, apart, written⟩ := listing
      exact ⟨written, apart, source⟩
    · intro listing
      obtain ⟨written, apart, source⟩ := listing
      exact ⟨source, apart, written⟩
  rw [answer_resolvePackages read, Except.ok.injEq, eq_comm, eq_depsOfLabels_iff]
  simp only [sources]
  exact Iff.rfl

/-- A dependency list is a matter of the labels that the calls answer with and of those that are listed
already.  The first listed text that is no label is the error.  Otherwise the list has, in the order of
texts and without repeats, the texts of the shortened answers and of the listed labels, but for those of
relative labels of the rule's own name; and it is made by sorting these labels and dropping repeats. -/
theorem Context.resolvePackages_exact (context : Context) (origin : Origin)
    (packages : PackageClasses) (existing : List String) (cache : Cache) :
    let answer := (context.resolvePackages origin packages existing cache).answer
    (∀ error, answer = .error error ↔ ∃ before raw after, existing = before ++ raw :: after ∧
      (∀ earlier ∈ before, ∃ label, Label.parse earlier = .ok label) ∧
        Label.parse raw = .error error) ∧
    (∀ deps, answer = .ok deps ↔ (∀ raw ∈ existing, ∃ label, Label.parse raw = .ok label) ∧
      deps.Pairwise Before ∧
      ∀ text, text ∈ deps ↔ ∃ label : Label, label.text = text ∧
        (label.relative && label.target = origin.label.target) = false ∧
        ((∃ found, context.AnswersInTurn origin packages cache found ∧
          found.simplify context.config.repository origin.label = label) ∨
        ∃ raw ∈ existing, Label.parse raw = .ok label)) ∧
    answer = (existing.mapM Label.parse).map fun listed =>
      (sortedOnce (((context.resolveEach origin packages cache).answer ++ listed).filter
        (!isSelf origin.label ·))).map Label.text := by
  intro answer
  refine ⟨?_, ?_, ?_⟩
  · intro error
    rw [← mapM_eq_error_iff]
    exact answer_resolvePackages_eq_error_iff
  · intro deps
    cases read : existing.mapM Label.parse with
    | error error =>
        constructor
        · intro succeeds
          have fails : answer = .error error := answer_resolvePackages_eq_error_iff.2 read
          rw [fails] at succeeds
          cases succeeds
        · intro listing
          obtain ⟨listed, succeeds⟩ := exists_mapM_eq_ok listing.1
          rw [read] at succeeds
          cases succeeds
    | ok listed =>
        rw [and_iff_right (exists_of_mapM_eq_ok read)]
        exact answer_resolvePackages_eq_ok_iff read
  · simp only [← depsOfLabels_eq_map_sortedOnce]
    rfl

end Calls

end Resolution

end BuildDeps
