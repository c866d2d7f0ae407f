import BuildDeps.Proofs.Label.Simplification
import BuildDeps.Proofs.Resolution.Listing

/-!
The targets that the texts of a dependency list name.

What a package is answered with is listed in the shortest form of its target, and not at all where it
names the rule itself.  A label that the rule lists already keeps the form in which it is written, and
texts are compared letter by letter.  So a target is named twice, or the rule named by its own list, only
where a listed label has a longer form, or an answer is a label that no text is read as.
-/

namespace BuildDeps.Resolution

/-- No two texts of a list name one target from the package of a rule, and none names the rule. -/
def NamesTargetsOnce (current : String) (origin : Label) (deps : List String) : Prop :=
  (deps.Pairwise fun one other => ∀ target, Label.Names current origin.package one target →
    ¬ Label.Names current origin.package other target) ∧
  ∀ text ∈ deps, ¬ Label.Names current origin.package text (origin.unqualified current)

/-- Where a text comes from that need not be in the shortest form of the target that it names. -/
inductive AsWritten (context : Context) (origin : Origin) (packages : PackageClasses)
    (existing : List String) (cache : Cache) (text : String) : Prop where
  /-- The rule lists a label that it could write in a shorter form. -/
  | listed {raw : String} {label : Label} (member : raw ∈ existing)
      (read : Label.parse raw = .ok label) (written : label.text = text)
      (longer : label.simplify context.config.repository origin.label ≠ label) :
      AsWritten context origin packages existing cache text
  /-- A package is answered with a label that cannot be read. -/
  | answered {found : Label} (answers : context.AnswersInTurn origin packages cache found)
      (written : (found.simplify context.config.repository origin.label).text = text)
      (unreadable : ¬ found.Writable) :
      AsWritten context origin packages existing cache text

variable {context : Context} {origin : Origin} {packages : PackageClasses}
  {existing : List String} {cache : Cache} {listed : List Label} {text : String}

/-- All other texts are shortest forms. -/
theorem exists_shortened (read : existing.mapM Label.parse = .ok listed)
    (member : text ∈ depsOfLabels origin.label
      ((context.resolveEach origin packages cache).answer ++ listed))
    (plain : ¬ AsWritten context origin packages existing cache text) :
    ∃ label : Label, label.Writable ∧
      (label.simplify context.config.repository origin.label).text = text ∧
      isSelf origin.label (label.simplify context.config.repository origin.label) = false := by
  obtain ⟨label, source, apart, written⟩ := mem_depsOfLabels.1 member
  rw [Context.mem_found_append read] at source
  cases source with
  | inl answered =>
      obtain ⟨found, answers, rfl⟩ := answered
      have writable : found.Writable := by
        by_contra unreadable
        exact plain (.answered answers written unreadable)
      exact ⟨found, writable, written, apart⟩
  | inr again =>
      obtain ⟨raw, present, parsed⟩ := again
      have short : label.simplify context.config.repository origin.label = label := by
        by_contra longer
        exact plain (.listed present parsed written longer)
      refine ⟨label, (Label.wellFormed_of_parse parsed).writable, ?_, ?_⟩
      · rw [short, written]
      · rw [short, apart]

/-- Of one target a list has one shortest form. -/
theorem eq_of_names_one_target {one other : String} {target : Label}
    (read : existing.mapM Label.parse = .ok listed)
    (oneMember : one ∈ depsOfLabels origin.label
      ((context.resolveEach origin packages cache).answer ++ listed))
    (otherMember : other ∈ depsOfLabels origin.label
      ((context.resolveEach origin packages cache).answer ++ listed))
    (onePlain : ¬ AsWritten context origin packages existing cache one)
    (otherPlain : ¬ AsWritten context origin packages existing cache other)
    (names : Label.Names context.config.repository origin.label.package one target)
    (namesOther : Label.Names context.config.repository origin.label.package other target) :
    one = other := by
  obtain ⟨label, writable, rfl, _⟩ := exists_shortened read oneMember onePlain
  obtain ⟨twin, twinWritable, rfl, _⟩ := exists_shortened read otherMember otherPlain
  apply Label.text_simplify_eq_of_targetIn_eq
  have sameTarget := (writable.names_text_simplify context.config.repository origin.label).eq names
  have twinTarget :=
    (twinWritable.names_text_simplify context.config.repository origin.label).eq namesOther
  exact sameTarget.trans twinTarget.symm

/-- The shortest form of the rule itself is left out. -/
theorem asWritten_of_names_self (absolute : origin.label.relative = false)
    (home : origin.label.repository = "" ∨ origin.label.repository = context.config.repository)
    (read : existing.mapM Label.parse = .ok listed)
    (member : text ∈ depsOfLabels origin.label
      ((context.resolveEach origin packages cache).answer ++ listed))
    (names : Label.Names context.config.repository origin.label.package text
      (origin.label.unqualified context.config.repository)) :
    AsWritten context origin packages existing cache text := by
  by_contra plain
  obtain ⟨label, writable, rfl, apart⟩ := exists_shortened read member plain
  have itself := (writable.names_text_simplify context.config.repository origin.label).eq names
  rw [(Label.isSelf_simplify_iff absolute home label).2 itself] at apart
  cases apart

/-- A dependency list names a target twice, or the rule itself, only by texts that are as the rule
wrote them, or that cannot be read.  A list without such texts names every target once and not the
rule. -/
theorem Context.names_targets_once_unless_as_written (absolute : origin.label.relative = false)
    (home : origin.label.repository = "" ∨ origin.label.repository = context.config.repository)
    (readable : ∀ raw ∈ existing, ∃ label, Label.parse raw = .ok label) :
    ∃ deps, (context.resolvePackages origin packages existing cache).answer = .ok deps ∧
      (deps.Pairwise fun one other => ∀ target,
        Label.Names context.config.repository origin.label.package one target →
        Label.Names context.config.repository origin.label.package other target →
          AsWritten context origin packages existing cache one ∨
            AsWritten context origin packages existing cache other) ∧
      (∀ text ∈ deps, Label.Names context.config.repository origin.label.package text
          (origin.label.unqualified context.config.repository) →
        AsWritten context origin packages existing cache text) ∧
      ((∀ text ∈ deps, ¬ AsWritten context origin packages existing cache text) →
        NamesTargetsOnce context.config.repository origin.label deps) := by
  obtain ⟨listed, read⟩ := exists_mapM_eq_ok readable
  refine ⟨_, answer_resolvePackages read, ?_, ?_, ?_⟩
  · apply List.Pairwise.imp_of_mem ?_ pairwise_depsOfLabels
    intro one other oneMember otherMember before target names namesOther
    by_contra plain
    obtain ⟨onePlain, otherPlain⟩ := not_or.1 plain
    have same := eq_of_names_one_target read oneMember otherMember onePlain otherPlain names namesOther
    exact not_before_self (same ▸ before)
  · intro text member names
    exact asWritten_of_names_self absolute home read member names
  · intro plain
    constructor
    · apply List.Pairwise.imp_of_mem ?_ pairwise_depsOfLabels
      intro one other oneMember otherMember before target names namesOther
      have same := eq_of_names_one_target read oneMember otherMember (plain one oneMember)
        (plain other otherMember) names namesOther
      exact not_before_self (same ▸ before)
    · intro text member names
      exact plain text member (asWritten_of_names_self absolute home read member names)

end BuildDeps.Resolution

/-! ### Lists that name a target twice -/

namespace BuildDeps.Resolution.LongForms

/-- The rule `//app`. -/
def origin : Origin := { label := ⟨"", "app", "app", false⟩ }

/-- There is nothing to resolve against. -/
def bare : Context where
  config := {}
  rules := .empty
  artifacts := .empty
  exports := none

/-- The repository of external artifacts is written with a mark that labels are read without. -/
def marked : Context where
  config := { mavenRepository := "@maven" }
  rules := .empty
  artifacts := Maven.ArtifactIndex.empty.add ⟨"guava"⟩ "com.google:guava"
  exports := none

/-- Of two texts that name one target, one is of a label that the rule could write in a shorter form. -/
theorem one_of_two_forms_is_as_written :
    (∀ raw ∈ [":lib", "//app:lib"], ∃ label, Label.parse raw = .ok label) ∧
    (bare.resolvePackages origin [] [":lib", "//app:lib"] default).answer =
      .ok [":lib", "//app:lib"] ∧
    Label.Names "" "app" ":lib" ⟨"", "app", "lib", false⟩ ∧
    Label.Names "" "app" "//app:lib" ⟨"", "app", "lib", false⟩ ∧
    (AsWritten bare origin [] [":lib", "//app:lib"] default ":lib" ∨
      AsWritten bare origin [] [":lib", "//app:lib"] default "//app:lib") := by
  have readable : ∀ raw ∈ [":lib", "//app:lib"], ∃ label, Label.parse raw = .ok label := by
    intro raw member
    rcases List.mem_pair.1 member with rfl | rfl
    · exact ⟨⟨"", "", "lib", true⟩, rfl⟩
    · exact ⟨⟨"", "app", "lib", false⟩, rfl⟩
  have answer : (bare.resolvePackages origin [] [":lib", "//app:lib"] default).answer =
      .ok [":lib", "//app:lib"] := by decide
  have short : Label.Names "" "app" ":lib" ⟨"", "app", "lib", false⟩ :=
    ⟨⟨"", "", "lib", true⟩, rfl, by decide⟩
  have long : Label.Names "" "app" "//app:lib" ⟨"", "app", "lib", false⟩ :=
    ⟨⟨"", "app", "lib", false⟩, rfl, by decide⟩
  obtain ⟨deps, answered, once, _⟩ :=
    @Context.names_targets_once_unless_as_written bare origin [] [":lib", "//app:lib"] default rfl
      (Or.inl rfl) readable
  rw [answer, Except.ok.injEq] at answered
  rw [← answered, List.pairwise_pair] at once
  exact ⟨readable, answer, short, long, once _ short long⟩

/-- A rule may list a target in two forms, or itself by its whole label, and an external artifact may
be found under a label that is not read as it is written. -/
theorem targets_named_again :
    ((bare.resolvePackages origin [] [":lib", "//app:lib"] default).answer =
        .ok [":lib", "//app:lib"] ∧
      ¬ NamesTargetsOnce "" origin.label [":lib", "//app:lib"]) ∧
    ((bare.resolvePackages origin [] ["//app:app"] default).answer = .ok ["//app"] ∧
      ¬ NamesTargetsOnce "" origin.label ["//app"]) ∧
    (marked.resolvePackages origin [(⟨"guava"⟩, [])] ["@maven//:com_google_guava"] default).answer =
        .ok ["@@maven//:com_google_guava", "@maven//:com_google_guava"] ∧
      ¬ NamesTargetsOnce "" origin.label
        ["@@maven//:com_google_guava", "@maven//:com_google_guava"] := by
  refine ⟨⟨by decide, ?_⟩, ⟨by decide, ?_⟩, by decide +kernel, ?_⟩
  · intro once
    exact List.pairwise_pair.1 once.1 ⟨"", "app", "lib", false⟩
      ⟨⟨"", "", "lib", true⟩, rfl, by decide⟩ ⟨⟨"", "app", "lib", false⟩, rfl, by decide⟩
  · intro once
    exact once.2 "//app" List.mem_cons_self ⟨⟨"", "app", "app", false⟩, rfl, by decide⟩
  · intro once
    exact List.pairwise_pair.1 once.1 ⟨"maven", "", "com_google_guava", false⟩
      ⟨⟨"maven", "", "com_google_guava", false⟩, rfl, by decide⟩
      ⟨⟨"maven", "", "com_google_guava", false⟩, rfl, by decide⟩

end BuildDeps.Resolution.LongForms
