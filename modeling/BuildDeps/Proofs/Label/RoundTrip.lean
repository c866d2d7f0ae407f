import BuildDeps.Label.Parser
import BuildDeps.Proofs.Collections
import Mathlib.Data.List.TakeWhile

/-!
Labels against their texts.

What the reader accepts is well formed, and the text of a well-formed label reads as that label: the
characters of a repository, a package and a target keep clear of the marks between them, so the reader
finds the marks where the writer put them.
-/

namespace BuildDeps.Label

variable {c : Char} {chars path : List Char} {input repository : String} {label : Label}

/-- The labels that texts can be read as. -/
structure WellFormed (label : Label) : Prop where
  repository : label.repository = "" ∨ isRepository label.repository.toList = true
  package : isPackage label.package.toList = true
  target : isTarget label.target.toList = true
  relative : label.relative = true → label.repository = "" ∧ label.package = ""

/-! ### Characters -/

theorem ne_nil_of_isRepository (name : isRepository chars = true) : chars ≠ [] := by
  rintro rfl
  cases name

/-- The name of a target is not empty. -/
theorem ne_nil_of_isTarget (name : isTarget chars = true) : chars ≠ [] := by
  rintro rfl
  cases name

/-- A repository is named with the characters of repositories alone. -/
theorem isRepositoryChar_of_mem (name : isRepository chars = true) (member : c ∈ chars) :
    isRepositoryChar c = true := by
  rw [isRepository, Bool.and_eq_true, List.all_eq_true] at name
  exact name.2 c member

/-- A repository keeps clear of the slashes that follow it. -/
theorem slash_not_mem_of_isRepository (name : isRepository chars = true) : '/' ∉ chars := by
  intro member
  exact absurd (isRepositoryChar_of_mem name member) (by decide)

/-- A repository keeps clear of the mark in front of it. -/
theorem at_not_mem_of_isRepository (name : isRepository chars = true) : '@' ∉ chars := by
  intro member
  exact absurd (isRepositoryChar_of_mem name member) (by decide)

/-- Whatever may stand in the name of a repository may stand in that of a target. -/
theorem isTargetChar_of_isRepositoryChar (name : isRepositoryChar c = true) :
    isTargetChar c = true := by
  simp only [isRepositoryChar, isTargetChar, Bool.or_eq_true, List.contains_iff_mem] at name ⊢
  apply name.imp_right
  intro member
  simp only [List.mem_cons, List.not_mem_nil, or_false] at member
  rcases member with rfl | rfl | rfl | rfl | rfl <;> decide

/-- The target that bears the name of its repository is a target. -/
theorem isTarget_of_isRepository (name : isRepository chars = true) : isTarget chars = true := by
  rw [isRepository, Bool.and_eq_true, List.all_eq_true] at name
  rw [isTarget, Bool.and_eq_true, List.all_eq_true]
  exact ⟨name.1, fun c member => isTargetChar_of_isRepositoryChar (name.2 c member)⟩

/-- Every character is a separator or stands in one of the fields between separators. -/
theorem exists_field_of_mem (separator : Char) (member : c ∈ chars) (other : c ≠ separator) :
    ∃ field ∈ chars.splitOn separator, c ∈ field := by
  induction chars with
  | nil => cases member
  | cons first rest ih =>
      rw [List.splitOn_cons_eq_if_modifyHead]
      obtain ⟨head, tail, fields⟩ := List.exists_cons_of_ne_nil (List.splitOn_ne_nil separator rest)
      rw [fields] at ih ⊢
      rcases List.mem_cons.1 member with rfl | later
      · simp [other]
      · obtain ⟨field, present, found⟩ := ih later
        by_cases mark : first = separator
        · simp only [mark, beq_self_eq_true, if_true, List.mem_cons]
          exact ⟨field, Or.inr (List.mem_cons.1 present), found⟩
        · simp only [beq_iff_eq, mark, if_false, List.modifyHead_cons, List.mem_cons]
          rcases List.mem_cons.1 present with rfl | further
          · exact ⟨first :: field, Or.inl rfl, List.mem_cons_of_mem _ found⟩
          · exact ⟨field, Or.inr further, found⟩

/-- A package keeps clear of the colon in front of its target. -/
theorem colon_not_mem_of_isPackage (name : isPackage path = true) : ':' ∉ path := by
  intro member
  obtain ⟨directory, present, found⟩ := exists_field_of_mem '/' member (by decide)
  rw [isPackage, Bool.or_eq_true, List.all_eq_true] at name
  rcases name with empty | directories
  · rw [List.isEmpty_iff.1 empty] at member
    cases member
  · have named := directories directory present
    rw [Bool.and_eq_true, List.all_eq_true] at named
    exact absurd (named.2 ':' found) (by decide)

/-! ### What the reader accepts -/

/-- What is read as a target has the form of one. -/
theorem readTarget_eq_ok {target : String} (accepted : readTarget chars = .ok target) :
    isTarget target.toList = true := by
  obtain ⟨named, rfl⟩ := of_ite_eq_ok accepted
  rwa [String.toList_ofList]

/-- What is read as a repository has the form of one. -/
theorem readRepository_eq_ok (accepted : readRepository chars = .ok repository) :
    isRepository repository.toList = true := by
  obtain ⟨named, rfl⟩ := of_ite_eq_ok accepted
  rwa [String.toList_ofList]

/-- Behind the `//`, the reader only accepts a package and a target of their forms. -/
theorem wellFormed_of_readPath (named : repository = "" ∨ isRepository repository.toList = true)
    (accepted : readPath repository path = .ok label) :
    label.WellFormed ∧ label.repository = repository ∧ label.relative = false := by
  unfold readPath at accepted
  simp only at accepted
  split at accepted
  · rename_i package
    rw [← String.toList_ofList (l := path.takeWhile (· ≠ ':'))] at package
    split at accepted
    · obtain ⟨target, found, same⟩ := exists_of_bind_eq_ok accepted
      cases same
      exact ⟨⟨named, package, readTarget_eq_ok found, nofun⟩, rfl, rfl⟩
    · cases accepted
    · obtain ⟨target, found, same⟩ := exists_of_bind_eq_ok accepted
      cases same
      exact ⟨⟨named, package, readTarget_eq_ok found, nofun⟩, rfl, rfl⟩
  · cases accepted

/-- A relative label that is accepted has a target, and nothing else. -/
theorem wellFormed_of_readRelative (accepted : readRelative chars = .ok label) :
    label.WellFormed ∧ label.repository = "" := by
  unfold readRelative at accepted
  split at accepted
  · cases accepted
  · obtain ⟨target, found, same⟩ := exists_of_bind_eq_ok accepted
    cases same
    exact ⟨⟨Or.inl rfl, rfl, readTarget_eq_ok found, fun _ => ⟨rfl, rfl⟩⟩, rfl⟩
  · obtain ⟨target, found, same⟩ := exists_of_bind_eq_ok accepted
    cases same
    exact ⟨⟨Or.inl rfl, rfl, readTarget_eq_ok found, fun _ => ⟨rfl, rfl⟩⟩, rfl⟩

/-- A text that begins with a repository is read as an absolute label with one. -/
theorem wellFormed_of_read_at (accepted : read ('@' :: chars) = .ok label) :
    label.WellFormed ∧ label.repository ≠ "" ∧ label.relative = false := by
  have nonempty : ∀ {name : String}, isRepository name.toList = true → name ≠ "" := by
    rintro name named rfl
    cases named
  simp only [read] at accepted
  split at accepted
  · obtain ⟨name, found, same⟩ := exists_of_bind_eq_ok accepted
    cases same
    have named := readRepository_eq_ok found
    exact ⟨⟨Or.inr named, rfl, isTarget_of_isRepository named, nofun⟩, nonempty named, rfl⟩
  · cases accepted
  · obtain ⟨name, found, rest⟩ := exists_of_bind_eq_ok accepted
    have named := readRepository_eq_ok found
    obtain ⟨wellFormed, same, absolute⟩ := wellFormed_of_readPath (Or.inr named) rest
    exact ⟨wellFormed, same ▸ nonempty named, absolute⟩

/-- Whichever way the reader takes, it only accepts labels that are well formed. -/
theorem wellFormed_of_read (accepted : read chars = .ok label) : label.WellFormed := by
  have whole := accepted
  unfold read at accepted
  split at accepted
  · exact (wellFormed_of_read_at whole).1
  · exact (wellFormed_of_readPath (Or.inl rfl) accepted).1
  · exact (wellFormed_of_readRelative accepted).1

/-- Reading a text is reading its characters. -/
theorem read_of_parse_eq_ok (accepted : parse input = .ok label) :
    read input.toList = .ok label := by
  unfold parse at accepted
  cases found : read input.toList with
  | error fault =>
      rw [found] at accepted
      cases accepted
  | ok other =>
      rw [found] at accepted
      cases accepted
      rfl

theorem parse_eq_ok_of_read (accepted : read input.toList = .ok label) :
    parse input = .ok label := by
  rw [parse, accepted]
  rfl

/-- Whatever is read is well formed. -/
theorem wellFormed_of_parse (accepted : parse input = .ok label) : label.WellFormed :=
  wellFormed_of_read (read_of_parse_eq_ok accepted)

/-! ### What the writer writes -/

/-- The name of a target is read as it stands. -/
theorem readTarget_toList {target : String} (named : isTarget target.toList = true) :
    readTarget target.toList = .ok target := by
  rw [readTarget, if_pos named, String.ofList_toList]

/-- The name of a repository is read as it stands. -/
theorem readRepository_toList (named : isRepository repository.toList = true) :
    readRepository repository.toList = .ok repository := by
  unfold readRepository
  dsimp only
  split
  · rename_i rest found
    have marked : '@' ∈ repository.toList := found ▸ List.mem_cons_self
    exact absurd marked (at_not_mem_of_isRepository named)
  · rw [if_pos named, String.ofList_toList]

/-- The first colon behind a package is the one that was put there. -/
theorem span_package (named : isPackage path = true) (target : List Char) :
    (path ++ ':' :: target).takeWhile (· ≠ ':') = path ∧
      (path ++ ':' :: target).dropWhile (· ≠ ':') = ':' :: target := by
  have clear : ∀ c ∈ path, (decide (c ≠ ':')) = true := by
    intro c member
    rw [decide_eq_true_iff]
    rintro rfl
    exact colon_not_mem_of_isPackage named member
  rw [List.takeWhile_append_of_pos clear, List.dropWhile_append_of_pos clear]
  simp

/-- A package and a target with a colon between them are read as these. -/
theorem readPath_of_target (package : isPackage label.package.toList = true)
    (target : isTarget label.target.toList = true) (absolute : label.relative = false) :
    readPath label.repository (label.package.toList ++ ':' :: label.target.toList) = .ok label := by
  obtain ⟨before, after⟩ := span_package package label.target.toList
  obtain ⟨first, rest, chars⟩ := List.exists_cons_of_ne_nil (ne_nil_of_isTarget target)
  simp only [readPath, before, after, package, if_true]
  -- The reader tells an empty name from others before it reads it.
  simp only [chars]
  rw [← chars, readTarget_toList target, String.ofList_toList]
  cases label
  cases absolute
  rfl

/-- The characters of the last directory are the last field of the characters. -/
theorem toList_lastField (text : String) :
    (Text.lastField '/' text).toList = (text.toList.splitOn '/').getLastD [] := by
  have fields := List.splitOn_ne_nil '/' text.toList
  rw [Text.lastField, Text.fields, List.getLastD_eq_getLast?, List.getLastD_eq_getLast?,
    List.getLast?_map, List.getLast?_eq_some_getLast fields]
  simp

/-- A package without a target is read with its last directory for a target. -/
theorem readPath_of_package (package : isPackage label.package.toList = true)
    (target : isTarget label.target.toList = true) (absolute : label.relative = false)
    (last : Text.lastField '/' label.package = label.target) :
    readPath label.repository label.package.toList = .ok label := by
  have clear : ∀ c ∈ label.package.toList, (decide (c ≠ ':')) = true := by
    intro c member
    rw [decide_eq_true_iff]
    rintro rfl
    exact colon_not_mem_of_isPackage package member
  simp only [readPath, List.takeWhile_eq_self_iff.2 clear, List.dropWhile_eq_nil_iff.2 clear,
    package, if_true]
  rw [← toList_lastField, last, readTarget_toList target, String.ofList_toList]
  cases label
  cases absolute
  rfl

/-- A character that is no slash goes before the slashes, wherever they are. -/
theorem splitAtSlashes?_cons (other : c ≠ '/') :
    splitAtSlashes? (c :: chars) =
      (splitAtSlashes? chars).map fun found => (c :: found.1, found.2) := by
  rw [splitAtSlashes?]
  rintro path rfl
  exact absurd rfl other

/-- Where there is no slash, there are no two. -/
theorem splitAtSlashes?_eq_none (clear : '/' ∉ chars) : splitAtSlashes? chars = none := by
  induction chars with
  | nil => rfl
  | cons c rest ih =>
      rw [List.mem_cons, not_or] at clear
      rw [splitAtSlashes?_cons (Ne.symm clear.1), ih clear.2]
      rfl

/-- The first two slashes behind a text without any are those that were put there. -/
theorem splitAtSlashes?_append (clear : '/' ∉ chars) (path : List Char) :
    splitAtSlashes? (chars ++ '/' :: '/' :: path) = some (chars, path) := by
  induction chars with
  | nil => rfl
  | cons c rest ih =>
      rw [List.mem_cons, not_or] at clear
      rw [List.cons_append, splitAtSlashes?_cons (Ne.symm clear.1), ih clear.2]
      rfl

/-- A colon in front makes a relative label of a target. -/
theorem read_colon (named : chars ≠ []) :
    read (':' :: chars) = (readTarget chars).map fun target => ⟨"", "", target, true⟩ := by
  obtain ⟨first, rest, rfl⟩ := List.exists_cons_of_ne_nil named
  rfl

/-- The text of a relative label only has its target. -/
theorem parse_text_of_relative (target : isTarget label.target.toList = true)
    (relative : label.relative = true) : parse label.text = .ok ⟨"", "", label.target, true⟩ := by
  have text : label.text.toList = ':' :: label.target.toList := by
    simp [Label.text, relative]
  apply parse_eq_ok_of_read
  rw [text, read_colon (ne_nil_of_isTarget target), readTarget_toList target]
  rfl

/-- A repository without slashes behind it is the target of its own name. -/
theorem read_at_of_slash_not_mem (clear : '/' ∉ chars) :
    read ('@' :: chars) = (readRepository chars).map fun name => ⟨name, "", name, false⟩ := by
  simp only [read, splitAtSlashes?_eq_none clear]
  rfl

/-- A repository with slashes behind it is the repository of what follows them. -/
theorem read_at_append (clear : '/' ∉ chars) (named : chars ≠ []) (path : List Char) :
    read ('@' :: (chars ++ '/' :: '/' :: path)) =
      (readRepository chars).bind fun name => readPath name path := by
  obtain ⟨first, rest, rfl⟩ := List.exists_cons_of_ne_nil named
  simp only [read, splitAtSlashes?_append clear]
  rfl

/-- What the text of an absolute label has after its `//`. -/
def pathText (label : Label) : List Char :=
  label.package.toList ++
    if label.package ≠ "" ∧ Text.lastField '/' label.package = label.target then []
    else ':' :: label.target.toList

/-- What is written behind the `//` of a label is read as its package and its target. -/
theorem readPath_pathText (wellFormed : label.WellFormed) (absolute : label.relative = false) :
    readPath label.repository label.pathText = .ok label := by
  unfold pathText
  split
  · rename_i short
    rw [List.append_nil]
    exact readPath_of_package wellFormed.package wellFormed.target absolute short.2
  · exact readPath_of_target wellFormed.package wellFormed.target absolute

/-- The characters of what is written for the target, by the same cases. -/
theorem toList_target :
    String.toList (if label.package ≠ "" ∧ Text.lastField '/' label.package = label.target then ""
      else ":" ++ label.target) =
    if label.package ≠ "" ∧ Text.lastField '/' label.package = label.target then []
      else ':' :: label.target.toList := by
  split <;> simp

/-- A label without a repository is written as slashes and what follows them. -/
theorem toList_text_of_local (here : label.repository = "") (absolute : label.relative = false) :
    label.text.toList = '/' :: '/' :: label.pathText := by
  rw [text, if_neg (by simp [absolute]), if_neg (by simp [here])]
  simp only [here, if_true, String.toList_append, toList_target, pathText]
  rfl

/-- A label with a repository is written with it in front, and alone where that says it all. -/
theorem toList_text_of_external (elsewhere : label.repository ≠ "")
    (absolute : label.relative = false) :
    label.text.toList =
      '@' :: (label.repository.toList ++
        if label.package = "" ∧ label.target = label.repository then []
        else '/' :: '/' :: label.pathText) := by
  rw [text, if_neg (by simp [absolute])]
  by_cases short : label.package = "" ∧ label.target = label.repository
  · rw [if_pos ⟨elsewhere, short⟩, if_pos short, String.toList_append, List.append_nil]
    rfl
  · rw [if_neg (fun both => short both.2), if_neg short]
    simp only [elsewhere, if_false, String.toList_append, toList_target, pathText]
    simp

/-- The text of a label that can be read at all reads as that label. -/
theorem parse_text (wellFormed : label.WellFormed) : parse label.text = .ok label := by
  cases kind : label.relative with
  | true =>
      obtain ⟨noRepository, noPackage⟩ := wellFormed.relative kind
      rw [parse_text_of_relative wellFormed.target kind]
      cases label
      simp_all
  | false =>
      apply parse_eq_ok_of_read
      rcases wellFormed.repository with here | named
      · rw [toList_text_of_local here kind]
        have path := readPath_pathText wellFormed kind
        rw [here] at path
        exact path
      · have elsewhere : label.repository ≠ "" := by
          intro empty
          rw [empty] at named
          cases named
        have clear := slash_not_mem_of_isRepository named
        rw [toList_text_of_external elsewhere kind]
        split
        · rename_i short
          rw [List.append_nil, read_at_of_slash_not_mem clear, readRepository_toList named]
          cases label
          simp_all [Except.map]
        · rw [read_at_append clear (ne_nil_of_isRepository named), readRepository_toList named]
          exact readPath_pathText wellFormed kind

/-! ### Canonical forms -/

/-- The text that a label is written as after it was read. -/
def canonical (input : String) : Except Malformed String :=
  (parse input).map text

theorem canonical_eq_ok_iff {written : String} :
    canonical input = .ok written ↔ ∃ label, parse input = .ok label ∧ label.text = written := by
  unfold canonical
  cases parse input with
  | error fault => simp [Except.map]
  | ok label => simp [Except.map]

/-- The labels that texts are read as are the well-formed ones. -/
theorem exists_parse_iff_wellFormed : (∃ input, parse input = .ok label) ↔ label.WellFormed := by
  constructor
  · rintro ⟨input, accepted⟩
    exact wellFormed_of_parse accepted
  · intro wellFormed
    exact ⟨label.text, parse_text wellFormed⟩

/-- No two labels that are well formed share a text, since it is read as either of them. -/
theorem WellFormed.eq_of_text_eq {other : Label} (wellFormed : label.WellFormed)
    (otherWellFormed : other.WellFormed) (same : label.text = other.text) : label = other := by
  have read : parse label.text = .ok label := parse_text wellFormed
  rw [same, parse_text otherWellFormed] at read
  exact (Except.ok.inj read).symm

/-- The text of a label that was read from any spelling reads as that label again.  So no two labels
that can be read have one text, writing what was read settles on one spelling, and the labels that can
be read are all that are made of well-formed parts. -/
theorem reading_recovers_label :
    (∀ {input : String} {label : Label}, parse input = .ok label →
      parse label.text = .ok label) ∧
    (∀ {one other : Label}, (∃ input, parse input = .ok one) → (∃ input, parse input = .ok other) →
      one.text = other.text → one = other) ∧
    (∀ {input written : String}, canonical input = .ok written →
      canonical written = .ok written) ∧
    ∀ {label : Label}, (∃ input, parse input = .ok label) ↔ label.WellFormed := by
  refine ⟨?_, ?_, ?_, exists_parse_iff_wellFormed⟩
  · intro input label accepted
    exact parse_text (wellFormed_of_parse accepted)
  · intro one other oneRead otherRead
    have oneWellFormed := exists_parse_iff_wellFormed.1 oneRead
    exact oneWellFormed.eq_of_text_eq (exists_parse_iff_wellFormed.1 otherRead)
  · intro input written accepted
    obtain ⟨label, found, rfl⟩ := canonical_eq_ok_iff.1 accepted
    exact canonical_eq_ok_iff.2 ⟨label, parse_text (wellFormed_of_parse found), rfl⟩

/-- A repository with two marks and a target that goes without saying, a repository alone, and a bare
target with marks in it. -/
theorem reading_recovers_spellings :
    (canonical "@@rules~1//a/b:b" = .ok "@rules~1//a/b" ∧
      canonical "@rules~1//a/b" = .ok "@rules~1//a/b") ∧
    (parse "@tools//:tools" = .ok ⟨"tools", "", "tools", false⟩ ∧
      parse "@tools" = .ok ⟨"tools", "", "tools", false⟩) ∧
    parse "lib//@x/y" = .ok ⟨"", "", "lib//@x/y", true⟩ ∧
      parse ":lib//@x/y" = .ok ⟨"", "", "lib//@x/y", true⟩ := by
  have marked : canonical "@@rules~1//a/b:b" = .ok "@rules~1//a/b" := rfl
  have alone : parse "@tools//:tools" = .ok ⟨"tools", "", "tools", false⟩ := rfl
  have bare : parse "lib//@x/y" = .ok ⟨"", "", "lib//@x/y", true⟩ := rfl
  obtain ⟨recovers, _, settles, _⟩ := reading_recovers_label
  have aloneText : Label.text ⟨"tools", "", "tools", false⟩ = "@tools" := by decide
  have bareText : Label.text ⟨"", "", "lib//@x/y", true⟩ = ":lib//@x/y" := by decide
  exact ⟨⟨marked, settles marked⟩, ⟨alone, aloneText ▸ recovers alone⟩, bare,
    bareText ▸ recovers bare⟩

end BuildDeps.Label
