import BuildDeps.Proofs.Label.RoundTrip
import BuildDeps.Text.Fields

/-!
The grammar of labels.

A label is spelled as a repository alone, as a package with or without a target, or as a target alone.
The reader cuts a text at its first `//` and at the first `:` after that.  None of these marks can stand
in the part before it, so that a text which is spelled by the grammar is cut where its parts meet, and a
text which is cut anywhere else has a part that the reader refuses.  Main statement: exactly the spelled
texts are read, each as the label that it spells.
-/

namespace BuildDeps.Label

variable {c : Char} {chars path : List Char} {input mark name text repository : String}
  {directories : List String} {label : Label}

/-! ### The grammar -/

/-- The name of a repository: ASCII letters and digits, `_`, `.`, `~`, `+` and `-`. -/
structure RepositoryName (name : String) : Prop where
  nonempty : name ≠ ""
  chars : ∀ c ∈ name.toList, c.isAlphanum = true ∨ c ∈ ['_', '.', '~', '+', '-']

/-- The name of a directory: anything without `:`, `@`, `/` and blanks. -/
structure DirectoryName (name : String) : Prop where
  nonempty : name ≠ ""
  chars : ∀ c ∈ name.toList, c ∉ [':', '@', '/'] ∧ Text.isBlank c = false

/-- The name of a target. -/
structure TargetName (name : String) : Prop where
  nonempty : name ≠ ""
  chars : ∀ c ∈ name.toList, isTargetChar c = true

/-- How a repository is written: with one mark or with two. -/
inductive RepositoryMark : String → String → Prop where
  | apparent {name : String} (named : RepositoryName name) : RepositoryMark ("@" ++ name) name
  | canonical {name : String} (named : RepositoryName name) : RepositoryMark ("@@" ++ name) name

/-- What stands before the `//` of a label: a repository, or nothing for the current one. -/
inductive Location : String → String → Prop where
  | current : Location "" ""
  | external {mark name : String} (marked : RepositoryMark mark name) : Location mark name

/-- The texts that are labels, with the labels that they are. -/
inductive Spells : String → Label → Prop where
  /-- A repository alone is the target of its own name. -/
  | repository {mark name : String} (marked : RepositoryMark mark name) :
      Spells mark ⟨name, "", name, false⟩
  /-- A target of a package. -/
  | target {location repository target : String} {directories : List String}
      (located : Location location repository)
      (package : ∀ directory ∈ directories, DirectoryName directory) (named : TargetName target) :
      Spells (location ++ "//" ++ Text.joinFields '/' directories ++ ":" ++ target)
        ⟨repository, Text.joinFields '/' directories, target, false⟩
  /-- A package alone is its target that is named as its last directory. -/
  | package {location repository last : String} {directories : List String}
      (located : Location location repository)
      (package : ∀ directory ∈ directories ++ [last], DirectoryName directory)
      (named : TargetName last) :
      Spells (location ++ "//" ++ Text.joinFields '/' (directories ++ [last]))
        ⟨repository, Text.joinFields '/' (directories ++ [last]), last, false⟩
  /-- A target of the package that the label is written in. -/
  | relative {target : String} (named : TargetName target) :
      Spells (":" ++ target) ⟨"", "", target, true⟩
  /-- Such a target without its `:`, which must not look like one of the other forms. -/
  | bare {target : String} (named : TargetName target) (unmarked : ¬ ['@'] <+: target.toList)
      (unrooted : ¬ ['/', '/'] <+: target.toList) :
      Spells target ⟨"", "", target, true⟩

/-! ### Names -/

/-- The test of repositories is that of their names. -/
theorem isRepository_iff : isRepository name.toList = true ↔ RepositoryName name := by
  simp only [isRepository, isRepositoryChar, Bool.and_eq_true, Bool.not_eq_true',
    List.isEmpty_eq_false_iff, ne_eq, String.toList_eq_nil_iff, List.all_eq_true, Bool.or_eq_true,
    List.contains_iff_mem]
  exact ⟨fun named => ⟨named.1, named.2⟩, fun named => ⟨named.nonempty, named.chars⟩⟩

/-- The test of targets is that of their names. -/
theorem isTarget_iff : isTarget name.toList = true ↔ TargetName name := by
  simp only [isTarget, Bool.and_eq_true, Bool.not_eq_true', List.isEmpty_eq_false_iff, ne_eq,
    String.toList_eq_nil_iff, List.all_eq_true]
  exact ⟨fun named => ⟨named.1, named.2⟩, fun named => ⟨named.nonempty, named.chars⟩⟩

/-- What is asked of each directory of a package is that it has a name of its kind. -/
theorem isDirectory_iff :
    (!name.toList.isEmpty && name.toList.all isPackageChar) = true ↔ DirectoryName name := by
  simp only [isPackageChar, Bool.and_eq_true, Bool.not_eq_true', List.isEmpty_eq_false_iff, ne_eq,
    String.toList_eq_nil_iff, List.all_eq_true, Bool.or_eq_false_iff, List.contains_eq_mem,
    decide_eq_false_iff_not]
  exact ⟨fun named => ⟨named.1, named.2⟩, fun named => ⟨named.nonempty, named.chars⟩⟩

/-- Slashes stand between directories, and never in them. -/
theorem DirectoryName.slash_not_mem (named : DirectoryName name) : '/' ∉ name.toList := by
  intro member
  exact (named.chars _ member).1 (by simp)

theorem TargetName.colon_not_mem (named : TargetName name) : ':' ∉ name.toList := by
  intro member
  exact absurd (named.chars _ member) (by decide)

/-- A package path is empty, or all the fields between its slashes are directories. -/
theorem isPackage_iff_fields :
    isPackage text.toList = true ↔
      text = "" ∨ ∀ directory ∈ Text.fields '/' text, DirectoryName directory := by
  simp only [isPackage, Bool.or_eq_true, List.isEmpty_iff, String.toList_eq_nil_iff,
    List.all_eq_true, Text.fields, List.forall_mem_map, ← isDirectory_iff, String.toList_ofList]

/-- A package path is made of any number of directories. -/
theorem isPackage_iff : isPackage text.toList = true ↔
    ∃ directories, (∀ directory ∈ directories, DirectoryName directory) ∧
      Text.joinFields '/' directories = text := by
  rw [isPackage_iff_fields]
  constructor
  · rintro (rfl | named)
    · exact ⟨[], List.forall_mem_nil _, rfl⟩
    · exact ⟨_, named, Text.joinFields_fields _ _⟩
  · rintro ⟨directories, named, rfl⟩
    by_cases top : directories = []
    · subst top
      exact Or.inl rfl
    · rw [Text.fields_joinFields top fun directory member => (named directory member).slash_not_mem]
      exact Or.inr named

/-! ### Where the reader cuts -/

/-- The reader finds a `//` that is there. -/
theorem append_of_splitAtSlashes? {found : List Char × List Char}
    (split : splitAtSlashes? chars = some found) : chars = found.1 ++ '/' :: '/' :: found.2 := by
  fun_induction splitAtSlashes? chars generalizing found with
  | case1 path =>
      cases split
      rfl
  | case2 first rest other ih =>
      obtain ⟨later, splitLater, rfl⟩ := Option.map_eq_some_iff.1 split
      rw [ih splitLater]
      rfl
  | case3 => cases split

/-- One more mark in front of a repository makes no difference. -/
theorem readRepository_eq_ok_iff : readRepository chars = .ok name ↔
    RepositoryName name ∧ (chars = name.toList ∨ chars = '@' :: name.toList) := by
  rw [← isRepository_iff]
  constructor
  · intro accepted
    refine ⟨readRepository_eq_ok accepted, ?_⟩
    unfold readRepository at accepted
    split at accepted
    · obtain ⟨_, rfl⟩ := of_ite_eq_ok accepted
      exact Or.inr (by rw [String.toList_ofList])
    · obtain ⟨_, rfl⟩ := of_ite_eq_ok accepted
      exact Or.inl (by rw [String.toList_ofList])
  · rintro ⟨named, rfl | rfl⟩
    · exact readRepository_toList named
    · have read : readRepository ('@' :: name.toList) = .ok (String.ofList name.toList) := if_pos named
      rw [read, String.ofList_toList]

/-- Exactly the names of targets are read as targets, each as it stands. -/
theorem readTarget_eq_ok_iff :
    readTarget chars = .ok name ↔ TargetName name ∧ chars = name.toList := by
  rw [← isTarget_iff]
  constructor
  · intro accepted
    obtain ⟨_, rfl⟩ := of_ite_eq_ok accepted
    exact ⟨readTarget_eq_ok accepted, (String.toList_ofList).symm⟩
  · rintro ⟨named, rfl⟩
    exact readTarget_toList named

/-- What stands after a `//` is a package, and a target unless the package names it. -/
theorem readPath_eq_ok_iff : readPath repository path = .ok label ↔
    (label.repository = repository ∧ label.relative = false) ∧
      isPackage label.package.toList = true ∧ TargetName label.target ∧
      (path = label.package.toList ++ ':' :: label.target.toList ∨
        path = label.package.toList ∧ Text.lastField '/' label.package = label.target) := by
  constructor
  · intro accepted
    unfold readPath at accepted
    dsimp only at accepted
    split at accepted
    · rename_i package
      have whole := List.takeWhile_append_dropWhile (p := fun c => decide (c ≠ ':')) (l := path)
      split at accepted
      · rename_i unnamed
        obtain ⟨target, found, same⟩ := exists_of_bind_eq_ok accepted
        cases same
        obtain ⟨named, last⟩ := readTarget_eq_ok_iff.1 found
        rw [unnamed, List.append_nil] at whole
        refine ⟨⟨rfl, rfl⟩, by rwa [String.toList_ofList], named, Or.inr ⟨?_, ?_⟩⟩
        · rw [String.toList_ofList, whole]
        · rw [← String.toList_inj, toList_lastField, String.toList_ofList, last]
      · cases accepted
      · rename_i first name _ rest
        obtain ⟨target, found, same⟩ := exists_of_bind_eq_ok accepted
        cases same
        obtain ⟨named, rfl⟩ := readTarget_eq_ok_iff.1 found
        have stop := List.head?_dropWhile_not (fun c => decide (c ≠ ':')) path
        rw [rest] at stop
        have colon : first = ':' := by simpa using stop
        rw [rest, colon] at whole
        refine ⟨⟨rfl, rfl⟩, by rwa [String.toList_ofList], named, Or.inl ?_⟩
        rw [String.toList_ofList, whole]
    · cases accepted
  · rintro ⟨⟨rfl, absolute⟩, package, named, rfl | ⟨rfl, last⟩⟩
    · exact readPath_of_target package (isTarget_iff.2 named) absolute
    · exact readPath_of_package package (isTarget_iff.2 named) absolute last

/-- A label without a repository and a package is a target, with or without its `:`. -/
theorem readRelative_eq_ok_iff : readRelative chars = .ok label ↔
    label = ⟨"", "", label.target, true⟩ ∧ TargetName label.target ∧
      (chars = ':' :: label.target.toList ∨ chars = label.target.toList) := by
  constructor
  · intro accepted
    unfold readRelative at accepted
    split at accepted
    · cases accepted
    · obtain ⟨target, found, same⟩ := exists_of_bind_eq_ok accepted
      cases same
      obtain ⟨named, rfl⟩ := readTarget_eq_ok_iff.1 found
      exact ⟨rfl, named, Or.inl rfl⟩
    · obtain ⟨target, found, same⟩ := exists_of_bind_eq_ok accepted
      cases same
      obtain ⟨named, rfl⟩ := readTarget_eq_ok_iff.1 found
      exact ⟨rfl, named, Or.inr rfl⟩
  · rintro ⟨same, named, marked⟩
    have found : readTarget label.target.toList = .ok label.target :=
      readTarget_eq_ok_iff.2 ⟨named, rfl⟩
    rcases marked with rfl | rfl
    · obtain ⟨first, rest, chars⟩ := List.exists_cons_of_ne_nil
        (ne_nil_of_isTarget (isTarget_iff.2 named))
      have read : readRelative (':' :: first :: rest) =
        (readTarget (first :: rest)).map fun target => ⟨"", "", target, true⟩ := rfl
      rw [chars, read, ← chars, found, same]
      rfl
    · unfold readRelative
      split
      · rename_i colon
        exact absurd (colon ▸ List.mem_cons_self) named.colon_not_mem
      · rename_i colon
        exact absurd (colon ▸ List.mem_cons_self) named.colon_not_mem
      · rw [found, same]
        rfl

/-! ### Spelled texts -/

/-- A marked repository is read by what stands after its first mark, where no `//` is found. -/
theorem repositoryMark_iff : RepositoryMark mark name ↔ ∃ chars, mark.toList = '@' :: chars ∧
    readRepository chars = .ok name := by
  simp only [readRepository_eq_ok_iff]
  constructor
  · rintro (named | named)
    · exact ⟨_, String.toList_append, named, Or.inl rfl⟩
    · exact ⟨_, String.toList_append, named, Or.inr rfl⟩
  · rintro ⟨chars, marked, named, rfl | rfl⟩
    · have same : mark = "@" ++ name := by
        apply String.toList_inj.1
        rw [marked, String.toList_append]
        rfl
      exact same ▸ .apparent named
    · have same : mark = "@@" ++ name := by
        apply String.toList_inj.1
        rw [marked, String.toList_append]
        rfl
      exact same ▸ .canonical named

/-- What is read as a repository has no slash, so that it ends before the `//` of its label. -/
theorem slash_not_mem_of_readRepository (accepted : readRepository chars = .ok name) :
    '/' ∉ chars := by
  obtain ⟨named, rfl | rfl⟩ := readRepository_eq_ok_iff.1 accepted
  · exact slash_not_mem_of_isRepository (isRepository_iff.2 named)
  · simpa using slash_not_mem_of_isRepository (isRepository_iff.2 named)

/-- Wherever a label is located, what stands after its `//` is read by itself. -/
theorem read_of_location (located : Location mark repository) (path : List Char) :
    read (mark.toList ++ '/' :: '/' :: path) = readPath repository path := by
  cases located with
  | current => rfl
  | external marked =>
      obtain ⟨chars, begins, accepted⟩ := repositoryMark_iff.1 marked
      have some : chars ≠ [] := by
        rintro rfl
        cases accepted
      rw [begins, List.cons_append, read_at_append (slash_not_mem_of_readRepository accepted) some,
        accepted]
      rfl

/-- A text that begins neither with `@` nor with `//` is left to the reader of relative labels. -/
theorem read_of_unmarked (unmarked : ¬ ['@'] <+: chars) (unrooted : ¬ ['/', '/'] <+: chars) :
    read chars = readRelative chars := by
  unfold read
  split
  · exact absurd ⟨_, rfl⟩ unmarked
  · exact absurd ⟨_, rfl⟩ unrooted
  · rfl

/-- From the grammar to the reader: each way of spelling a label is cut where its parts meet. -/
theorem read_of_spells (spelled : Spells input label) : read input.toList = .ok label := by
  cases spelled with
  | repository marked =>
      obtain ⟨chars, begins, accepted⟩ := repositoryMark_iff.1 marked
      rw [begins, read_at_of_slash_not_mem (slash_not_mem_of_readRepository accepted), accepted]
      rfl
  | target located package named =>
      rename_i location repository target directories
      have whole : (location ++ "//" ++ Text.joinFields '/' directories ++ ":" ++ target).toList =
          location.toList ++ '/' :: '/' :: ((Text.joinFields '/' directories).toList ++
            ':' :: target.toList) := by
        simp
      rw [whole, read_of_location located, readPath_eq_ok_iff]
      exact ⟨⟨rfl, rfl⟩, isPackage_iff.2 ⟨_, package, rfl⟩, named, Or.inl rfl⟩
  | package located package named =>
      rename_i location repository last directories
      have whole : (location ++ "//" ++ Text.joinFields '/' (directories ++ [last])).toList =
          location.toList ++ '/' :: '/' :: (Text.joinFields '/' (directories ++ [last])).toList := by
        simp
      rw [whole, read_of_location located, readPath_eq_ok_iff]
      refine ⟨⟨rfl, rfl⟩, isPackage_iff.2 ⟨_, package, rfl⟩, named, Or.inr ⟨rfl, ?_⟩⟩
      exact Text.lastField_joinFields fun other member => (package other member).slash_not_mem
  | relative named =>
      have whole : ∀ target : String, (":" ++ target).toList = ':' :: target.toList := by simp
      rw [whole, read_of_unmarked (by simp) (by simp)]
      exact readRelative_eq_ok_iff.2 ⟨rfl, named, Or.inl rfl⟩
  | bare named unmarked unrooted =>
      rw [read_of_unmarked unmarked unrooted]
      exact readRelative_eq_ok_iff.2 ⟨rfl, named, Or.inr rfl⟩

/-- What is read after a `//` is spelled wherever the label is located. -/
theorem spells_of_readPath (located : Location mark repository)
    (whole : input.toList = mark.toList ++ '/' :: '/' :: path)
    (accepted : readPath repository path = .ok label) : Spells input label := by
  obtain ⟨⟨rfl, absolute⟩, package, named, written⟩ := readPath_eq_ok_iff.1 accepted
  obtain ⟨repository, package, target, _⟩ := label
  obtain rfl : _ = false := absolute
  obtain ⟨directories, directoryNames, rfl⟩ := isPackage_iff.1 package
  rcases written with rfl | ⟨rfl, last⟩
  · have same : input = mark ++ "//" ++ Text.joinFields '/' directories ++ ":" ++ target := by
      apply String.toList_inj.1
      rw [whole]
      simp
    exact same ▸ .target located directoryNames named
  · rcases List.eq_nil_or_concat' directories with rfl | ⟨front, directory, rfl⟩
    · exact absurd last.symm named.nonempty
    · have slashes : ∀ other ∈ front ++ [directory], '/' ∉ other.toList :=
        fun other member => (directoryNames other member).slash_not_mem
      obtain rfl : directory = target := (Text.lastField_joinFields slashes).symm.trans last
      have same : input = mark ++ "//" ++ Text.joinFields '/' (front ++ [directory]) := by
        apply String.toList_inj.1
        rw [whole]
        simp
      exact same ▸ .package located directoryNames named

/-- From the reader to the grammar: each way in which the reader gets through spells the label that it
returns. -/
theorem spells_of_read (accepted : read input.toList = .ok label) : Spells input label := by
  generalize written : input.toList = chars at accepted
  unfold read at accepted
  split at accepted
  · rename_i rest
    split at accepted
    · obtain ⟨name, found, same⟩ := exists_of_bind_eq_ok accepted
      cases same
      exact .repository (repositoryMark_iff.2 ⟨rest, written, found⟩)
    · cases accepted
    · rename_i before path _ split
      obtain ⟨name, found, readsPath⟩ := exists_of_bind_eq_ok accepted
      have marked : RepositoryMark (String.ofList ('@' :: before)) name :=
        repositoryMark_iff.2 ⟨before, String.toList_ofList, found⟩
      apply spells_of_readPath (.external marked) _ readsPath
      rw [written, append_of_splitAtSlashes? split, String.toList_ofList]
      rfl
  · exact spells_of_readPath .current written accepted
  · rename_i unmarked unrooted
    obtain ⟨same, named, rfl | rfl⟩ := readRelative_eq_ok_iff.1 accepted
    · have marked : input = ":" ++ label.target := by
        apply String.toList_inj.1
        rw [written, String.toList_append]
        rfl
      rw [marked, same]
      exact .relative named
    · rw [String.toList_inj.1 written, same]
      refine .bare named ?_ ?_
      · rintro ⟨rest, begins⟩
        exact unmarked rest begins.symm
      · rintro ⟨rest, begins⟩
        exact unrooted rest begins.symm

/-- A text is read as a label exactly if it is a spelling of that label.  Any other text is refused, with
the text itself and a fault in it. -/
theorem parse_exact (input : String) :
    (∀ label, parse input = .ok label ↔ Spells input label) ∧
    ((¬ ∃ label, Spells input label) ↔ ∃ fault, parse input = .error ⟨input, fault⟩) := by
  have exact : ∀ label, parse input = .ok label ↔ Spells input label := fun label =>
    ⟨fun accepted => spells_of_read (read_of_parse_eq_ok accepted),
      fun spelled => parse_eq_ok_of_read (read_of_spells spelled)⟩
  refine ⟨exact, ?_⟩
  simp only [← exact]
  rw [parse]
  cases read input.toList with
  | error fault => simp [Except.mapError]
  | ok label => simp [Except.mapError]

/-- A second `//` is part of the package, which it spoils. -/
example : parse "@r//a//b:c" = .error ⟨"@r//a//b:c", .invalidPackage⟩ := rfl

end BuildDeps.Label
