import BuildDeps.Config.Load
import BuildDeps.Proofs.Maven.Exclusion

/-!
What a configuration excludes.

The excluded texts are those of the labels that the settings file names, by label or by artifact, and
nothing else adds to them.  They are written down only once the name of the repository of external
artifacts stands, so that they are texts of the labels that artifacts are answered with.
-/

namespace BuildDeps.Config

variable {config next : Config} {file : File} {environment : Environment} {directory : String}
  {artifact text : String} {artifacts : List String}

/-- The settings file that is read, by its contents: the given one, or else the one in the working
directory if it is there, or else none, which sets nothing. -/
inductive Consults (files : FileAccess Id) : Option String → File → Prop
  | given {path text : String} {file : File} (readable : files.readText path = Except.ok text)
      (parsed : File.parse text = .ok file) : Consults files (some path) file
  | standing {text : String} {file : File} (there : files.isFile defaultPath = true)
      (readable : files.readText defaultPath = Except.ok text)
      (parsed : File.parse text = .ok file) : Consults files none file
  | nothing (missing : files.isFile defaultPath = false) : Consults files none {}

/-! ### What a step adds -/

/-- A text that does not look like an absolute label is an artifact, and names the label of that
artifact in the Maven repository. -/
theorem exclusionLabel_of_artifact (form : Label.looksAbsolute artifact = false) :
    config.exclusionLabel artifact = .ok (Maven.artifactLabel config.mavenRepository artifact) := by
  simp [exclusionLabel, form]

/-- A text that looks like an absolute label is that label, if it can be read. -/
theorem exclusionLabel_of_label {label : Label} (form : Label.looksAbsolute text = true)
    (read : Label.parse text = .ok label) : config.exclusionLabel text = .ok label := by
  simp [exclusionLabel, form, read, Except.mapError]

/-- What an exclusion stands for is a matter of the repository of external artifacts alone. -/
theorem exclusionLabel_congr (same : config.mavenRepository = next.mavenRepository) :
    config.exclusionLabel artifact = next.exclusionLabel artifact := by
  rw [exclusionLabel, exclusionLabel, same]

/-- Settings exclude a label by its text. -/
theorem exclude_of_exclusionLabel {label : Label} (named : config.exclusionLabel artifact = .ok label) :
    config.exclude artifact =
      .ok { config with excluded := Ordered.insert label.text config.excluded } := by
  rw [exclude, named]
  rfl

/-- Settings only exclude what has a label, and nothing else in them changes. -/
theorem exists_exclusionLabel_of_exclude (succeeds : config.exclude artifact = .ok next) :
    ∃ label, config.exclusionLabel artifact = .ok label ∧
      next = { config with excluded := Ordered.insert label.text config.excluded } := by
  cases named : config.exclusionLabel artifact with
  | error fault =>
      rw [exclude, named] at succeeds
      cases succeeds
  | ok label =>
      rw [exclude_of_exclusionLabel named] at succeeds
      exact ⟨label, rfl, (Except.ok.inj succeeds).symm⟩

/-- Excluding artifacts adds the texts of their labels and changes nothing else. -/
theorem excludeAll_spec (succeeds : config.excludeAll artifacts = .ok next) :
    next = { config with excluded := next.excluded } ∧
    ∀ text, text ∈ next.excluded ↔ text ∈ config.excluded ∨ ∃ artifact ∈ artifacts,
      ∃ label, config.exclusionLabel artifact = .ok label ∧ label.text = text := by
  induction artifacts generalizing config with
  | nil =>
      cases succeeds
      simp
  | cons first rest ih =>
      rw [excludeAll, List.foldlM_cons] at succeeds
      obtain ⟨middle, stepped, continued⟩ := exists_of_bind_eq_ok succeeds
      obtain ⟨label, named, rfl⟩ := exists_exclusionLabel_of_exclude stepped
      obtain ⟨kept, texts⟩ := ih continued
      refine ⟨kept, fun text => ?_⟩
      have same : ∀ artifact, Config.exclusionLabel
          { config with excluded := Ordered.insert label.text config.excluded } artifact =
            config.exclusionLabel artifact := fun _ => rfl
      simp only [texts, same, Ordered.mem_insert, List.exists_mem_cons_iff, named,
        Except.ok.injEq, exists_eq_left', or_assoc, eq_comm (a := text)]
      exact or_left_comm

/-- Adding overrides leaves all other settings as they are. -/
theorem addOverrides_spec {overrides : List (String × String)}
    (succeeds : config.addOverrides overrides = .ok next) :
    next = { config with overrides := next.overrides } := by
  refine foldlM_induction (motive := fun state => state = { config with overrides := state.overrides })
    rfl ?_ succeeds
  intro state last override kept added
  obtain ⟨label, _, result⟩ := exists_of_bind_eq_ok added
  cases result
  rw [kept]

/-- The repository of external artifacts is that of the environment, else that of the file, else
`maven`; and the excluded texts are those of the labels that the file names under it. -/
theorem excluded_of_assemble (succeeds : assemble file directory environment = .ok config) :
    config.mavenRepository = (environment.mavenRepository.or file.mavenRepository).getD "maven" ∧
    ∀ text, text ∈ config.excluded ↔ ∃ artifact ∈ file.exclusions,
      ∃ label, config.exclusionLabel artifact = .ok label ∧ label.text = text := by
  obtain ⟨filed, applied, excluded⟩ := exists_of_bind_eq_ok succeeds
  obtain ⟨kept, texts⟩ := excludeAll_spec excluded
  have settings := addOverrides_spec applied
  have repository : filed.mavenRepository = file.mavenRepository.getD "maven" := by
    rw [settings]
  have none : filed.excluded = [] := by
    rw [settings]
  have final : config.mavenRepository = environment.mavenRepository.getD filed.mavenRepository := by
    rw [kept]
    rfl
  constructor
  · rw [final, repository, Option.getD_or]
  · intro text
    rw [texts]
    show text ∈ filed.excluded ∨ _ ↔ _
    have labels : ∀ artifact, (filed.applyEnvironment environment).exclusionLabel artifact =
        config.exclusionLabel artifact := fun _ => exclusionLabel_congr final.symm
    simp only [none, List.not_mem_nil, false_or, labels]

/-- Settings that are loaded from a file are put together from what the file has and the environment,
with paths taken from the directory of the file. -/
theorem exists_assemble_of_loadFile {files : FileAccess Id} {path : String}
    (loaded : loadFile files path environment = Except.ok config) :
    ∃ text file, files.readText path = Except.ok text ∧ File.parse text = .ok file ∧
      assemble file (Path.parent path) environment = .ok config := by
  simp only [loadFile, bind, pure] at loaded
  split at loaded
  · cases loaded
  · rename_i text readable
    obtain ⟨file, parsed, assembled⟩ := exists_of_bind_eq_ok loaded
    exact ⟨text, file, readable, parsed, assembled⟩

/-- Settings that are loaded are put together from the file that is read. -/
theorem exists_assemble_of_load {files : FileAccess Id} {path : Option String}
    (loaded : load files path environment = Except.ok config) :
    ∃ file directory, Consults files path file ∧
      assemble file directory environment = .ok config := by
  cases path with
  | some path =>
      obtain ⟨text, file, readable, parsed, assembled⟩ := exists_assemble_of_loadFile loaded
      exact ⟨file, _, .given readable parsed, assembled⟩
  | none =>
      cases there : files.isFile defaultPath with
      | true =>
          simp only [load, bind, there, if_true] at loaded
          obtain ⟨text, file, readable, parsed, assembled⟩ := exists_assemble_of_loadFile loaded
          exact ⟨file, _, .standing there readable parsed, assembled⟩
      | false =>
          simp only [load, bind, there, Bool.false_eq_true, if_false] at loaded
          exact ⟨{}, "", .nothing there, loaded⟩

/-- Exclusions are effective however they are written and wherever the repository of external artifacts
comes from: an artifact that is excluded by a settings file is not answered with under the
configuration that is loaded.  An artifact text and a label that reads as that artifact's label exclude
the same.  And further exclusions leave a package without an artifact as it is, and of a package with
one they leave that one or none. -/
theorem exclusions_are_effective :
    (∀ (files : FileAccess Id) (path : Option String) (variableOf : String → Option String)
      (config : Config),
      load files path (.ofVariables variableOf) = Except.ok config →
      ∃ file, Consults files path file ∧
        config.mavenRepository = (((variableOf "JVMDEPS_MAVEN_REPOSITORY").filter (· ≠ "")).or
          file.mavenRepository).getD "maven" ∧
        ∀ artifact ∈ file.exclusions, Label.looksAbsolute artifact = false →
          ∀ (index : Maven.ArtifactIndex) (package : JvmPackage),
            let answer := index.resolve package config.excluded config.mavenRepository
            let label := Maven.artifactLabel config.mavenRepository artifact
            answer ≠ .ok label ∧
              ∀ listed, answer = .error (.ambiguous package listed) → label ∉ listed) ∧
    (∀ (config : Config) (artifact spelling : String), Label.looksAbsolute artifact = false →
      Label.looksAbsolute spelling = true →
      Label.parse spelling = .ok (Maven.artifactLabel config.mavenRepository artifact) →
      config.exclude spelling = config.exclude artifact ∧
      config.exclude artifact = .ok { config with
        excluded := Ordered.insert (Maven.artifactLabel config.mavenRepository artifact).text
          config.excluded }) ∧
    ∀ (index : Maven.ArtifactIndex) (package : JvmPackage) (excluded larger : List String)
      (repository : String), (∀ text ∈ excluded, text ∈ larger) →
      (index.resolve package excluded repository = .error (.unprovided package) →
        index.resolve package larger repository = .error (.unprovided package)) ∧
      ∀ label, index.resolve package excluded repository = .ok label →
        index.resolve package larger repository = .ok label ∨
          index.resolve package larger repository = .error (.unprovided package) := by
  refine ⟨?_, ?_, ?_⟩
  · intro files path variableOf config loaded
    obtain ⟨file, directory, consults, assembled⟩ := exists_assemble_of_load loaded
    obtain ⟨repository, texts⟩ := excluded_of_assemble assembled
    refine ⟨file, consults, repository, ?_⟩
    intro artifact member form index package
    have excluded : (Maven.artifactLabel config.mavenRepository artifact).text ∈ config.excluded :=
      (texts _).2 ⟨artifact, member, _, exclusionLabel_of_artifact form, rfl⟩
    exact Maven.ArtifactIndex.resolve_of_mem_excluded excluded
  · intro config artifact spelling artifactForm labelForm read
    have excluded : config.exclude artifact = _ :=
      exclude_of_exclusionLabel (exclusionLabel_of_artifact artifactForm)
    have spelled : config.exclude spelling = _ :=
      exclude_of_exclusionLabel (exclusionLabel_of_label labelForm read)
    exact ⟨spelled.trans excluded.symm, excluded⟩
  · intro index package excluded larger repository includes
    exact Maven.ArtifactIndex.resolve_of_includes includes

end BuildDeps.Config

/-! ### A repository named by the environment -/

namespace BuildDeps.Config.NamedOutside

def text : String :=
  "maven_repository_name = \"deps\"\nexclude_artifacts = [\"org.split:left\"]"

/-- A working directory with a settings file. -/
def files : FileAccess Id where
  readText _ := .ok text
  isFile _ := true

def file : File where
  mavenRepository := some "deps"
  exclusions := ["org.split:left"]

def variableOf (name : String) : Option String :=
  if name = "JVMDEPS_MAVEN_REPOSITORY" then some "ext" else none

/-- The repository is the one that the environment names, and so is that of the excluded label. -/
def config : Config where
  mavenRepository := "ext"
  excluded := ["@ext//:org_split_left"]

def split : JvmPackage := ⟨"split"⟩

/-- An index in which the excluded artifact provides a package. -/
def index : Maven.ArtifactIndex := Maven.ArtifactIndex.empty.add split "org.split:left"

theorem parsed : File.parse text = .ok file := by decide +kernel

theorem assembled : assemble file "" (.ofVariables variableOf) = .ok config := by decide +kernel

theorem loaded : load files none (.ofVariables variableOf) = Except.ok config := by
  have parent : Path.parent defaultPath = "" := by decide +kernel
  show (File.parse text >>= fun file =>
    assemble file (Path.parent defaultPath) (.ofVariables variableOf)) = Except.ok config
  rw [parsed, parent]
  exact assembled

/-- Where no path is given, the only file that is consulted is the one in its usual place. -/
theorem eq_file_of_consults {found : File} (consults : Consults files none found) : found = file := by
  cases consults with
  | standing there readable read =>
      cases readable
      exact Except.ok.inj (read.symm.trans parsed)
  | nothing missing => cases missing

/-- The package is provided where nothing is excluded, and no longer where the settings apply; and a
label that is written out excludes the same as its artifact. -/
theorem left_is_excluded_and_right_spelled_out :
    load files none (.ofVariables variableOf) = Except.ok config ∧
    index.resolve split [] "ext" = .ok ⟨"ext", "", "org_split_left", false⟩ ∧
    index.resolve split config.excluded "ext" = .error (.unprovided split) ∧
    Label.parse "@@ext//:org_split_right" = .ok (Maven.artifactLabel "ext" "org.split:right") ∧
    config.exclude "@@ext//:org_split_right" = config.exclude "org.split:right" := by
  obtain ⟨onLoad, spelled, larger⟩ := exclusions_are_effective
  have provided : index.resolve split [] "ext" = .ok ⟨"ext", "", "org_split_left", false⟩ := by
    decide +kernel
  have read : Label.parse "@@ext//:org_split_right" =
      .ok (Maven.artifactLabel "ext" "org.split:right") := by decide +kernel
  refine ⟨loaded, provided, ?_, read, ?_⟩
  · obtain ⟨found, consults, -, apart⟩ := onLoad files none variableOf config loaded
    cases eq_file_of_consults consults
    have unanswered := (apart "org.split:left" (by decide) (by decide +kernel) index split).1
    have answers := (larger index split [] config.excluded "ext" nofun).2 _ provided
    exact answers.resolve_left unanswered
  · exact (spelled config "org.split:right" _ (by decide +kernel) (by decide +kernel) read).1

end BuildDeps.Config.NamedOutside
