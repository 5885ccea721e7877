import ProjectFiles.Generation.Context
import ProjectFiles.Proofs.Generation.Outputs
import ProjectFiles.Proofs.Options
import ProjectFiles.Proofs.Template.Writing

/-!
# Texts of a model

The texts of a project are all that its author has written in it, paths included.
What the templates show of a project avoids a character when all of its texts do:
its configurations as records, the options chosen in them, and paths seen from
somewhere else.
-/

namespace ProjectFiles

open Text

/-! ## The texts of a model -/

def ProjectReference.texts (reference : ProjectReference) : List String :=
  [reference.projectName, reference.projectFile.text, reference.targetFileName]

def PackageReference.texts (package : PackageReference) : List String :=
  [package.name, package.version]

/-- The texts of a table: what is chosen, and for what. -/
def SortedMap.texts (map : SortedMap String String) : List String :=
  map.entries.flatMap fun entry => [entry.1, entry.2]

namespace Configuration

def texts (configuration : Configuration) : List String :=
  [configuration.name, configuration.platform, configuration.projectName,
    configuration.projectFile.text, configuration.targetPath.text,
    configuration.intermediatePath.text, configuration.targetFileName] ++
  configuration.target.fragments.texts ++ configuration.defines ++
  configuration.dependencies.flatMap (·.texts) ++ configuration.settings.texts ++
  configuration.nugetReferences.flatMap (·.texts)

end Configuration

def AndroidPackage.texts (package : AndroidPackage) : List String :=
  [package.androidManifest.text, package.antBuildXml.text, package.antProjectProperties.text,
    package.antBuildRoot.text] ++ package.appLibProject.toList

def PythonProject.texts (settings : PythonProject) : List String :=
  settings.searchPaths.map (·.text) ++ settings.startupFile.toList.map (·.text) ++
    settings.interpreterVersion.toList

def ProjectKind.texts : ProjectKind → List String
  | .cpp => []
  | .cSharp rootNamespace => [rootNamespace]
  | .python settings => settings.texts
  | .androidPackage package => package.texts

/-- The texts of a project, those of its configurations included. -/
def Project.texts (project : Project) : List String :=
  [project.name, project.sourceRoot.text] ++ project.kind.texts ++
    project.sourceFiles.map (·.text) ++ project.configurations.flatMap (·.texts)

def IncludedProject.texts (included : IncludedProject) : List String :=
  included.project.texts ++ [included.configuration, included.platform]

def SolutionConfiguration.texts (configuration : SolutionConfiguration) : List String :=
  [configuration.name, configuration.platform] ++ configuration.projects.flatMap (·.texts)

def Solution.texts (solution : Solution) : List String :=
  [solution.name, solution.file.text] ++ solution.configurations.flatMap (·.texts)

/-! ## Configurations -/

namespace Configuration

variable {avoided : List Char} {configuration : Configuration}

/-- Whether all texts of a configuration avoid some characters. -/
def Avoids (avoided : List Char) (configuration : Configuration) : Prop :=
  ∀ text ∈ configuration.texts, Text.Avoids avoided text

namespace Avoids

/-- The name and the platform are what templates show of a configuration. -/
theorem fits (avoids : configuration.Avoids avoided) :
    configuration.toValue.Fits avoided (.record ["name", "platform"]) := by
  intro field member
  simp only [List.mem_cons, List.not_mem_nil, or_false] at member
  rcases member with rfl | rfl
  · exact ⟨.text configuration.name, rfl, Value.hasText_text (avoids _ (by simp [texts]))⟩
  · exact ⟨.text configuration.platform, rfl, Value.hasText_text (avoids _ (by simp [texts]))⟩

theorem projectName (avoids : configuration.Avoids avoided) :
    Text.Avoids avoided configuration.projectName :=
  avoids _ (by simp [texts])

theorem targetFileName (avoids : configuration.Avoids avoided) :
    Text.Avoids avoided configuration.targetFileName :=
  avoids _ (by simp [texts])

theorem targetPath (avoids : configuration.Avoids avoided) :
    Text.Avoids avoided configuration.targetPath.text :=
  avoids _ (by simp [texts])

theorem intermediatePath (avoids : configuration.Avoids avoided) :
    Text.Avoids avoided configuration.intermediatePath.text :=
  avoids _ (by simp [texts])

theorem define (avoids : configuration.Avoids avoided) {define : String}
    (member : define ∈ configuration.defines) : Text.Avoids avoided define :=
  avoids _ (by simp [texts, member])

theorem dependency (avoids : configuration.Avoids avoided) {reference : ProjectReference}
    (member : reference ∈ configuration.dependencies) {text : String}
    (isText : text ∈ reference.texts) : Text.Avoids avoided text := by
  apply avoids
  simp only [texts, List.mem_append, List.mem_flatMap]
  exact .inl (.inl (.inr ⟨reference, member, isText⟩))

theorem package (avoids : configuration.Avoids avoided) {reference : PackageReference}
    (member : reference ∈ configuration.nugetReferences) {text : String}
    (isText : text ∈ reference.texts) : Text.Avoids avoided text := by
  apply avoids
  simp only [texts, List.mem_append, List.mem_flatMap]
  exact .inr ⟨reference, member, isText⟩

theorem chosen (avoids : configuration.Avoids avoided) {axis value : String}
    (chosen : value ∈ configuration.chosen? axis) : Text.Avoids avoided value := by
  apply avoids
  obtain ⟨entry, found, rfl⟩ := Option.map_eq_some_iff.1 chosen
  have member : entry ∈ configuration.settings.entries := List.mem_of_find?_eq_some found
  simp only [texts, SortedMap.texts, List.mem_append, List.mem_flatMap]
  exact .inl (.inr ⟨entry, member, by simp⟩)

theorem settingOrOmit (avoids : configuration.Avoids avoided) (within : avoided ⊆ separators)
    (axis : String) : (configuration.settingOrOmit axis).HasText avoided :=
  Value.hasText_ofText? within fun _ isChosen => avoids.chosen isChosen

end Avoids

end Configuration

namespace Project

variable {configuration : Configuration}

/-- A configuration is put into one group, and nothing else is. -/
theorem mem_addToGroup {added : Configuration} {groups : List (Path × List Configuration)}
    {group : Path × List Configuration} (isGroup : group ∈ addToGroup added groups)
    (member : configuration ∈ group.2) :
    configuration = added ∨ ∃ older ∈ groups, configuration ∈ older.2 := by
  induction groups with
  | nil =>
      rw [List.mem_singleton.1 isGroup, List.mem_singleton] at member
      exact .inl member
  | cons first rest ih =>
      obtain ⟨file, members⟩ := first
      unfold addToGroup at isGroup
      split at isGroup
      · rcases List.mem_cons.1 isGroup with rfl | inRest
        · rcases List.mem_append.1 member with older | isNew
          · exact .inr ⟨_, List.mem_cons_self, older⟩
          · exact .inl (List.mem_singleton.1 isNew)
        · exact .inr ⟨group, List.mem_cons_of_mem _ inRest, member⟩
      · rcases List.mem_cons.1 isGroup with rfl | inRest
        · exact .inr ⟨_, List.mem_cons_self, member⟩
        · rcases ih inRest with isNew | ⟨older, isOlder, isMember⟩
          · exact .inl isNew
          · exact .inr ⟨older, List.mem_cons_of_mem _ isOlder, isMember⟩

theorem mem_foldl_addToGroup {configurations : List Configuration}
    {groups : List (Path × List Configuration)} {group : Path × List Configuration}
    (isGroup : group ∈ configurations.foldl
      (fun groups configuration => addToGroup configuration groups) groups)
    (member : configuration ∈ group.2) :
    configuration ∈ configurations ∨ ∃ older ∈ groups, configuration ∈ older.2 := by
  induction configurations generalizing groups with
  | nil => exact .inr ⟨_, isGroup, member⟩
  | cons first rest ih =>
      rcases ih isGroup with inRest | ⟨older, isOlder, isMember⟩
      · exact .inl (List.mem_cons_of_mem _ inRest)
      · rcases mem_addToGroup isOlder isMember with rfl | found
        · exact .inl List.mem_cons_self
        · exact .inr found

/-- The configurations of a file are the project's. -/
theorem mem_configurations_of_group {project : Project} {group : Path × List Configuration}
    (isGroup : group ∈ project.configurationsByFile) (member : configuration ∈ group.2) :
    configuration ∈ project.configurations := by
  rcases mem_foldl_addToGroup isGroup member with own | ⟨_, inNothing, _⟩
  · exact own
  · cases inNothing

theorem avoids_of_mem_configurations {avoided : List Char} {project : Project}
    (avoids : ∀ text ∈ project.texts, Text.Avoids avoided text)
    (member : configuration ∈ project.configurations) : configuration.Avoids avoided := by
  intro text isText
  apply avoids
  simp only [texts, List.mem_append, List.mem_flatMap]
  exact .inr ⟨configuration, member, isText⟩

end Project

/-! ## Contexts -/

namespace GenerationContext

variable {avoided : List Char}

/-- Whether all texts that a context brings together avoid some characters. -/
structure Avoids (avoided : List Char) (context : GenerationContext) : Prop where
  configurations : ∀ configuration ∈ context.configurations, configuration.Avoids avoided
  dependencies : ∀ reference ∈ context.dependencies, ∀ text ∈ reference.texts,
    Text.Avoids avoided text
  project : ∀ text ∈ context.project.texts, Text.Avoids avoided text

theorem mem_distinct {references : List ProjectReference} {reference : ProjectReference}
    (member : reference ∈ ProjectReference.distinct references) : reference ∈ references := by
  unfold ProjectReference.distinct at member
  rcases mem_foldl_unseen
    (fun (seen : List ProjectReference) reference =>
      seen.any fun other => other.sameIdentity reference)
    id member with inNothing | ⟨given, isGiven, rfl⟩
  · cases inNothing
  · exact isGiven

/-- What validation puts together. -/
theorem new_eq_ok {project : Project} {file : Path} {configurations : List Configuration}
    {settings : Settings} {context : GenerationContext}
    (created : GenerationContext.new project file configurations settings = .ok context) :
    context.project = project ∧ context.settings = settings ∧
      ∀ reference ∈ context.dependencies, ∃ configuration ∈ context.configurations,
        reference ∈ configuration.dependencies := by
  unfold GenerationContext.new at created
  cases isSorted : Configuration.sortAndValidate file configurations with
  | error error => rw [isSorted] at created; cases created
  | ok sorted =>
      rw [isSorted] at created
      cases checked : Configuration.checkDependencyConsistency project.name sorted
        settings.dependencyCheck with
      | error error =>
          simp only [checked, bind, Except.bind] at created
          cases created
      | ok found =>
          simp only [checked, bind, Except.bind] at created
          cases sorted with
          | nil => cases created
          | cons first others =>
              cases created
              refine ⟨rfl, rfl, fun reference member => ?_⟩
              have consolidated := mem_distinct (List.mem_of_mem_filter member)
              exact List.mem_flatMap.1 consolidated

/-- The configurations of a file bring their dependencies with them. -/
theorem avoids_of_new {project : Project} {file : Path} {configurations : List Configuration}
    {settings : Settings} {context : GenerationContext}
    (created : GenerationContext.new project file configurations settings = .ok context)
    (avoidsProject : ∀ text ∈ project.texts, Text.Avoids avoided text)
    (avoids : ∀ configuration ∈ configurations, configuration.Avoids avoided) :
    context.Avoids avoided := by
  obtain ⟨isProject, _, isDependency⟩ := new_eq_ok created
  have avoidsConfigurations : ∀ configuration ∈ context.configurations,
      configuration.Avoids avoided :=
    fun configuration member =>
      avoids configuration ((configurations_of_new created).mem_iff.1 member)
  refine ⟨avoidsConfigurations, fun reference member text isText => ?_, isProject ▸ avoidsProject⟩
  obtain ⟨configuration, isConfiguration, isOwn⟩ := isDependency reference member
  exact (avoidsConfigurations configuration isConfiguration).dependency isOwn isText

/-- Validation finds nothing but what contradicts itself or is missing in the model. -/
theorem yields_new {project : Project} {file : Path} {configurations : List Configuration}
    {settings : Settings} (avoidsProject : ∀ text ∈ project.texts, Text.Avoids avoided text)
    (avoids : ∀ configuration ∈ configurations, configuration.Avoids avoided) :
    Yields (fun context => context.Avoids avoided)
      (GenerationContext.new project file configurations settings) := by
  have sorts : Yields (fun _ => True) (Configuration.sortAndValidate file configurations) := by
    unfold Configuration.sortAndValidate
    split
    · exact .error (GenerationError.isMendable_invalidModel _)
    · split
      · exact .error (GenerationError.isMendable_configurationConflict file _)
      · exact .ok trivial
  have checks : ∀ sorted, Yields (fun _ => True)
      (Configuration.checkDependencyConsistency project.name sorted settings.dependencyCheck) := by
    intro sorted
    unfold Configuration.checkDependencyConsistency
    split
    · exact .ok trivial
    · split
      · exact .ok trivial
      · exact .error ⟨rfl, rfl⟩
      · exact .ok trivial
  have validates : Yields (fun _ => True)
      (GenerationContext.new project file configurations settings) := by
    refine sorts.bind fun sorted _ => (checks sorted).bind fun found _ => ?_
    cases sorted with
    | nil => exact .error (GenerationError.isMendable_invalidModel _)
    | cons first others => exact .ok trivial
  cases created : GenerationContext.new project file configurations settings with
  | ok context => exact .ok (avoids_of_new created avoidsProject avoids)
  | error error =>
      rw [created] at validates
      exact .error validates.isMendable_of_error

/-- The options of every configuration, when each configuration has its own. -/
theorem yields_computeOptions {context : GenerationContext}
    {axesFor : Configuration → Except GenerationError (List OptionAxis)} {keys : List String}
    (each : ∀ configuration ∈ context.configurations, Yields (fun axes =>
      Yields (fun options => options.Sets avoided keys)
        (ExplicitOptions.ofAxes configuration axes)) (axesFor configuration)) :
    Yields (fun options => ∀ own ∈ options, own.Sets avoided keys)
      (context.computeOptions axesFor) :=
  Yields.mapM fun configuration member =>
    (each configuration member).bind fun _ computes => computes

namespace Avoids

variable {context : GenerationContext}

theorem first (avoids : context.Avoids avoided) : context.first.Avoids avoided :=
  avoids.configurations _ List.mem_cons_self

/-- Paths look from the generated file as they are. -/
theorem relative (within : avoided ⊆ separators) (context : GenerationContext) {path : Path}
    (avoids : Text.Avoids avoided path.text) : Text.Avoids avoided (context.relative path) :=
  Path.avoids_windowsText within (Path.avoids_relativeTo within context.directory avoids)

theorem sourceRoot (avoids : context.Avoids avoided) :
    Text.Avoids avoided context.project.sourceRoot.text :=
  avoids.project _ (by simp [Project.texts])

theorem kind (avoids : context.Avoids avoided) {text : String}
    (isText : text ∈ context.project.kind.texts) : Text.Avoids avoided text :=
  avoids.project _ (by simp [Project.texts, isText])

end Avoids

/-! ## Source files -/

theorem mem_dropAfter {kept entry : String × String} {entries : List (String × String)}
    (member : entry ∈ dropRepeated.dropAfter kept entries) : entry ∈ entries := by
  induction entries generalizing kept with
  | nil => cases member
  | cons first rest ih =>
      unfold dropRepeated.dropAfter at member
      split at member
      · exact List.mem_cons_of_mem _ (ih member)
      · rcases List.mem_cons.1 member with rfl | inRest
        · exact List.mem_cons_self
        · exact List.mem_cons_of_mem _ (ih inRest)

/-- Every entry stands for a source file of the project. -/
theorem mem_sourceFiles {context : GenerationContext} {entry : String × String}
    (member : entry ∈ context.sourceFiles) :
    ∃ file ∈ context.project.sourceFiles, context.sourceEntry file = entry := by
  have sorted : entry ∈
      (context.project.sourceFiles.map context.sourceEntry).mergeSort includeLE := by
    unfold sourceFiles at member
    cases spelled : (context.project.sourceFiles.map context.sourceEntry).mergeSort includeLE with
    | nil => rw [spelled] at member; cases member
    | cons first rest =>
        rw [spelled] at member
        rcases List.mem_cons.1 member with rfl | inRest
        · exact List.mem_cons_self
        · exact List.mem_cons_of_mem _ (mem_dropAfter inRest)
  exact List.mem_map.1 (List.mem_mergeSort.1 sorted)

theorem Avoids.sourceFile {context : GenerationContext} (avoids : context.Avoids avoided)
    (within : avoided ⊆ separators) {entry : String × String}
    (member : entry ∈ context.sourceFiles) : Text.Avoids avoided entry.1 := by
  obtain ⟨file, isFile, rfl⟩ := mem_sourceFiles member
  have isText : file.text ∈ context.project.texts := by
    simp only [Project.texts, List.mem_append]
    exact .inl (.inr (List.mem_map_of_mem isFile))
  have joined := Path.avoids_join within avoids.sourceRoot (avoids.project _ isText)
  dsimp only [sourceEntry]
  exact Avoids.relative within context joined

end GenerationContext

end ProjectFiles
