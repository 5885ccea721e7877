import ProjectFiles.Format.SolutionFile
import ProjectFiles.Proofs.Model.Texts
import ProjectFiles.Proofs.SortedMap

/-!
# Solution files are always rendered

The templates of solution files keep to what is bound around them.  What can fail is
what the solution itself contradicts: its sections, the projects that it includes
and their identifiers, and project files of no known type.
-/

namespace ProjectFiles

/-- The texts of a configuration are the solution's. -/
theorem Solution.mem_texts {solution : Solution} {configuration : SolutionConfiguration}
    (member : configuration ∈ solution.configurations) {text : String}
    (isText : text ∈ configuration.texts) : text ∈ solution.texts := by
  simp only [Solution.texts, List.mem_append, List.mem_flatMap]
  exact .inr ⟨configuration, member, isText⟩

namespace Format.SolutionFile

open Template Text

/-! ## Scopes -/

/-- What the template of the start of a solution file may refer to. -/
def headerScope : Scope :=
  [("visualStudioVersion", .scalar)]

/-- What the template of a project may refer to. -/
def projectScope : Scope :=
  [("projectTypeGuid", .scalar), ("projectName", .scalar), ("projectFile", .scalar),
    ("projectGuid", .scalar)]

/-- What the template of a configuration may refer to. -/
def configurationScope : Scope :=
  [("configurationName", .scalar), ("category", .scalar)]

/-- What is bound around the lines of a project. -/
def guidScope : Scope :=
  [("projectGuid", .scalar)]

/-- What the templates of an inclusion may refer to. -/
def inclusionScope : Scope :=
  [("solutionConf", .scalar), ("solutionPlatform", .scalar), ("projectConf", .scalar),
    ("projectPlatform", .scalar)] ++ guidScope

theorem header_closes : headerScope.closes header.toList = true := by
  unfold header
  repeat with_reducible refine Scope.closes_unlines_cons (by decide) ?_
  exact Scope.closes_unlines_nil

theorem projectEntry_closes : projectScope.closes projectEntry.toList = true := by
  unfold projectEntry
  repeat with_reducible refine Scope.closes_unlines_cons (by decide) ?_
  exact Scope.closes_unlines_nil

theorem configurationLine_closes : configurationScope.closes configurationLine.toList = true := by
  decide

theorem activeLine_closes : inclusionScope.closes activeLine.toList = true := by
  decide

theorem buildLine_closes : inclusionScope.closes buildLine.toList = true := by
  decide

variable {avoided : List Char}

/-- Whether all texts of a configuration of a solution avoid some characters. -/
def AvoidsAll (avoided : List Char) (configuration : SolutionConfiguration) : Prop :=
  ∀ text ∈ configuration.texts, Avoids avoided text

theorem AvoidsAll.included {configuration : SolutionConfiguration}
    (avoids : AvoidsAll avoided configuration) {entry : IncludedProject}
    (member : entry ∈ configuration.projects) : ∀ text ∈ entry.texts, Avoids avoided text := by
  intro text isText
  apply avoids
  simp only [SolutionConfiguration.texts, List.mem_append, List.mem_flatMap]
  exact .inr ⟨entry, member, isText⟩

/-! ## Projects and configurations of a solution -/

theorem yields_sortedConfigurations (solution : Solution) :
    Yields (fun sorted => ∀ configuration ∈ sorted, configuration ∈ solution.configurations)
      (sortedConfigurations solution) := by
  unfold sortedConfigurations
  split
  · exact .error (GenerationError.isMendable_invalidModel _)
  · dsimp only
    split
    · exact .error (GenerationError.isMendable_configurationConflict _ _)
    · exact .ok fun configuration member => List.mem_mergeSort.1 member

/-- Whether all texts of the projects seen avoid some characters. -/
def Seen.Avoids (avoided : List Char) (seen : Seen) : Prop :=
  ∀ project ∈ seen.projects.values, ∀ text ∈ project.texts, Text.Avoids avoided text

theorem Seen.Avoids.add {seen : Seen} (avoids : seen.Avoids avoided) {project : ProjectReference}
    (avoidsProject : ∀ text ∈ project.texts, Text.Avoids avoided text) :
    (seen.add project).Avoids avoided := by
  intro other member
  unfold Seen.add at member
  dsimp only at member
  split at member
  · exact avoids other member
  · rcases SortedMap.mem_values_insert member with rfl | older
    · exact avoidsProject
    · exact avoids other older

theorem yields_addIncluded (solution : Solution) (name : String) {entries : List IncludedProject}
    (avoids : ∀ entry ∈ entries, ∀ text ∈ entry.texts, Avoids avoided text) {seen : Seen}
    (avoidsSeen : seen.Avoids avoided) (included : List Guid) :
    Yields (Seen.Avoids avoided) (seen.addIncluded solution name included entries) := by
  induction entries generalizing seen included with
  | nil => exact .ok avoidsSeen
  | cons entry rest ih =>
      unfold Seen.addIncluded
      dsimp only
      split
      · exact .error (GenerationError.isMendable_configurationConflict _ _)
      · split
        · exact .error (GenerationError.isMendable_configurationConflict _ _)
        · have avoidsProject : ∀ text ∈ entry.project.texts, Avoids avoided text :=
            fun text isText => avoids entry List.mem_cons_self text
              (by simp [IncludedProject.texts, isText])
          exact ih (fun other inRest => avoids other (List.mem_cons_of_mem _ inRest))
            (avoidsSeen.add avoidsProject) _

theorem yields_distinctProjects (solution : Solution)
    {configurations : List SolutionConfiguration}
    (avoids : ∀ configuration ∈ configurations, AvoidsAll avoided configuration) :
    Yields (fun projects => ∀ project ∈ projects, ∀ text ∈ project.texts, Avoids avoided text)
      (distinctProjects solution configurations) := by
  have start : Seen.empty.Avoids avoided := fun _ member => nomatch member
  have sees : Yields (Seen.Avoids avoided)
      (Seen.empty.addConfigurations solution configurations) :=
    Yields.foldlM (fun seen configuration member avoidsSeen =>
      yields_addIncluded solution _
        (fun entry isOwn => (avoids configuration member).included isOwn) avoidsSeen []) start
  exact sees.bind fun seen avoidsSeen => .ok fun project member =>
    avoidsSeen project (List.mem_mergeSort.1 member)

/-! ## Rendering -/

theorem yields_projectTypeGuid (within : avoided ⊆ separators) (file : Path) :
    Yields (fun guid => Avoids avoided guid) (projectTypeGuid file) := by
  unfold projectTypeGuid
  split
  · exact .ok (Avoids.of_isFixed within (by decide))
  · exact .ok (Avoids.of_isFixed within (by decide))
  · exact .ok (Avoids.of_isFixed within (by decide))
  · exact .ok (Avoids.of_isFixed within (by decide))
  · exact .error (GenerationError.isMendable_invalidModel _)

variable {resolver : Resolver}

/-- What is bound where the entry of a project is written. -/
def projectBindings (solution : Solution) (project : ProjectReference) (typeGuid : String) :
    List (String × Value) :=
  [("projectTypeGuid", .text typeGuid), ("projectName", .text project.projectName),
    ("projectFile", .text (solution.file.directory.relativeTo project.projectFile).windowsText),
    ("projectGuid", .text project.guid.braced)]

theorem writeProject_eq (provides : resolver.Provides avoided [] []) (solution : Solution)
    {project : ProjectReference} (avoids : ∀ text ∈ project.texts, Avoids avoided text)
    {typeGuid : String} (isType : projectTypeGuid project.projectFile = .ok typeGuid)
    (buffer : OutputBuffer) :
    writeProject solution resolver buffer project =
      .ok (buffer.writeVerbatim
        (filled (projectBindings solution project typeGuid ++ []) projectEntry)) := by
  have name := avoids project.projectName (by simp [ProjectReference.texts])
  have file := Path.avoids_windowsText provides.within
    (Path.avoids_relativeTo provides.within solution.file.directory
      (avoids project.projectFile.text (by simp [ProjectReference.texts])))
  have types := yields_projectTypeGuid provides.within project.projectFile
  rw [isType] at types
  have fits : projectScope.Fits avoided (projectBindings solution project typeGuid) :=
    .text types.meets_of_ok
      (.text name (.text file (.text (Guid.avoids_braced provides.within _) .nil)))
  unfold writeProject
  rw [isType, bind_ok]
  exact provides.writeIn_eq fits (by decide) (Scope.closes_append_scope projectEntry_closes) buffer

theorem yields_writeProject (provides : resolver.Provides avoided [] []) (solution : Solution)
    {project : ProjectReference} (avoids : ∀ text ∈ project.texts, Avoids avoided text)
    (buffer : OutputBuffer) :
    Yields (fun _ => True) (writeProject solution resolver buffer project) := by
  have types := yields_projectTypeGuid provides.within project.projectFile
  cases isType : projectTypeGuid project.projectFile with
  | ok typeGuid =>
      rw [writeProject_eq provides solution avoids isType]
      exact .ok trivial
  | error error =>
      unfold writeProject
      rw [isType] at types ⊢
      exact .error types.isMendable_of_error

/-- What is bound where the line of a configuration is written. -/
def configurationBindings (configuration : SolutionConfiguration) : List (String × Value) :=
  [("configurationName", .text configuration.name), ("category", .text configuration.platform)]

theorem writeConfiguration_eq (provides : resolver.Provides avoided [] [])
    {configuration : SolutionConfiguration} (avoids : AvoidsAll avoided configuration)
    (buffer : OutputBuffer) :
    writeConfiguration resolver buffer configuration =
      .ok (buffer.writeVerbatim
        (filled (configurationBindings configuration ++ []) configurationLine)) := by
  have fits : configurationScope.Fits avoided (configurationBindings configuration) :=
    .text (avoids _ (by simp [SolutionConfiguration.texts]))
      (.text (avoids _ (by simp [SolutionConfiguration.texts])) .nil)
  exact provides.writeIn_eq fits (by decide)
    (Scope.closes_append_scope configurationLine_closes) buffer

theorem yields_writeConfiguration (provides : resolver.Provides avoided [] [])
    {configuration : SolutionConfiguration} (avoids : AvoidsAll avoided configuration)
    (buffer : OutputBuffer) :
    Yields (fun _ => True) (writeConfiguration resolver buffer configuration) := by
  rw [writeConfiguration_eq provides avoids]
  exact .ok trivial

/-- What is bound where the lines of an included project are written. -/
def inclusionBindings (configuration : SolutionConfiguration) (entry : IncludedProject)
    (outer : List (String × Value)) : List (String × Value) :=
  [("solutionConf", .text configuration.name), ("solutionPlatform", .text configuration.platform),
    ("projectConf", .text entry.configuration), ("projectPlatform", .text entry.platform)] ++ outer

/-- An included project has its active configuration and, if it is built, this, too. -/
theorem writeInclusion_eq {bindings : List (String × Value)}
    (provides : resolver.Provides avoided guidScope bindings) {guid : Guid}
    {configuration : SolutionConfiguration} (avoids : AvoidsAll avoided configuration)
    {entry : IncludedProject} (found : included? configuration guid = some entry)
    (buffer : OutputBuffer) :
    writeInclusion resolver guid buffer configuration =
      .ok (buffer.writeVerbatim
        (filled (inclusionBindings configuration entry bindings) activeLine ++
          if entry.build then filled (inclusionBindings configuration entry bindings) buildLine
          else "")) := by
  have ownTexts := avoids.included (List.mem_of_find?_eq_some found)
  have fits : Scope.Fits avoided
      [("solutionConf", .scalar), ("solutionPlatform", .scalar), ("projectConf", .scalar),
        ("projectPlatform", .scalar)]
      [("solutionConf", .text configuration.name),
        ("solutionPlatform", .text configuration.platform),
        ("projectConf", .text entry.configuration),
        ("projectPlatform", .text entry.platform)] :=
    .text (avoids _ (by simp [SolutionConfiguration.texts]))
      (.text (avoids _ (by simp [SolutionConfiguration.texts]))
        (.text (ownTexts _ (by simp [IncludedProject.texts]))
          (.text (ownTexts _ (by simp [IncludedProject.texts])) .nil)))
  obtain ⟨inner, guard, declared, providesAll⟩ := provides.declareAll fits (by decide)
  unfold writeInclusion
  rw [found]
  dsimp only
  rw [declared, bind_ok]
  dsimp only
  rw [providesAll.write_eq activeLine_closes, bind_ok]
  split
  · rw [providesAll.write_eq buildLine_closes, OutputBuffer.writeVerbatim_writeVerbatim]
    rfl
  · rw [String.append_empty]
    rfl

theorem yields_writeInclusion {bindings : List (String × Value)}
    (provides : resolver.Provides avoided guidScope bindings) (guid : Guid)
    {configuration : SolutionConfiguration} (avoids : AvoidsAll avoided configuration)
    (buffer : OutputBuffer) :
    Yields (fun _ => True) (writeInclusion resolver guid buffer configuration) := by
  cases found : included? configuration guid with
  | none =>
      unfold writeInclusion
      rw [found]
      exact .ok trivial
  | some entry =>
      rw [writeInclusion_eq provides avoids found]
      exact .ok trivial

theorem providesGuid (provides : resolver.Provides avoided [] []) (guid : Guid) :
    (resolver.declare "projectGuid" (.text guid.braced)).1.Provides avoided guidScope
      [("projectGuid", .text guid.braced)] :=
  provides.declare "projectGuid"
    (Value.hasText_text (Guid.avoids_braced provides.within guid)) (by decide)

theorem yields_writeInclusions (provides : resolver.Provides avoided [] [])
    {configurations : List SolutionConfiguration}
    (avoids : ∀ configuration ∈ configurations, AvoidsAll avoided configuration)
    (buffer : OutputBuffer) (project : ProjectReference) :
    Yields (fun _ => True) (writeInclusions resolver configurations buffer project) :=
  Yields.foldlM (fun buffer configuration member _ =>
    yields_writeInclusion (providesGuid provides project.guid) _ (avoids configuration member)
      buffer) trivial

/-- The start of a solution file has no values but the version. -/
theorem writeHeader_eq (provides : resolver.Provides avoided [] []) (buffer : OutputBuffer) :
    buffer.writeIn resolver [("visualStudioVersion", .text visualStudioVersion)] header =
      .ok (buffer.writeVerbatim
        (filled ([("visualStudioVersion", .text visualStudioVersion)] ++ []) header)) := by
  have fits : headerScope.Fits avoided [("visualStudioVersion", .text visualStudioVersion)] :=
    .text (Avoids.of_isFixed provides.within (by decide)) .nil
  exact provides.writeIn_eq fits (by decide) (Scope.closes_append_scope header_closes) buffer

/-- Only what the solution itself contradicts keeps its file from being rendered. -/
theorem yields_render (within : avoided ⊆ separators) (bracket : '[' ∈ avoided)
    {solution : Solution} (avoids : ∀ text ∈ solution.texts, Avoids avoided text)
    (settings : Settings) : Yields (fun _ => True) (render solution settings) := by
  have provides := Resolver.Provides.of_no_bindings within bracket
    (Resolver.new settings.caseSensitivePlaceholders)
  refine (yields_sortedConfigurations solution).bind fun configurations areOwn => ?_
  have avoidsConfigurations : ∀ configuration ∈ configurations,
      AvoidsAll avoided configuration := fun configuration member text isText =>
    avoids text (Solution.mem_texts (areOwn configuration member) isText)
  refine (yields_distinctProjects solution avoidsConfigurations).bind
    fun projects avoidsProjects => ?_
  dsimp only
  rw [writeHeader_eq provides, bind_ok]
  refine (Yields.foldlM (fun buffer project member _ =>
    yields_writeProject provides solution (avoidsProjects project member) buffer) trivial).bind
      fun buffer _ => ?_
  refine (Yields.foldlM (fun buffer configuration member _ =>
    yields_writeConfiguration provides (avoidsConfigurations configuration member) buffer)
      trivial).bind fun buffer _ => ?_
  refine (Yields.foldlM (fun buffer project _ _ =>
    yields_writeInclusions provides avoidsConfigurations buffer project) trivial).bind
      fun buffer _ => ?_
  exact .ok trivial

end Format.SolutionFile

end ProjectFiles
