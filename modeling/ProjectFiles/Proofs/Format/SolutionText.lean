import ProjectFiles.Proofs.Format.SolutionFile
import ProjectFiles.Proofs.Format.SolutionProjects
import ProjectFiles.Proofs.Template.Lines
import ProjectFiles.Proofs.Text.Fences

/-!
# The text of a solution file

A solution file is printed line by line: the start, the projects, the configurations,
what each configuration includes of each project, and the end.  What the templates make
of a solution without placeholders is what is printed, less the lines that hold the
marker of omitted values.
-/

namespace ProjectFiles

namespace Text

theorem unlines_append (former latter : List String) :
    unlines (former ++ latter) = unlines former ++ unlines latter := by
  simp [unlines, String.join_append]

theorem join_map_unlines {α : Type} (lines : α → List String) (members : List α) :
    String.join (members.map fun member => unlines (lines member)) =
      unlines (members.flatMap lines) := by
  induction members with
  | nil => rfl
  | cons first rest ih =>
      rw [List.map_cons, String.join_cons, ih, List.flatMap_cons, unlines_append]

end Text

namespace Format.SolutionFile

open Template Text

/-! ## Printing -/

/-- The project types of the extensions of project files. -/
def projectTypes : List (String × String) :=
  [("vcxproj", "8BC9CEB8-8B4A-11D0-8D11-00A0C91BC942"),
    ("csproj", "FAE04EC0-301F-11D3-BF4B-00C04F79EFBC"),
    ("pyproj", "888888A0-9F3D-457C-B088-3A5042F75D52"),
    ("androidproj", "EAAC564B-F271-4B9C-99B6-F18BE0B11958")]

/-- The lines before the projects. -/
def headerLines : List String :=
  ["", "Microsoft Visual Studio Solution File, Format Version 12.00", "# Visual Studio Version 17",
    "VisualStudioVersion = 17.0.31903.59", "MinimumVisualStudioVersion = 10.0.40219.1"]

/-- The lines of a project, seen from the directory of the solution. -/
def projectLines (directory : Path) (project : ProjectReference) : List String :=
  ["Project(\"\x7b" ++ (projectTypes.lookup project.projectFile.extension).getD "" ++
      "\x7d\") = \"" ++ project.projectName ++ "\", \"" ++
      (directory.relativeTo project.projectFile).windowsText ++ "\", \"" ++
      project.guid.braced ++ "\"",
    "EndProject"]

/-- The line of a configuration. -/
def sectionLine (configuration : SolutionConfiguration) : String :=
  "\t\t" ++ configuration.sectionName ++ " = " ++ configuration.sectionName

/-- The lines of an included project: what is active and, if it is, what is built. -/
def entryLines (configuration : SolutionConfiguration) (entry : IncludedProject) : List String :=
  let place := "\t\t" ++ entry.project.guid.braced ++ "." ++ configuration.sectionName
  let included := entry.configuration ++ "|" ++ entry.platform
  (place ++ ".ActiveCfg = " ++ included) ::
    if entry.build then [place ++ ".Build.0 = " ++ included] else []

/-- The lines of a project in a configuration, as often as it is included. -/
def inclusionLines (guid : Guid) (configuration : SolutionConfiguration) : List String :=
  (configuration.projects.filter fun entry => entry.project.guid = guid).flatMap
    (entryLines configuration)

/-- The lines from the projects to the configurations. -/
def configurationsStartLines : List String :=
  ["Global", "\tGlobalSection(SolutionConfigurationPlatforms) = preSolution"]

/-- The lines from the configurations to the included projects. -/
def inclusionsStartLines : List String :=
  ["\tEndGlobalSection", "\tGlobalSection(ProjectConfigurationPlatforms) = postSolution"]

/-- The lines behind the included projects. -/
def footerLines : List String :=
  ["\tEndGlobalSection", "\tGlobalSection(SolutionProperties) = preSolution",
    "\t\tHideSolutionNode = FALSE", "\tEndGlobalSection", "EndGlobal"]

/-- The lines of a solution file. -/
def printedLines (directory : Path) (configurations : List SolutionConfiguration)
    (projects : List ProjectReference) : List String :=
  headerLines ++ projects.flatMap (projectLines directory) ++
    configurationsStartLines ++ configurations.map sectionLine ++
    inclusionsStartLines ++
      projects.flatMap (fun project => configurations.flatMap (inclusionLines project.guid)) ++
    footerLines

theorem projectTypeGuid_eq_ok_iff {file : Path} {typeGuid : String} :
    projectTypeGuid file = .ok typeGuid ↔
      projectTypes.lookup file.extension = some typeGuid := by
  unfold projectTypeGuid
  generalize file.extension = extension
  split
  · simp [projectTypes]
  · simp [projectTypes, List.lookup_cons]
  · simp [projectTypes, List.lookup_cons]
  · simp [projectTypes, List.lookup_cons]
  · rename_i notCpp notCSharp notPython notAndroid
    simp [projectTypes, List.lookup_cons, beq_eq_false_iff_ne.2 notCpp,
      beq_eq_false_iff_ne.2 notCSharp, beq_eq_false_iff_ne.2 notPython,
      beq_eq_false_iff_ne.2 notAndroid]

/-! ## Filled templates -/

theorem filled_header :
    filled ([("visualStudioVersion", .text visualStudioVersion)] ++ []) header =
      unlines headerLines := by
  have version : filled ([("visualStudioVersion", .text visualStudioVersion)] ++ [])
      (unlines ["VisualStudioVersion = [visualStudioVersion]",
        "MinimumVisualStudioVersion = 10.0.40219.1"]) =
      unlines ["VisualStudioVersion = 17.0.31903.59",
        "MinimumVisualStudioVersion = 10.0.40219.1"] := by
    have plain : arePlain [("VisualStudioVersion = ", "visualStudioVersion")] = true := by
      decide +kernel
    have bracketless : '[' ∉ "\nMinimumVisualStudioVersion = 10.0.40219.1\n".toList := by
      decide +kernel
    rw [filled_eq_join plain bracketless (by decide +kernel)]
    rfl
  unfold header headerLines
  with_reducible refine filled_unlines_cons (by decide) ?_
  with_reducible refine filled_unlines_cons (by decide) ?_
  with_reducible exact filled_unlines_cons (by decide) version

variable {project : ProjectReference} {configuration : SolutionConfiguration}

theorem filled_projectEntry {solution : Solution} {typeGuid : String}
    (isType : projectTypes.lookup project.projectFile.extension = some typeGuid) :
    filled (projectBindings solution project typeGuid ++ []) projectEntry =
      unlines (projectLines solution.file.directory project) := by
  have plain : arePlain [("Project(\"\x7b", "projectTypeGuid"), ("\x7d\") = \"", "projectName"),
      ("\", \"", "projectFile"), ("\", \"", "projectGuid")] = true := by decide
  have bracketless : '[' ∉ "\"\nEndProject\n".toList := by decide
  rw [filled_eq_join plain bracketless (by decide +kernel), projectLines, isType,
    Option.getD_some, projectBindings]
  generalize (solution.file.directory.relativeTo project.projectFile).windowsText = file
  simp [unlines, String.append_assoc]
  rfl

theorem filled_configurationLine :
    filled (configurationBindings configuration ++ []) configurationLine =
      unlines [sectionLine configuration] := by
  have plain : arePlain [("\t\t", "configurationName"), ("|", "category"),
      (" = ", "configurationName"), ("|", "category")] = true := by decide
  have bracketless : '[' ∉ "\n".toList := by decide
  rw [filled_eq_join plain bracketless (by decide +kernel)]
  simp [unlines, String.append_assoc, sectionLine, SolutionConfiguration.sectionName]
  rfl

theorem filled_inclusion {entry : IncludedProject} :
    let bindings := inclusionBindings configuration entry
      [("projectGuid", .text entry.project.guid.braced)]
    (filled bindings activeLine ++ if entry.build then filled bindings buildLine else "") =
      unlines (entryLines configuration entry) := by
  have plain : ∀ mark ∈ [".ActiveCfg = ", ".Build.0 = "],
      arePlain [("\t\t", "projectGuid"), (".", "solutionConf"), ("|", "solutionPlatform"),
        (mark, "projectConf"), ("|", "projectPlatform")] = true := by decide
  have bracketless : '[' ∉ "\n".toList := by decide
  dsimp only
  rw [filled_eq_join (plain _ List.mem_cons_self) bracketless (by decide +kernel),
    filled_eq_join (plain ".Build.0 = " (by simp)) bracketless (by decide +kernel)]
  unfold entryLines
  split
  · simp [unlines, String.append_assoc, SolutionConfiguration.sectionName]
    rfl
  · simp [unlines, String.append_assoc, SolutionConfiguration.sectionName]
    rfl

/-! ## Rendering -/

section

variable {avoided : List Char} {resolver : Resolver}

/-- A project that is included once at most is found where it is included. -/
theorem filter_eq_toList_included? {guid : Guid}
    (once : (configuration.projects.map fun entry => entry.project.guid).Nodup) :
    (configuration.projects.filter fun entry => entry.project.guid = guid) =
      (included? configuration guid).toList := by
  unfold included?
  generalize configuration.projects = entries at once ⊢
  induction entries with
  | nil => rfl
  | cons first rest ih =>
      rw [List.map_cons, List.nodup_cons] at once
      by_cases same : first.project.guid = guid
      · have others : (rest.filter fun entry => entry.project.guid = guid) = [] := by
          refine List.filter_eq_nil_iff.2 fun entry member equal => once.1 ?_
          rw [same, ← of_decide_eq_true equal]
          exact List.mem_map_of_mem member
        simp [same, others]
      · simpa [same] using ih once.2

theorem writeInclusion_eq_printed {guid : Guid}
    (provides : resolver.Provides avoided guidScope [("projectGuid", .text guid.braced)])
    (avoids : AvoidsAll avoided configuration)
    (once : (configuration.projects.map fun entry => entry.project.guid).Nodup)
    (buffer : OutputBuffer) :
    writeInclusion resolver guid buffer configuration =
      .ok (buffer.writeVerbatim (unlines (inclusionLines guid configuration))) := by
  unfold inclusionLines
  rw [filter_eq_toList_included? once]
  cases found : included? configuration guid with
  | none =>
      unfold writeInclusion
      rw [found]
      exact congrArg Except.ok buffer.writeVerbatim_empty.symm
  | some entry =>
      have same : entry.project.guid = guid := by
        simpa using List.find?_some found
      rw [writeInclusion_eq provides avoids found, ← same, filled_inclusion]
      simp

theorem writeInclusions_eq_printed (provides : resolver.Provides avoided [] [])
    {configurations : List SolutionConfiguration}
    (avoids : ∀ configuration ∈ configurations, AvoidsAll avoided configuration)
    (once : ∀ configuration ∈ configurations,
      (configuration.projects.map fun entry => entry.project.guid).Nodup)
    (buffer : OutputBuffer) (project : ProjectReference) :
    writeInclusions resolver configurations buffer project =
      .ok (buffer.writeVerbatim
        (unlines (configurations.flatMap (inclusionLines project.guid)))) := by
  rw [← join_map_unlines]
  exact OutputBuffer.foldlM_eq (fun buffer configuration member =>
    writeInclusion_eq_printed (providesGuid provides project.guid)
      (avoids configuration member) (once configuration member) buffer) buffer

theorem writeProject_eq_printed (provides : resolver.Provides avoided [] []) (solution : Solution)
    (avoids : ∀ text ∈ project.texts, Avoids avoided text)
    (isKnown : (projectTypes.lookup project.projectFile.extension).isSome)
    (buffer : OutputBuffer) :
    writeProject solution resolver buffer project =
      .ok (buffer.writeVerbatim (unlines (projectLines solution.file.directory project))) := by
  obtain ⟨typeGuid, isType⟩ := Option.isSome_iff_exists.1 isKnown
  rw [writeProject_eq provides solution avoids (projectTypeGuid_eq_ok_iff.2 isType),
    filled_projectEntry isType]

theorem writeConfiguration_eq_printed (provides : resolver.Provides avoided [] [])
    (avoids : AvoidsAll avoided configuration) (buffer : OutputBuffer) :
    writeConfiguration resolver buffer configuration =
      .ok (buffer.writeVerbatim (unlines [sectionLine configuration])) := by
  rw [writeConfiguration_eq provides avoids, filled_configurationLine]

/-- Where no text has a placeholder, a solution that contradicts nothing and whose
projects are of known types is rendered as printed, without its tagged lines. -/
theorem render_eq_printed (within : avoided ⊆ separators) (bracket : '[' ∈ avoided)
    {solution : Solution} (avoids : ∀ text ∈ solution.texts, Avoids avoided text)
    {configurations : List SolutionConfiguration}
    (isSorted : sortedConfigurations solution = .ok configurations)
    {projects : List ProjectReference}
    (isDistinct : distinctProjects solution configurations = .ok projects)
    (areKnown : ∀ project ∈ projects,
      (projectTypes.lookup project.projectFile.extension).isSome) (settings : Settings) :
    render solution settings = .ok (OutputBuffer.removeTaggedLines
      (unlines (printedLines solution.file.directory configurations projects))) := by
  have provides := Resolver.Provides.of_no_bindings within bracket
    (Resolver.new settings.caseSensitivePlaceholders)
  have areOwn := perm_of_sortedConfigurations isSorted
  have avoidsConfigurations : ∀ configuration ∈ configurations,
      AvoidsAll avoided configuration := fun configuration member text isText =>
    avoids text (Solution.mem_texts (areOwn.mem_iff.1 member) isText)
  have avoidsProjects := yields_distinctProjects solution avoidsConfigurations
  rw [isDistinct] at avoidsProjects
  have once := (distinctProjects_eq_ok_iff.1 isDistinct).1.once
  have header := writeHeader_eq provides .empty
  have projectsWritten := OutputBuffer.foldlM_eq fun buffer project member =>
    writeProject_eq_printed provides solution (avoidsProjects.meets_of_ok project member)
      (areKnown project member) buffer
  have configurationsWritten := OutputBuffer.foldlM_eq fun buffer configuration member =>
    writeConfiguration_eq_printed provides (avoidsConfigurations configuration member) buffer
  have inclusionsWritten := OutputBuffer.foldlM_eq fun buffer project (_ : project ∈ projects) =>
    writeInclusions_eq_printed provides avoidsConfigurations once buffer project
  unfold render
  rw [isSorted, bind_ok, isDistinct, bind_ok]
  dsimp only
  rw [header, bind_ok, projectsWritten, bind_ok, configurationsWritten, bind_ok,
    inclusionsWritten, bind_ok, filled_header]
  simp only [join_map_unlines, OutputBuffer.writeVerbatim_writeVerbatim]
  refine congrArg Except.ok ((OutputBuffer.finalize_empty_writeVerbatim _).trans ?_)
  have configurationsStart : globalStart ++ configurationsStart =
      unlines configurationsStartLines := by
    simp [globalStart, SolutionFile.configurationsStart, configurationsStartLines, unlines]
  have inclusionsStart : sectionEnd ++ projectConfigurationsStart =
      unlines inclusionsStartLines := by
    simp [sectionEnd, projectConfigurationsStart, inclusionsStartLines, unlines]
  have footer : sectionEnd ++ globalEnd = unlines footerLines := by
    simp [sectionEnd, globalEnd, footerLines, unlines]
  rw [printedLines]
  simp only [unlines_append, ← configurationsStart, ← inclusionsStart, ← footer,
    String.append_assoc, List.map_eq_flatMap]

/-- A solution that is rendered contradicts nothing, and its projects are of known types. -/
theorem exists_of_render_eq_ok {solution : Solution} {settings : Settings} {text : String}
    (rendered : render solution settings = .ok text) :
    ∃ configurations projects, sortedConfigurations solution = .ok configurations ∧
      distinctProjects solution configurations = .ok projects ∧
      ∀ project ∈ projects, (projectTypes.lookup project.projectFile.extension).isSome := by
  unfold render at rendered
  obtain ⟨configurations, isSorted, rendered⟩ := ok_of_bind_eq_ok rendered
  obtain ⟨projects, isDistinct, rendered⟩ := ok_of_bind_eq_ok rendered
  obtain ⟨start, _, rendered⟩ := ok_of_bind_eq_ok rendered
  obtain ⟨buffer, written, _⟩ := ok_of_bind_eq_ok rendered
  refine ⟨configurations, projects, isSorted, isDistinct, fun project member => ?_⟩
  obtain ⟨before, after, writes⟩ := exists_eq_ok_of_foldlM written member
  obtain ⟨typeGuid, isType, _⟩ := ok_of_bind_eq_ok writes
  rw [projectTypeGuid_eq_ok_iff.1 isType]
  rfl

end

/-! ## Lines without newlines and tags -/

section

variable {part : List Char}

theorem isFree_projectLines (foreign : IsForeign part) (directory : Path)
    (areFree : ∀ text ∈ project.texts, IsFree part text) :
    ∀ line ∈ projectLines directory project, IsFree part line := by
  have name := areFree project.projectName (by simp [ProjectReference.texts])
  have file : IsFree part (directory.relativeTo project.projectFile).windowsText :=
    foreign.isWord.not_infix_windowsText (foreign.isWord.not_infix_relativeTo directory
      (areFree project.projectFile.text (by simp [ProjectReference.texts])))
  have typeGuid : IsFree part
      ((projectTypes.lookup project.projectFile.extension).getD "") := by
    have areFixed : ∀ known ∈ "" :: projectTypes.map (·.2), isFixedText known = true := by
      decide +kernel
    refine foreign.isFree_of_isFixedText (areFixed _ ?_)
    cases found : projectTypes.lookup project.projectFile.extension with
    | none => exact List.mem_cons_self
    | some known =>
        obtain ⟨former, latter, spelled, _⟩ := List.lookup_eq_some_iff.1 found
        rw [spelled]
        simp
  have opening : isFence "Project(\"\x7b" = true := by decide
  have typed : isFence "\x7d\") = \"" = true := by decide
  have between : isFence "\", \"" = true := by decide
  have closing : isFence "\"" = true := by decide
  have typeAndName := foreign.fenced typed (foreign.behind opening typeGuid) name
  have entry := foreign.before closing
    (foreign.fenced between (foreign.fenced between typeAndName file)
      (foreign.isFree_braced project.guid))
  refine List.forall_mem_cons.2 ⟨entry, fun line member => ?_⟩
  rw [List.mem_singleton.1 member]
  exact foreign.isFree_of_isFixedText (by decide)

theorem isFree_sectionName (foreign : IsForeign part)
    (areFree : ∀ text ∈ configuration.texts, IsFree part text) :
    IsFree part configuration.sectionName := by
  have bar : isFence "|" = true := by decide
  exact foreign.fenced bar (areFree _ (by simp [SolutionConfiguration.texts]))
    (areFree _ (by simp [SolutionConfiguration.texts]))

theorem isFree_sectionLine (foreign : IsForeign part)
    (areFree : ∀ text ∈ configuration.texts, IsFree part text) :
    IsFree part (sectionLine configuration) := by
  have indent : isFence "\t\t" = true := by decide
  have equals : isFence " = " = true := by decide
  have name := isFree_sectionName foreign areFree
  exact foreign.fenced equals (foreign.behind indent name) name

theorem isFree_entryLines (foreign : IsForeign part)
    (areFree : ∀ text ∈ configuration.texts, IsFree part text) {entry : IncludedProject}
    (member : entry ∈ configuration.projects) :
    ∀ line ∈ entryLines configuration entry, IsFree part line := by
  have bar : isFence "|" = true := by decide
  have indent : isFence "\t\t" = true := by decide
  have point : isFence "." = true := by decide
  have isActive : isFence ".ActiveCfg = " = true := by decide
  have isBuilt : isFence ".Build.0 = " = true := by decide
  have areOwn : ∀ text ∈ entry.texts, IsFree part text := fun text isText =>
    areFree text (by
      simp only [SolutionConfiguration.texts, List.mem_append, List.mem_flatMap]
      exact .inr ⟨entry, member, isText⟩)
  have place := foreign.fenced point
    (foreign.behind indent (foreign.isFree_braced entry.project.guid))
    (isFree_sectionName foreign areFree)
  have included : IsFree part (entry.configuration ++ "|" ++ entry.platform) :=
    foreign.fenced bar (areOwn _ (by simp [IncludedProject.texts]))
      (areOwn _ (by simp [IncludedProject.texts]))
  refine List.forall_mem_cons.2 ⟨foreign.fenced isActive place included, ?_⟩
  split
  · exact List.forall_mem_singleton.2 (foreign.fenced isBuilt place included)
  · exact List.forall_mem_nil _

/-- What occurs in no text of configurations and projects occurs in no line of theirs. -/
theorem isFree_printedLines (foreign : IsForeign part) {directory : Path}
    {configurations : List SolutionConfiguration} {projects : List ProjectReference}
    (areFree : ∀ configuration ∈ configurations, ∀ text ∈ configuration.texts, IsFree part text)
    (alsoFree : ∀ project ∈ projects, ∀ text ∈ project.texts, IsFree part text) :
    ∀ line ∈ printedLines directory configurations projects, IsFree part line := by
  have areFixed : ∀ line ∈ headerLines ++ configurationsStartLines ++ inclusionsStartLines ++
      footerLines, isFixedText line = true := by
    decide +kernel
  have isFixed : ∀ line ∈ headerLines ++ configurationsStartLines ++ inclusionsStartLines ++
      footerLines, IsFree part line := fun line member =>
    foreign.isFree_of_isFixedText (areFixed line member)
  simp only [List.mem_append] at isFixed
  intro line member
  simp only [printedLines, List.mem_append, List.mem_flatMap, List.mem_map] at member
  rcases member with
    (((((isHeader | ⟨project, isProject, isLine⟩) | isStart) | ⟨configuration, isOwn, rfl⟩) |
      isStart) | ⟨project, isProject, configuration, isOwn, isLine⟩) | isFooter
  · exact isFixed line (.inl (.inl (.inl isHeader)))
  · exact isFree_projectLines foreign directory (alsoFree project isProject) line isLine
  · exact isFixed line (.inl (.inl (.inr isStart)))
  · exact isFree_sectionLine foreign (areFree configuration isOwn)
  · exact isFixed line (.inl (.inr isStart))
  · obtain ⟨entry, isEntry, isEntryLine⟩ := List.mem_flatMap.1 isLine
    exact isFree_entryLines foreign (areFree configuration isOwn)
      (List.mem_of_mem_filter isEntry) line isEntryLine
  · exact isFixed line (.inr isFooter)

end

/-! ## Faithful solution files -/

/-- The configurations and the projects of a solution as its file lists them: the
configurations in strict order of name and platform, and a project for every identifier
that is included, in strict order of name and identifier. -/
structure Lists (solution : Solution) (configurations : List SolutionConfiguration)
    (projects : List ProjectReference) : Prop where
  configurations_perm : configurations.Perm solution.configurations
  configurations_increasing :
    configurations.Pairwise fun left right => compareConfigurations left right = .lt
  projects_increasing : projects.Pairwise fun left right => compareProjects left right = .lt
  guids_nodup : (projects.map (·.guid)).Nodup
  mem_guids_iff : ∀ guid, guid ∈ projects.map (·.guid) ↔
    ∃ configuration ∈ solution.configurations, ∃ entry ∈ configuration.projects,
      entry.project.guid = guid
  mem_projects_iff : ∀ project, project ∈ projects ↔
    (references configurations).find? (fun other => other.guid = project.guid) = some project
  included_once : ∀ configuration ∈ configurations,
    (configuration.projects.map fun entry => entry.project.guid).Nodup
  known_types : ∀ project ∈ projects,
    (projectTypes.lookup project.projectFile.extension).isSome

theorem lists_of_eq_ok {solution : Solution} {configurations : List SolutionConfiguration}
    {projects : List ProjectReference}
    (isSorted : sortedConfigurations solution = .ok configurations)
    (isDistinct : distinctProjects solution configurations = .ok projects)
    (areKnown : ∀ project ∈ projects,
      (projectTypes.lookup project.projectFile.extension).isSome) :
    Lists solution configurations projects := by
  have areOwn := perm_of_sortedConfigurations isSorted
  obtain ⟨compatible, increasing, areFirst⟩ := distinctProjects_eq_ok_iff.1 isDistinct
  have mem_references : ∀ reference, reference ∈ references configurations ↔
      ∃ configuration ∈ solution.configurations, ∃ entry ∈ configuration.projects,
        entry.project = reference := by
    intro reference
    simp only [references, List.mem_flatMap, List.mem_map, areOwn.mem_iff]
  refine ⟨areOwn, increasing_of_sortedConfigurations isSorted, increasing, ?_, fun guid => ?_,
    areFirst, compatible.once, areKnown⟩
  · refine (Sorting.nodup_of_increasing increasing).map_on ?_
    intro left isLeft right isRight same
    have found := (areFirst left).1 isLeft
    rw [same, (areFirst right).1 isRight] at found
    exact (Option.some.inj found).symm
  · constructor
    · intro member
      obtain ⟨project, isProject, rfl⟩ := List.mem_map.1 member
      obtain ⟨configuration, isOwn, entry, isEntry, same⟩ := (mem_references project).1
        (List.mem_of_find?_eq_some ((areFirst project).1 isProject))
      exact ⟨configuration, isOwn, entry, isEntry, congrArg _ same⟩
    · rintro ⟨configuration, isOwn, entry, isEntry, rfl⟩
      have included := (mem_references _).2 ⟨configuration, isOwn, entry, isEntry, rfl⟩
      obtain ⟨first, isFirst⟩ : ∃ first, (references configurations).find?
          (fun other => other.guid = entry.project.guid) = some first :=
        Option.isSome_iff_exists.1 (List.find?_isSome.2 ⟨_, included, by simp⟩)
      have same : first.guid = entry.project.guid := by simpa using List.find?_some isFirst
      rw [← same] at isFirst ⊢
      exact List.mem_map_of_mem ((areFirst first).2 isFirst)

/-- What occurs in no text of a solution occurs in no line of its file. -/
theorem Lists.isFree_printedLines {solution : Solution}
    {configurations : List SolutionConfiguration} {projects : List ProjectReference}
    (lists : Lists solution configurations projects) {part : List Char}
    (foreign : IsForeign part) (areFree : ∀ text ∈ solution.texts, IsFree part text) :
    ∀ line ∈ printedLines solution.file.directory configurations projects, IsFree part line := by
  have areOwn : ∀ configuration ∈ configurations, ∀ text ∈ configuration.texts,
      IsFree part text := fun configuration member text isText =>
    areFree text (Solution.mem_texts (lists.configurations_perm.mem_iff.1 member) isText)
  refine SolutionFile.isFree_printedLines foreign areOwn fun project member text isText => ?_
  have included := List.mem_of_find?_eq_some ((lists.mem_projects_iff project).1 member)
  obtain ⟨configuration, isOwn, inConfiguration⟩ := List.mem_flatMap.1 included
  obtain ⟨entry, isEntry, rfl⟩ := List.mem_map.1 inConfiguration
  refine areOwn configuration isOwn text ?_
  simp only [SolutionConfiguration.texts, List.mem_append, List.mem_flatMap]
  exact .inr ⟨entry, isEntry, by simp [IncludedProject.texts, isText]⟩

/-- A solution file says what is in the solution, and nothing else, where no text has a
placeholder, a newline or the marker of omitted values. -/
theorem render_faithful {solution : Solution} {settings : Settings} {text : String}
    (ordinary : ∀ own ∈ solution.texts,
      '[' ∉ own.toList ∧ '\n' ∉ own.toList ∧ ¬ Value.omitTag.toList <:+: own.toList)
    (rendered : render solution settings = .ok text) :
    ∃ configurations projects, Lists solution configurations projects ∧
      text = unlines (printedLines solution.file.directory configurations projects) := by
  obtain ⟨configurations, projects, isSorted, isDistinct, areKnown⟩ :=
    exists_of_render_eq_ok rendered
  have avoids : ∀ own ∈ solution.texts, Avoids ['['] own := by
    intro own isOwn c member isBracket
    rw [List.mem_singleton.1 isBracket] at member
    exact (ordinary own isOwn).1 member
  have printed := render_eq_printed (by decide) List.mem_cons_self avoids isSorted isDistinct
    areKnown settings
  rw [rendered] at printed
  have lists := lists_of_eq_ok isSorted isDistinct areKnown
  have newlineless := lists.isFree_printedLines isForeign_newline fun own isOwn inOwn =>
    (ordinary own isOwn).2.1 ((List.singleton_infix_iff _ _).1 inOwn)
  have untagged := lists.isFree_printedLines isForeign_omitTag fun own isOwn =>
    (ordinary own isOwn).2.2
  refine ⟨configurations, projects, lists, (Except.ok.inj printed).trans ?_⟩
  refine removeTaggedLines_eq_self (isCut_unlines fun line member inLine =>
    newlineless line member ((List.singleton_infix_iff _ _).2 inLine)) ?_
  intro line member
  obtain ⟨printedLine, isPrinted, rfl⟩ := List.mem_map.1 member
  have outside : '\n' ∉ Value.omitTag.toList := by decide
  rw [infix_append_cons_iff outside, not_or]
  exact ⟨untagged printedLine isPrinted, untagged_of_notMem List.not_mem_nil⟩

/-- A solution of two projects, one of which is not built in one of its configurations. -/
def game : Solution :=
  let core : ProjectReference := ⟨"core", ⟨"/w/core/core.vcxproj"⟩, ⟨1⟩, .lib, "core", false⟩
  let tools : ProjectReference := ⟨"tools", ⟨"/w/tools/tools.csproj"⟩, ⟨2⟩, .exe, "tools", false⟩
  ⟨"game", ⟨"/w/game.sln"⟩,
    [⟨"Release", "x64", [⟨core, "Release", "x64", true⟩, ⟨tools, "Release", "AnyCPU", false⟩]⟩,
      ⟨"Debug", "x64", [⟨core, "Debug", "x64", true⟩]⟩]⟩

theorem render_game : ∃ text, render game {} = .ok text := by
  have isSorted : sortedConfigurations game = .ok game.configurations.reverse :=
    sortedConfigurations_eq_ok_of_increasing (by decide) (List.reverse_perm _)
      (by decide +kernel) (by decide +kernel)
  have isDistinct : distinctProjects game game.configurations.reverse =
      .ok (((references game.configurations).take 2)) := by
    refine distinctProjects_eq_ok_iff.2 ⟨⟨by decide, by decide +kernel⟩, by decide +kernel,
      fun project => ⟨?_, fun isFirst => ?_⟩⟩
    · revert project
      decide +kernel
    · have areOwn : ∀ project ∈ references game.configurations.reverse,
        project ∈ (references game.configurations).take 2 := by decide +kernel
      exact areOwn project (List.mem_of_find?_eq_some isFirst)
  have avoids : ∀ text ∈ game.texts, Avoids separators text :=
    Avoids.of_all_isFixed (List.Subset.refl _) (by decide +kernel)
  exact ⟨_, render_eq_printed (List.Subset.refl _) (by decide) avoids isSorted isDistinct
    (by decide +kernel) {}⟩

theorem render_faithful_game :
    ∃ text, render game {} = .ok text ∧ ∃ configurations projects,
      Lists game configurations projects ∧
        text = unlines (printedLines game.file.directory configurations projects) := by
  obtain ⟨text, rendered⟩ := render_game
  exact ⟨text, rendered, render_faithful (by decide +kernel) rendered⟩

end Format.SolutionFile

end ProjectFiles
