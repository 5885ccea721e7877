import ProjectFiles.Model.Project
import ProjectFiles.Model.Settings
import ProjectFiles.Template.OutputBuffer

/-!
# Solution files

A solution file lists the projects of a solution and says, for every
configuration of the solution, which configuration of which project belongs to
it.  Projects and identifiers have to correspond one to one.
-/

namespace ProjectFiles.Format.SolutionFile

/-! ## Templates -/

/-- The version of the environment that solution files name. -/
def visualStudioVersion : String := "17.0.31903.59"

/-- The start of a solution file. -/
def header : String :=
  Text.unlines
    ["",
      "Microsoft Visual Studio Solution File, Format Version 12.00",
      "# Visual Studio Version 17",
      "VisualStudioVersion = [visualStudioVersion]",
      "MinimumVisualStudioVersion = 10.0.40219.1"]

/-- One project of the solution. -/
def projectEntry : String :=
  Text.unlines
    ["Project(\"\x7b[projectTypeGuid]\x7d\") = \"[projectName]\", \"[projectFile]\", \"[projectGuid]\"",
      "EndProject"]

/-- The start of the sections. -/
def globalStart : String :=
  "Global\n"

/-- The start of the section of the solution configurations. -/
def configurationsStart : String :=
  "\tGlobalSection(SolutionConfigurationPlatforms) = preSolution\n"

/-- One configuration of the solution. -/
def configurationLine : String :=
  "\t\t[configurationName]|[category] = [configurationName]|[category]\n"

/-- The start of the section of the included projects. -/
def projectConfigurationsStart : String :=
  "\tGlobalSection(ProjectConfigurationPlatforms) = postSolution\n"

/-- The configuration of a project that belongs to one of the solution. -/
def activeLine : String :=
  "\t\t[projectGuid].[solutionConf]|[solutionPlatform].ActiveCfg = [projectConf]|[projectPlatform]\n"

/-- The mark of a project that is built with the solution. -/
def buildLine : String :=
  "\t\t[projectGuid].[solutionConf]|[solutionPlatform].Build.0 = [projectConf]|[projectPlatform]\n"

/-- The end of a section. -/
def sectionEnd : String :=
  "\tEndGlobalSection\n"

/-- The properties of the solution and the end of the file. -/
def globalEnd : String :=
  Text.unlines
    ["\tGlobalSection(SolutionProperties) = preSolution",
      "\t\tHideSolutionNode = FALSE",
      "\tEndGlobalSection",
      "EndGlobal"]

/-! ## Configurations -/

/-- Order by name, then by platform. -/
def compareConfigurations : SolutionConfiguration → SolutionConfiguration → Ordering :=
  compareLex (compareOn SolutionConfiguration.name) (compareOn SolutionConfiguration.platform)

/-- The first section name that two neighbours of a list have in common. -/
def repeatedSection? : List SolutionConfiguration → Option String
  | first :: second :: rest =>
      if first.sectionName = second.sectionName then some first.sectionName
      else repeatedSection? (second :: rest)
  | _ => none

/-- The configurations of a solution by name and platform. -/
def sortedConfigurations (solution : Solution) :
    Except GenerationError (List SolutionConfiguration) :=
  match solution.configurations with
  | [] => .error (.invalidModel (.emptySolution solution.name))
  | configurations =>
      let sorted := configurations.mergeSort fun left right =>
        (compareConfigurations left right).isLE
      match repeatedSection? sorted with
      | some name => .error (.configurationConflict solution.file (.sectionTwice name))
      | none => .ok sorted

/-! ## Projects -/

/-- The projects and the files that have been seen: each project under its
identifier, and the identifier under each file. -/
structure Seen where
  projects : SortedMap Guid ProjectReference
  guids : SortedMap Path Guid

namespace Seen

/-- Nothing seen. -/
def empty : Seen := ⟨.empty, .empty⟩

/-- What contradicts the projects seen so far in a further one. -/
def conflict? (seen : Seen) (project : ProjectReference) : Option Conflict :=
  match seen.guids.get? project.projectFile.absolute with
  | some guid =>
      if guid = project.guid then sharedGuid? seen project
      else some (.twoGuids project.projectFile guid project.guid)
  | none => sharedGuid? seen project
where
  /-- Whether the identifier belongs to another file. -/
  sharedGuid? (seen : Seen) (project : ProjectReference) : Option Conflict :=
    match seen.projects.get? project.guid with
    | some existing =>
        if existing.projectFile.same project.projectFile then none
        else some (.sharedGuid project.guid existing.projectFile project.projectFile)
    | none => none

/-- See a further project.  What was seen first under an identifier or a file
stays. -/
def add (seen : Seen) (project : ProjectReference) : Seen where
  projects :=
    if seen.projects.contains project.guid then seen.projects
    else seen.projects.insert project.guid project
  guids :=
    if seen.guids.contains project.projectFile.absolute then seen.guids
    else seen.guids.insert project.projectFile.absolute project.guid

/-- See the projects of a configuration, of which `included` are seen already. -/
def addIncluded (solution : Solution) (name : String) (seen : Seen) (included : List Guid) :
    List IncludedProject → Except GenerationError Seen
  | [] => .ok seen
  | entry :: rest =>
      let project := entry.project
      if included.contains project.guid then
        .error (.configurationConflict solution.file
          (.includedTwice project.projectName name))
      else
        match seen.conflict? project with
        | some conflict => .error (.configurationConflict solution.file conflict)
        | none => addIncluded solution name (seen.add project) (project.guid :: included) rest

/-- See the projects of configurations. -/
def addConfigurations (solution : Solution) (seen : Seen)
    (configurations : List SolutionConfiguration) : Except GenerationError Seen :=
  configurations.foldlM
    (fun seen configuration =>
      addIncluded solution configuration.sectionName seen [] configuration.projects)
    seen

end Seen

/-- Order by name, then by identifier. -/
def compareProjects : ProjectReference → ProjectReference → Ordering :=
  compareLex (compareOn ProjectReference.projectName) (compareOn ProjectReference.guid)

/-- The projects of a solution by name and identifier, once each. -/
def distinctProjects (solution : Solution) (configurations : List SolutionConfiguration) :
    Except GenerationError (List ProjectReference) := do
  let seen ← Seen.empty.addConfigurations solution configurations
  return seen.projects.values.mergeSort fun left right => (compareProjects left right).isLE

/-- The project type of a project file, by its extension. -/
def projectTypeGuid (file : Path) : Except GenerationError String :=
  match file.extension with
  | "vcxproj" => .ok "8BC9CEB8-8B4A-11D0-8D11-00A0C91BC942"
  | "csproj" => .ok "FAE04EC0-301F-11D3-BF4B-00C04F79EFBC"
  | "pyproj" => .ok "888888A0-9F3D-457C-B088-3A5042F75D52"
  | "androidproj" => .ok "EAAC564B-F271-4B9C-99B6-F18BE0B11958"
  | extension => .error (.invalidModel (.unknownProjectType extension file))

/-! ## Rendering -/

/-- The project of an identifier that a configuration includes. -/
def included? (configuration : SolutionConfiguration) (guid : Guid) : Option IncludedProject :=
  configuration.projects.find? fun entry => entry.project.guid == guid

/-- Write the entry of a project. -/
def writeProject (solution : Solution) (resolver : Resolver) (buffer : OutputBuffer)
    (project : ProjectReference) : Except GenerationError OutputBuffer := do
  let typeGuid ← projectTypeGuid project.projectFile
  buffer.writeIn resolver
    [("projectTypeGuid", .text typeGuid),
      ("projectName", .text project.projectName),
      ("projectFile",
        .text (solution.file.directory.relativeTo project.projectFile).windowsText),
      ("projectGuid", .text project.guid.braced)]
    projectEntry

/-- Write the line of a configuration. -/
def writeConfiguration (resolver : Resolver) (buffer : OutputBuffer)
    (configuration : SolutionConfiguration) : Except GenerationError OutputBuffer :=
  buffer.writeIn resolver
    [("configurationName", .text configuration.name),
      ("category", .text configuration.platform)]
    configurationLine

/-- Write the lines of a project in a configuration, if it is included there. -/
def writeInclusion (resolver : Resolver) (guid : Guid) (buffer : OutputBuffer)
    (configuration : SolutionConfiguration) : Except GenerationError OutputBuffer :=
  match included? configuration guid with
  | none => .ok buffer
  | some entry => do
      let (inner, _) ← resolver.declareAll
        [("solutionConf", .text configuration.name),
          ("solutionPlatform", .text configuration.platform),
          ("projectConf", .text entry.configuration),
          ("projectPlatform", .text entry.platform)]
      let buffer ← buffer.write inner activeLine
      if entry.build then buffer.write inner buildLine else return buffer

/-- Write the lines of a project in all configurations. -/
def writeInclusions (resolver : Resolver) (configurations : List SolutionConfiguration)
    (buffer : OutputBuffer) (project : ProjectReference) : Except GenerationError OutputBuffer :=
  let (inner, _) := resolver.declare "projectGuid" (.text project.guid.braced)
  configurations.foldlM (writeInclusion inner project.guid) buffer

/-- Render a solution file. -/
def render (solution : Solution) (settings : Settings) : Except GenerationError String := do
  let configurations ← sortedConfigurations solution
  let projects ← distinctProjects solution configurations
  let resolver := Resolver.new settings.caseSensitivePlaceholders
  let buffer ←
    OutputBuffer.empty.writeIn resolver
      [("visualStudioVersion", .text visualStudioVersion)] header
  let buffer ← projects.foldlM (writeProject solution resolver) buffer
  let buffer := (buffer.writeVerbatim globalStart).writeVerbatim configurationsStart
  let buffer ← configurations.foldlM (writeConfiguration resolver) buffer
  let buffer := (buffer.writeVerbatim sectionEnd).writeVerbatim projectConfigurationsStart
  let buffer ← projects.foldlM (writeInclusions resolver configurations) buffer
  return ((buffer.writeVerbatim sectionEnd).writeVerbatim globalEnd).finalize

end ProjectFiles.Format.SolutionFile
