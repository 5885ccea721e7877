import ProjectFiles.Json.Record
import ProjectFiles.Model.Project
import ProjectFiles.Model.Settings

/-!
# The model in JSON

Every type of the model has a JSON form.  Writing gives the fields of a record
in the order of their names, with every field present.  Reading accepts what
writing gives and, in addition, records as arrays, missing fields that have a
default, and every spelling of an identifier.
-/

namespace ProjectFiles

open Json (Record)

/-! ## Leaves -/

namespace Path

/-- Write a path as it is spelled. -/
def toJson (path : Path) : Json := .text path.text

/-- Read a path as it is spelled. -/
def ofJson? (json : Json) : Option Path := (Json.text? json).map Path.mk

end Path

namespace Guid

/-- Write an identifier with hyphens in lower case. -/
def toJson (guid : Guid) : Json := .text guid.hyphenated

/-- Read an identifier in any spelling. -/
def ofJson? (json : Json) : Option Guid := (Json.text? json).bind Guid.ofText?

end Guid

namespace OutputKind

/-- The name of a kind in model files. -/
def modelName : OutputKind → String
  | exe => "exe"
  | lib => "lib"
  | dll => "dll"
  | utility => "utility"
  | none => "none"
  | dotNetConsoleApp => "dot_net_console_app"
  | dotNetWindowsApp => "dot_net_windows_app"
  | dotNetClassLibrary => "dot_net_class_library"

/-- All kinds. -/
def all : List OutputKind :=
  [exe, lib, dll, utility, none, dotNetConsoleApp, dotNetWindowsApp, dotNetClassLibrary]

/-- Write a kind as its name. -/
def toJson (kind : OutputKind) : Json := .text kind.modelName

/-- Read a kind from its name. -/
def ofJson? (json : Json) : Option OutputKind := do
  let (name, contents) ← Json.variant? json
  let kind ← all.find? fun kind => kind.modelName == name
  if Json.isEmptyVariant contents then some kind else Option.none

end OutputKind

namespace DependencyCheck

/-- The name of a severity in settings. -/
def settingName : DependencyCheck → String
  | ignore => "ignore"
  | warn => "warn"
  | error => "error"

/-- The severity of a name. -/
def ofName? (name : String) : Option DependencyCheck :=
  [ignore, warn, error].find? fun check => check.settingName == name

/-- Write a severity as its name. -/
def toJson (check : DependencyCheck) : Json := .text check.settingName

/-- Read a severity from its name. -/
def ofJson? (json : Json) : Option DependencyCheck := do
  let (name, contents) ← Json.variant? json
  let check ← ofName? name
  if Json.isEmptyVariant contents then some check else none

end DependencyCheck

/-! ## Configurations -/

namespace Target

/-- Write a target as the object of its fragments. -/
def toJson (target : Target) : Json := Json.ofTextMap target.fragments

/-- Read a target from the object of its fragments. -/
def ofJson? (json : Json) : Option Target := (Json.textMap? json).map Target.mk

end Target

namespace ProjectReference

/-- Write a reference. -/
def toJson (reference : ProjectReference) : Json :=
  .object
    [("export", .bool reference.exported),
      ("guid", reference.guid.toJson),
      ("output", reference.output.toJson),
      ("project_file", reference.projectFile.toJson),
      ("project_name", .text reference.projectName),
      ("target_file_name", .text reference.targetFileName)]

/-- Read a reference; it is not exported unless it says so. -/
def ofJson? (json : Json) : Option ProjectReference := do
  let record ← Record.ofJson? 6 json
  let projectName ← record.required 0 "project_name" Json.text?
  let projectFile ← record.required 1 "project_file" Path.ofJson?
  let guid ← record.required 2 "guid" Guid.ofJson?
  let output ← record.required 3 "output" OutputKind.ofJson?
  let targetFileName ← record.required 4 "target_file_name" Json.text?
  let exported ← record.defaulting 5 "export" Json.bool? false
  some
    { projectName := projectName
      projectFile := projectFile
      guid := guid
      output := output
      targetFileName := targetFileName
      exported := exported }

end ProjectReference

namespace PackageReference

/-- Write a package. -/
def toJson (package : PackageReference) : Json :=
  .object [("name", .text package.name), ("version", .text package.version)]

/-- Read a package. -/
def ofJson? (json : Json) : Option PackageReference := do
  let record ← Record.ofJson? 2 json
  let name ← record.required 0 "name" Json.text?
  let version ← record.required 1 "version" Json.text?
  some ⟨name, version⟩

end PackageReference

namespace Configuration

/-- Write a configuration. -/
def toJson (configuration : Configuration) : Json :=
  .object
    [("defines", Json.ofList .text configuration.defines),
      ("dependencies", Json.ofList ProjectReference.toJson configuration.dependencies),
      ("intermediate_path", configuration.intermediatePath.toJson),
      ("name", .text configuration.name),
      ("nuget_references", Json.ofList PackageReference.toJson configuration.nugetReferences),
      ("output", configuration.output.toJson),
      ("platform", .text configuration.platform),
      ("project_file", configuration.projectFile.toJson),
      ("project_guid", configuration.projectGuid.toJson),
      ("project_name", .text configuration.projectName),
      ("settings", Json.ofTextMap configuration.settings),
      ("target", configuration.target.toJson),
      ("target_file_name", .text configuration.targetFileName),
      ("target_path", configuration.targetPath.toJson)]

/-- Read a configuration; its lists and its settings are empty unless they are
given. -/
def ofJson? (json : Json) : Option Configuration := do
  let record ← Record.ofJson? 14 json
  let name ← record.required 0 "name" Json.text?
  let platform ← record.required 1 "platform" Json.text?
  let target ← record.required 2 "target" Target.ofJson?
  let projectName ← record.required 3 "project_name" Json.text?
  let projectGuid ← record.required 4 "project_guid" Guid.ofJson?
  let projectFile ← record.required 5 "project_file" Path.ofJson?
  let output ← record.required 6 "output" OutputKind.ofJson?
  let targetPath ← record.required 7 "target_path" Path.ofJson?
  let intermediatePath ← record.required 8 "intermediate_path" Path.ofJson?
  let targetFileName ← record.required 9 "target_file_name" Json.text?
  let defines ← record.defaulting 10 "defines" (Json.list? Json.text?) []
  let dependencies ←
    record.defaulting 11 "dependencies" (Json.list? ProjectReference.ofJson?) []
  let settings ← record.defaulting 12 "settings" Json.textMap? .empty
  let nugetReferences ←
    record.defaulting 13 "nuget_references" (Json.list? PackageReference.ofJson?) []
  some
    { name := name
      platform := platform
      target := target
      projectName := projectName
      projectGuid := projectGuid
      projectFile := projectFile
      output := output
      targetPath := targetPath
      intermediatePath := intermediatePath
      targetFileName := targetFileName
      defines := defines
      dependencies := dependencies
      settings := settings
      nugetReferences := nugetReferences }

end Configuration

/-- The value of a configuration, as templates see it. -/
def Configuration.toValue (configuration : Configuration) : Value :=
  Value.ofJson configuration.toJson

/-! ## Projects -/

namespace AndroidPackage

/-- Write the settings of an Android project. -/
def toJson (package : AndroidPackage) : Json :=
  .object
    [("android_manifest", package.androidManifest.toJson),
      ("ant_build_root", package.antBuildRoot.toJson),
      ("ant_build_xml", package.antBuildXml.toJson),
      ("ant_project_properties", package.antProjectProperties.toJson),
      ("app_lib_project", Json.ofNullable .text package.appLibProject)]

/-- Read the settings of an Android project. -/
def ofJson? (json : Json) : Option AndroidPackage := do
  let record ← Record.ofJson? 5 json
  let androidManifest ← record.required 0 "android_manifest" Path.ofJson?
  let antBuildXml ← record.required 1 "ant_build_xml" Path.ofJson?
  let antProjectProperties ← record.required 2 "ant_project_properties" Path.ofJson?
  let antBuildRoot ← record.required 3 "ant_build_root" Path.ofJson?
  let appLibProject ← record.optional 4 "app_lib_project" Json.text?
  some
    { androidManifest := androidManifest
      antBuildXml := antBuildXml
      antProjectProperties := antProjectProperties
      antBuildRoot := antBuildRoot
      appLibProject := appLibProject }

end AndroidPackage

namespace PythonProject

/-- Write the settings of a Python project. -/
def toJson (settings : PythonProject) : Json :=
  .object
    [("interpreter_id", Json.ofNullable Guid.toJson settings.interpreterId),
      ("interpreter_version", Json.ofNullable .text settings.interpreterVersion),
      ("search_paths", Json.ofList Path.toJson settings.searchPaths),
      ("startup_file", Json.ofNullable Path.toJson settings.startupFile)]

/-- Read the settings of a Python project. -/
def ofJson? (json : Json) : Option PythonProject := do
  let record ← Record.ofJson? 4 json
  let searchPaths ← record.required 0 "search_paths" (Json.list? Path.ofJson?)
  let startupFile ← record.optional 1 "startup_file" Path.ofJson?
  let interpreterId ← record.optional 2 "interpreter_id" Guid.ofJson?
  let interpreterVersion ← record.optional 3 "interpreter_version" Json.text?
  some
    { searchPaths := searchPaths
      startupFile := startupFile
      interpreterId := interpreterId
      interpreterVersion := interpreterVersion }

end PythonProject

namespace ProjectKind

/-- Write a kind as a variant. -/
def toJson : ProjectKind → Json
  | cpp => .text "cpp"
  | cSharp rootNamespace =>
      .object [("c_sharp", .object [("root_namespace", .text rootNamespace)])]
  | python settings => .object [("python", settings.toJson)]
  | androidPackage package => .object [("android_package", package.toJson)]

/-- Read the root name space of a C# project, which only an object holds. -/
def rootNamespace? : Json → Option String
  | .object fields => (Record.named fields).required 0 "root_namespace" Json.text?
  | _ => none

/-- Read a kind from a variant. -/
def ofJson? (json : Json) : Option ProjectKind := do
  match ← Json.variant? json with
  | ("cpp", contents) => if Json.isEmptyVariant contents then some cpp else none
  | ("c_sharp", some contents) => (rootNamespace? contents).map cSharp
  | ("python", some contents) => (PythonProject.ofJson? contents).map python
  | ("android_package", some contents) => (AndroidPackage.ofJson? contents).map androidPackage
  | _ => none

end ProjectKind

namespace Project

/-- Write a project. -/
def toJson (project : Project) : Json :=
  .object
    [("configurations", Json.ofList Configuration.toJson project.configurations),
      ("kind", project.kind.toJson),
      ("name", .text project.name),
      ("source_files", Json.ofList Path.toJson project.sourceFiles),
      ("source_root", project.sourceRoot.toJson)]

/-- Read a project; it has no source files unless they are given. -/
def ofJson? (json : Json) : Option Project := do
  let record ← Record.ofJson? 5 json
  let name ← record.required 0 "name" Json.text?
  let kind ← record.required 1 "kind" ProjectKind.ofJson?
  let sourceRoot ← record.required 2 "source_root" Path.ofJson?
  let sourceFiles ← record.defaulting 3 "source_files" (Json.list? Path.ofJson?) []
  let configurations ← record.required 4 "configurations" (Json.list? Configuration.ofJson?)
  some
    { name := name
      kind := kind
      sourceRoot := sourceRoot
      sourceFiles := sourceFiles
      configurations := configurations }

end Project

/-! ## Solutions -/

namespace IncludedProject

/-- Write an included project. -/
def toJson (included : IncludedProject) : Json :=
  .object
    [("build", .bool included.build),
      ("configuration", .text included.configuration),
      ("platform", .text included.platform),
      ("project", included.project.toJson)]

/-- Read an included project; it is built unless it says otherwise. -/
def ofJson? (json : Json) : Option IncludedProject := do
  let record ← Record.ofJson? 4 json
  let project ← record.required 0 "project" ProjectReference.ofJson?
  let configuration ← record.required 1 "configuration" Json.text?
  let platform ← record.required 2 "platform" Json.text?
  let build ← record.defaulting 3 "build" Json.bool? true
  some ⟨project, configuration, platform, build⟩

end IncludedProject

namespace SolutionConfiguration

/-- Write a configuration of a solution. -/
def toJson (configuration : SolutionConfiguration) : Json :=
  .object
    [("name", .text configuration.name),
      ("platform", .text configuration.platform),
      ("projects", Json.ofList IncludedProject.toJson configuration.projects)]

/-- Read a configuration of a solution. -/
def ofJson? (json : Json) : Option SolutionConfiguration := do
  let record ← Record.ofJson? 3 json
  let name ← record.required 0 "name" Json.text?
  let platform ← record.required 1 "platform" Json.text?
  let projects ← record.required 2 "projects" (Json.list? IncludedProject.ofJson?)
  some ⟨name, platform, projects⟩

end SolutionConfiguration

namespace Solution

/-- Write a solution. -/
def toJson (solution : Solution) : Json :=
  .object
    [("configurations", Json.ofList SolutionConfiguration.toJson solution.configurations),
      ("file", solution.file.toJson),
      ("name", .text solution.name)]

/-- Read a solution. -/
def ofJson? (json : Json) : Option Solution := do
  let record ← Record.ofJson? 3 json
  let name ← record.required 0 "name" Json.text?
  let file ← record.required 1 "file" Path.ofJson?
  let configurations ←
    record.required 2 "configurations" (Json.list? SolutionConfiguration.ofJson?)
  some ⟨name, file, configurations⟩

end Solution

/-! ## Settings -/

namespace Settings

/-- Write settings. -/
def toJson (settings : Settings) : Json :=
  .object
    [("case_sensitive_placeholders", .bool settings.caseSensitivePlaceholders),
      ("cleanup_database", Json.ofNullable Path.toJson settings.cleanupDatabase),
      ("dependency_check", settings.dependencyCheck.toJson),
      ("overwrite_read_only", .bool settings.overwriteReadOnly),
      ("parallel", .bool settings.parallel)]

/-- Read settings; each has its default unless it is given. -/
def ofJson? (json : Json) : Option Settings := do
  let record ← Record.ofJson? 5 json
  let standard : Settings := {}
  let dependencyCheck ←
    record.defaulting 0 "dependency_check" DependencyCheck.ofJson? standard.dependencyCheck
  let parallel ← record.defaulting 1 "parallel" Json.bool? standard.parallel
  let overwriteReadOnly ←
    record.defaulting 2 "overwrite_read_only" Json.bool? standard.overwriteReadOnly
  let cleanupDatabase ←
    record.defaulting 3 "cleanup_database" (Json.nullable? Path.ofJson?) standard.cleanupDatabase
  let caseSensitivePlaceholders ←
    record.defaulting 4 "case_sensitive_placeholders" Json.bool?
      standard.caseSensitivePlaceholders
  some
    { dependencyCheck := dependencyCheck
      parallel := parallel
      overwriteReadOnly := overwriteReadOnly
      cleanupDatabase := cleanupDatabase
      caseSensitivePlaceholders := caseSensitivePlaceholders }

end Settings

end ProjectFiles
