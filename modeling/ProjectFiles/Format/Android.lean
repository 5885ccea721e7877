import ProjectFiles.Format.MSBuild

/-!
# Android packaging project files

An Android project packages the binaries of other projects.  The activity may
load one of them first, which has to be a dynamic library that every
configuration depends on.
-/

namespace ProjectFiles.Format.Android

open MSBuild

/-! ## Templates -/

/-- The start of a project file. -/
def projectStart : String :=
  Text.unlines
    ["<?xml version=\"1.0\" encoding=\"utf-8\"?>",
      "<Project DefaultTargets=\"Build\" ToolsVersion=\"[toolsVersion]\" xmlns=\"http://schemas.microsoft.com/developer/msbuild/2003\">"]

/-- The properties of the whole project. -/
def globals : String :=
  Text.unlines
    ["  <PropertyGroup Label=\"Globals\">",
      "    <ProjectGuid>[guid]</ProjectGuid>",
      "    <RootNamespace>[projectName]</RootNamespace>",
      "    <MinimumVisualStudioVersion>[toolsVersion]</MinimumVisualStudioVersion>",
      "    <ProjectVersion>1.0</ProjectVersion>",
      "    <ProjectName>[projectName]</ProjectName>",
      "    <AndroidTargetsPath>[androidTargetsPath]</AndroidTargetsPath>",
      "  </PropertyGroup>",
      "  <Import Project=\"$(AndroidTargetsPath)\\Android.Default.props\" />"]

/-- The general properties of a configuration. -/
def generalProperties : String :=
  Text.unlines
    ["  <PropertyGroup Condition=\"'$(Configuration)|$(Platform)'=='[conf.name]|[conf.platform]'\" Label=\"Configuration\">",
      "    <UseDebugLibraries>[options.UseDebugLibraries]</UseDebugLibraries>",
      "    <AndroidAPILevel>[options.AndroidAPILevel]</AndroidAPILevel>",
      "    <OutDir>$(ProjectDir)[options.OutputDirectory]\\</OutDir>",
      "    <IntDir>[options.IntermediateDirectory]\\</IntDir>",
      "    <TargetName>[options.OutputFile]</TargetName>",
      "    <ShowAndroidPathsVerbosity>[options.ShowAndroidPathsVerbosity]</ShowAndroidPathsVerbosity>",
      "  </PropertyGroup>"]

/-- What stands behind the general properties. -/
def afterGeneralProperties : String :=
  Text.unlines
    ["  <Import Project=\"$(AndroidTargetsPath)\\Android.props\" />",
      "  <ImportGroup Label=\"ExtensionSettings\">",
      "  </ImportGroup>",
      "  <ImportGroup Label=\"Shared\" />",
      "  <PropertyGroup Label=\"UserMacros\" />"]

/-- How a configuration is packaged. -/
def itemDefinition : String :=
  Text.unlines
    ["  <ItemDefinitionGroup Condition=\"'$(Configuration)|$(Platform)'=='[conf.name]|[conf.platform]'\">",
      "    <AntPackage>",
      "      <WorkingDirectory>[androidPackageDirectory]</WorkingDirectory>",
      "      <AndroidAppLibName>[options.AndroidAppLibName]</AndroidAppLibName>",
      "    </AntPackage>",
      "  </ItemDefinitionGroup>"]

/-- The files of the package. -/
def androidFiles : String :=
  Text.unlines
    ["  <ItemGroup>",
      "    <AntBuildXml Include=\"[antBuildXml]\" />",
      "    <AndroidManifest Include=\"[androidManifest]\" />",
      "    <AntProjectPropertiesFile Include=\"[antProjectPropertiesFile]\" />",
      "  </ItemGroup>"]

/-- What builds the package. -/
def targets : String :=
  Text.unlines
    ["  <Import Project=\"$(AndroidTargetsPath)\\Android.targets\" />",
      "  <ImportGroup Label=\"ExtensionTargets\" />"]

/-- The end of a project file. -/
def projectEnd : String :=
  "</Project>\n"

/-! ## Options -/

/-- The settings of a project that has none. -/
def defaultPackage : AndroidPackage := ⟨⟨""⟩, ⟨""⟩, ⟨""⟩, ⟨""⟩, none⟩

/-- The native library that the activity loads first. -/
def appLibName (configuration : Configuration) (package : AndroidPackage) :
    Except GenerationError Value :=
  match package.appLibProject with
  | none => .ok .omit
  | some project =>
      match configuration.dependencies.find? fun reference => reference.projectName == project with
      | none =>
          .error (.unsupportedDependency configuration.display
            ("missing dependency on app library project '" ++ project ++ "'"))
      | some reference =>
          if reference.output = .dll then
            .ok (.text reference.targetFileName)
          else
            .error (.unsupportedDependency configuration.display
              ("cannot use '" ++ reference.projectName ++
                "' as app library: output type must be a dynamic library"))

/-- A directory with a backslash at its end. -/
def closed (directory : String) : String :=
  if directory.toList.getLast? = some '\\' then directory else directory ++ "\\"

/-- How much the tools tell about paths, unless that is left to them. -/
def pathsVerbosity : OptionAxis :=
  .selectWithFallback "ShowAndroidPathsVerbosity"
    [.setting "ShowAndroidPathsVerbosity" "High" [("ShowAndroidPathsVerbosity", .text "High")],
      .setting "ShowAndroidPathsVerbosity" "Normal"
        [("ShowAndroidPathsVerbosity", .text "Normal")],
      .setting "ShowAndroidPathsVerbosity" "Low" [("ShowAndroidPathsVerbosity", .text "Low")]]
    [("ShowAndroidPathsVerbosity", .omit)]

/-- The option axes of a configuration. -/
def axes (package : AndroidPackage) (configuration : Configuration) :
    Except GenerationError (List OptionAxis) := do
  let appLib ← appLibName configuration package
  return [debugLibraries, pathsVerbosity,
    .assign "AndroidAPILevel" (configuration.settingOrOmit "AndroidAPILevel"),
    .assign "OutputFile" (.text configuration.targetFileName),
    .assign "AndroidAppLibName" appLib,
    .assign "OutputDirectory" (.text (relativeText configuration configuration.targetPath)),
    .assign "IntermediateDirectory"
      (.text (relativeText configuration configuration.intermediatePath)),
    .assign "AndroidTargetsPath"
      (Value.ofText? ((configuration.chosen? "AndroidTargetsPath").map closed))]

/-! ## Rendering -/

/-- The element of a source file. -/
def elementFor (extension : String) : String :=
  if extension = "h" ∨ extension = "hpp" then "ClInclude" else "Content"

/-- What the template of the whole project may refer to. -/
def globalBindings (context : GenerationContext) (targetsPath : Value) : List (String × Value) :=
  [("projectName", .text context.first.projectName),
    ("guid", .text context.first.projectGuid.braced),
    ("androidTargetsPath", targetsPath)]

/-- What the template of the package's files may refer to. -/
def fileBindings (context : GenerationContext) (package : AndroidPackage) :
    List (String × Value) :=
  [("antBuildXml", .text (context.relative package.antBuildXml)),
    ("androidManifest", .text (context.relative package.androidManifest)),
    ("antProjectPropertiesFile", .text (context.relative package.antProjectProperties))]

/-- Render a project file with the options of its configurations. -/
def render (context : GenerationContext) (options : List ExplicitOptions)
    (package : AndroidPackage) : Except GenerationError String := do
  let (resolver, _) := context.resolver.declare "toolsVersion" (.text toolsVersion)
  let configured := context.configurations.zip options
  let buffer ← OutputBuffer.empty.write resolver projectStart
  let buffer ← writeConfigurationList buffer resolver context
  let targetsPath ← ExplicitOptions.uniform context.file "AndroidTargetsPath" options .omit
  let buffer ← buffer.writeIn resolver (globalBindings context targetsPath) globals
  let buffer ← writeConfigurations buffer resolver generalProperties configured
  let buffer := buffer.writeVerbatim afterGeneralProperties
  let (inPackage, _) :=
    resolver.declare "androidPackageDirectory" (.text (context.relative package.antBuildRoot))
  let buffer ← writeConfigurations buffer inPackage itemDefinition configured
  let buffer ← writeSourceFiles buffer resolver context elementFor
  let buffer ← buffer.writeIn resolver (fileBindings context package) androidFiles
  let buffer := buffer.writeVerbatim targets
  let buffer ← writeReferences buffer resolver context projectReference
  return (buffer.writeVerbatim projectEnd).finalize

/-- The generator of Android packaging project files. -/
def generator : Generator where
  name := "androidproj"
  extension := "androidproj"
  supports kind := kind matches .androidPackage _
  generate context := do
    let package :=
      match context.project.kind with
      | .androidPackage package => package
      | _ => defaultPackage
    let options ← context.computeOptions (axes package)
    let contents ← render context options package
    return [.file context.file contents]

end ProjectFiles.Format.Android
