import ProjectFiles.Format.MSBuild

/-!
# Visual C++ project files

One project file describes all configurations of a C++ project: how each is
compiled and where its binary goes.
-/

namespace ProjectFiles.Format.VisualCpp

open MSBuild

/-! ## Templates -/

/-- The start of a project file. -/
def projectStart : String :=
  Text.unlines
    ["<?xml version=\"1.0\" encoding=\"utf-8\"?>",
      "<Project DefaultTargets=\"Build\" ToolsVersion=\"[toolsVersion]\" xmlns=\"http://schemas.microsoft.com/developer/msbuild/2003\">"]

/-- The properties of the whole project. -/
def globals : String :=
  Text.unlines
    ["  <PropertyGroup Label=\"Globals\">",
      "    <ProjectGuid>[guid]</ProjectGuid>",
      "    <RootNamespace>[projectName]</RootNamespace>",
      "    <ProjectName>[projectName]</ProjectName>",
      "    <WindowsTargetPlatformVersion>[windowsTargetPlatformVersion]</WindowsTargetPlatformVersion>",
      "  </PropertyGroup>",
      "  <Import Project=\"$(VCTargetsPath)\\Microsoft.Cpp.Default.props\" />"]

/-- The general properties of a configuration. -/
def generalProperties : String :=
  Text.unlines
    ["  <PropertyGroup Condition=\"'$(Configuration)|$(Platform)'=='[conf.name]|[conf.platform]'\" Label=\"Configuration\">",
      "    <ConfigurationType>[options.ConfigurationType]</ConfigurationType>",
      "    <UseDebugLibraries>[options.UseDebugLibraries]</UseDebugLibraries>",
      "    <CharacterSet>[options.CharacterSet]</CharacterSet>",
      "    <PlatformToolset>[options.PlatformToolset]</PlatformToolset>",
      "  </PropertyGroup>"]

/-- What stands behind the general properties. -/
def afterGeneralProperties : String :=
  Text.unlines
    ["  <Import Project=\"$(VCTargetsPath)\\Microsoft.Cpp.props\" />",
      "  <ImportGroup Label=\"ExtensionSettings\">",
      "  </ImportGroup>",
      "  <PropertyGroup Label=\"UserMacros\" />"]

/-- The directories and the file that a configuration builds. -/
def pathProperties : String :=
  Text.unlines
    ["  <PropertyGroup Condition=\"'$(Configuration)|$(Platform)'=='[conf.name]|[conf.platform]'\">",
      "    <OutDir>[options.OutputDirectory]\\</OutDir>",
      "    <IntDir>[options.IntermediateDirectory]\\</IntDir>",
      "    <TargetName>[options.TargetName]</TargetName>",
      "  </PropertyGroup>"]

/-- How a configuration compiles. -/
def itemDefinition : String :=
  Text.unlines
    ["  <ItemDefinitionGroup Condition=\"'$(Configuration)|$(Platform)'=='[conf.name]|[conf.platform]'\">",
      "    <ClCompile>",
      "      <WarningLevel>[options.WarningLevel]</WarningLevel>",
      "      <Optimization>[options.Optimization]</Optimization>",
      "      <PreprocessorDefinitions>[options.PreprocessorDefinitions]</PreprocessorDefinitions>",
      "    </ClCompile>",
      "  </ItemDefinitionGroup>"]

/-- The end of a project file. -/
def projectEnd : String :=
  Text.unlines
    ["  <Import Project=\"$(VCTargetsPath)\\Microsoft.Cpp.targets\" />",
      "  <ImportGroup Label=\"ExtensionTargets\">",
      "  </ImportGroup>",
      "</Project>"]

/-! ## Options -/

/-- The preprocessor definitions of a configuration, before those it inherits. -/
def preprocessorDefinitions (configuration : Configuration) : Value :=
  match configuration.defines with
  | [] => .omit
  | defines => .text (";".intercalate defines ++ ";%(PreprocessorDefinitions)")

/-- The kind of binary as the compiler knows it. -/
def configurationType : OptionAxis :=
  .select "ConfigurationType"
    [.output .exe [("ConfigurationType", .text "Application")],
      .output .lib [("ConfigurationType", .text "StaticLibrary")],
      .output .dll [("ConfigurationType", .text "DynamicLibrary")],
      { applies := fun configuration =>
          configuration.output == .utility || configuration.output == .none
        effect := [("ConfigurationType", .text "Utility")] }]

/-- The character set, unless it is left to the tools. -/
def characterSet : OptionAxis :=
  .selectWithFallback "CharacterSet"
    [.setting "CharacterSet" "Unicode" [("CharacterSet", .text "Unicode")],
      .setting "CharacterSet" "MultiByte" [("CharacterSet", .text "MultiByte")]]
    [("CharacterSet", .omit)]

/-- The warnings that are given. -/
def warningLevel : OptionAxis :=
  .select "WarningLevel"
    [.setting "WarningLevel" "Level0" [("WarningLevel", .text "TurnOffAllWarnings")],
      .setting "WarningLevel" "Level1" [("WarningLevel", .text "Level1")],
      .setting "WarningLevel" "Level2" [("WarningLevel", .text "Level2")],
      .defaultSetting "WarningLevel" "Level3" [("WarningLevel", .text "Level3")],
      .setting "WarningLevel" "Level4" [("WarningLevel", .text "Level4")],
      .setting "WarningLevel" "All" [("WarningLevel", .text "EnableAllWarnings")]]

/-- The optimization, unless it is left to the tools. -/
def optimization : OptionAxis :=
  .selectWithFallback "Optimization"
    [.setting "Optimization" "Disable" [("Optimization", .text "Disabled")],
      .setting "Optimization" "MinimizeSize" [("Optimization", .text "MinSpace")],
      .setting "Optimization" "MaximizeSpeed" [("Optimization", .text "MaxSpeed")],
      .setting "Optimization" "FullOptimization" [("Optimization", .text "Full")]]
    [("Optimization", .omit)]

/-- The option axes of a configuration. -/
def axes (configuration : Configuration) : List OptionAxis :=
  [configurationType, debugLibraries, characterSet, warningLevel, optimization,
    .assign "PlatformToolset" (configuration.settingOrOmit "PlatformToolset"),
    .assign "PreprocessorDefinitions" (preprocessorDefinitions configuration),
    .assign "TargetName" (.text configuration.targetFileName),
    .assign "OutputDirectory" (.text (relativeText configuration configuration.targetPath)),
    .assign "IntermediateDirectory"
      (.text (relativeText configuration configuration.intermediatePath))]

/-! ## Rendering -/

/-- The element of a source file. -/
def elementFor (extension : String) : String :=
  if ["c", "cc", "cpp", "cxx"].contains extension then "ClCompile"
  else if ["h", "hh", "hpp", "hxx", "inl"].contains extension then "ClInclude"
  else if extension = "rc" then "ResourceCompile"
  else "None"

/-- What the template of the whole project may refer to. -/
def globalBindings (context : GenerationContext) : List (String × Value) :=
  [("guid", .text context.first.projectGuid.braced),
    ("projectName", .text context.first.projectName),
    ("windowsTargetPlatformVersion", context.first.settingOrOmit "WindowsTargetPlatformVersion")]

/-- Render a project file with the options of its configurations. -/
def render (context : GenerationContext) (options : List ExplicitOptions) :
    Except GenerationError String := do
  let resolver := context.resolver
  let configured := context.configurations.zip options
  let buffer ←
    OutputBuffer.empty.writeIn resolver [("toolsVersion", .text toolsVersion)] projectStart
  let buffer ← writeConfigurationList buffer resolver context
  let buffer ← buffer.writeIn resolver (globalBindings context) globals
  let buffer ← writeConfigurations buffer resolver generalProperties configured
  let buffer := buffer.writeVerbatim afterGeneralProperties
  let buffer ← writeConfigurations buffer resolver pathProperties configured
  let buffer ← writeConfigurations buffer resolver itemDefinition configured
  let buffer ← writeSourceFiles buffer resolver context elementFor
  let buffer ← writeReferences buffer resolver context projectReference
  return (buffer.writeVerbatim projectEnd).finalize

/-- The generator of Visual C++ project files. -/
def generator : Generator where
  name := "vcxproj"
  extension := "vcxproj"
  supports kind := kind matches .cpp
  generate context := do
    let options ← context.computeOptions fun configuration => .ok (axes configuration)
    let contents ← render context options
    return [.file context.file contents]

end ProjectFiles.Format.VisualCpp
