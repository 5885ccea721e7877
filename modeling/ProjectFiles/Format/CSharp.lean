import ProjectFiles.Format.MSBuild
import ProjectFiles.Format.PackageList

/-!
# C# project files

All configurations of a C# project have to agree on the kind of binary and on
the framework, which are properties of the whole project.
-/

namespace ProjectFiles.Format.CSharp

open MSBuild

/-! ## Templates -/

/-- The start of a project file. -/
def projectStart : String :=
  Text.unlines
    ["<?xml version=\"1.0\" encoding=\"utf-8\"?>",
      "<Project ToolsVersion=\"[toolsVersion]\" DefaultTargets=\"Build\" xmlns=\"http://schemas.microsoft.com/developer/msbuild/2003\">",
      "  <Import Project=\"$(MSBuildExtensionsPath)\\$(MSBuildToolsVersion)\\Microsoft.Common.props\" Condition=\"Exists('$(MSBuildExtensionsPath)\\$(MSBuildToolsVersion)\\Microsoft.Common.props')\" />"]

/-- The properties of the whole project. -/
def globals : String :=
  Text.unlines
    ["  <PropertyGroup>",
      "    <Configuration Condition=\" '$(Configuration)' == '' \">[first.name]</Configuration>",
      "    <Platform Condition=\" '$(Platform)' == '' \">[first.platform]</Platform>",
      "    <ProjectGuid>[guid]</ProjectGuid>",
      "    <OutputType>[outputType]</OutputType>",
      "    <RootNamespace>[rootNamespace]</RootNamespace>",
      "    <AssemblyName>[assemblyName]</AssemblyName>",
      "    <TargetFrameworkVersion>[targetFramework]</TargetFrameworkVersion>",
      "    <FileAlignment>512</FileAlignment>",
      "  </PropertyGroup>"]

/-- The properties of a configuration. -/
def configurationProperties : String :=
  Text.unlines
    ["  <PropertyGroup Condition=\" '$(Configuration)|$(Platform)' == '[conf.name]|[conf.platform]' \">",
      "    <PlatformTarget>[conf.platform]</PlatformTarget>",
      "    <DebugSymbols>[options.DebugSymbols]</DebugSymbols>",
      "    <DebugType>[options.DebugType]</DebugType>",
      "    <Optimize>[options.Optimize]</Optimize>",
      "    <OutputPath>[options.OutputPath]\\</OutputPath>",
      "    <IntermediateOutputPath>[options.IntermediateOutputPath]\\</IntermediateOutputPath>",
      "    <DefineConstants>[options.DefineConstants]</DefineConstants>",
      "    <WarningLevel>[options.WarningLevel]</WarningLevel>",
      "    <TreatWarningsAsErrors>[options.TreatWarningsAsErrors]</TreatWarningsAsErrors>",
      "  </PropertyGroup>"]

/-- The item of the package list. -/
def packagesItem : String :=
  Text.unlines
    ["  <ItemGroup>",
      "    <None Include=\"packages.config\" />",
      "  </ItemGroup>"]

/-- The end of a project file. -/
def projectEnd : String :=
  Text.unlines
    ["  <Import Project=\"$(MSBuildToolsPath)\\Microsoft.CSharp.targets\" />",
      "</Project>"]

/-! ## Options -/

/-- The framework of a configuration that chooses none. -/
def defaultFramework : String := "v4.7.2"

/-- The compile-time constants of a configuration. -/
def defineConstants (configuration : Configuration) : Value :=
  match configuration.defines with
  | [] => .omit
  | defines => .text (";".intercalate defines)

/-- The kind of binary as the compiler knows it. -/
def outputType : OptionAxis :=
  .select "OutputType"
    [.output .dotNetConsoleApp [("OutputType", .text "Exe")],
      .output .dotNetWindowsApp [("OutputType", .text "WinExe")],
      .output .dotNetClassLibrary [("OutputType", .text "Library")]]

/-- The debug information that is written. -/
def debugInformation : OptionAxis :=
  .select "DebugInformation"
    [.setting "DebugInformation" "Full"
        [("DebugSymbols", .text "true"), ("DebugType", .text "full")],
      .defaultSetting "DebugInformation" "PdbOnly"
        [("DebugSymbols", .omit), ("DebugType", .text "pdbonly")],
      .setting "DebugInformation" "None"
        [("DebugSymbols", .text "false"), ("DebugType", .text "none")]]

/-- Whether the compiler optimizes. -/
def optimize : OptionAxis :=
  .select "Optimize"
    [.setting "Optimize" "Enabled" [("Optimize", .text "true")],
      .defaultSetting "Optimize" "Disabled" [("Optimize", .text "false")]]

/-- The warnings that are given. -/
def warningLevel : OptionAxis :=
  .selectWithFallback "WarningLevel"
    [.setting "WarningLevel" "Level0" [("WarningLevel", .integer 0)],
      .setting "WarningLevel" "Level1" [("WarningLevel", .integer 1)],
      .setting "WarningLevel" "Level2" [("WarningLevel", .integer 2)],
      .setting "WarningLevel" "Level3" [("WarningLevel", .integer 3)],
      .setting "WarningLevel" "Level4" [("WarningLevel", .integer 4)]]
    [("WarningLevel", .integer 4)]

/-- Whether warnings are errors, unless that is left to the tools. -/
def treatWarningsAsErrors : OptionAxis :=
  .selectWithFallback "TreatWarningsAsErrors"
    [.setting "TreatWarningsAsErrors" "Enabled" [("TreatWarningsAsErrors", .text "true")]]
    [("TreatWarningsAsErrors", .omit)]

/-- The framework of a configuration. -/
def framework (configuration : Configuration) : String :=
  (configuration.chosen? "TargetFramework").getD defaultFramework

/-- The option axes of a configuration. -/
def axes (configuration : Configuration) : List OptionAxis :=
  [outputType, debugInformation, optimize, warningLevel, treatWarningsAsErrors,
    .assign "TargetFrameworkVersion" (.text (framework configuration)),
    .assign "DefineConstants" (defineConstants configuration),
    .assign "OutputPath" (.text (relativeText configuration configuration.targetPath)),
    .assign "IntermediateOutputPath"
      (.text (relativeText configuration configuration.intermediatePath))]

/-! ## Rendering -/

/-- The properties on which all configurations of a project agree. -/
structure ProjectHeader where
  outputType : Value
  framework : Value
  rootNamespace : String

/-- The root name space of a project: its own, or else its name. -/
def rootNamespace (context : GenerationContext) : String :=
  match context.project.kind with
  | .cSharp rootNamespace => rootNamespace
  | _ => context.first.projectName

/-- Find the properties on which all configurations agree. -/
def ProjectHeader.ofOptions (context : GenerationContext) (options : List ExplicitOptions) :
    Except GenerationError ProjectHeader := do
  let outputType ← ExplicitOptions.uniform context.file "OutputType" options .omit
  let framework ←
    ExplicitOptions.uniform context.file "TargetFrameworkVersion" options
      (.text defaultFramework)
  return ⟨outputType, framework, CSharp.rootNamespace context⟩

/-- The element of a source file. -/
def elementFor (extension : String) : String :=
  if extension = "cs" then "Compile"
  else if extension = "xaml" then "Page"
  else if ["config", "json", "xml", "txt"].contains extension then "Content"
  else "None"

/-- What the template of the whole project may refer to. -/
def globalBindings (context : GenerationContext) (header : ProjectHeader) :
    List (String × Value) :=
  [("first", context.first.toValue),
    ("guid", .text context.first.projectGuid.braced),
    ("outputType", header.outputType),
    ("rootNamespace", .text header.rootNamespace),
    ("assemblyName", .text context.first.targetFileName),
    ("targetFramework", header.framework)]

/-- Render a project file with the options of its configurations. -/
def render (context : GenerationContext) (options : List ExplicitOptions)
    (header : ProjectHeader) (hasPackages : Bool) : Except GenerationError String := do
  let resolver := context.resolver
  let buffer ←
    OutputBuffer.empty.writeIn resolver [("toolsVersion", .text toolsVersion)] projectStart
  let buffer ← buffer.writeIn resolver (globalBindings context header) globals
  let buffer ←
    writeConfigurations buffer resolver configurationProperties
      (context.configurations.zip options)
  let buffer ← writeSourceFiles buffer resolver context elementFor
  let buffer := if hasPackages then buffer.writeVerbatim packagesItem else buffer
  let buffer ← writeReferences buffer resolver context projectReference
  return (buffer.writeVerbatim projectEnd).finalize

/-- The generator of C# project files and their package lists. -/
def generator : Generator where
  name := "csproj"
  extension := "csproj"
  supports kind := kind matches .cSharp _
  generate context := do
    let options ← context.computeOptions fun configuration => .ok (axes configuration)
    let header ← ProjectHeader.ofOptions context options
    let hasPackages := !(PackageList.packages context).isEmpty
    let contents ← render context options header hasPackages
    let packages ← PackageList.pending context header.framework.display
    return [.file context.file contents, packages]

end ProjectFiles.Format.CSharp
