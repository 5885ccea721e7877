import ProjectFiles.Format.MSBuild

/-!
# Python project files

A Python project file names the interpreter, the file to start and the
directories to search; its configurations have no properties of their own.
-/

namespace ProjectFiles.Format.Python

open MSBuild

/-! ## Templates -/

/-- The start of a project file. -/
def projectStart : String :=
  "<Project DefaultTargets=\"Build\" xmlns=\"http://schemas.microsoft.com/developer/msbuild/2003\" ToolsVersion=\"4.0\">\n"

/-- The properties of the whole project. -/
def globals : String :=
  Text.unlines
    ["  <PropertyGroup>",
      "    <Configuration Condition=\" '$(Configuration)' == '' \">[first.name]</Configuration>",
      "    <SchemaVersion>2.0</SchemaVersion>",
      "    <ProjectGuid>[guid]</ProjectGuid>",
      "    <ProjectHome>[projectHome]</ProjectHome>",
      "    <StartupFile>[startupFile]</StartupFile>",
      "    <SearchPath>[searchPath]</SearchPath>",
      "    <WorkingDirectory>.</WorkingDirectory>",
      "    <OutputPath>.</OutputPath>",
      "    <ProjectTypeGuids>\x7b888888a0-9f3d-457c-b088-3a5042f75d52\x7d</ProjectTypeGuids>",
      "    <LaunchProvider>Standard Python launcher</LaunchProvider>",
      "    <InterpreterId>[interpreterId]</InterpreterId>",
      "    <InterpreterVersion>[interpreterVersion]</InterpreterVersion>",
      "  </PropertyGroup>"]

/-- The properties of a configuration. -/
def configurationProperties : String :=
  "  <PropertyGroup Condition=\"'$(Configuration)' == '[conf.name]'\" />\n"

/-- Where the tools are found. -/
def tools : String :=
  Text.unlines
    ["  <PropertyGroup>",
      "    <VisualStudioVersion Condition=\" '$(VisualStudioVersion)' == '' \">10.0</VisualStudioVersion>",
      "    <PtvsTargetsFile>$(MSBuildExtensionsPath32)\\Microsoft\\VisualStudio\\v$(VisualStudioVersion)\\Python Tools\\Microsoft.PythonTools.targets</PtvsTargetsFile>",
      "  </PropertyGroup>"]

/-- A reference to a project. -/
def projectReference : String :=
  Text.unlines
    ["    <ProjectReference Include=\"[include]\">",
      "      <Name>[projectName]</Name>",
      "      <Project>[projectGuid]</Project>",
      "      <Private>True</Private>",
      "    </ProjectReference>"]

/-- The end of a project file. -/
def projectEnd : String :=
  Text.unlines
    ["  <Import Project=\"$(PtvsTargetsFile)\" Condition=\"Exists($(PtvsTargetsFile))\" />",
      "</Project>"]

/-! ## Rendering -/

/-- The settings of a project that has none. -/
def defaultSettings : PythonProject := ⟨[], none, none, none⟩

/-- The element of a source file. -/
def elementFor (extension : String) : String :=
  if extension = "py" ∨ extension = "pyw" then "Compile" else "Content"

/-- A path with every slash turned into a backslash. -/
def backslashed (path : Path) : String :=
  path.text.map fun c => if c = '/' then '\\' else c

/-- The directories to search; without any they are omitted. -/
def searchPath (context : GenerationContext) (settings : PythonProject) : Value :=
  match settings.searchPaths with
  | [] => .omit
  | paths =>
      .list (paths.map fun path =>
        .text (context.relative (context.project.sourceRoot.join path)))

/-- What the template of the whole project may refer to. -/
def globalBindings (context : GenerationContext) (settings : PythonProject) :
    List (String × Value) :=
  [("first", context.first.toValue),
    ("guid", .text context.first.projectGuid.braced),
    ("projectHome", .text (context.relative context.project.sourceRoot)),
    ("startupFile", Value.ofText? (settings.startupFile.map backslashed)),
    ("searchPath", searchPath context settings),
    ("interpreterId", Value.ofText? (settings.interpreterId.map Guid.braced)),
    ("interpreterVersion", Value.ofText? settings.interpreterVersion)]

/-- Render a project file. -/
def render (context : GenerationContext) (settings : PythonProject) :
    Except GenerationError String := do
  let resolver := context.resolver
  let buffer := OutputBuffer.empty.writeVerbatim projectStart
  let buffer ← buffer.writeIn resolver (globalBindings context settings) globals
  let buffer ←
    writeEachConfiguration buffer resolver configurationProperties context.configurations
  let buffer := buffer.writeVerbatim tools
  let buffer ← writeSourceFiles buffer resolver context elementFor
  let buffer ← writeReferences buffer resolver context projectReference
  return (buffer.writeVerbatim projectEnd).finalize

/-- The generator of Python project files. -/
def generator : Generator where
  name := "pyproj"
  extension := "pyproj"
  supports kind := kind matches .python _
  generate context := do
    let settings :=
      match context.project.kind with
      | .python settings => settings
      | _ => defaultSettings
    let contents ← render context settings
    return [.file context.file contents]

end ProjectFiles.Format.Python
