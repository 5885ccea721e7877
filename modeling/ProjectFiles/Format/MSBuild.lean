import ProjectFiles.Generation.Generator

/-!
# Parts of MSBuild files

The parts that project files of several kinds have in common: the list of
configurations, the source files and the references to other projects.
-/

namespace ProjectFiles.Format.MSBuild

/-! ## Templates -/

/-- The version of the tools that project files name. -/
def toolsVersion : String := "17.0"

/-- The start of the list of configurations. -/
def configurationsStart : String :=
  "  <ItemGroup Label=\"ProjectConfigurations\">\n"

/-- One configuration of the list. -/
def configurationItem : String :=
  Text.unlines
    ["    <ProjectConfiguration Include=\"[conf.name]|[conf.platform]\">",
      "      <Configuration>[conf.name]</Configuration>",
      "      <Platform>[conf.platform]</Platform>",
      "    </ProjectConfiguration>"]

/-- The start of a group of items. -/
def itemGroupStart : String :=
  "  <ItemGroup>\n"

/-- The end of a group of items. -/
def itemGroupEnd : String :=
  "  </ItemGroup>\n"

/-- A reference to a project. -/
def projectReference : String :=
  Text.unlines
    ["    <ProjectReference Include=\"[include]\">",
      "      <Project>[projectGuid]</Project>",
      "      <Name>[projectName]</Name>",
      "    </ProjectReference>"]

/-- One source file. -/
def sourceItem : String :=
  "    <[element] Include=\"[include]\" />\n"

/-! ## Parts -/

/-- What the templates of a configuration may refer to. -/
def configurationBindings (configuration : Configuration) (options : ExplicitOptions) :
    List (String × Value) :=
  [("conf", configuration.toValue), ("options", options.toValue)]

/-- Write a template once for every configuration and its options. -/
def writeConfigurations (buffer : OutputBuffer) (resolver : Resolver) (template : String)
    (configured : List (Configuration × ExplicitOptions)) :
    Except GenerationError OutputBuffer :=
  configured.foldlM
    (fun buffer entry =>
      buffer.writeIn resolver (configurationBindings entry.1 entry.2) template)
    buffer

/-- Write a template once for every configuration by itself. -/
def writeEachConfiguration (buffer : OutputBuffer) (resolver : Resolver) (template : String)
    (configurations : List Configuration) : Except GenerationError OutputBuffer :=
  configurations.foldlM
    (fun buffer configuration =>
      buffer.writeIn resolver [("conf", configuration.toValue)] template)
    buffer

/-- Write the list of configurations. -/
def writeConfigurationList (buffer : OutputBuffer) (resolver : Resolver)
    (context : GenerationContext) : Except GenerationError OutputBuffer := do
  let buffer := buffer.writeVerbatim configurationsStart
  let buffer ← writeEachConfiguration buffer resolver configurationItem context.configurations
  return buffer.writeVerbatim itemGroupEnd

/-- What the template of a reference may refer to. -/
def referenceBindings (context : GenerationContext) (reference : ProjectReference) :
    List (String × Value) :=
  [("include", .text (context.relative reference.projectFile)),
    ("projectGuid", .text reference.guid.braced),
    ("projectName", .text reference.projectName)]

/-- Write a reference to every project that the configurations refer to, and
nothing when there is none. -/
def writeReferences (buffer : OutputBuffer) (resolver : Resolver) (context : GenerationContext)
    (template : String) : Except GenerationError OutputBuffer :=
  if context.dependencies.isEmpty then
    return buffer
  else do
    let buffer := buffer.writeVerbatim itemGroupStart
    let buffer ←
      context.dependencies.foldlM
        (fun buffer reference =>
          buffer.writeIn resolver (referenceBindings context reference) template)
        buffer
    return buffer.writeVerbatim itemGroupEnd

/-- Write one item for every source file, and nothing when there is none.
`elementFor` chooses the element for an extension. -/
def writeSourceFiles (buffer : OutputBuffer) (resolver : Resolver) (context : GenerationContext)
    (elementFor : String → String) : Except GenerationError OutputBuffer :=
  if context.sourceFiles.isEmpty then
    return buffer
  else do
    let buffer := buffer.writeVerbatim itemGroupStart
    let buffer ←
      context.sourceFiles.foldlM
        (fun buffer file =>
          buffer.writeIn resolver
            [("element", .text (elementFor file.2)), ("include", .text file.1)] sourceItem)
        buffer
    return buffer.writeVerbatim itemGroupEnd

/-- A path of a configuration seen from the directory of its project file. -/
def relativeText (configuration : Configuration) (path : Path) : String :=
  (configuration.projectDirectory.relativeTo path).windowsText

/-- An axis that has a debug variant of the libraries. -/
def debugLibraries : OptionAxis :=
  .select "DebugLibraries"
    [.setting "DebugLibraries" "Enabled" [("UseDebugLibraries", .text "true")],
      .defaultSetting "DebugLibraries" "Disabled" [("UseDebugLibraries", .text "false")]]

end ProjectFiles.Format.MSBuild
