import ProjectFiles.Model.Project
import ProjectFiles.Options
import ProjectFiles.Template.OutputBuffer
import ProjectFiles.Validation.Configurations
import ProjectFiles.Validation.Dependencies

/-!
# The context of one generated file

A context holds all that is needed to render one project file.  It exists only
for configurations that have been validated, so there is always a first one and
all of them belong to one project.
-/

namespace ProjectFiles

/-- The validated input of one generated file. -/
structure GenerationContext where
  project : Project
  /-- The generated file. -/
  file : Path
  /-- The first configuration by name and platform; sections about the whole
  project describe it. -/
  first : Configuration
  /-- The configurations behind the first one, in order. -/
  others : List Configuration
  /-- The projects that some configuration refers to, exported ones excepted, in
  the order in which they are first seen. -/
  dependencies : List ProjectReference
  settings : Settings
  /-- What the validation has found. -/
  warnings : List String

namespace GenerationContext

/-- Validate the configurations of a file. -/
def new (project : Project) (file : Path) (configurations : List Configuration)
    (settings : Settings) : Except GenerationError GenerationContext := do
  let sorted ← Configuration.sortAndValidate file configurations
  let found ←
    Configuration.checkDependencyConsistency project.name sorted settings.dependencyCheck
  match sorted with
  | [] => throw (.invalidModel (.noConfigurations file))
  | first :: others =>
      return {
        project := project
        file := file
        first := first
        others := others
        dependencies :=
          (Configuration.consolidatedDependencies sorted).filter fun reference =>
            !reference.exported
        settings := settings
        warnings := found.warnings }

/-- The directory of the generated file. -/
def directory (context : GenerationContext) : Path :=
  context.file.directory

/-- All configurations by name and platform. -/
def configurations (context : GenerationContext) : List Configuration :=
  context.first :: context.others

/-- A resolver without bindings for one rendering of the file. -/
def resolver (context : GenerationContext) : Resolver :=
  .new context.settings.caseSensitivePlaceholders

/-- The options of every configuration, in order, from the axes that
`axesFor` gives it. -/
def computeOptions (context : GenerationContext)
    (axesFor : Configuration → Except GenerationError (List OptionAxis)) :
    Except GenerationError (List ExplicitOptions) :=
  context.configurations.mapM fun configuration => do
    let axes ← axesFor configuration
    ExplicitOptions.ofAxes configuration axes

/-- A path seen from the directory of the generated file. -/
def relative (context : GenerationContext) (path : Path) : String :=
  (context.directory.relativeTo path).windowsText

/-- Remove every entry whose include path differs only in ASCII case from that
of the last entry kept. -/
def dropRepeated : List (String × String) → List (String × String)
  | [] => []
  | entry :: rest => entry :: dropAfter entry rest
where
  /-- Remove repetitions behind the entry kept last. -/
  dropAfter (kept : String × String) : List (String × String) → List (String × String)
    | [] => []
    | entry :: rest =>
        if Text.sameIgnoringAsciiCase entry.1 kept.1 then dropAfter kept rest
        else entry :: dropAfter entry rest

/-- Whether an include path may stand before another: case does not count. -/
def includeLE (left right : String × String) : Bool :=
  compare (Text.lowercase left.1) (Text.lowercase right.1) != .gt

/-- A source file as its include path and its extension. -/
def sourceEntry (context : GenerationContext) (file : Path) : String × String :=
  (context.relative (context.project.sourceRoot.join file), file.extension)

/-- The source files of the project as include paths and extensions, sorted
without regard to case and without repetitions. -/
def sourceFiles (context : GenerationContext) : List (String × String) :=
  dropRepeated ((context.project.sourceFiles.map context.sourceEntry).mergeSort includeLE)

end GenerationContext

end ProjectFiles
