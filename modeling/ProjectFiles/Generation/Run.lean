import ProjectFiles.Format.Android
import ProjectFiles.Format.CSharp
import ProjectFiles.Format.Python
import ProjectFiles.Format.SolutionFile
import ProjectFiles.Format.VisualCpp
import ProjectFiles.Output.Database

/-!
# Generation runs

A run generates projects and then solutions.  Every file of a project is
rendered before the first of them is written, so a project that cannot be
rendered writes nothing, and it does not stop the others.  Files that are no
longer produced are removed only when nothing has failed.
-/

namespace ProjectFiles

/-- The generators of all project files that this library knows. -/
def GeneratorRegistry.standard : GeneratorRegistry :=
  .ofList
    [Format.VisualCpp.generator, Format.CSharp.generator, Format.Python.generator,
      Format.Android.generator]

/-- A project or a solution that could not be generated. -/
structure ProjectFailure where
  /-- The name of the project or the solution. -/
  project : String
  /-- The file that was being generated. -/
  file : Option Path
  error : GenerationError
  deriving DecidableEq, Repr

/-- A failure as messages report it. -/
def ProjectFailure.display (failure : ProjectFailure) : String :=
  match failure.file with
  | some file => failure.project ++ " (" ++ file.text ++ "): " ++ failure.error.message
  | none => failure.project ++ ": " ++ failure.error.message

/-- The outcome of a run. -/
structure GenerationReport where
  /-- The outputs in the order of their projects. -/
  output : GenerationOutput
  failures : List ProjectFailure
  /-- What validation has found, behind the name of the project. -/
  warnings : List String
  /-- What the cleanup has done, if there was one. -/
  cleanup : Option CleanupReport
  deriving DecidableEq, Repr

namespace GenerationReport

/-- The report on nothing. -/
def empty : GenerationReport := ⟨.empty, [], [], none⟩

/-- Whether nothing has failed. -/
def isSuccess (report : GenerationReport) : Bool :=
  report.failures.isEmpty

/-- The numbers of outputs and failures. -/
def display (report : GenerationReport) : String :=
  report.output.display ++ " Failed: " ++ GenerationOutput.countText report.failures.length

/-- Add a failure. -/
def addFailure (report : GenerationReport) (failure : ProjectFailure) : GenerationReport :=
  { report with failures := report.failures ++ [failure] }

end GenerationReport

/-- The rendered outputs of a project and what validation has found. -/
structure RenderedProject where
  pending : List PendingOutput
  warnings : List String

/-- What runs generators over projects and solutions. -/
structure Builder where
  settings : Settings
  registry : GeneratorRegistry

namespace Builder

/-- A builder with the standard generators. -/
def new (settings : Settings) : Builder := ⟨settings, .standard⟩

/-- Register a further generator in place of an earlier one for its extension. -/
def withGenerator (builder : Builder) (generator : Generator) : Builder :=
  { builder with registry := builder.registry.register generator }

/-! ## Rendering -/

/-- Render one file of a project. -/
def renderFile (builder : Builder) (project : Project) (file : Path)
    (configurations : List Configuration) : Except GenerationError RenderedProject := do
  let generator ← builder.registry.forFile file project.kind
  let context ← GenerationContext.new project file configurations builder.settings
  let pending ← generator.generate context
  return ⟨pending, context.warnings.map fun warning => project.name ++ ": " ++ warning⟩

/-- Render files of a project, up to the first that fails. -/
def renderFiles (builder : Builder) (project : Project) :
    List (Path × List Configuration) → Except ProjectFailure RenderedProject
  | [] => .ok ⟨[], []⟩
  | (file, configurations) :: rest =>
      match builder.renderFile project file configurations with
      | .error error => .error ⟨project.name, some file, error⟩
      | .ok first =>
          (renderFiles builder project rest).map fun others =>
            ⟨first.pending ++ others.pending, first.warnings ++ others.warnings⟩

/-- Render every file of a project. -/
def renderProject (builder : Builder) (project : Project) :
    Except ProjectFailure RenderedProject :=
  match project.configurationsByFile with
  | [] => .error ⟨project.name, none, .invalidModel (.emptyProject project.name)⟩
  | groups => builder.renderFiles project groups

/-! ## Writing -/

/-- Write the outputs of a project, up to the first that fails. -/
def commitAll (builder : Builder) (project : Project) (workspace : Workspace)
    (output : GenerationOutput) :
    List PendingOutput → Workspace × Except ProjectFailure GenerationOutput
  | [] => (workspace, .ok output)
  | pending :: rest =>
      match pending.commit builder.settings.overwriteReadOnly workspace output with
      | (next, recorded, .ok ()) => commitAll builder project next recorded rest
      | (next, _, .error error) => (next, .error ⟨project.name, some pending.path, error⟩)

/-- Generate a project and add its outcome to a report.  Outputs of a project
that fails are not reported. -/
def generateProject (builder : Builder) (state : Workspace × GenerationReport)
    (project : Project) : Workspace × GenerationReport :=
  let (workspace, report) := state
  match builder.renderProject project with
  | .error failure => (workspace, report.addFailure failure)
  | .ok rendered =>
      match builder.commitAll project workspace .empty rendered.pending with
      | (next, .error failure) => (next, report.addFailure failure)
      | (next, .ok output) =>
          (next,
            { report with
              output := report.output.merge output
              warnings := report.warnings ++ rendered.warnings })

/-- Generate a solution and add its outcome to a report. -/
def generateSolution (builder : Builder) (state : Workspace × GenerationReport)
    (solution : Solution) : Workspace × GenerationReport :=
  let (workspace, report) := state
  let failure (error : GenerationError) : ProjectFailure :=
    ⟨solution.name, some solution.file, error⟩
  match Format.SolutionFile.render solution builder.settings with
  | .error error => (workspace, report.addFailure (failure error))
  | .ok contents =>
      match workspace.writeInto builder.settings.overwriteReadOnly solution.file contents
          report.output with
      | (next, output, .ok _) => (next, { report with output := output })
      | (next, output, .error error) =>
          (next, { report with output := output }.addFailure (failure error))

/-- Remove what the projects of a run have left behind, unless one has failed. -/
def removeStale (state : Workspace × GenerationReport) : Workspace × GenerationReport :=
  if state.2.isSuccess then (state.1.removeUnclaimed.1, state.2) else state

/-- Remove what earlier runs have left behind, unless something has failed or no
database is kept. -/
def cleanUp (builder : Builder) (state : Workspace × GenerationReport) :
    Workspace × Except GenerationError GenerationReport :=
  let (workspace, report) := state
  match builder.settings.cleanupDatabase with
  | none => (workspace, .ok report)
  | some database =>
      if report.isSuccess then
        match workspace.cleanup database with
        | (final, .ok cleanup) => (final, .ok { report with cleanup := some cleanup })
        | (final, .error error) => (final, .error error)
      else
        (workspace, .ok report)

/-- Generate projects and then solutions into a store.  Failures are reported;
the only error is that the database of outputs cannot be stored. -/
def generate (builder : Builder) (clock : Timestamp) (store : Store) (projects : List Project)
    (solutions : List Solution) : Store × Except GenerationError GenerationReport :=
  let start : Workspace × GenerationReport := (⟨store, .new clock⟩, .empty)
  let generated := removeStale (projects.foldl builder.generateProject start)
  let finished := solutions.foldl builder.generateSolution generated
  let (workspace, result) := builder.cleanUp finished
  (workspace.store, result)

end Builder

end ProjectFiles
