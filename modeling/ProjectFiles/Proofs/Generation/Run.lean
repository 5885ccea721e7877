import ProjectFiles.Proofs.Generation.Outputs
import ProjectFiles.Proofs.Output.Progress

/-!
# The steps of a run

A run generates its projects, removes what they have left behind, generates its
solutions and cleans up.  The steps are listed here case by case: a project is
not rendered, stops at an output that is refused, or is finished; a solution is
not rendered, refused or written.
-/

namespace ProjectFiles

open Store PendingOutput

namespace GenerationReport

variable {report : GenerationReport}

theorem isSuccess_of_clean (clean : report.failures = []) : report.isSuccess = true := by
  simp [isSuccess, clean]

theorem isSuccess_of_failed (failed : report.failures ≠ []) : report.isSuccess = false := by
  simpa [isSuccess] using failed

end GenerationReport

namespace Builder

/-! ## Phases -/

/-- The state of a run when its projects have been generated. -/
def afterProjects (builder : Builder) (clock : Timestamp) (store : Store)
    (projects : List Project) : Workspace × GenerationReport :=
  projects.foldl builder.generateProject (⟨store, .new clock⟩, .empty)

/-- The state of a run when its solutions have been generated, too. -/
def afterSolutions (builder : Builder) (clock : Timestamp) (store : Store)
    (projects : List Project) (solutions : List Solution) : Workspace × GenerationReport :=
  solutions.foldl builder.generateSolution
    (removeStale (builder.afterProjects clock store projects))

/-- A run cleans up behind its projects and its solutions. -/
theorem generate_eq (builder : Builder) (clock : Timestamp) (store : Store)
    (projects : List Project) (solutions : List Solution) :
    builder.generate clock store projects solutions =
      ((builder.cleanUp (builder.afterSolutions clock store projects solutions)).1.store,
        (builder.cleanUp (builder.afterSolutions clock store projects solutions)).2) := rfl

/-! ## Projects -/

/-- Committing outputs one after the other, up to the first that is refused. -/
inductive CommitRun (overwriteReadOnly : Bool) :
    Workspace → GenerationOutput → List PendingOutput →
      Workspace → GenerationOutput → Option (Path × GenerationError) → Prop where
  | done {workspace : Workspace} {output : GenerationOutput} :
      CommitRun overwriteReadOnly workspace output [] workspace output none
  | next {workspace middle final : Workspace} {output recorded total : GenerationOutput}
      {pending : PendingOutput} {rest : List PendingOutput}
      {refusal : Option (Path × GenerationError)}
      (step : CommitStep overwriteReadOnly workspace output pending middle recorded (.ok ()))
      (run : CommitRun overwriteReadOnly middle recorded rest final total refusal) :
      CommitRun overwriteReadOnly workspace output (pending :: rest) final total refusal
  | stopped {workspace final : Workspace} {output recorded : GenerationOutput}
      {pending : PendingOutput} {rest : List PendingOutput} {error : GenerationError}
      (step : CommitStep overwriteReadOnly workspace output pending final recorded
        (.error error)) :
      CommitRun overwriteReadOnly workspace output (pending :: rest) final recorded
        (some (pending.path, error))

theorem commitAll_run (builder : Builder) (project : Project) (workspace : Workspace)
    (output : GenerationOutput) (pendings : List PendingOutput) :
    ∃ final recorded refusal,
      CommitRun builder.settings.overwriteReadOnly workspace output pendings final recorded
          refusal ∧
        builder.commitAll project workspace output pendings = (final,
          match refusal with
          | none => .ok recorded
          | some (path, error) => .error ⟨project.name, some path, error⟩) := by
  induction pendings generalizing workspace output with
  | nil => exact ⟨workspace, output, none, .done, rfl⟩
  | cons pending rest ih =>
      obtain ⟨next, recorded, result, committed, step⟩ :=
        pending.commit_step builder.settings.overwriteReadOnly workspace output
      unfold commitAll
      cases result with
      | ok done =>
          obtain ⟨final, total, refusal, run, ended⟩ := ih next recorded
          simp only [committed]
          exact ⟨final, total, refusal, .next step run, ended⟩
      | error error =>
          simp only [committed]
          exact ⟨next, recorded, some (pending.path, error), .stopped step, rfl⟩

/-- What generating a project does. -/
inductive ProjectStep (builder : Builder) (project : Project)
    (state : Workspace × GenerationReport) : Workspace × GenerationReport → Prop where
  | unrendered {failure : ProjectFailure} (fails : builder.renderProject project = .error failure) :
      ProjectStep builder project state (state.1, state.2.addFailure failure)
  | stopped {rendered : RenderedProject} {final : Workspace} {recorded : GenerationOutput}
      {path : Path} {error : GenerationError}
      (renders : builder.renderProject project = .ok rendered)
      (run : CommitRun builder.settings.overwriteReadOnly state.1 .empty rendered.pending final
        recorded (some (path, error))) :
      ProjectStep builder project state
        (final, state.2.addFailure ⟨project.name, some path, error⟩)
  | finished {rendered : RenderedProject} {final : Workspace} {recorded : GenerationOutput}
      (renders : builder.renderProject project = .ok rendered)
      (run : CommitRun builder.settings.overwriteReadOnly state.1 .empty rendered.pending final
        recorded none) :
      ProjectStep builder project state
        (final, { state.2 with
          output := state.2.output.merge recorded
          warnings := state.2.warnings ++ rendered.warnings })

theorem generateProject_step (builder : Builder) (project : Project)
    (state : Workspace × GenerationReport) :
    ProjectStep builder project state (builder.generateProject state project) := by
  unfold generateProject
  cases renders : builder.renderProject project with
  | error failure => exact .unrendered renders
  | ok rendered =>
      obtain ⟨final, recorded, refusal, run, ended⟩ :=
        builder.commitAll_run project state.1 .empty rendered.pending
      cases refusal with
      | none =>
          simp only [ended]
          exact .finished renders run
      | some refused =>
          simp only [ended]
          exact .stopped renders run

/-! ## Solutions -/

/-- What generating a solution does. -/
inductive SolutionStep (builder : Builder) (solution : Solution)
    (state : Workspace × GenerationReport) : Workspace × GenerationReport → Prop where
  | unrendered {error : GenerationError}
      (fails : Format.SolutionFile.render solution builder.settings = .error error) :
      SolutionStep builder solution state
        (state.1, state.2.addFailure ⟨solution.name, some solution.file, error⟩)
  | refused {contents : String} {final : Store} {error : GenerationError}
      (renders : Format.SolutionFile.render solution builder.settings = .ok contents)
      (step : WriteStep builder.settings.overwriteReadOnly state.1.store solution.file contents
        final (.error error)) :
      SolutionStep builder solution state
        (⟨final, state.1.session.recordOutput solution.file⟩,
          state.2.addFailure ⟨solution.name, some solution.file, error⟩)
  | written {contents : String} {final : Store} {outcome : WriteOutcome}
      (renders : Format.SolutionFile.render solution builder.settings = .ok contents)
      (step : WriteStep builder.settings.overwriteReadOnly state.1.store solution.file contents
        final (.ok outcome)) :
      SolutionStep builder solution state
        (⟨final, state.1.session.recordOutput solution.file⟩,
          { state.2 with output := state.2.output.record solution.file outcome })

theorem generateSolution_step (builder : Builder) (solution : Solution)
    (state : Workspace × GenerationReport) :
    SolutionStep builder solution state (builder.generateSolution state solution) := by
  unfold generateSolution
  cases renders : Format.SolutionFile.render solution builder.settings with
  | error error => exact .unrendered renders
  | ok contents =>
      obtain ⟨final, result, written, step⟩ :=
        state.1.write_step builder.settings.overwriteReadOnly solution.file contents
      cases result with
      | error error =>
          simp only [Workspace.writeInto, written]
          exact .refused renders step
      | ok outcome =>
          simp only [Workspace.writeInto, written]
          exact .written renders step

/-! ## What the steps keep -/

theorem CommitRun.progress {overwriteReadOnly : Bool} {before after : Workspace}
    {output recorded : GenerationOutput} {pendings : List PendingOutput}
    {refusal : Option (Path × GenerationError)}
    (run : CommitRun overwriteReadOnly before output pendings after recorded refusal) :
    before.Progress overwriteReadOnly after := by
  induction run with
  | done => exact .refl overwriteReadOnly _
  | next step _ ih => exact (Workspace.Progress.commit step).trans ih
  | stopped step => exact .commit step

/-- Whatever a project reports has been recorded and is there. -/
theorem CommitRun.hasAll {overwriteReadOnly : Bool} {before after : Workspace}
    {output recorded : GenerationOutput} {pendings : List PendingOutput}
    {refusal : Option (Path × GenerationError)}
    (run : CommitRun overwriteReadOnly before output pendings after recorded refusal)
    (all : before.HasAll output.listed) : after.HasAll recorded.listed := by
  induction run with
  | done => exact all
  | next step _ ih => exact ih (step.hasAll all)
  | stopped step => exact step.hasAll all

/-- What a phase keeps: it makes progress, its failures add to the earlier ones,
and whatever is reported is there. -/
structure Advance (builder : Builder) (before after : Workspace × GenerationReport) : Prop where
  progress : before.1.Progress builder.settings.overwriteReadOnly after.1
  failures : before.2.failures <+: after.2.failures
  hasAll : before.1.HasAll before.2.output.listed → after.1.HasAll after.2.output.listed
  cleanup_eq : after.2.cleanup = before.2.cleanup

theorem Advance.refl (builder : Builder) (state : Workspace × GenerationReport) :
    builder.Advance state state :=
  ⟨.refl _ _, List.prefix_rfl, id, rfl⟩

theorem Advance.trans {builder : Builder} {first second third : Workspace × GenerationReport}
    (former : builder.Advance first second) (latter : builder.Advance second third) :
    builder.Advance first third :=
  ⟨former.progress.trans latter.progress, former.failures.trans latter.failures,
    latter.hasAll ∘ former.hasAll, latter.cleanup_eq.trans former.cleanup_eq⟩

theorem ProjectStep.advance {builder : Builder} {project : Project}
    {before after : Workspace × GenerationReport}
    (step : ProjectStep builder project before after) :
    builder.Advance before after := by
  cases step with
  | unrendered => exact ⟨.refl _ _, List.prefix_append _ _, id, rfl⟩
  | stopped _ run =>
      exact ⟨run.progress, List.prefix_append _ _, fun all => all.progress run.progress, rfl⟩
  | finished _ run =>
      refine ⟨run.progress, List.prefix_rfl, fun all path member => ?_, rfl⟩
      rcases GenerationOutput.mem_listed_merge.1 member with earlier | own
      · exact all.progress run.progress path earlier
      · exact run.hasAll (by simp [Workspace.HasAll, GenerationOutput.listed,
          GenerationOutput.empty]) path own

theorem advance_foldl_generateProject (builder : Builder) (state : Workspace × GenerationReport)
    (projects : List Project) :
    builder.Advance state (projects.foldl builder.generateProject state) := by
  induction projects generalizing state with
  | nil => exact .refl builder state
  | cons project rest ih => exact (builder.generateProject_step project state).advance.trans (ih _)

theorem SolutionStep.advance {builder : Builder} {solution : Solution}
    {before after : Workspace × GenerationReport}
    (step : SolutionStep builder solution before after) : builder.Advance before after := by
  have recorded := before.1.session.produced_recordOutput solution.file
  cases step with
  | unrendered => exact ⟨.refl _ _, List.prefix_append _ _, id, rfl⟩
  | refused _ step =>
      have progress := Workspace.Progress.write step recorded fun _ => id
      exact ⟨progress, List.prefix_append _ _, fun all => all.progress progress, rfl⟩
  | written _ step =>
      have progress := Workspace.Progress.write step recorded fun _ => id
      refine ⟨progress, List.prefix_rfl, fun all path member => ?_, rfl⟩
      rcases GenerationOutput.mem_listed_record.1 member with rfl | earlier
      · exact ⟨by simp [recorded], step.file?_ne_none_of_ok⟩
      · exact all.progress progress path earlier

theorem advance_foldl_generateSolution (builder : Builder) (state : Workspace × GenerationReport)
    (solutions : List Solution) :
    builder.Advance state (solutions.foldl builder.generateSolution state) := by
  induction solutions generalizing state with
  | nil => exact .refl builder state
  | cons solution rest ih =>
      exact (builder.generateSolution_step solution state).advance.trans (ih _)

/-- The projects of a run, seen from its start. -/
theorem advance_afterProjects (builder : Builder) (clock : Timestamp) (store : Store)
    (projects : List Project) :
    builder.Advance (⟨store, .new clock⟩, .empty) (builder.afterProjects clock store projects) :=
  builder.advance_foldl_generateProject _ projects

/-- The solutions of a run, seen from where its projects have ended. -/
theorem advance_afterSolutions (builder : Builder) (clock : Timestamp) (store : Store)
    (projects : List Project) (solutions : List Solution) :
    builder.Advance (removeStale (builder.afterProjects clock store projects))
      (builder.afterSolutions clock store projects solutions) :=
  builder.advance_foldl_generateSolution _ solutions

end Builder

end ProjectFiles
