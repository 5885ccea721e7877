import Mathlib.Logic.Relation
import ProjectFiles.Generation.Run

/-!
# Committers

A committer writes the rendered outputs of one project in atomic steps, so that
several of them can share a store and a session and take their steps in any
order.  A write records its path, reads the file, asks whether it is read-only,
makes it writable and writes it, each in a step of its own; claiming a shared
output, giving a claim back and deferring a removal are single steps.
-/

namespace ProjectFiles

open Relation

/-- An output that is being written. -/
structure WriteJob where
  path : Path
  contents : String
  /-- Whether the output is claimed. -/
  shared : Bool
  deriving DecidableEq

/-- What a committer does next. -/
inductive Activity where
  /-- Take up the next output. -/
  | idle
  | recording (job : WriteJob)
  | reading (job : WriteJob)
  /-- Ask whether the file, which has other contents, is read-only. -/
  | inspecting (job : WriteJob)
  | unlocking (job : WriteJob)
  | writing (job : WriteJob)
  /-- Give the claim back after an error. -/
  | releasing (job : WriteJob) (error : GenerationError)
  /-- Nothing: the project has failed. -/
  | stopped (failure : ProjectFailure)
  deriving DecidableEq

/-- A project that is being committed. -/
structure Committer where
  project : Project
  warnings : List String
  /-- The outputs still to be taken up. -/
  pending : List PendingOutput
  activity : Activity
  /-- The outputs written so far. -/
  output : GenerationOutput

namespace Committer

/-- Finish the output being written. -/
def finish (committer : Committer) (job : WriteJob) (outcome : WriteOutcome) : Committer :=
  { committer with activity := .idle, output := committer.output.record job.path outcome }

/-- Fail at the output being written. -/
def fail (committer : Committer) (job : WriteJob) (error : GenerationError) : Committer :=
  { committer with
    activity :=
      if job.shared then .releasing job error
      else .stopped ⟨committer.project.name, some job.path, error⟩ }

/-- Take up an output. -/
def takeUp (workspace : Workspace) (committer : Committer) :
    PendingOutput → List PendingOutput → Workspace × Committer
  | .file path contents, rest =>
      (workspace,
        { committer with pending := rest, activity := .recording ⟨path, contents, false⟩ })
  | .shared path contents, rest =>
      match workspace.claim path with
      | (claimed, true) =>
          (claimed,
            { committer with pending := rest, activity := .recording ⟨path, contents, true⟩ })
      | (unchanged, false) => (unchanged, { committer with pending := rest })
  | .staleShared path, rest =>
      (⟨workspace.store, workspace.session.deferStale path⟩, { committer with pending := rest })

/-- The next step of a committer, if it is not done. -/
def step? (overwriteReadOnly : Bool) (workspace : Workspace) (committer : Committer) :
    Option (Workspace × Committer) :=
  match committer.activity with
  | .idle =>
      match committer.pending with
      | [] => none
      | output :: rest => some (takeUp workspace committer output rest)
  | .recording job =>
      some (⟨workspace.store, workspace.session.recordOutput job.path⟩,
        { committer with activity := .reading job })
  | .reading job =>
      let (store, existing) := workspace.store.read job.path
      some (⟨store, workspace.session⟩,
        match existing with
        | none => { committer with activity := .writing job }
        | some stored =>
            if stored = job.contents then committer.finish job .skipped
            else { committer with activity := .inspecting job })
  | .inspecting job =>
      some (workspace,
        match workspace.store.isReadOnly job.path with
        | .error fault => committer.fail job (.io fault)
        | .ok false => { committer with activity := .writing job }
        | .ok true =>
            if overwriteReadOnly then { committer with activity := .unlocking job }
            else
              committer.fail job
                (.filesystemConflict job.path "file is read-only and its content changed"))
  | .unlocking job =>
      match workspace.store.setReadOnly job.path false with
      | (store, .ok ()) =>
          some (⟨store, workspace.session⟩, { committer with activity := .writing job })
      | (store, .error fault) =>
          some (⟨store, workspace.session⟩, committer.fail job (.io fault))
  | .writing job =>
      match workspace.store.write job.path job.contents with
      | (store, .ok ()) => some (⟨store, workspace.session⟩, committer.finish job .generated)
      | (store, .error fault) =>
          some (⟨store, workspace.session⟩, committer.fail job (.io fault))
  | .releasing job error =>
      some (workspace.release job.path,
        { committer with
          activity := .stopped ⟨committer.project.name, some job.path, error⟩ })
  | .stopped _ => none

/-- Add the outcome of a committer that is done to a report. -/
def report (before : GenerationReport) (committer : Committer) : GenerationReport :=
  match committer.activity with
  | .stopped failure => before.addFailure failure
  | _ =>
      { before with
        output := before.output.merge committer.output
        warnings := before.warnings ++ committer.warnings }

end Committer

/-! ## Interleaving -/

/-- A step of one of several committers. -/
inductive Committer.Step (overwriteReadOnly : Bool) :
    Workspace × List Committer → Workspace × List Committer → Prop where
  | mk {workspace next : Workspace} {committer moved : Committer} (before after : List Committer)
      (taken : committer.step? overwriteReadOnly workspace = some (next, moved)) :
      Step overwriteReadOnly (workspace, before ++ committer :: after)
        (next, before ++ moved :: after)

/-- Whether committers take steps, in some order, until all of them are done. -/
def Committer.Completes (overwriteReadOnly : Bool) (start final : Workspace × List Committer) :
    Prop :=
  ReflTransGen (Step overwriteReadOnly) start final ∧
    ∀ committer ∈ final.2, committer.step? overwriteReadOnly final.1 = none

namespace Builder

/-- The committer of a project.  A project that cannot be rendered has failed. -/
def committer (builder : Builder) (project : Project) : Committer :=
  match builder.renderProject project with
  | .ok rendered => ⟨project, rendered.warnings, rendered.pending, .idle, .empty⟩
  | .error failure => ⟨project, [], [], .stopped failure, .empty⟩

/-- The state of a run whose committers are done, with their outcomes in the
order of the projects. -/
def merged (final : Workspace × List Committer) : Workspace × GenerationReport :=
  (final.1, final.2.foldl Committer.report .empty)

end Builder

/-! ## One committer on its own -/

namespace Committer

variable {overwriteReadOnly : Bool} {committer : Committer} {store : Store} {session : Session}
variable {job : WriteJob}

/-- A step of a committer that is on its own. -/
def Moves (overwriteReadOnly : Bool) (before after : Workspace × Committer) : Prop :=
  before.2.step? overwriteReadOnly before.1 = some after

/-- A run of a committer that is on its own. -/
def Runs (overwriteReadOnly : Bool) : Workspace × Committer → Workspace × Committer → Prop :=
  ReflTransGen (Moves overwriteReadOnly)

theorem moves_recording :
    Moves overwriteReadOnly (⟨store, session⟩, { committer with activity := .recording job })
      (⟨store, session.recordOutput job.path⟩, { committer with activity := .reading job }) :=
  rfl

theorem moves_reading :
    Moves overwriteReadOnly (⟨store, session⟩, { committer with activity := .reading job })
      (⟨store.record .read job.path, session⟩,
        match store.contents? job.path with
        | none => { committer with activity := .writing job }
        | some stored =>
            if stored = job.contents then committer.finish job .skipped
            else { committer with activity := .inspecting job }) :=
  rfl

theorem moves_inspecting :
    Moves overwriteReadOnly (⟨store, session⟩, { committer with activity := .inspecting job })
      (⟨store, session⟩,
        match store.isReadOnly job.path with
        | .error fault => committer.fail job (.io fault)
        | .ok false => { committer with activity := .writing job }
        | .ok true =>
            if overwriteReadOnly then { committer with activity := .unlocking job }
            else
              committer.fail job
                (.filesystemConflict job.path "file is read-only and its content changed")) :=
  rfl

theorem moves_unlocking {writable : Store}
    (unlocked : store.setReadOnly job.path false = (writable, .ok ())) :
    Moves overwriteReadOnly (⟨store, session⟩, { committer with activity := .unlocking job })
      (⟨writable, session⟩, { committer with activity := .writing job }) := by
  simp [Moves, step?, unlocked]

theorem moves_unlocking_error {final : Store} {fault : StoreFault}
    (refused : store.setReadOnly job.path false = (final, .error fault)) :
    Moves overwriteReadOnly (⟨store, session⟩, { committer with activity := .unlocking job })
      (⟨final, session⟩, committer.fail job (.io fault)) := by
  simp [Moves, step?, refused, fail]

/-- What is left of a committer when its current output has been written. -/
def settle (committer : Committer) (job : WriteJob) :
    Except GenerationError WriteOutcome → Committer
  | .ok outcome => committer.finish job outcome
  | .error error => committer.fail job error

/-- The last step of a write, in the terms of the whole write. -/
theorem runs_writing (overwriteReadOnly : Bool) (committer : Committer) (job : WriteJob)
    (store : Store) (session : Session) {written : Workspace × Except GenerationError WriteOutcome}
    (isWrite : (match store.write job.path job.contents with
      | (final, .ok ()) => (⟨final, session⟩, .ok .generated)
      | (final, .error fault) => (⟨final, session⟩, .error (.io fault))) = written) :
    Runs overwriteReadOnly (⟨store, session⟩, { committer with activity := .writing job })
      (written.1, committer.settle job written.2) := by
  apply ReflTransGen.single
  rw [← isWrite]
  cases stored : store.write job.path job.contents with
  | mk final result => cases result <;> simp [Moves, step?, stored, settle, finish, fail]

/-- The steps of a write come to the same as the whole write. -/
theorem runs_write (overwriteReadOnly : Bool) (workspace : Workspace) (committer : Committer)
    (job : WriteJob) :
    Runs overwriteReadOnly (workspace, { committer with activity := .recording job })
      ((workspace.write overwriteReadOnly job.path job.contents).1,
        committer.settle job
          (workspace.write overwriteReadOnly job.path job.contents).2) := by
  obtain ⟨store, session⟩ := workspace
  apply ReflTransGen.head moves_recording
  apply ReflTransGen.head moves_reading
  unfold Workspace.write
  simp only [Store.read]
  cases stored : store.contents? job.path with
  | none => exact runs_writing overwriteReadOnly committer job _ _ rfl
  | some old =>
      by_cases same : old = job.contents
      · simp only [same, if_true]
        exact .refl
      · simp only [same, if_false]
        apply ReflTransGen.head moves_inspecting
        cases (store.record .read job.path).isReadOnly job.path with
        | error fault => exact .refl
        | ok readOnly =>
            cases readOnly with
            | false => exact runs_writing overwriteReadOnly committer job _ _ rfl
            | true =>
                cases overwriteReadOnly with
                | false => exact .refl
                | true =>
                    cases unlocked : (store.record .read job.path).setReadOnly job.path false with
                    | mk writable result =>
                        cases result with
                        | error fault => exact ReflTransGen.single (moves_unlocking_error unlocked)
                        | ok =>
                            apply ReflTransGen.head (moves_unlocking unlocked)
                            exact runs_writing true committer job _ _ rfl

/-- Whether a committer is done. -/
def IsDone (committer : Committer) : Prop :=
  (committer.activity = .idle ∧ committer.pending = []) ∨
    ∃ failure, committer.activity = .stopped failure

theorem step?_eq_none_iff {workspace : Workspace} :
    committer.step? overwriteReadOnly workspace = none ↔ committer.IsDone := by
  unfold IsDone step?
  cases activity : committer.activity with
  | idle => cases committer.pending <;> simp
  | recording job | reading job | inspecting job => simp
  | unlocking job =>
      cases unlocked : workspace.store.setReadOnly job.path false with
      | mk final result => cases result <;> simp [unlocked]
  | writing job =>
      cases stored : workspace.store.write job.path job.contents with
      | mk final result => cases result <;> simp [stored]
  | releasing job error => simp
  | stopped failure => simp

end Committer

end ProjectFiles
