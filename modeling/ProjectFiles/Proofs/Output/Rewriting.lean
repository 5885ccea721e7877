import ProjectFiles.Proofs.Output.Commit

/-!
# Sequences of writes

Outputs are written over and over, under one spelling or another.  Each write is looked
at together with the stores before and after it.  A file holds what was written to it
last, it has been touched just as often as its contents have changed, and a write that
a read-only file refuses leaves nothing behind but the record of the output.
-/

namespace ProjectFiles

open Store

/-! ## Writes that have been tried -/

/-- A write that has been tried, with the stores before and after it. -/
structure WriteEvent where
  path : Path
  contents : String
  before : Store
  after : Store
  result : Except GenerationError WriteOutcome

namespace WriteEvent

/-- Whether a write has replaced a file. -/
def isGenerated (event : WriteEvent) : Bool :=
  match event.result with
  | .ok .generated => true
  | .ok .skipped | .error _ => false

/-- The contents that a write has given to the file at a path, if it is the file's and
has succeeded. -/
def written? (event : WriteEvent) (path : Path) : Option String :=
  match event.result with
  | .ok _ => if event.path.same path then some event.contents else none
  | .error _ => none

/-- Whether an event is what the writer does. -/
def IsStep (event : WriteEvent) (overwriteReadOnly : Bool) : Prop :=
  WriteStep overwriteReadOnly event.before event.path event.contents event.after event.result

namespace IsStep

variable {event : WriteEvent} {overwriteReadOnly : Bool}

theorem contents?_after (step : event.IsStep overwriteReadOnly) (path : Path) :
    event.after.contents? path = (event.written? path).or (event.before.contents? path) := by
  obtain ⟨target, contents, before, after, result⟩ := event
  cases result with
  | error error =>
      obtain ⟨_, _, isRecord⟩ := WriteStep.of_error step
      rw [isRecord]
      rfl
  | ok outcome =>
      by_cases same : target.components = path.components
      · have holds := WriteStep.contents?_of_ok step
        rw [after.contents?_congr same] at holds
        simp [written?, Path.same_iff.2 same, holds]
      · have other : target.same path = false := by simpa [Path.same] using same
        have kept := WriteStep.file?_of_ne step (Ne.symm same)
        simp [written?, other, contents?, kept]

/-- A file is replaced when its contents change. -/
theorem isGenerated_iff (step : event.IsStep overwriteReadOnly) (path : Path) :
    (event.path.same path && event.isGenerated) = true ↔
      event.after.contents? path ≠ event.before.contents? path := by
  obtain ⟨target, contents, before, after, result⟩ := event
  dsimp only [IsStep] at step ⊢
  rw [Bool.and_eq_true, Path.same_iff]
  cases step with
  | skipped | refused =>
      constructor
      · rintro ⟨_, isGenerated⟩
        cases isGenerated
      · intro changed
        exact absurd rfl changed
  | generated differs accepts replaced =>
      constructor
      · rintro ⟨same, _⟩
        rw [contents?, replaced.file?_eq, if_pos same.symm, ← before.contents?_congr same]
        exact Ne.symm differs
      · intro changed
        refine ⟨?_, rfl⟩
        apply Classical.byContradiction
        intro other
        apply changed
        rw [contents?, replaced.file?_eq, if_neg (Ne.symm other), contents?]

theorem file?_after (step : event.IsStep overwriteReadOnly) {path : Path}
    (untouched : (event.path.same path && event.isGenerated) = false) :
    event.after.file? path = event.before.file? path := by
  obtain ⟨target, contents, before, after, result⟩ := event
  dsimp only [IsStep] at step ⊢
  cases step with
  | skipped | refused => rfl
  | generated _ _ replaced =>
      have other : target.components ≠ path.components := by
        simpa [isGenerated, Path.same] using untouched
      rw [replaced.file?_eq, if_neg (Ne.symm other)]

theorem writes_after (step : event.IsStep overwriteReadOnly) :
    event.after.writes = event.before.writes + if event.isGenerated then 1 else 0 := by
  obtain ⟨target, contents, before, after, result⟩ := event
  dsimp only [IsStep] at step ⊢
  cases step with
  | skipped | refused => rfl
  | generated _ _ replaced => exact replaced.writes_eq

theorem fails_iff (step : event.IsStep overwriteReadOnly) :
    (∃ error, event.result = .error error) ↔
      event.before.Refuses overwriteReadOnly event.path event.contents := by
  constructor
  · rintro ⟨error, failed⟩
    unfold IsStep at step
    rw [failed] at step
    exact step.of_error.2.1
  · intro refuses
    exact ⟨_, (WriteStep.of_refuses step refuses).2⟩

end IsStep

end WriteEvent

/-! ## Sequences -/

/-- The number of positions at which a sequence changes. -/
def changes {α : Type} [DecidableEq α] : List α → Nat
  | first :: second :: rest => (if first = second then 0 else 1) + changes (second :: rest)
  | [] | [_] => 0

namespace Workspace

variable {overwriteReadOnly : Bool}

/-- Write contents to paths in order, and tell what each write has done. -/
def writeAll (overwriteReadOnly : Bool) (workspace : Workspace) :
    List (Path × String) → Workspace × List WriteEvent
  | [] => (workspace, [])
  | (path, contents) :: rest =>
      let (next, result) := workspace.write overwriteReadOnly path contents
      let (final, events) := writeAll overwriteReadOnly next rest
      (final, ⟨path, contents, workspace.store, next.store, result⟩ :: events)

/-- `RunsTo events first last` means that the events lead from one workspace to another. -/
inductive RunsTo (overwriteReadOnly : Bool) : List WriteEvent → Workspace → Workspace → Prop
  | nil (workspace : Workspace) : RunsTo overwriteReadOnly [] workspace workspace
  | cons {event : WriteEvent} {events : List WriteEvent} {session : Session} {last : Workspace}
      (step : event.IsStep overwriteReadOnly)
      (run : RunsTo overwriteReadOnly events ⟨event.after, session.recordOutput event.path⟩ last) :
      RunsTo overwriteReadOnly (event :: events) ⟨event.before, session⟩ last

theorem runsTo_writeAll (overwriteReadOnly : Bool) (workspace : Workspace)
    (requests : List (Path × String)) :
    RunsTo overwriteReadOnly (workspace.writeAll overwriteReadOnly requests).2 workspace
      (workspace.writeAll overwriteReadOnly requests).1 := by
  induction requests generalizing workspace with
  | nil => exact .nil workspace
  | cons request rest ih =>
      obtain ⟨path, contents⟩ := request
      obtain ⟨next, result, written, step⟩ :=
        workspace.write_step overwriteReadOnly path contents
      have isStep : WriteEvent.IsStep ⟨path, contents, workspace.store, next, result⟩
          overwriteReadOnly := step
      rw [writeAll, written]
      exact .cons isStep (ih ⟨next, workspace.session.recordOutput path⟩)

theorem map_writeAll (workspace : Workspace) (requests : List (Path × String)) :
    (workspace.writeAll overwriteReadOnly requests).2.map
      (fun event => (event.path, event.contents)) = requests := by
  induction requests generalizing workspace with
  | nil => rfl
  | cons request rest ih =>
      rw [writeAll, List.map_cons, ih]

namespace RunsTo

variable {events : List WriteEvent} {first last : Workspace}

theorem isStep (run : RunsTo overwriteReadOnly events first last) :
    ∀ event ∈ events, event.IsStep overwriteReadOnly := by
  induction run with
  | nil => exact fun _ member => nomatch member
  | cons step _ ih => exact List.forall_mem_cons.2 ⟨step, ih⟩

/-- A file holds what was written to it last. -/
theorem contents?_eq (run : RunsTo overwriteReadOnly events first last) (path : Path) :
    last.store.contents? path =
      (events.filterMap (·.written? path)).getLast?.or (first.store.contents? path) := by
  induction run with
  | nil => rfl
  | @cons event events _ _ step _ ih =>
      rw [ih, step.contents?_after path, List.filterMap_cons]
      cases event.written? path with
      | none => rfl
      | some contents =>
          rw [List.getLast?_cons]
          cases (events.filterMap (·.written? path)).getLast? <;> rfl

theorem file?_eq (run : RunsTo overwriteReadOnly events first last) {path : Path}
    (untouched : ∀ event ∈ events, (event.path.same path && event.isGenerated) = false) :
    last.store.file? path = first.store.file? path := by
  induction run with
  | nil => rfl
  | cons step _ ih =>
      obtain ⟨here, behind⟩ := List.forall_mem_cons.1 untouched
      rw [ih behind]
      exact step.file?_after here

theorem writes_eq (run : RunsTo overwriteReadOnly events first last) :
    last.store.writes = first.store.writes + events.countP (·.isGenerated) := by
  induction run with
  | nil => rfl
  | cons step _ ih =>
      rw [ih, step.writes_after, List.countP_cons, Nat.add_assoc,
        Nat.add_comm (List.countP _ _)]

/-- A file is replaced just as often as its contents change. -/
theorem countP_eq (run : RunsTo overwriteReadOnly events first last) (path : Path) :
    events.countP (fun event => event.path.same path && event.isGenerated) =
      changes (first.store.contents? path ::
        (events.filterMap (·.written? path)).map some) := by
  induction run with
  | nil => rfl
  | @cons event events session _ step _ ih =>
      have replaced := step.isGenerated_iff path
      have holds := step.contents?_after path
      rw [List.countP_cons, ih, List.filterMap_cons]
      cases isWritten : event.written? path with
      | none =>
          rw [isWritten, Option.none_or] at holds
          rw [holds, if_neg (fun isReplaced => replaced.1 isReplaced holds), Nat.add_zero]
      | some contents =>
          rw [isWritten, Option.some_or] at holds
          rw [List.map_cons, changes, holds, Nat.add_comm]
          congr 1
          rw [holds] at replaced
          simp only [replaced, ne_eq, ite_not, eq_comm]

theorem produced_eq (run : RunsTo overwriteReadOnly events first last) (path : Path) :
    last.session.produced path =
      (events.any (fun event => path.sameOutput event.path) || first.session.produced path) := by
  induction run with
  | nil => rfl
  | @cons event events session _ _ _ ih =>
      rw [ih, Session.produced_recordOutput, List.any_cons, ← Bool.or_assoc,
        Bool.or_comm (events.any _)]

end RunsTo

/-- What a sequence of writes does: files are touched where contents change, and nothing
else happens. -/
structure TouchesChanges (overwriteReadOnly : Bool) (requests : List (Path × String))
    (events : List WriteEvent) (first last : Workspace) : Prop where
  requests_eq : events.map (fun event => (event.path, event.contents)) = requests
  /-- A file holds the last of the contents that were written to it. -/
  contents?_eq : ∀ path, last.store.contents? path =
    (events.filterMap (·.written? path)).getLast?.or (first.store.contents? path)
  /-- A file that has not been replaced is as it was. -/
  file?_eq : ∀ path, (∀ event ∈ events, event.path.same path = true →
    event.result ≠ .ok .generated) → last.store.file? path = first.store.file? path
  writes_eq : last.store.writes = first.store.writes + events.countP (·.isGenerated)
  /-- A file has been replaced as often as its contents have changed. -/
  countP_eq : ∀ path,
    events.countP (fun event => event.path.same path && event.isGenerated) =
      changes (first.store.contents? path :: (events.filterMap (·.written? path)).map some)
  /-- Where read-only files may be overwritten, no write fails. -/
  ok_of_overwrite : overwriteReadOnly = true →
    ∀ event ∈ events, ∃ outcome, event.result = .ok outcome
  /-- Otherwise a write fails just where a read-only file has other contents. -/
  fails_iff : overwriteReadOnly = false → ∀ event ∈ events,
    (∃ error, event.result = .error error) ↔
      ∃ old, event.before.file? event.path = some ⟨old, true⟩ ∧ old ≠ event.contents
  /-- A write that fails changes no file. -/
  of_error : ∀ event ∈ events, ∀ error, event.result = .error error →
    error = .filesystemConflict event.path "file is read-only and its content changed" ∧
      ∀ path, event.after.file? path = event.before.file? path
  /-- Every output is recorded, whether it could be written or not. -/
  produced_iff : ∀ path, last.session.produced path = true ↔
    (∃ event ∈ events, path.sameOutput event.path = true) ∨ first.session.produced path = true

/-- Writing touches a file only where its contents change, in sequences of any length. -/
theorem writeAll_touches_changes (overwriteReadOnly : Bool) (workspace : Workspace)
    (requests : List (Path × String)) :
    TouchesChanges overwriteReadOnly requests
      (workspace.writeAll overwriteReadOnly requests).2 workspace
      (workspace.writeAll overwriteReadOnly requests).1 := by
  have run := runsTo_writeAll overwriteReadOnly workspace requests
  have steps := run.isStep
  constructor
  · exact workspace.map_writeAll requests
  · exact run.contents?_eq
  · intro path ungenerated
    apply run.file?_eq
    intro event member
    rw [Bool.and_eq_false_imp]
    intro same
    have notGenerated := ungenerated event member same
    unfold WriteEvent.isGenerated
    split
    · exact absurd ‹_› notGenerated
    · rfl
    · rfl
  · exact run.writes_eq
  · exact run.countP_eq
  · rintro rfl event member
    cases isResult : event.result with
    | ok outcome => exact ⟨outcome, rfl⟩
    | error error => exact absurd ((steps event member).fails_iff.1 ⟨error, isResult⟩).1 nofun
  · rintro rfl event member
    rw [(steps event member).fails_iff, Refuses, eq_self, true_and]
  · intro event member error failed
    have step := steps event member
    unfold WriteEvent.IsStep at step
    rw [failed] at step
    obtain ⟨isRefusal, _, isRecord⟩ := step.of_error
    rw [isRecord]
    exact ⟨isRefusal, fun _ => rfl⟩
  · intro path
    rw [run.produced_eq, Bool.or_eq_true, List.any_eq_true]

end Workspace

end ProjectFiles
