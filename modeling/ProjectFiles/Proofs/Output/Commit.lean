import ProjectFiles.Proofs.Output.Write

/-!
# Committing an output

A commit writes a file, writes a shared output that nobody has claimed, or
leaves a note in the session.  `PendingOutput.CommitStep` lists these cases.
Claims are never lost on the way: only the caller whose write has failed gives
its own claim back.
-/

namespace ProjectFiles

namespace Session

/-- Whether a path is claimed depends on its output only. -/
theorem isClaimed_congr (session : Session) {left right : Path}
    (same : left.sameOutput right = true) : session.isClaimed left = session.isClaimed right := by
  unfold isClaimed SortedMap.contains
  rw [session.claimed.get?_congr (Path.compare_eq_iff.2 (Path.sameOutput_iff.1 same))]

theorem produced_congr (session : Session) {left right : Path}
    (same : left.sameOutput right = true) : session.produced left = session.produced right := by
  unfold produced SortedMap.contains
  rw [session.outputs.get?_congr (Path.compare_eq_iff.2 (Path.sameOutput_iff.1 same))]

theorem produced_recordOutput (session : Session) (path probe : Path) :
    (session.recordOutput path).produced probe =
      (probe.sameOutput path || session.produced probe) := by
  unfold produced recordOutput
  rw [SortedMap.contains_insert]
  congr 1
  rw [Bool.eq_iff_iff, decide_eq_true_iff, Path.compare_eq_iff, Path.sameOutput_iff]

theorem isClaimed_claim (session : Session) (path probe : Path) :
    (session.claim path).1.isClaimed probe =
      (probe.sameOutput path || session.isClaimed probe) := by
  unfold claim
  by_cases claimed : session.isClaimed path = true
  · rw [if_pos claimed]
    by_cases same : probe.sameOutput path = true
    · rw [session.isClaimed_congr same, claimed, Bool.or_true]
    · simp [same]
  · rw [if_neg claimed]
    unfold isClaimed
    rw [SortedMap.contains_insert]
    congr 1
    rw [Bool.eq_iff_iff, decide_eq_true_iff, Path.compare_eq_iff, Path.sameOutput_iff]

theorem isClaimed_release (session : Session) (path probe : Path) :
    (session.release path).isClaimed probe =
      (!probe.sameOutput path && session.isClaimed probe) := by
  unfold release isClaimed
  rw [SortedMap.contains_erase]
  congr 2
  rw [Bool.eq_iff_iff, decide_eq_true_iff, Path.compare_eq_iff, Path.sameOutput_iff]

theorem isClaimed_recordOutput (session : Session) (path probe : Path) :
    (session.recordOutput path).isClaimed probe = session.isClaimed probe := rfl

theorem produced_claim (session : Session) (path probe : Path) :
    (session.claim path).1.produced probe = session.produced probe := by
  unfold claim
  split <;> rfl

theorem stale_claim (session : Session) (path : Path) :
    (session.claim path).1.stale = session.stale := by
  unfold claim
  split <;> rfl

theorem produced_release (session : Session) (path probe : Path) :
    (session.release path).produced probe = session.produced probe := rfl

end Session

namespace PendingOutput

open Store

/-- Whether an output is one that several projects may produce. -/
def isShared : PendingOutput → Bool
  | shared .. => true
  | file .. | staleShared _ => false

/-- The file that committing an output tries to write: none for a shared output
that is claimed already, and none for one that is to be removed. -/
def attempt? (session : Session) : PendingOutput → Option (Path × String)
  | file path contents => some (path, contents)
  | shared path contents => if session.isClaimed path then none else some (path, contents)
  | staleShared _ => none

theorem attempt?_shared_eq_some {session : Session} {path target : Path}
    {contents written : String} :
    (shared path contents).attempt? session = some (target, written) ↔
      session.isClaimed path = false ∧ path = target ∧ contents = written := by
  unfold attempt?
  cases claimed : session.isClaimed path <;> simp [claimed]

/-- The session after an output has been written. -/
def accepted (session : Session) : PendingOutput → Session
  | file path _ => session.recordOutput path
  | shared path _ => (session.claim path).1.recordOutput path
  | staleShared path => session.deferStale path

/-- The session after an output could not be written. -/
def rejected (session : Session) : PendingOutput → Session
  | file path _ => session.recordOutput path
  | shared path _ => ((session.claim path).1.recordOutput path).release path
  | staleShared path => session.deferStale path

/-- What committing an output does. -/
inductive CommitStep (overwriteReadOnly : Bool) (workspace : Workspace)
    (output : GenerationOutput) :
    PendingOutput → Workspace → GenerationOutput → Except GenerationError Unit → Prop where
  | deferred (path : Path) :
      CommitStep overwriteReadOnly workspace output (.staleShared path)
        ⟨workspace.store, workspace.session.deferStale path⟩ output (.ok ())
  | handled {path : Path} {contents : String}
      (claimed : workspace.session.isClaimed path = true) :
      CommitStep overwriteReadOnly workspace output (.shared path contents) workspace output
        (.ok ())
  | written {pending : PendingOutput} {path : Path} {contents : String} {final : Store}
      {outcome : WriteOutcome}
      (attempt : pending.attempt? workspace.session = some (path, contents))
      (step : WriteStep overwriteReadOnly workspace.store path contents final (.ok outcome)) :
      CommitStep overwriteReadOnly workspace output pending
        ⟨final, pending.accepted workspace.session⟩ (output.record path outcome) (.ok ())
  | failed {pending : PendingOutput} {path : Path} {contents : String} {final : Store}
      {error : GenerationError}
      (attempt : pending.attempt? workspace.session = some (path, contents))
      (step : WriteStep overwriteReadOnly workspace.store path contents final (.error error)) :
      CommitStep overwriteReadOnly workspace output pending
        ⟨final, pending.rejected workspace.session⟩ output (.error error)

/-! ## What an attempt does to the session -/

section Attempt

variable {session : Session} {pending : PendingOutput} {path : Path} {contents : String}

theorem stale_accepted (attempt : pending.attempt? session = some (path, contents)) :
    (pending.accepted session).stale = session.stale := by
  cases pending with
  | file => rfl
  | shared => simp [accepted, Session.stale_claim, Session.recordOutput]
  | staleShared => cases attempt

theorem stale_rejected (attempt : pending.attempt? session = some (path, contents)) :
    (pending.rejected session).stale = session.stale := by
  cases pending with
  | file => rfl
  | shared => simp [rejected, Session.stale_claim, Session.recordOutput, Session.release]
  | staleShared => cases attempt

theorem produced_accepted (attempt : pending.attempt? session = some (path, contents))
    (probe : Path) :
    (pending.accepted session).produced probe =
      (probe.sameOutput path || session.produced probe) := by
  cases pending with
  | file =>
      cases attempt
      exact session.produced_recordOutput path probe
  | shared other _ =>
      obtain ⟨_, rfl, rfl⟩ := attempt?_shared_eq_some.1 attempt
      unfold accepted
      rw [Session.produced_recordOutput, Session.produced_claim]
  | staleShared => cases attempt

/-- A refused output is recorded, too. -/
theorem produced_rejected (attempt : pending.attempt? session = some (path, contents))
    (probe : Path) :
    (pending.rejected session).produced probe =
      (probe.sameOutput path || session.produced probe) := by
  cases pending with
  | file =>
      cases attempt
      exact session.produced_recordOutput path probe
  | shared other _ =>
      obtain ⟨_, rfl, rfl⟩ := attempt?_shared_eq_some.1 attempt
      unfold rejected
      rw [Session.produced_release, Session.produced_recordOutput, Session.produced_claim]
  | staleShared => cases attempt

/-- Who writes a shared output holds the claim on it. -/
theorem isClaimed_accepted (attempt : pending.attempt? session = some (path, contents))
    (probe : Path) :
    (pending.accepted session).isClaimed probe =
      (pending.isShared && probe.sameOutput path || session.isClaimed probe) := by
  cases pending with
  | file => rfl
  | shared other _ =>
      obtain ⟨_, rfl, rfl⟩ := attempt?_shared_eq_some.1 attempt
      unfold accepted
      rw [Session.isClaimed_recordOutput, Session.isClaimed_claim]
      rfl
  | staleShared => cases attempt

/-- A claim that was taken for nothing is given back, and only that one. -/
theorem isClaimed_rejected (attempt : pending.attempt? session = some (path, contents))
    (probe : Path) : (pending.rejected session).isClaimed probe = session.isClaimed probe := by
  cases pending with
  | file => rfl
  | shared other _ =>
      obtain ⟨unclaimed, rfl, rfl⟩ := attempt?_shared_eq_some.1 attempt
      unfold rejected
      rw [Session.isClaimed_release, Session.isClaimed_recordOutput, Session.isClaimed_claim]
      by_cases same : probe.sameOutput other = true
      · rw [session.isClaimed_congr same]
        simp [same, unclaimed]
      · simp [same]
  | staleShared => cases attempt

end Attempt

namespace CommitStep

variable {overwriteReadOnly : Bool} {before after : Workspace} {pending : PendingOutput}
variable {output recorded : GenerationOutput} {result : Except GenerationError Unit}

/-- Claims are never lost. -/
theorem isClaimed_of_isClaimed
    (step : CommitStep overwriteReadOnly before output pending after recorded result)
    {probe : Path} (claimed : before.session.isClaimed probe = true) :
    after.session.isClaimed probe = true := by
  cases step with
  | deferred | handled => exact claimed
  | written attempt => rw [isClaimed_accepted attempt, claimed, Bool.or_true]
  | failed attempt => rw [isClaimed_rejected attempt, claimed]

/-- Recorded outputs stay recorded. -/
theorem produced_of_produced
    (step : CommitStep overwriteReadOnly before output pending after recorded result)
    {probe : Path} (produced : before.session.produced probe = true) :
    after.session.produced probe = true := by
  cases step with
  | deferred | handled => exact produced
  | written attempt => rw [produced_accepted attempt, produced, Bool.or_true]
  | failed attempt => rw [produced_rejected attempt, produced, Bool.or_true]

end CommitStep

/-! ## Every commit is one of the steps -/

theorem claim_of_unclaimed {workspace : Workspace} {path : Path}
    (unclaimed : workspace.session.isClaimed path = false) :
    workspace.claim path = (⟨workspace.store, (workspace.session.claim path).1⟩, true) := by
  simp [Workspace.claim, Session.claim, unclaimed]

theorem claim_of_claimed {workspace : Workspace} {path : Path}
    (claimed : workspace.session.isClaimed path = true) :
    workspace.claim path = (workspace, false) := by
  simp [Workspace.claim, Session.claim, claimed]

theorem commit_step (overwriteReadOnly : Bool) (pending : PendingOutput) (workspace : Workspace)
    (output : GenerationOutput) :
    ∃ final recorded result, pending.commit overwriteReadOnly workspace output =
        (final, recorded, result) ∧
      CommitStep overwriteReadOnly workspace output pending final recorded result := by
  cases pending with
  | staleShared path => exact ⟨_, _, _, rfl, .deferred path⟩
  | file path contents =>
      obtain ⟨final, result, written, step⟩ :=
        workspace.write_step overwriteReadOnly path contents
      cases result with
      | ok outcome =>
          refine ⟨_, _, _, ?_, .written rfl step⟩
          simp only [commit, Workspace.writeInto, written]
          rfl
      | error error =>
          refine ⟨_, _, _, ?_, .failed rfl step⟩
          simp only [commit, Workspace.writeInto, written]
          rfl
  | shared path contents =>
      cases claimed : workspace.session.isClaimed path with
      | true =>
          refine ⟨_, _, _, ?_, .handled claimed⟩
          simp only [commit, Workspace.writeShared, claim_of_claimed claimed]
          rfl
      | false =>
          have attempt : (shared path contents).attempt? workspace.session =
              some (path, contents) := by
            simp [attempt?, claimed]
          obtain ⟨final, result, written, step⟩ :=
            Workspace.write_step overwriteReadOnly
              ⟨workspace.store, (workspace.session.claim path).1⟩ path contents
          cases result with
          | ok outcome =>
              refine ⟨_, _, _, ?_, .written attempt step⟩
              simp only [commit, Workspace.writeShared, claim_of_unclaimed claimed,
                Workspace.produceClaimed, Workspace.writeInto, written]
              rfl
          | error error =>
              refine ⟨_, _, _, ?_, .failed attempt step⟩
              simp only [commit, Workspace.writeShared, claim_of_unclaimed claimed,
                Workspace.produceClaimed, Workspace.writeInto, written]
              rfl

end PendingOutput

end ProjectFiles
