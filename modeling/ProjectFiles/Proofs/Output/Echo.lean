import ProjectFiles.Proofs.Output.Progress

/-!
# Repeated commits

A commit is repeated on a store that holds its outcome already.  It finds the
same claims, writes nothing, and ends in the same way: what was written is
skipped and what was refused is refused again.
-/

namespace ProjectFiles

open Store

/-- What is reported when outputs are produced again: all of them are skipped. -/
structure GenerationOutput.Echoes (output echoed : GenerationOutput) : Prop where
  generated_eq : echoed.generated = []
  skipped_perm : echoed.skipped.Perm output.listed

namespace GenerationOutput.Echoes

theorem empty : GenerationOutput.empty.Echoes .empty := ⟨rfl, List.Perm.refl _⟩

theorem record {output echoed : GenerationOutput} (echoes : output.Echoes echoed) (path : Path)
    (outcome : WriteOutcome) :
    (output.record path outcome).Echoes (echoed.record path .skipped) where
  generated_eq := echoes.generated_eq
  skipped_perm := by
    have appended : (echoed.skipped ++ [path]).Perm (output.listed ++ [path]) :=
      echoes.skipped_perm.append_right [path]
    cases outcome with
    | generated =>
        refine appended.trans ?_
        simp only [listed, GenerationOutput.record, List.append_assoc]
        exact List.perm_append_comm.append_left output.generated
    | skipped => simpa only [listed, GenerationOutput.record, List.append_assoc] using appended

theorem merge {first second firstEcho secondEcho : GenerationOutput}
    (former : first.Echoes firstEcho) (latter : second.Echoes secondEcho) :
    (first.merge second).Echoes (firstEcho.merge secondEcho) where
  generated_eq := by simp [GenerationOutput.merge, former.generated_eq, latter.generated_eq]
  skipped_perm := by
    refine (former.skipped_perm.append latter.skipped_perm).trans ?_
    simp only [listed, GenerationOutput.merge, List.append_assoc]
    apply List.Perm.append_left
    rw [← List.append_assoc, ← List.append_assoc]
    exact List.perm_append_comm.append_right second.skipped

end GenerationOutput.Echoes

/-- Writing again to a file that has been written or refused changes nothing. -/
theorem Store.WriteStep.echo {overwriteReadOnly : Bool} {store after other otherAfter : Store}
    {path : Path} {contents : String} {result otherResult : Except GenerationError WriteOutcome}
    (step : WriteStep overwriteReadOnly store path contents after result)
    (again : WriteStep overwriteReadOnly other path contents otherAfter otherResult)
    (agree : other.file? path = after.file? path) :
    otherAfter = other.record .read path ∧
      otherResult = result.map fun _ => .skipped := by
  cases result with
  | ok outcome =>
      have holds : other.contents? path = some contents := by
        rw [← step.contents?_of_ok]
        unfold contents?
        rw [agree]
      exact again.of_holds holds
  | error error =>
      obtain ⟨rfl, refuses, kept⟩ := step.of_error
      have refusesAgain : other.Refuses overwriteReadOnly path contents := by
        rw [kept, file?_record] at agree
        unfold Refuses
        rw [agree]
        exact refuses
      exact again.of_refuses refusesAgain

/-- The state of a second run at a point that a first run has passed.  The store
is the one that the first run has left, but for some files that have been
removed. -/
structure Workspace.Echo (final : Store) (removed : List Path) (first second : Workspace) :
    Prop where
  isClaimed_eq : ∀ probe, second.session.isClaimed probe = first.session.isClaimed probe
  file?_eq : ∀ probe : Path, (∀ key ∈ removed, key.components ≠ probe.components) →
    second.store.file? probe = final.file? probe
  file?_of_some : ∀ probe file, second.store.file? probe = some file →
    final.file? probe = some file
  writes_eq : second.store.writes = final.writes
  calls_eq : ∃ calls, second.store.calls = final.calls ++ calls ∧
    ∀ call ∈ calls, call.method ≠ .write

/-- Reading keeps a second run where it is. -/
theorem Workspace.Echo.record {final : Store} {removed : List Path} {first second : Workspace}
    (echo : Echo final removed first second) {firstSession session : Session}
    (claims : ∀ probe, session.isClaimed probe = firstSession.isClaimed probe) (store : Store)
    (path : Path) :
    Echo final removed ⟨store, firstSession⟩ ⟨second.store.record .read path, session⟩ where
  isClaimed_eq := claims
  file?_eq := echo.file?_eq
  file?_of_some := echo.file?_of_some
  writes_eq := echo.writes_eq
  calls_eq := by
    obtain ⟨calls, spelled, quiet⟩ := echo.calls_eq
    refine ⟨calls ++ [⟨.read, path⟩], by simp [spelled], ?_⟩
    intro call member
    rcases List.mem_append.1 member with earlier | isRead
    · exact quiet call earlier
    · simp [List.mem_singleton.1 isRead]

namespace PendingOutput

theorem attempt?_congr {left right : Session}
    (claims : ∀ probe, left.isClaimed probe = right.isClaimed probe) (pending : PendingOutput) :
    pending.attempt? left = pending.attempt? right := by
  cases pending with
  | file | staleShared => rfl
  | shared path contents =>
      simp only [attempt?, claims path]

/-- A commit is repeated without a trace when the file that it has tried to write
is as the first commit has left it. -/
theorem CommitStep.echo {overwriteReadOnly : Bool} {pending : PendingOutput} {final : Store}
    {removed : List Path} {before after otherBefore otherAfter : Workspace}
    {output recorded otherOutput otherRecorded : GenerationOutput}
    {result otherResult : Except GenerationError Unit}
    (step : CommitStep overwriteReadOnly before output pending after recorded result)
    (again : CommitStep overwriteReadOnly otherBefore otherOutput pending otherAfter otherRecorded
      otherResult)
    (echo : Workspace.Echo final removed before otherBefore)
    (echoes : output.Echoes otherOutput)
    (agree : ∀ path contents, pending.attempt? before.session = some (path, contents) →
      otherBefore.store.file? path = after.store.file? path) :
    otherResult = result ∧ Workspace.Echo final removed after otherAfter ∧
      recorded.Echoes otherRecorded := by
  have sameAttempt := attempt?_congr echo.isClaimed_eq pending
  cases step with
  | deferred path =>
      cases again with
      | deferred => exact ⟨rfl, { echo with }, echoes⟩
      | written attempt | failed attempt => cases attempt
  | @handled path contents claimed =>
      have unattempted : (shared path contents).attempt? otherBefore.session = none := by
        simp [attempt?, echo.isClaimed_eq, claimed]
      cases again with
      | handled => exact ⟨rfl, echo, echoes⟩
      | written attempt | failed attempt => simp [unattempted] at attempt
  | written attempt step =>
      have attemptAgain := sameAttempt.trans attempt
      cases again with
      | deferred => cases attempt
      | handled claimed => simp [attempt?, claimed] at attemptAgain
      | written written stepAgain =>
          obtain ⟨rfl, rfl⟩ := Prod.mk.inj (Option.some.inj (attemptAgain.symm.trans written))
          obtain ⟨rfl, skipped⟩ := step.echo stepAgain (agree _ _ attempt)
          obtain rfl := Except.ok.inj skipped
          refine ⟨rfl, echo.record (fun probe => ?_) _ _, echoes.record _ _⟩
          rw [isClaimed_accepted attempt, isClaimed_accepted written, echo.isClaimed_eq]
      | failed failed stepAgain =>
          obtain ⟨rfl, rfl⟩ := Prod.mk.inj (Option.some.inj (attemptAgain.symm.trans failed))
          cases (step.echo stepAgain (agree _ _ attempt)).2
  | failed attempt step =>
      have attemptAgain := sameAttempt.trans attempt
      cases again with
      | deferred => cases attempt
      | handled claimed => simp [attempt?, claimed] at attemptAgain
      | written written stepAgain =>
          obtain ⟨rfl, rfl⟩ := Prod.mk.inj (Option.some.inj (attemptAgain.symm.trans written))
          cases (step.echo stepAgain (agree _ _ attempt)).2
      | failed failed stepAgain =>
          obtain ⟨rfl, rfl⟩ := Prod.mk.inj (Option.some.inj (attemptAgain.symm.trans failed))
          obtain ⟨rfl, refused⟩ := step.echo stepAgain (agree _ _ attempt)
          obtain rfl := Except.error.inj refused
          refine ⟨rfl, echo.record (fun probe => ?_) _ _, echoes⟩
          rw [isClaimed_rejected attempt, isClaimed_rejected failed, echo.isClaimed_eq]

end PendingOutput

end ProjectFiles
