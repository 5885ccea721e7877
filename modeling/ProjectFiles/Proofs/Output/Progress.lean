import ProjectFiles.Proofs.Output.Commit

/-!
# What commits keep

Two workspaces of one session are compared by `Workspace.Progress`: files are
added or replaced where an output was recorded, nothing is removed, and neither
records nor claims are lost.  It holds of every commit and composes, so it holds
of any sequence of commits.
-/

namespace ProjectFiles

open Store

/-! ## Progress -/

namespace Workspace

/-- What a later workspace has in common with an earlier one, until files are
removed. -/
structure Progress (overwriteReadOnly : Bool) (before after : Workspace) : Prop where
  locked_eq : after.store.locked = before.store.locked
  /-- No file disappears. -/
  file?_ne_none {probe : Path} : before.store.file? probe ≠ none → after.store.file? probe ≠ none
  /-- Only recorded outputs are touched. -/
  file?_of_unproduced {probe : Path} :
    after.session.produced probe = false → after.store.file? probe = before.store.file? probe
  /-- Read-only files are left alone unless they may be overwritten. -/
  file?_of_readOnly {probe : Path} {contents : String} : overwriteReadOnly = false →
    before.store.file? probe = some ⟨contents, true⟩ →
    after.store.file? probe = some ⟨contents, true⟩
  produced_of_produced {probe : Path} :
    before.session.produced probe = true → after.session.produced probe = true
  isClaimed_of_isClaimed {probe : Path} :
    before.session.isClaimed probe = true → after.session.isClaimed probe = true
  /-- Nothing is removed, and only recorded outputs are written. -/
  calls_eq : ∃ calls, after.store.calls = before.store.calls ++ calls ∧
    ∀ call ∈ calls, call.method ≠ .remove ∧
      (call.method = .write → after.session.produced call.path = true)

namespace Progress

variable {overwriteReadOnly : Bool} {first second third : Workspace}

theorem refl (overwriteReadOnly : Bool) (workspace : Workspace) :
    Progress overwriteReadOnly workspace workspace where
  locked_eq := rfl
  file?_ne_none := id
  file?_of_unproduced := fun _ => rfl
  file?_of_readOnly := fun _ => id
  produced_of_produced := id
  isClaimed_of_isClaimed := id
  calls_eq := ⟨[], by simp, by simp⟩

theorem unproduced_of_unproduced (progress : Progress overwriteReadOnly first second)
    {probe : Path} (unproduced : second.session.produced probe = false) :
    first.session.produced probe = false := by
  cases produced : first.session.produced probe with
  | false => rfl
  | true => rw [progress.produced_of_produced produced] at unproduced; cases unproduced

theorem trans (former : Progress overwriteReadOnly first second)
    (latter : Progress overwriteReadOnly second third) :
    Progress overwriteReadOnly first third where
  locked_eq := latter.locked_eq.trans former.locked_eq
  file?_ne_none := fun present => latter.file?_ne_none (former.file?_ne_none present)
  file?_of_unproduced := by
    intro probe unproduced
    rw [latter.file?_of_unproduced unproduced,
      former.file?_of_unproduced (latter.unproduced_of_unproduced unproduced)]
  file?_of_readOnly := fun off found =>
    latter.file?_of_readOnly off (former.file?_of_readOnly off found)
  produced_of_produced := fun produced =>
    latter.produced_of_produced (former.produced_of_produced produced)
  isClaimed_of_isClaimed := fun claimed =>
    latter.isClaimed_of_isClaimed (former.isClaimed_of_isClaimed claimed)
  calls_eq := by
    obtain ⟨earlier, earlierCalls, earlierHarmless⟩ := former.calls_eq
    obtain ⟨later, laterCalls, laterHarmless⟩ := latter.calls_eq
    refine ⟨earlier ++ later, by rw [laterCalls, earlierCalls, List.append_assoc], ?_⟩
    intro call member
    rcases List.mem_append.1 member with inEarlier | inLater
    · obtain ⟨noRemoval, writes⟩ := earlierHarmless call inEarlier
      exact ⟨noRemoval, fun isWrite => latter.produced_of_produced (writes isWrite)⟩
    · exact laterHarmless call inLater

/-- A write makes progress when its path is recorded. -/
theorem write {workspace : Workspace} {session : Session} {path : Path} {contents : String}
    {final : Store} {result : Except GenerationError WriteOutcome}
    (step : WriteStep overwriteReadOnly workspace.store path contents final result)
    (recorded : ∀ probe, session.produced probe =
      (probe.sameOutput path || workspace.session.produced probe))
    (keepsClaims : ∀ probe, workspace.session.isClaimed probe = true →
      session.isClaimed probe = true) :
    Progress overwriteReadOnly workspace ⟨final, session⟩ where
  locked_eq := step.locked_eq
  file?_ne_none := step.file?_ne_none
  file?_of_unproduced := by
    intro probe unproduced
    apply step.file?_of_ne
    intro same
    simp [recorded, Path.sameOutput_of_components_eq same] at unproduced
  file?_of_readOnly := by
    rintro probe old rfl found
    exact step.file?_of_readOnly found
  produced_of_produced := by
    intro probe produced
    simp [recorded, produced]
  isClaimed_of_isClaimed := keepsClaims _
  calls_eq := by
    obtain ⟨calls, spelled, harmless⟩ := step.calls_eq
    refine ⟨calls, spelled, ?_⟩
    intro call member
    obtain ⟨noRemoval, writes⟩ := harmless call member
    refine ⟨noRemoval, fun isWrite => ?_⟩
    rw [recorded, writes isWrite, Path.sameOutput_self, Bool.true_or]

theorem commit {pending : PendingOutput} {output recorded : GenerationOutput}
    {result : Except GenerationError Unit}
    (step : PendingOutput.CommitStep overwriteReadOnly first output pending second recorded
      result) : Progress overwriteReadOnly first second := by
  have keepsClaims : ∀ probe, first.session.isClaimed probe = true →
      second.session.isClaimed probe = true := fun _ => step.isClaimed_of_isClaimed
  cases step with
  | deferred => exact { refl overwriteReadOnly first with }
  | handled => exact refl overwriteReadOnly _
  | written attempt step =>
      exact write step (PendingOutput.produced_accepted attempt) keepsClaims
  | failed attempt step =>
      exact write step (PendingOutput.produced_rejected attempt) keepsClaims

end Progress

/-! ## Reported outputs -/

/-- Whether all outputs of a list have been recorded and are there. -/
def HasAll (workspace : Workspace) (paths : List Path) : Prop :=
  ∀ path ∈ paths, workspace.session.produced path = true ∧ workspace.store.file? path ≠ none

theorem HasAll.progress {overwriteReadOnly : Bool} {before after : Workspace} {paths : List Path}
    (all : before.HasAll paths) (progress : Progress overwriteReadOnly before after) :
    after.HasAll paths := by
  intro path member
  obtain ⟨produced, present⟩ := all path member
  exact ⟨progress.produced_of_produced produced, progress.file?_ne_none present⟩

end Workspace

/-- All outputs of a pass. -/
def GenerationOutput.listed (output : GenerationOutput) : List Path :=
  output.generated ++ output.skipped

theorem GenerationOutput.mem_listed_record {output : GenerationOutput} {path probe : Path}
    {outcome : WriteOutcome} :
    probe ∈ (output.record path outcome).listed ↔ probe = path ∨ probe ∈ output.listed := by
  cases outcome with
  | generated =>
      simp only [listed, record, List.mem_append, List.mem_singleton]
      grind
  | skipped =>
      simp only [listed, record, List.mem_append, List.mem_singleton]
      grind

theorem GenerationOutput.mem_listed_merge {first second : GenerationOutput} {probe : Path} :
    probe ∈ (first.merge second).listed ↔ probe ∈ first.listed ∨ probe ∈ second.listed := by
  simp only [listed, merge, List.mem_append]
  grind

/-- What a commit reports has been recorded and is there. -/
theorem PendingOutput.CommitStep.hasAll {overwriteReadOnly : Bool} {before after : Workspace}
    {pending : PendingOutput} {output recorded : GenerationOutput}
    {result : Except GenerationError Unit}
    (step : CommitStep overwriteReadOnly before output pending after recorded result)
    (all : before.HasAll output.listed) : after.HasAll recorded.listed := by
  have progress := Workspace.Progress.commit step
  cases step with
  | deferred | handled | failed => exact all.progress progress
  | written attempt step =>
      intro path member
      rcases GenerationOutput.mem_listed_record.1 member with rfl | earlier
      · refine ⟨?_, step.file?_ne_none_of_ok⟩
        rw [produced_accepted attempt, Path.sameOutput_self, Bool.true_or]
      · exact all.progress progress path earlier

end ProjectFiles
