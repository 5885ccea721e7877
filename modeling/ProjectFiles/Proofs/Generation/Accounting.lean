import Mathlib.Data.List.Perm.Basic
import ProjectFiles.Proofs.Generation.Minimal
import ProjectFiles.Proofs.Generation.Parallel

/-!
# The account of a run

A report names the outputs that a run has written, in whatever order its committers
have taken their steps.  Every write of a project that is finished, and every write
of a solution, is named once.  A project that is stopped at an output has written
the ones before it and reports none of them, so its writes are missing from the
report.  That takes a file which may not be overwritten: a run that may overwrite
every file accounts for all of its writes.
-/

namespace ProjectFiles

open Relation Store Template Text PendingOutput

/-! ## Writes between two stores -/

/-- The paths that calls have written, in order. -/
def writtenPaths (calls : List StoreCall) : List Path :=
  calls.filterMap fun call => if call.method = .write then some call.path else none

theorem writtenPaths_append (former latter : List StoreCall) :
    writtenPaths (former ++ latter) = writtenPaths former ++ writtenPaths latter :=
  List.filterMap_append ..

theorem writtenPaths_eq_nil {calls : List StoreCall}
    (harmless : ∀ call ∈ calls, call.method ≠ .write) : writtenPaths calls = [] := by
  apply List.filterMap_eq_nil_iff.2
  intro call member
  rw [if_neg (harmless call member)]

namespace Store

/-- Between two stores files have been written at a list of paths, in that order,
and every attempt to write one has succeeded. -/
structure Wrote (before after : Store) (paths : List Path) : Prop where
  calls_eq : ∃ calls, after.calls = before.calls ++ calls ∧ writtenPaths calls = paths
  writes_eq : after.writes = before.writes + paths.length

namespace Wrote

variable {first second third : Store} {paths others : List Path}

theorem refl (store : Store) : store.Wrote store [] :=
  ⟨⟨[], by simp, rfl⟩, rfl⟩

theorem trans (former : first.Wrote second paths) (latter : second.Wrote third others) :
    first.Wrote third (paths ++ others) := by
  obtain ⟨earlier, earlierCalls, rfl⟩ := former.calls_eq
  obtain ⟨later, laterCalls, rfl⟩ := latter.calls_eq
  refine ⟨⟨earlier ++ later, ?_, writtenPaths_append earlier later⟩, ?_⟩
  · rw [laterCalls, earlierCalls, List.append_assoc]
  · rw [latter.writes_eq, former.writes_eq, List.length_append, Nat.add_assoc]

/-- The writes are those of the calls in between. -/
theorem writtenPaths_callsSince (wrote : first.Wrote second paths) :
    writtenPaths (second.callsSince first) = paths := by
  obtain ⟨calls, spelled, rfl⟩ := wrote.calls_eq
  rw [callsSince_eq spelled]

theorem read (store : Store) (path : Path) : store.Wrote (store.record .read path) [] :=
  ⟨⟨[⟨.read, path⟩], rfl, rfl⟩, rfl⟩

theorem of_replaced {path : Path} {contents : String}
    (replaced : first.Replaced path contents second) : first.Wrote second [path] := by
  obtain ⟨preparation, harmless, spelled⟩ := replaced.calls_eq
  refine ⟨⟨preparation ++ [⟨.write, path⟩], by rw [spelled, List.append_assoc], ?_⟩,
    replaced.writes_eq⟩
  have nothing : writtenPaths preparation = [] := by
    apply writtenPaths_eq_nil
    intro call member
    rcases harmless call member with isRead | isSetReadOnly
    · simp [isRead]
    · simp [isSetReadOnly]
  rw [writtenPaths_append, nothing]
  rfl

/-- Deleting files writes none. -/
theorem deleteAll (store : Store) (paths : List Path) :
    store.Wrote (store.deleteAll paths).1 [] := by
  obtain ⟨removals, spelled, each, _⟩ := calls_deleteAll store paths
  refine ⟨⟨removals, spelled, writtenPaths_eq_nil fun call member => ?_⟩,
    writes_deleteAll store paths⟩
  simp [(each call member).1]

end Wrote

/-- A write that succeeds is on the account of its outcome, and one that fails has
written nothing. -/
theorem WriteStep.wrote {overwriteReadOnly : Bool} {store final : Store} {path : Path}
    {contents : String} {result : Except GenerationError WriteOutcome}
    (step : WriteStep overwriteReadOnly store path contents final result) :
    store.Wrote final (match result with
      | .ok .generated => [path]
      | .ok .skipped | .error _ => []) := by
  cases step with
  | skipped | refused => exact .read store path
  | generated _ _ replaced => exact .of_replaced replaced

/-- No file disappears between two stores, and none becomes read-only. -/
structure Opens (before after : Store) : Prop where
  file?_ne_none {probe : Path} : before.file? probe ≠ none → after.file? probe ≠ none
  file?_ne_readOnly {probe : Path} : (∀ old, before.file? probe ≠ some ⟨old, true⟩) →
    ∀ old, after.file? probe ≠ some ⟨old, true⟩

theorem Opens.refl (store : Store) : store.Opens store := ⟨id, id⟩

/-- Putting a writable file into a store opens it. -/
theorem opens_withFile (store : Store) (path : Path) (contents : String) :
    store.Opens (store.withFile path ⟨contents, false⟩) where
  file?_ne_none := by
    intro probe present
    rw [file?_withFile]
    split
    · simp
    · exact present
  file?_ne_readOnly := by
    intro probe writable old
    rw [file?_withFile]
    split
    · simp
    · exact writable old

end Store

/-! ## Committers -/

/-- Whether what a committer is about to do will succeed: a file that it has found is
still there, and one that it is about to write is not read-only. -/
def Activity.CanGoOn (store : Store) : Activity → Prop
  | inspecting job | unlocking job => store.file? job.path ≠ none
  | writing job => ∀ old, store.file? job.path ≠ some ⟨old, true⟩
  | idle | recording _ | reading _ | releasing .. | stopped _ => True

theorem Activity.CanGoOn.of_opens {before after : Store} {activity : Activity}
    (canGoOn : activity.CanGoOn before) (opens : before.Opens after) :
    activity.CanGoOn after := by
  cases activity with
  | inspecting | unlocking => exact opens.file?_ne_none canGoOn
  | writing => exact opens.file?_ne_readOnly canGoOn
  | idle | recording | reading | releasing | stopped => trivial

namespace Committer

/-- Whether a committer is stopped only by its rendering, before it has written
anything. -/
structure IsUnrefused (committer : Committer) : Prop where
  unreleasing : ∀ job error, committer.activity ≠ .releasing job error
  generated_of_stopped : ∀ failure, committer.activity = .stopped failure →
    committer.output.generated = []

/-- What a step of a committer does to the account: it lists the path that it writes,
and it is refused only where read-only files may not be overwritten. -/
structure Advances (overwriteReadOnly : Bool) (before : Workspace × Committer)
    (after : Workspace × Committer) : Prop where
  opens : before.1.store.Opens after.1.store
  canGoOn : after.2.activity.CanGoOn after.1.store
  wrote : ∃ paths, before.1.store.Wrote after.1.store paths ∧
    after.2.output.generated = before.2.output.generated ++ paths
  isUnrefused : overwriteReadOnly = true → before.2.IsUnrefused → after.2.IsUnrefused

section Steps

variable {overwriteReadOnly : Bool} {workspace next : Workspace} {committer moved : Committer}
variable {job : WriteJob}

/-- A step that writes nothing. -/
theorem Advances.of_silent (opens : workspace.store.Opens next.store)
    (wrote : workspace.store.Wrote next.store [])
    (canGoOn : moved.activity.CanGoOn next.store)
    (generated_eq : moved.output.generated = committer.output.generated)
    (isUnrefused : overwriteReadOnly = true → committer.IsUnrefused → moved.IsUnrefused) :
    Advances overwriteReadOnly (workspace, committer) (next, moved) where
  opens := opens
  canGoOn := canGoOn
  wrote := ⟨[], wrote, by simpa using generated_eq⟩
  isUnrefused := isUnrefused

theorem advances_takeUp {output : PendingOutput} {rest : List PendingOutput}
    (idle : committer.activity = .idle)
    (steps : takeUp workspace committer output rest = (next, moved)) :
    Advances overwriteReadOnly (workspace, committer) (next, moved) := by
  cases output with
  | file path contents =>
      cases steps
      exact .of_silent (.refl _) (.refl _) trivial rfl fun _ _ => ⟨by simp, by simp⟩
  | shared path contents =>
      cases claimed : workspace.session.isClaimed path with
      | true =>
          simp only [takeUp, claim_of_claimed claimed] at steps
          cases steps
          exact .of_silent (.refl _) (.refl _) (by simp [idle, Activity.CanGoOn]) rfl
            fun _ unrefused => ⟨unrefused.unreleasing, unrefused.generated_of_stopped⟩
      | false =>
          simp only [takeUp, claim_of_unclaimed claimed] at steps
          cases steps
          exact .of_silent (.refl _) (.refl _) trivial rfl fun _ _ => ⟨by simp, by simp⟩
  | staleShared path =>
      cases steps
      exact .of_silent (.refl _) (.refl _) (by simp [idle, Activity.CanGoOn]) rfl
        fun _ unrefused => ⟨unrefused.unreleasing, unrefused.generated_of_stopped⟩

theorem advances_reading :
    Advances overwriteReadOnly (workspace, committer)
      (⟨workspace.store.record .read job.path, workspace.session⟩,
        match workspace.store.contents? job.path with
        | none => { committer with activity := .writing job }
        | some stored =>
            if stored = job.contents then committer.finish job .skipped
            else { committer with activity := .inspecting job }) := by
  have opens : workspace.store.Opens (workspace.store.record .read job.path) := ⟨id, id⟩
  have silent := Wrote.read workspace.store job.path
  cases stored : workspace.store.contents? job.path with
  | none =>
      have absent : workspace.store.file? job.path = none := by
        simpa [contents?] using stored
      exact .of_silent opens silent (by simp [Activity.CanGoOn, absent]) rfl
        fun _ _ => ⟨by simp, by simp⟩
  | some old =>
      by_cases same : old = job.contents
      · simp only [same, if_true]
        exact .of_silent opens silent trivial rfl fun _ _ => ⟨by simp [finish], by simp [finish]⟩
      · simp only [same, if_false]
        obtain ⟨readOnly, found⟩ := contents?_eq_some_iff.1 stored
        exact .of_silent opens silent (by simp [Activity.CanGoOn, found]) rfl
          fun _ _ => ⟨by simp, by simp⟩

/-- A committer that fails lists nothing. -/
theorem advances_fail (opens : workspace.store.Opens next.store)
    (wrote : workspace.store.Wrote next.store []) (forbidden : overwriteReadOnly = false)
    (error : GenerationError) :
    Advances overwriteReadOnly (workspace, committer) (next, committer.fail job error) := by
  refine .of_silent opens wrote ?_ rfl fun overwrites => ?_
  · unfold fail
    dsimp only
    split <;> trivial
  · rw [forbidden] at overwrites
    cases overwrites

theorem advances_inspecting (present : workspace.store.file? job.path ≠ none) :
    Advances overwriteReadOnly (workspace, committer) (workspace,
      match workspace.store.isReadOnly job.path with
      | .error fault => committer.fail job (.io fault)
      | .ok false => { committer with activity := .writing job }
      | .ok true =>
          if overwriteReadOnly then { committer with activity := .unlocking job }
          else
            committer.fail job
              (.filesystemConflict job.path "file is read-only and its content changed")) := by
  cases found : workspace.store.file? job.path with
  | none => exact absurd found present
  | some file =>
      obtain ⟨old, readOnly⟩ := file
      have isReadOnly : workspace.store.isReadOnly job.path = .ok readOnly := by
        simp [Store.isReadOnly, found]
      rw [isReadOnly]
      cases readOnly with
      | false =>
          exact .of_silent (.refl _) (.refl _) (by simp [Activity.CanGoOn, found]) rfl
            fun _ _ => ⟨by simp, by simp⟩
      | true =>
          cases overwriteReadOnly with
          | true => exact .of_silent (.refl _) (.refl _) present rfl fun _ _ => ⟨by simp, by simp⟩
          | false => exact advances_fail (.refl _) (.refl _) rfl _

theorem advances_unlocking (present : workspace.store.file? job.path ≠ none)
    (steps : (match workspace.store.setReadOnly job.path false with
      | (store, .ok ()) =>
          some (⟨store, workspace.session⟩, { committer with activity := .writing job })
      | (store, .error fault) =>
          some (⟨store, workspace.session⟩, committer.fail job (.io fault))) =
      some (next, moved)) :
    Advances overwriteReadOnly (workspace, committer) (next, moved) := by
  cases found : workspace.store.file? job.path with
  | none => exact absurd found present
  | some file =>
      simp only [setReadOnly, found, Option.some.injEq] at steps
      cases steps
      have opens := (workspace.store.record .setReadOnly job.path).opens_withFile job.path
        file.contents
      have silent : workspace.store.Wrote ((workspace.store.record .setReadOnly job.path).withFile
          job.path { file with readOnly := false }) [] :=
        ⟨⟨[⟨.setReadOnly, job.path⟩], rfl, rfl⟩, rfl⟩
      refine .of_silent ⟨opens.file?_ne_none, opens.file?_ne_readOnly⟩ silent ?_ rfl
        fun _ _ => ⟨by simp, by simp⟩
      intro old
      rw [file?_withFile, if_pos rfl]
      simp

theorem advances_writing (writable : ∀ old, workspace.store.file? job.path ≠ some ⟨old, true⟩)
    (steps : (match workspace.store.write job.path job.contents with
      | (store, .ok ()) => some (⟨store, workspace.session⟩, committer.finish job .generated)
      | (store, .error fault) =>
          some (⟨store, workspace.session⟩, committer.fail job (.io fault))) =
      some (next, moved)) :
    Advances overwriteReadOnly (workspace, committer) (next, moved) := by
  rw [write_of_writable writable] at steps
  cases steps
  have opens := (workspace.store.record .write job.path).opens_withFile job.path job.contents
  exact {
    opens := ⟨opens.file?_ne_none, opens.file?_ne_readOnly⟩
    canGoOn := trivial
    wrote := ⟨[job.path], ⟨⟨[⟨.write, job.path⟩], rfl, rfl⟩, rfl⟩, rfl⟩
    isUnrefused := fun _ _ => ⟨by simp [finish], by simp [finish]⟩ }

/-- Every step of a committer that can go on keeps the account. -/
theorem advances_step (canGoOn : committer.activity.CanGoOn workspace.store)
    (steps : committer.step? overwriteReadOnly workspace = some (next, moved)) :
    Advances overwriteReadOnly (workspace, committer) (next, moved) := by
  unfold step? at steps
  cases activity : committer.activity with
  | idle =>
      simp only [activity] at steps
      cases pending : committer.pending with
      | nil => simp [pending] at steps
      | cons output rest =>
          simp only [pending, Option.some.injEq] at steps
          exact advances_takeUp activity steps
  | recording job =>
      simp only [activity, Option.some.injEq] at steps
      cases steps
      exact .of_silent (.refl _) (.refl _) trivial rfl fun _ _ => ⟨by simp, by simp⟩
  | reading job =>
      simp only [activity, Option.some.injEq] at steps
      cases steps
      exact advances_reading
  | inspecting job =>
      simp only [activity, Option.some.injEq] at steps
      cases steps
      rw [activity] at canGoOn
      exact advances_inspecting canGoOn
  | unlocking job =>
      simp only [activity] at steps
      rw [activity] at canGoOn
      exact advances_unlocking canGoOn steps
  | writing job =>
      simp only [activity] at steps
      rw [activity] at canGoOn
      exact advances_writing canGoOn steps
  | releasing job error =>
      simp only [activity, Option.some.injEq] at steps
      cases steps
      exact .of_silent (.refl _) (.refl _) trivial rfl
        fun _ unrefused => absurd activity (unrefused.unreleasing job error)
  | stopped failure => simp [activity] at steps

end Steps

end Committer

/-- The account of committers that share a store: together they have listed whatever
has been written, and what they are about to do will succeed. -/
structure Accounted (overwriteReadOnly : Bool) (start : Store)
    (state : Workspace × List Committer) : Prop where
  wrote : ∃ paths, start.Wrote state.1.store paths ∧
    paths.Perm (state.2.flatMap (·.output.generated))
  canGoOn : ∀ committer ∈ state.2, committer.activity.CanGoOn state.1.store
  isUnrefused : overwriteReadOnly = true → ∀ committer ∈ state.2, committer.IsUnrefused

namespace Accounted

variable {overwriteReadOnly : Bool} {start : Store} {before after : Workspace × List Committer}

theorem initial (builder : Builder) (clock : Timestamp) (store : Store) (projects : List Project) :
    Accounted overwriteReadOnly store
      (⟨store, .new clock⟩, projects.map builder.committer) := by
  have fresh : ∀ committer ∈ projects.map builder.committer,
      committer.output = .empty ∧
        (committer.activity = .idle ∨ ∃ failure, committer.activity = .stopped failure) := by
    intro committer member
    obtain ⟨project, _, rfl⟩ := List.mem_map.1 member
    unfold Builder.committer
    split
    · exact ⟨rfl, .inl rfl⟩
    · exact ⟨rfl, .inr ⟨_, rfl⟩⟩
  constructor
  · refine ⟨[], .refl store, ?_⟩
    have nothing : (projects.map builder.committer).flatMap (·.output.generated) = [] := by
      apply List.flatMap_eq_nil_iff.2
      intro committer member
      rw [(fresh committer member).1]
      rfl
    exact nothing ▸ .refl _
  · intro committer member
    rcases (fresh committer member).2 with idle | ⟨failure, stopped⟩
    · simp [idle, Activity.CanGoOn]
    · simp [stopped, Activity.CanGoOn]
  · intro _ committer member
    obtain ⟨noOutput, idle | ⟨failure, stopped⟩⟩ := fresh committer member
    · exact ⟨by simp [idle], by simp [idle]⟩
    · exact ⟨by simp [stopped], by simp [noOutput, GenerationOutput.empty]⟩

theorem step (accounted : Accounted overwriteReadOnly start before)
    (steps : Committer.Step overwriteReadOnly before after) :
    Accounted overwriteReadOnly start after := by
  obtain @⟨workspace, next, committer, moved, former, latter, taken⟩ := steps
  obtain ⟨paths, wrote, perm⟩ := accounted.wrote
  have own := accounted.canGoOn committer (by simp)
  have advances := Committer.advances_step own taken
  obtain ⟨added, wroteAdded, lists⟩ := advances.wrote
  change moved.output.generated = committer.output.generated ++ added at lists
  have replaced : ∀ property : Committer → Prop,
      (∀ other ∈ former ++ committer :: latter, property other) → property moved →
      ∀ other ∈ former ++ moved :: latter, property other := by
    intro property holds holdsMoved
    simp only [List.forall_mem_append, List.forall_mem_cons] at holds ⊢
    exact ⟨holds.1, holdsMoved, holds.2.2⟩
  constructor
  · refine ⟨paths ++ added, wrote.trans wroteAdded, (perm.append_right added).trans ?_⟩
    simp only [List.flatMap_append, List.flatMap_cons, lists, List.append_assoc]
    exact (List.perm_append_comm.append_left _).append_left _
  · refine replaced (fun other => other.activity.CanGoOn next.store) ?_ advances.canGoOn
    intro other member
    exact (accounted.canGoOn other member).of_opens advances.opens
  · intro overwrites
    have unrefused := accounted.isUnrefused overwrites
    exact replaced Committer.IsUnrefused unrefused
      (advances.isUnrefused overwrites (unrefused committer (by simp)))

theorem steps (accounted : Accounted overwriteReadOnly start before)
    (run : ReflTransGen (Committer.Step overwriteReadOnly) before after) :
    Accounted overwriteReadOnly start after := by
  induction run with
  | refl => exact accounted
  | tail _ last ih => exact ih.step last

end Accounted

/-! ## Reports -/

namespace Committer

/-- What a committer has written and does not report, because it has been stopped. -/
def unreported (committer : Committer) : List Path :=
  if committer.failure?.isSome then committer.output.generated else []

/-- What a committer has written and reports. -/
def reported (committer : Committer) : List Path :=
  if committer.failure?.isSome then [] else committer.output.generated

theorem reported_append_unreported (committer : Committer) :
    committer.reported ++ committer.unreported = committer.output.generated := by
  unfold reported unreported
  split <;> simp

theorem generated_foldl_report (committers : List Committer) (before : GenerationReport) :
    (committers.foldl report before).output.generated =
      before.output.generated ++ committers.flatMap reported := by
  induction committers generalizing before with
  | nil => simp
  | cons committer rest ih =>
      rw [List.foldl_cons, ih, List.flatMap_cons, ← List.append_assoc]
      congr 1
      unfold reported
      cases stopped : committer.failure? with
      | none =>
          rw [report_of_failure?_eq_none stopped]
          rfl
      | some failure =>
          simp [report, failure?_eq_some.1 stopped, GenerationReport.addFailure]

theorem unreported_eq_nil_of_unrefused {committer : Committer}
    (isUnrefused : committer.IsUnrefused) : committer.unreported = [] := by
  unfold unreported
  split
  · rename_i stopped
    obtain ⟨failure, isFailure⟩ := Option.isSome_iff_exists.1 stopped
    exact isUnrefused.generated_of_stopped failure (failure?_eq_some.1 isFailure)
  · rfl

theorem failures_foldl_report (committers : List Committer) (before : GenerationReport) :
    (committers.foldl report before).failures =
      before.failures ++ committers.filterMap failure? := by
  induction committers generalizing before with
  | nil => simp
  | cons committer rest ih =>
      rw [List.foldl_cons, ih]
      cases stopped : committer.failure? with
      | none => simp [report_of_failure?_eq_none stopped, stopped]
      | some failure =>
          simp [report, failure?_eq_some.1 stopped, stopped, GenerationReport.addFailure]

/-- A committer that has been stopped is among the failures of a report. -/
theorem unreported_eq_nil_of_clean {committers : List Committer} {before : GenerationReport}
    (clean : (committers.foldl report before).failures = []) :
    committers.flatMap unreported = [] := by
  rw [failures_foldl_report] at clean
  apply List.flatMap_eq_nil_iff.2
  intro committer member
  have running := List.filterMap_eq_nil_iff.1 (List.append_eq_nil_iff.1 clean).2 committer member
  simp [unreported, running]

end Committer

namespace Builder

/-- A solution reports what it writes. -/
theorem SolutionStep.wrote {builder : Builder} {solution : Solution}
    {before after : Workspace × GenerationReport}
    (step : SolutionStep builder solution before after) :
    ∃ paths, before.1.store.Wrote after.1.store paths ∧
      after.2.output.generated = before.2.output.generated ++ paths := by
  cases step with
  | unrendered => exact ⟨[], .refl _, (List.append_nil _).symm⟩
  | refused _ step => exact ⟨[], step.wrote, (List.append_nil _).symm⟩
  | @written _ _ outcome _ step =>
      cases outcome with
      | generated => exact ⟨_, step.wrote, rfl⟩
      | skipped => exact ⟨[], step.wrote, (List.append_nil _).symm⟩

theorem wrote_foldl_generateSolution (builder : Builder) (state : Workspace × GenerationReport)
    (solutions : List Solution) :
    ∃ paths, state.1.store.Wrote (solutions.foldl builder.generateSolution state).1.store paths ∧
      (solutions.foldl builder.generateSolution state).2.output.generated =
        state.2.output.generated ++ paths := by
  induction solutions generalizing state with
  | nil => exact ⟨[], .refl _, (List.append_nil _).symm⟩
  | cons solution rest ih =>
      obtain ⟨own, wrote, lists⟩ := (builder.generateSolution_step solution state).wrote
      obtain ⟨paths, wroteRest, listsRest⟩ := ih (builder.generateSolution state solution)
      refine ⟨own ++ paths, wrote.trans wroteRest, ?_⟩
      rw [List.foldl_cons, listsRest, lists, List.append_assoc]

/-- Storing the database is the only write of a cleanup. -/
theorem CleanUpStep.wrote {builder : Builder} {state : Workspace × GenerationReport}
    {final : Workspace} {report : GenerationReport}
    (step : CleanUpStep builder state final (.ok report)) :
    ∃ paths, state.1.store.Wrote final.store paths ∧ report.output = state.2.output ∧
      ∀ path ∈ paths, builder.settings.cleanupDatabase = some path := by
  cases step with
  | idle => exact ⟨[], .refl _, rfl, by simp⟩
  | @stored database _ _ _ kept _ _ replaced =>
      have pruned := (Wrote.read state.1.store database).trans
        (Wrote.deleteAll _ (state.1.staleFiles database))
      refine ⟨_, pruned.trans (.of_replaced replaced), rfl, ?_⟩
      intro path member
      simpa [kept, eq_comm] using member

/-! ## Runs -/

/-- What follows on the projects of a run: what they have left behind is removed,
solutions are generated, and what earlier runs have left behind is removed. -/
def conclude (builder : Builder) (solutions : List Solution)
    (state : Workspace × GenerationReport) : Store × Except GenerationError GenerationReport :=
  let (workspace, result) :=
    builder.cleanUp (solutions.foldl builder.generateSolution (removeStale state))
  (workspace.store, result)

/-- The account of a run: its attempts to write have all succeeded, and every write of
a file other than the database is listed as generated or is one that a committer
has made before it was stopped, as often as it was made. -/
structure AccountsFor (builder : Builder) (start final : Store) (report : GenerationReport)
    (unreported : List Path) : Prop where
  writes_eq : final.writes = start.writes + (writtenPaths (final.callsSince start)).length
  count_eq : ∀ path, builder.settings.cleanupDatabase ≠ some path →
    (writtenPaths (final.callsSince start)).count path =
      report.output.generated.count path + unreported.count path

/-- What follows on the projects of a run is accounted for. -/
theorem accountsFor_conclude {builder : Builder} {start : Store}
    {state : Workspace × GenerationReport} {solutions : List Solution} {report : GenerationReport}
    {paths unreported : List Path} (wrote : start.Wrote state.1.store paths)
    (perm : paths.Perm (state.2.output.generated ++ unreported))
    (reported : (builder.conclude solutions state).2 = .ok report) :
    builder.AccountsFor start (builder.conclude solutions state).1 report unreported := by
  have removal := Wrote.deleteAll state.1.store (staleLists state)
  rw [← store_removeStale] at removal
  obtain ⟨later, wroteSolutions, lists⟩ :=
    builder.wrote_foldl_generateSolution (removeStale state) solutions
  have step :=
    builder.cleanUp_step (solutions.foldl builder.generateSolution (removeStale state))
  have ended :
      (builder.cleanUp (solutions.foldl builder.generateSolution (removeStale state))).2 =
        .ok report := reported
  rw [ended] at step
  obtain ⟨database, wroteDatabase, sameOutput, isDatabase⟩ := step.wrote
  have whole : start.Wrote (builder.conclude solutions state).1
      (paths ++ ([] ++ (later ++ database))) :=
    wrote.trans (removal.trans (wroteSolutions.trans wroteDatabase))
  have spelled := whole.writtenPaths_callsSince
  constructor
  · rw [spelled]
    exact whole.writes_eq
  · intro path isNotDatabase
    have unwritten : database.count path = 0 := by
      apply List.count_eq_zero_of_not_mem
      exact fun member => isNotDatabase (isDatabase path member)
    rw [spelled, sameOutput, lists, report_removeStale]
    simp only [List.count_append, List.nil_append, perm.count_eq, unwritten]
    omega

/-! ## Guarded package lists -/

/-- Before a guarded package list stops a project its new project file is written. -/
theorem CommitRun.wrote_of_guarded {before after : Workspace} {output recorded : GenerationOutput}
    {refusal : Option (Path × GenerationError)} {file list : Path} {contents text old : String}
    (run : CommitRun false before output [.file file contents, .shared list text] after recorded
      refusal)
    (absent : before.store.file? file = none)
    (guarded : before.store.file? list = some ⟨old, true⟩) (differs : old ≠ text)
    (apart : list.components ≠ file.components)
    (unclaimed : before.session.isClaimed list = false) :
    before.store.Wrote after.store [file] ∧ refusal ≠ none := by
  have noContents : before.store.contents? file ≠ some contents := by simp [contents?, absent]
  have refuses : ∀ middle : Store, middle.file? list = before.store.file? list →
      middle.Refuses false list text := fun _ same => ⟨rfl, old, same.trans guarded, differs⟩
  cases run with
  | stopped step =>
      cases step with
      | failed attempt step =>
          cases attempt
          obtain ⟨_, ⟨_, stored, found, _⟩, _⟩ := step.of_error
          rw [absent] at found
          cases found
  | next step run =>
      cases step with
      | written attempt step =>
          cases attempt
          have kept := refuses _ (step.file?_of_ne apart)
          have wrote := step.wrote
          cases step with
          | skipped holds => exact absurd holds noContents
          | generated =>
              cases run with
              | next step =>
                  cases step with
                  | handled claimed =>
                      rw [accepted, Session.isClaimed_recordOutput, unclaimed] at claimed
                      cases claimed
                  | written attempt step =>
                      obtain ⟨_, rfl, rfl⟩ := attempt?_shared_eq_some.1 attempt
                      cases (step.of_refuses kept).2
              | stopped step =>
                  cases step with
                  | failed attempt step =>
                      exact ⟨wrote.trans step.wrote, by simp⟩

/-- A builder that leaves read-only files alone. -/
def cautious : Builder := .new { overwriteReadOnly := false }

/-- A store whose package list may not be overwritten. -/
def guardedStore : Store :=
  .withFile .empty ⟨"/w/packages.config"⟩ ⟨"", true⟩

/-- A project whose package list is the one of `guardedStore`. -/
def guardedProject : Project :=
  .minimal "App" ⟨"/w/App.csproj"⟩ [⟨"Json", "13.0.1"⟩]

theorem avoids_guardedProject : ∀ text ∈ guardedProject.texts, Avoids separators text := by
  have fixed : ∀ text ∈ guardedProject.texts, isFixed text.toList = true := by decide
  exact fun text isText => .of_isFixed_toList (List.Subset.refl _) (fixed text isText)

theorem untagged_guardedProject : ∀ text ∈ guardedProject.texts,
    ¬ Value.omitTag.toList <:+: text.toList := by
  simp only [← occursIn_iff]
  decide

/-- Rendering the project gives a project file and a list that is not empty. -/
theorem renderProject_guarded :
    ∃ contents list rendered, cautious.renderProject guardedProject = .ok rendered ∧
      rendered.pending = [.file ⟨"/w/App.csproj"⟩ contents,
        .shared ⟨"/w/packages.config"⟩ list] ∧ list ≠ "" := by
  have bracket : '[' ∈ separators := by decide
  obtain ⟨contents, list, rendered, renders, isPending, lists⟩ :=
    exists_list_minimal { overwriteReadOnly := false } (by decide)
      (fun text isText inText => avoids_guardedProject text isText '[' inText bracket)
      (List.cons_ne_nil _ _)
  have isList : (⟨"/w/App.csproj"⟩ : Path).packageList = ⟨"/w/packages.config"⟩ := by
    decide
  rw [isList] at isPending
  refine ⟨contents, list, rendered, renders, isPending, ?_⟩
  rintro rfl
  obtain ⟨folder, listed⟩ := lists.exists_folder List.mem_cons_self avoids_guardedProject
    untagged_guardedProject
  cases listed _ List.mem_cons_self

/-- The project writes its project file, fails and reports nothing. -/
theorem afterProjects_guarded :
    guardedStore.Wrote (cautious.afterProjects ⟨0, 0⟩ guardedStore [guardedProject]).1.store
        [⟨"/w/App.csproj"⟩] ∧
      (cautious.afterProjects ⟨0, 0⟩ guardedStore [guardedProject]).2.output = .empty := by
  obtain ⟨contents, list, rendered, renders, isPending, differs⟩ := renderProject_guarded
  have wrote : ∀ {after recorded refusal}, CommitRun false ⟨guardedStore, .new ⟨0, 0⟩⟩ .empty
      rendered.pending after recorded refusal →
      guardedStore.Wrote after.store [⟨"/w/App.csproj"⟩] ∧ refusal ≠ none := by
    intro after recorded refusal run
    rw [isPending] at run
    exact run.wrote_of_guarded (by decide) (by decide) differs.symm
      (by decide) rfl
  have step := cautious.generateProject_step guardedProject (⟨guardedStore, .new ⟨0, 0⟩⟩, .empty)
  unfold afterProjects
  rw [List.foldl_cons, List.foldl_nil]
  generalize cautious.generateProject (⟨guardedStore, .new ⟨0, 0⟩⟩, .empty) guardedProject = next
    at step
  cases step with
  | unrendered fails =>
      rw [renders] at fails
      cases fails
  | stopped own run =>
      rw [renders] at own
      cases own
      exact ⟨(wrote run).1, rfl⟩
  | finished own run =>
      rw [renders] at own
      cases own
      exact absurd rfl (wrote run).2

/-- So the run has written a file that its report does not list. -/
theorem generate_guarded :
    ∃ final report, cautious.generate ⟨0, 0⟩ guardedStore [guardedProject] [] =
        (final, .ok report) ∧ report.output.generated = [] ∧
      writtenPaths (final.callsSince guardedStore) = [⟨"/w/App.csproj"⟩] := by
  obtain ⟨wrote, nothing⟩ := afterProjects_guarded
  have ran := cautious.generate_of_none ⟨0, 0⟩ guardedStore [guardedProject] rfl
  generalize cautious.afterProjects ⟨0, 0⟩ guardedStore [guardedProject] = state
    at ran wrote nothing
  refine ⟨_, _, ran, ?_, ?_⟩
  · rw [report_removeStale, nothing]
    rfl
  · rw [store_removeStale]
    exact (wrote.trans (.deleteAll _ _)).writtenPaths_callsSince

/-! ## Accounts of runs -/

/-- The report of a run accounts for its writes up to those of the projects that are
stopped, in whatever order the committers take their steps; generating the projects
one after the other is one such order.  Nothing is left out where every file may
be overwritten, nor where no project has failed. -/
theorem generate_accounts (builder : Builder) (clock : Timestamp) (store : Store)
    (projects : List Project) (solutions : List Solution) :
    (∃ final, Committer.Completes builder.settings.overwriteReadOnly
        (⟨store, .new clock⟩, projects.map builder.committer) final ∧
      builder.generate clock store projects solutions =
        builder.conclude solutions (merged final)) ∧
    ∀ final, Committer.Completes builder.settings.overwriteReadOnly
        (⟨store, .new clock⟩, projects.map builder.committer) final →
      ∀ report, (builder.conclude solutions (merged final)).2 = .ok report →
        builder.AccountsFor store (builder.conclude solutions (merged final)).1 report
          (final.2.flatMap Committer.unreported) ∧
        (builder.settings.overwriteReadOnly = true ∨ (merged final).2.failures = [] →
          final.2.flatMap Committer.unreported = []) := by
  constructor
  · obtain ⟨final, completes, same⟩ := builder.completes_afterProjects clock store projects
    exact ⟨final, completes, by rw [same]; rfl⟩
  · intro final completes report reported
    have accounted := (Accounted.initial builder clock store projects).steps completes.1
    obtain ⟨paths, wrote, perm⟩ := accounted.wrote
    have lists : (merged final).2.output.generated = final.2.flatMap Committer.reported :=
      Committer.generated_foldl_report final.2 .empty
    have split : paths.Perm ((merged final).2.output.generated ++
        final.2.flatMap Committer.unreported) := by
      rw [lists]
      refine perm.trans (List.Perm.symm ?_)
      have both := List.flatMap_append_perm final.2 Committer.reported Committer.unreported
      simpa only [Committer.reported_append_unreported] using both
    refine ⟨accountsFor_conclude wrote split reported, ?_⟩
    rintro (overwrites | clean)
    · apply List.flatMap_eq_nil_iff.2
      intro committer member
      exact Committer.unreported_eq_nil_of_unrefused
        (accounted.isUnrefused overwrites committer member)
    · exact Committer.unreported_eq_nil_of_clean clean

/-- A project file that was written before its project was stopped is missing from
the report once. -/
theorem generate_accounts_guarded :
    ∃ final, Committer.Completes false
        (⟨guardedStore, .new ⟨0, 0⟩⟩, [cautious.committer guardedProject]) final ∧
      (final.2.flatMap Committer.unreported).count ⟨"/w/App.csproj"⟩ = 1 := by
  obtain ⟨⟨final, completes, same⟩, accounts⟩ :=
    generate_accounts cautious ⟨0, 0⟩ guardedStore [guardedProject] []
  refine ⟨final, completes, ?_⟩
  obtain ⟨store, report, ran, nothing, written⟩ := generate_guarded
  rw [ran] at same
  have counts := (accounts final completes report (same ▸ rfl)).1.count_eq ⟨"/w/App.csproj"⟩
    (by decide)
  rw [← same, nothing, written, List.count_nil, Nat.zero_add] at counts
  rw [← counts]
  decide

/-- The report on a project that is stopped at its package list does not account for
the project file, which has been written. -/
theorem generate_omits_written_guarded :
    ∃ final report, cautious.generate ⟨0, 0⟩ guardedStore [guardedProject] [] =
        (final, .ok report) ∧
      ¬ ∀ path, cautious.settings.cleanupDatabase ≠ some path →
        (writtenPaths (final.callsSince guardedStore)).count path =
          report.output.generated.count path := by
  obtain ⟨final, report, ran, nothing, written⟩ := generate_guarded
  refine ⟨final, report, ran, fun accounts => ?_⟩
  have counts := accounts ⟨"/w/App.csproj"⟩ (by decide)
  rw [nothing, written] at counts
  exact absurd counts (by decide)

end Builder

end ProjectFiles
