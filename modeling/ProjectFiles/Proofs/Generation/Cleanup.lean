import ProjectFiles.Proofs.Generation.Claims
import ProjectFiles.Proofs.Output.Cleanup

/-!
# The end of a run

The last step of a run looks at the database of outputs.  Without a database, or
when something has failed, it does nothing.  Otherwise it deletes the recorded
files that the run has not produced and replaces the database.
-/

namespace ProjectFiles

open Store

/-- Whether a path is another than that of the database of outputs. -/
def Settings.IsNotDatabase (settings : Settings) (path : Path) : Prop :=
  ∀ database, settings.cleanupDatabase = some database → path.components ≠ database.components

/-! ## The end is one of three steps -/

namespace Builder

/-- What the last step of a run does. -/
inductive CleanUpStep (builder : Builder) (state : Workspace × GenerationReport) :
    Workspace → Except GenerationError GenerationReport → Prop where
  | idle (reason : builder.settings.cleanupDatabase = none ∨ state.2.failures ≠ []) :
      CleanUpStep builder state state.1 (.ok state.2)
  | stored {database : Path} {contents : String} {final : Store} {cleanup : CleanupReport}
      (kept : builder.settings.cleanupDatabase = some database) (clean : state.2.failures = [])
      (writable : ∀ old, (state.1.pruned database).file? database ≠ some ⟨old, true⟩)
      (replaced : (state.1.pruned database).Replaced database contents final) :
      CleanUpStep builder state ⟨final, state.1.session⟩
        (.ok { state.2 with cleanup := some cleanup })
  | refused {database : Path} {old : String}
      (kept : builder.settings.cleanupDatabase = some database) (clean : state.2.failures = [])
      (found : (state.1.pruned database).file? database = some ⟨old, true⟩) :
      CleanUpStep builder state
        ⟨(state.1.pruned database).record .write database, state.1.session⟩
        (.error (.io (.readOnly database)))

theorem cleanUp_step (builder : Builder) (state : Workspace × GenerationReport) :
    CleanUpStep builder state (builder.cleanUp state).1 (builder.cleanUp state).2 := by
  unfold cleanUp
  cases kept : builder.settings.cleanupDatabase with
  | none => exact .idle (.inl kept)
  | some database =>
      cases clean : state.2.failures with
      | cons failure others =>
          have failed : state.2.isSuccess = false :=
            GenerationReport.isSuccess_of_failed (by simp [clean])
          simp only [failed, Bool.false_eq_true, if_false]
          exact .idle (.inr (by simp [clean]))
      | nil =>
          have success := GenerationReport.isSuccess_of_clean clean
          simp only [success, if_true]
          by_cases isProtected : ∃ old, (state.1.pruned database).file? database = some ⟨old, true⟩
          · obtain ⟨old, found⟩ := isProtected
            rw [Workspace.cleanup_of_readOnly found]
            exact .refused kept clean found
          · have writable : ∀ old, (state.1.pruned database).file? database ≠ some ⟨old, true⟩ :=
              fun old found => isProtected ⟨old, found⟩
            obtain ⟨final, cleaned, replaced⟩ := Workspace.cleanup_of_writable writable
            rw [cleaned]
            exact .stored kept clean writable replaced

/-- Once something has failed, the end of a run leaves everything as it is. -/
theorem cleanUp_of_failed (builder : Builder) {state : Workspace × GenerationReport}
    (failed : state.2.failures ≠ []) : builder.cleanUp state = (state.1, .ok state.2) := by
  unfold cleanUp
  cases builder.settings.cleanupDatabase with
  | none => rfl
  | some database => simp [GenerationReport.isSuccess_of_failed failed]

/-- Without a database, too. -/
theorem cleanUp_of_none {builder : Builder} (state : Workspace × GenerationReport)
    (unkept : builder.settings.cleanupDatabase = none) :
    builder.cleanUp state = (state.1, .ok state.2) := by
  unfold cleanUp
  rw [unkept]

/-- A run without solutions that keeps no database ends behind its projects. -/
theorem generate_of_none (builder : Builder) (clock : Timestamp) (store : Store)
    (projects : List Project) (unkept : builder.settings.cleanupDatabase = none) :
    builder.generate clock store projects [] =
      ((removeStale (builder.afterProjects clock store projects)).1.store,
        .ok (removeStale (builder.afterProjects clock store projects)).2) := by
  rw [generate_eq, cleanUp_of_none _ unkept]
  rfl

namespace CleanUpStep

variable {builder : Builder} {state : Workspace × GenerationReport} {final : Workspace}
variable {result : Except GenerationError GenerationReport}

/-- The end of a run asks for recorded files only, and for each that disappears.
It writes the database only. -/
theorem calls_eq (step : CleanUpStep builder state final result) :
    ∃ calls, final.store.calls = state.1.store.calls ++ calls ∧
      (∀ call ∈ calls, call.method = .remove → state.2.failures = [] ∧
        ∃ database, builder.settings.cleanupDatabase = some database ∧
          call.path ∈ state.1.staleFiles database ∧
            ∃ contents, state.1.store.file? call.path = some ⟨contents, false⟩) ∧
      (∀ call ∈ calls, call.method = .write → builder.settings.cleanupDatabase = some call.path) ∧
      ∀ probe : Path, state.1.store.file? probe ≠ none → final.store.file? probe = none →
        state.1.store.Deletable probe ∧ ∃ call ∈ calls, call.method = .remove ∧
          call.path.components = probe.components := by
  cases step with
  | idle => exact ⟨[], by simp, by simp, by simp, fun probe present gone => absurd gone present⟩
  | stored kept clean writable replaced =>
      obtain ⟨preparation, harmless, spelled⟩ := replaced.calls_eq
      obtain ⟨calls, whole, removals, writes, gone⟩ := Workspace.calls_of_pruned
        (spelled.trans (List.append_assoc ..))
        (by
          intro call member
          rcases List.mem_append.1 member with prepares | isWrite
          · rcases harmless call prepares with isRead | isSetReadOnly
            · simp [isRead]
            · simp [isSetReadOnly]
          · simp [List.mem_singleton.1 isWrite])
        (by
          intro probe present
          rw [replaced.file?_eq]
          split
          · simp
          · exact present)
      refine ⟨calls, whole, ?_, ?_, gone⟩
      · intro call member isRemoval
        obtain ⟨stale, found⟩ := removals call member isRemoval
        exact ⟨clean, _, kept, stale, found⟩
      · intro call member isWrite
        rw [kept, writes call member isWrite]
  | @refused database _ kept clean found =>
      obtain ⟨calls, whole, removals, writes, gone⟩ := Workspace.calls_of_pruned
        (calls_record (state.1.pruned database) .write database) (by simp) (fun _ => id)
      refine ⟨calls, whole, ?_, ?_, gone⟩
      · intro call member isRemoval
        obtain ⟨stale, found⟩ := removals call member isRemoval
        exact ⟨clean, _, kept, stale, found⟩
      · intro call member isWrite
        rw [kept, writes call member isWrite]

/-- But for the database, the end of a run changes nothing that was recorded. -/
theorem file?_of_produced (step : CleanUpStep builder state final result) {probe : Path}
    (isNotDatabase : builder.settings.IsNotDatabase probe)
    (produced : state.1.session.produced probe = true) :
    final.store.file? probe = state.1.store.file? probe := by
  cases step with
  | idle => rfl
  | stored kept _ _ replaced =>
      rw [replaced.file?_eq, if_neg (isNotDatabase _ kept),
        Workspace.file?_pruned_of_produced (.inl produced)]
  | refused => exact Workspace.file?_pruned_of_produced (.inl produced)

/-- But for the database, the end of a run leaves files alone or deletes them. -/
theorem file?_cases (step : CleanUpStep builder state final result) {probe : Path}
    (isNotDatabase : builder.settings.IsNotDatabase probe) :
    final.store.file? probe = state.1.store.file? probe ∨ final.store.file? probe = none := by
  have pruned : ∀ database : Path,
      (state.1.pruned database).file? probe = state.1.store.file? probe ∨
        (state.1.pruned database).file? probe = none := by
    intro database
    cases found : (state.1.pruned database).file? probe with
    | none => exact .inr rfl
    | some file => exact .inl (Workspace.file?_of_file?_pruned found).symm
  cases step with
  | idle => exact .inl rfl
  | stored kept _ _ replaced =>
      rw [replaced.file?_eq, if_neg (isNotDatabase _ kept)]
      exact pruned _
  | refused => exact pruned _

/-- The end of a run adds to its report only what the cleanup has done. -/
theorem report_of_ok {report : GenerationReport}
    (step : CleanUpStep builder state final result) (reported : result = .ok report) :
    ∃ cleanup, report = { state.2 with cleanup := cleanup } := by
  cases step with
  | idle =>
      cases reported
      exact ⟨state.2.cleanup, rfl⟩
  | stored =>
      cases reported
      exact ⟨_, rfl⟩
  | refused => cases reported

/-- The database is writable once it has been stored. -/
theorem file?_database_of_ok {report : GenerationReport} {database : Path}
    (step : CleanUpStep builder state final result) (reported : result = .ok report)
    (kept : builder.settings.cleanupDatabase = some database) (clean : state.2.failures = []) :
    ∃ contents, final.store.file? database = some ⟨contents, false⟩ := by
  cases step with
  | idle reason =>
      rcases reason with unkept | failed
      · cases kept.symm.trans unkept
      · exact absurd clean failed
  | stored keptHere _ _ replaced =>
      obtain rfl := Option.some.inj (kept.symm.trans keptHere)
      exact ⟨_, by rw [replaced.file?_eq, if_pos rfl]⟩
  | refused => cases reported

end CleanUpStep

end Builder

end ProjectFiles
