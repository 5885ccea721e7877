import ProjectFiles.Proofs.Generation.Deletion
import ProjectFiles.Proofs.Output.Database
import ProjectFiles.Proofs.Path.Rooted

/-!
# Runs over unprotected stores

In a store without read-only and locked files every write succeeds.  A run then
fails only at what cannot be rendered, and it records an output exactly when it
reports it.  Everything that is new in the store has been reported as generated.
-/

namespace ProjectFiles

open Store PendingOutput

/-! ## Unprotected stores -/

/-- Whether no file of a store is read-only and no path is locked. -/
structure Store.Unprotected (store : Store) : Prop where
  writable : ∀ path old, store.file? path ≠ some ⟨old, true⟩
  unlocked : ∀ path : Path, store.locked.contains path = false

namespace Store.Unprotected

variable {store final : Store} {path : Path}

theorem record (unprotected : store.Unprotected) (method : StoreMethod) :
    (store.record method path).Unprotected :=
  ⟨unprotected.writable, unprotected.unlocked⟩

theorem replaced {contents : String} (unprotected : store.Unprotected)
    (replaced : store.Replaced path contents final) : final.Unprotected where
  writable := by
    intro probe old
    rw [replaced.file?_eq]
    split
    · simp
    · exact unprotected.writable probe old
  unlocked := by
    rw [replaced.locked_eq]
    exact unprotected.unlocked

theorem deleteAll (unprotected : store.Unprotected) (paths : List Path) :
    (store.deleteAll paths).1.Unprotected where
  writable := fun probe old found =>
    unprotected.writable probe old (file?_of_file?_deleteAll found)
  unlocked := by
    rw [locked_deleteAll]
    exact unprotected.unlocked

/-- Every file that is there can be deleted. -/
theorem deletable_of_some {file : StoredFile} (unprotected : store.Unprotected)
    (found : store.file? path = some file) : store.Deletable path := by
  obtain ⟨contents, readOnly⟩ := file
  cases readOnly with
  | false => exact ⟨unprotected.unlocked path, contents, found⟩
  | true => exact absurd found (unprotected.writable path contents)

/-- No write is refused. -/
theorem not_error {overwriteReadOnly : Bool} {contents : String} {error : GenerationError}
    (unprotected : store.Unprotected) :
    ¬ WriteStep overwriteReadOnly store path contents final (.error error) := by
  intro step
  obtain ⟨_, ⟨_, old, found, _⟩, _⟩ := step.of_error
  exact unprotected.writable path old found

theorem write {overwriteReadOnly : Bool} {contents : String}
    {result : Except GenerationError WriteOutcome} (unprotected : store.Unprotected)
    (step : WriteStep overwriteReadOnly store path contents final result) :
    final.Unprotected := by
  cases step with
  | skipped | refused => exact unprotected.record .read
  | generated _ _ isReplaced => exact unprotected.replaced isReplaced

end Store.Unprotected

/-! ## Files and outputs -/

/-- Whether a path is rooted and does not lead to a database. -/
structure Path.IsApart (path database : Path) : Prop where
  hasRoot : path.hasRoot = true
  components_ne : path.components ≠ database.components

/-- Whether one of several paths leads to a file. -/
def Path.IsAmong (path : Path) (paths : List Path) : Prop :=
  ∃ named ∈ paths, named.components = path.components

theorem Path.IsAmong.mono {path : Path} {fewer paths : List Path} (among : path.IsAmong fewer)
    (more : fewer ⊆ paths) : path.IsAmong paths := by
  obtain ⟨named, member, same⟩ := among
  exact ⟨named, more member, same⟩

theorem PendingOutput.path_of_attempt {session : Session} {pending : PendingOutput} {path : Path}
    {contents : String} (attempt : pending.attempt? session = some (path, contents)) :
    pending.path = path := by
  cases pending with
  | file => exact (Prod.mk.inj (Option.some.inj attempt)).1
  | shared => exact (attempt?_shared_eq_some.1 attempt).2.1
  | staleShared => cases attempt

theorem Session.outputs_claim (session : Session) (path : Path) :
    (session.claim path).1.outputs = session.outputs := by
  unfold claim
  split <;> rfl

theorem Session.clock_claim (session : Session) (path : Path) :
    (session.claim path).1.clock = session.clock := by
  unfold claim
  split <;> rfl

/-- An output that is written is recorded with the time of the session. -/
theorem PendingOutput.outputs_accepted {session : Session} {pending : PendingOutput} {path : Path}
    {contents : String} (attempt : pending.attempt? session = some (path, contents)) :
    (pending.accepted session).clock = session.clock ∧
      (pending.accepted session).outputs = session.outputs.insert path.absolute session.clock := by
  cases pending with
  | file =>
      obtain ⟨rfl, _⟩ := Prod.mk.inj (Option.some.inj attempt)
      exact ⟨rfl, rfl⟩
  | shared =>
      obtain ⟨_, rfl, _⟩ := attempt?_shared_eq_some.1 attempt
      simp [accepted, Session.recordOutput, Session.outputs_claim, Session.clock_claim]
  | staleShared => cases attempt

namespace GenerationOutput

variable {output other : GenerationOutput} {path : Path} {outcome : WriteOutcome}

theorem merge_record : output.merge (other.record path outcome) =
    (output.merge other).record path outcome := by
  cases outcome <;> simp [merge, record]

theorem merge_empty (output : GenerationOutput) : output.merge .empty = output := by
  simp [merge, empty]

theorem generated_subset_record : output.generated ⊆ (output.record path outcome).generated := by
  cases outcome <;> simp [record]

end GenerationOutput

/-! ## What a run knows -/

/-- What holds in the middle of a run over an unprotected store: the database is as
it was, all times are the time of the run, and what is recorded or new in the store
has been reported. -/
structure Workspace.Reported (start : Store) (clock : Timestamp) (database : Path)
    (workspace : Workspace) (output : GenerationOutput) : Prop where
  unprotected : workspace.store.Unprotected
  clock_eq : workspace.session.clock = clock
  time_eq : ∀ time ∈ workspace.session.outputs.values, time = clock
  stale_apart : ∀ key ∈ workspace.session.stale.keys, key.components ≠ database.components
  file?_database : workspace.store.file? database = start.file? database
  isApart : ∀ path ∈ output.listed, path.IsApart database
  created : ∀ path : Path, workspace.store.file? path ≠ none →
    start.file? path ≠ none ∨ path.IsAmong output.generated
  produced_iff : ∀ path : Path, workspace.session.produced path = true ↔
    ∃ listed ∈ output.listed, path.sameOutput listed = true

namespace Workspace.Reported

variable {start final : Store} {clock : Timestamp} {database path : Path} {workspace : Workspace}
variable {output : GenerationOutput} {overwriteReadOnly : Bool} {contents : String}

/-- A run knows nothing when it begins. -/
theorem begin (unprotected : start.Unprotected) (clock : Timestamp) (database : Path) :
    Reported start clock database ⟨start, .new clock⟩ .empty where
  unprotected := unprotected
  clock_eq := rfl
  time_eq := fun _ member => nomatch member
  stale_apart := fun _ member => nomatch member
  file?_database := rfl
  isApart := fun _ member => nomatch member
  created := fun _ => .inl
  produced_iff := by
    intro path
    constructor
    · intro produced
      cases produced
    · rintro ⟨_, member, _⟩
      cases member

/-- A write that is recorded and reported. -/
theorem write {session : Session} {outcome : WriteOutcome}
    (reported : Reported start clock database workspace output)
    (step : WriteStep overwriteReadOnly workspace.store path contents final (.ok outcome))
    (isApart : path.IsApart database) (clock_eq : session.clock = workspace.session.clock)
    (outputs_eq : session.outputs =
      workspace.session.outputs.insert path.absolute workspace.session.clock)
    (stale_eq : session.stale = workspace.session.stale)
    (produced_eq : ∀ probe, session.produced probe =
      (probe.sameOutput path || workspace.session.produced probe)) :
    Reported start clock database ⟨final, session⟩ (output.record path outcome) where
  unprotected := reported.unprotected.write step
  clock_eq := clock_eq.trans reported.clock_eq
  time_eq := by
    intro time member
    rw [outputs_eq] at member
    rcases SortedMap.mem_values_insert member with rfl | earlier
    · exact reported.clock_eq
    · exact reported.time_eq time earlier
  stale_apart := by
    rw [stale_eq]
    exact reported.stale_apart
  file?_database := by
    rw [step.file?_of_ne (Ne.symm isApart.components_ne)]
    exact reported.file?_database
  isApart := by
    intro listed member
    rcases GenerationOutput.mem_listed_record.1 member with rfl | earlier
    · exact isApart
    · exact reported.isApart listed earlier
  created := by
    intro probe present
    cases step with
    | skipped => exact reported.created probe present
    | generated _ _ replaced =>
        rw [replaced.file?_eq] at present
        split at present
        · rename_i same
          exact .inr ⟨path, by simp [GenerationOutput.record], same.symm⟩
        · exact (reported.created probe present).imp_right fun among =>
            among.mono GenerationOutput.generated_subset_record
  produced_iff := by
    intro probe
    rw [produced_eq, Bool.or_eq_true, reported.produced_iff]
    simp only [GenerationOutput.mem_listed_record, exists_eq_or_imp]

/-- A commit succeeds and is reported. -/
theorem commit {pending : PendingOutput} {after : Workspace} {earlier recorded : GenerationOutput}
    {result : Except GenerationError Unit}
    (reported : Reported start clock database workspace (earlier.merge output))
    (step : CommitStep overwriteReadOnly workspace output pending after recorded result)
    (isApart : pending.path.IsApart database) :
    result = .ok () ∧ Reported start clock database after (earlier.merge recorded) := by
  cases step with
  | deferred path =>
      refine ⟨rfl, { reported with stale_apart := ?_ }⟩
      intro key member
      rcases SortedMap.mem_keys_insert member with rfl | earlier
      · have rooted : path.hasRoot = true := isApart.hasRoot
        rw [Path.components_absolute_of_hasRoot rooted]
        exact isApart.components_ne
      · exact reported.stale_apart key earlier
  | handled => exact ⟨rfl, reported⟩
  | written attempt step =>
      rw [path_of_attempt attempt] at isApart
      obtain ⟨clock_eq, outputs_eq⟩ := outputs_accepted attempt
      rw [GenerationOutput.merge_record]
      exact ⟨rfl, reported.write step isApart clock_eq outputs_eq (stale_accepted attempt)
        (produced_accepted attempt)⟩
  | failed _ step => exact absurd step reported.unprotected.not_error

/-- Files that wait for removal are not reported, nor is the database among them. -/
theorem deleteAll {paths : List Path} {session : Session}
    (reported : Reported start clock database workspace output)
    (apart : ∀ key ∈ paths, key.components ≠ database.components)
    (clock_eq : session.clock = workspace.session.clock)
    (outputs_eq : session.outputs = workspace.session.outputs) (stale_eq : session.stale = .empty) :
    Reported start clock database ⟨(workspace.store.deleteAll paths).1, session⟩ output where
  unprotected := reported.unprotected.deleteAll paths
  clock_eq := clock_eq.trans reported.clock_eq
  time_eq := by
    rw [outputs_eq]
    exact reported.time_eq
  stale_apart := by
    rw [stale_eq]
    exact fun _ member => nomatch member
  file?_database := by
    rw [file?_deleteAll_of_spared (.inl apart)]
    exact reported.file?_database
  isApart := reported.isApart
  created := by
    intro path present
    obtain ⟨file, found⟩ := Option.ne_none_iff_exists'.1 present
    refine reported.created path ?_
    rw [file?_of_file?_deleteAll found]
    exact Option.some_ne_none file
  produced_iff := by
    unfold Session.produced
    rw [outputs_eq]
    exact reported.produced_iff

end Workspace.Reported

namespace Builder

variable {builder : Builder} {start : Store} {clock : Timestamp} {database : Path}

/-! ## Phases -/

/-- Committing the outputs of a project is not stopped. -/
theorem CommitRun.reported {overwriteReadOnly : Bool} {before after : Workspace}
    {earlier output recorded : GenerationOutput} {pendings : List PendingOutput}
    {refusal : Option (Path × GenerationError)}
    (run : CommitRun overwriteReadOnly before output pendings after recorded refusal)
    (reported : before.Reported start clock database (earlier.merge output))
    (areApart : ∀ pending ∈ pendings, pending.path.IsApart database) :
    refusal = none ∧ after.Reported start clock database (earlier.merge recorded) := by
  induction run with
  | done => exact ⟨rfl, reported⟩
  | next step _ ih =>
      obtain ⟨_, stepReported⟩ := reported.commit step (areApart _ List.mem_cons_self)
      exact ih stepReported fun pending member => areApart pending (List.mem_cons_of_mem _ member)
  | stopped step =>
      obtain ⟨isOk, _⟩ := reported.commit step (areApart _ List.mem_cons_self)
      cases isOk

theorem mem_pendings {project : Project} {rendered : RenderedProject} {pending : PendingOutput}
    (renders : builder.renderProject project = .ok rendered) (member : pending ∈ rendered.pending) :
    pending ∈ builder.pendings project := by
  rw [pendings, renders]
  exact member

theorem ProjectStep.reported {project : Project} {before after : Workspace × GenerationReport}
    (step : ProjectStep builder project before after)
    (reported : before.1.Reported start clock database before.2.output)
    (areApart : ∀ pending ∈ builder.pendings project, pending.path.IsApart database) :
    after.1.Reported start clock database after.2.output := by
  rw [← before.2.output.merge_empty] at reported
  cases step with
  | unrendered => exact before.2.output.merge_empty ▸ reported
  | stopped renders run =>
      obtain ⟨isNone, _⟩ := run.reported reported fun pending member =>
        areApart pending (mem_pendings renders member)
      cases isNone
  | finished renders run =>
      exact (run.reported reported fun pending member =>
        areApart pending (mem_pendings renders member)).2

theorem reported_foldl_generateProject {projects : List Project}
    {state : Workspace × GenerationReport}
    (reported : state.1.Reported start clock database state.2.output)
    (areApart : ∀ pending ∈ builder.renderedOutputs projects, pending.path.IsApart database) :
    (projects.foldl builder.generateProject state).1.Reported start clock database
      (projects.foldl builder.generateProject state).2.output := by
  induction projects generalizing state with
  | nil => exact reported
  | cons project projects ih =>
      apply ih
      · exact (generateProject_step builder project state).reported reported fun pending member =>
          areApart pending (List.mem_append_left _ member)
      · exact fun pending member => areApart pending (List.mem_append_right _ member)

/-- What the projects have left behind is removed. -/
theorem reported_removeStale {state : Workspace × GenerationReport}
    (reported : state.1.Reported start clock database state.2.output) :
    (removeStale state).1.Reported start clock database (removeStale state).2.output := by
  unfold removeStale
  split
  · refine reported.deleteAll ?_ rfl rfl rfl
    intro key member
    exact reported.stale_apart key (List.mem_filter.1 member).1
  · exact reported

theorem SolutionStep.reported {solution : Solution} {before after : Workspace × GenerationReport}
    (step : SolutionStep builder solution before after)
    (reported : before.1.Reported start clock database before.2.output)
    (isApart : solution.file.IsApart database) :
    after.1.Reported start clock database after.2.output := by
  cases step with
  | unrendered => exact reported
  | refused _ step => exact absurd step reported.unprotected.not_error
  | written _ step =>
      exact reported.write step isApart rfl rfl rfl
        (before.1.session.produced_recordOutput solution.file)

theorem reported_foldl_generateSolution {solutions : List Solution}
    {state : Workspace × GenerationReport}
    (reported : state.1.Reported start clock database state.2.output)
    (areApart : ∀ solution ∈ solutions, solution.file.IsApart database) :
    (solutions.foldl builder.generateSolution state).1.Reported start clock database
      (solutions.foldl builder.generateSolution state).2.output := by
  induction solutions generalizing state with
  | nil => exact reported
  | cons solution solutions ih =>
      apply ih
      · exact (generateSolution_step builder solution state).reported reported
          (areApart solution List.mem_cons_self)
      · exact fun other member => areApart other (List.mem_cons_of_mem _ member)

/-- What a run has reported when its solutions have been generated. -/
theorem reported_afterSolutions {projects : List Project} {solutions : List Solution}
    (unprotected : start.Unprotected) (clock : Timestamp)
    (areApart : ∀ pending ∈ builder.renderedOutputs projects, pending.path.IsApart database)
    (solutionsApart : ∀ solution ∈ solutions, solution.file.IsApart database) :
    (builder.afterSolutions clock start projects solutions).1.Reported start clock database
      (builder.afterSolutions clock start projects solutions).2.output :=
  reported_foldl_generateSolution
    (reported_removeStale (reported_foldl_generateProject
      (.begin unprotected clock database) areApart))
    solutionsApart

/-! ## The end of a run -/

/-- The end of a clean run stores what the session has recorded. -/
theorem cleanUp_of_clean {state : Workspace × GenerationReport}
    (kept : builder.settings.cleanupDatabase = some database) (clean : state.2.failures = [])
    (unprotected : state.1.store.Unprotected) :
    ∃ final cleanup, builder.cleanUp state =
        (⟨final, state.1.session⟩, .ok { state.2 with cleanup := some cleanup }) ∧
      (state.1.pruned database).Replaced database
        (OutputDatabase.ofSession state.1.session).render final := by
  have prunedUnprotected : (state.1.pruned database).Unprotected :=
    (unprotected.record .read).deleteAll _
  obtain ⟨final, cleaned, replaced⟩ :=
    Workspace.cleanup_of_writable (prunedUnprotected.writable database)
  refine ⟨final, state.1.cleanupReport database, ?_, replaced⟩
  unfold cleanUp
  simp only [kept, GenerationReport.isSuccess_of_clean clean, cleaned]
  rfl

end Builder

namespace Workspace.Reported

variable {start final : Store} {clock : Timestamp} {database path : Path} {workspace : Workspace}
variable {output : GenerationOutput}

/-- What is stored at the end of a clean run is loaded by the next one. -/
theorem load_eq {store : Store} (reported : workspace.Reported start clock database output)
    (isClock : clock.IsClock)
    (replaced : store.Replaced database (OutputDatabase.ofSession workspace.session).render final) :
    (OutputDatabase.load final database).2 = .ofSession workspace.session := by
  have contents : final.contents? database =
      some (OutputDatabase.ofSession workspace.session).render := by
    rw [contents?_eq_some_iff]
    exact ⟨false, by rw [replaced.file?_eq, if_pos rfl]⟩
  have areClocks : ∀ entry ∈ (OutputDatabase.ofSession workspace.session).files.entries,
      entry.2.IsClock := by
    intro entry member
    rw [reported.time_eq entry.2 (List.mem_map_of_mem member)]
    exact isClock
  rw [OutputDatabase.load_snd_of_contents contents]
  exact OutputDatabase.ofText_render rfl areClocks

/-- A rooted path is recorded exactly when its file has been reported. -/
theorem produced_iff_isAmong (reported : workspace.Reported start clock database output)
    (rooted : path.hasRoot = true) :
    workspace.session.produced path = true ↔ path.IsAmong output.listed := by
  rw [reported.produced_iff]
  constructor
  · rintro ⟨listed, member, same⟩
    exact ⟨listed, member, (Path.components_eq_of_sameOutput rooted
      (reported.isApart listed member).hasRoot same).symm⟩
  · rintro ⟨listed, member, same⟩
    exact ⟨listed, member, Path.sameOutput_of_components_eq same.symm⟩

/-- A reported file is recorded under its own path. -/
theorem contains_of_isAmong (reported : workspace.Reported start clock database output)
    (listed : path.IsAmong output.listed) :
    workspace.session.outputs.contains path = true := by
  obtain ⟨named, member, same⟩ := listed
  have rooted := (reported.isApart named member).hasRoot
  have produced : workspace.session.produced named = true :=
    (reported.produced_iff_isAmong rooted).2 ⟨named, member, rfl⟩
  have equal : compare path named.absolute = .eq :=
    Path.compare_eq_iff.2 (by rw [Path.components_absolute_of_hasRoot rooted, same])
  rw [SortedMap.contains, SortedMap.get?_congr _ equal]
  exact produced

/-- The recorded files that a run has not reported are gone once they have been
deleted. -/
theorem file?_pruned_of_unreported (reported : workspace.Reported start clock database output)
    (rooted : path.hasRoot = true) (unreported : ¬path.IsAmong output.listed)
    (recorded : (OutputDatabase.load start database).2.files.contains path = true) :
    (workspace.pruned database).file? path = none := by
  rw [← OutputDatabase.load_congr workspace.store start reported.file?_database,
    SortedMap.contains_iff_mem_keys] at recorded
  obtain ⟨key, member, equal⟩ := recorded
  have same : path.components = key.components := Path.compare_eq_iff.1 equal
  have unproduced : workspace.session.produced key = false := by
    rw [← workspace.session.produced_congr (Path.sameOutput_of_components_eq same)]
    exact Bool.eq_false_iff.2 fun produced =>
      unreported ((reported.produced_iff_isAmong rooted).1 produced)
  have stale : key ∈ workspace.staleFiles database :=
    OutputDatabase.mem_staleFiles.2 ⟨member, unproduced⟩
  cases found : (workspace.store.record .read database).file? path with
  | none =>
      cases survives : (workspace.pruned database).file? path with
      | none => rfl
      | some file =>
          rw [← found]
          exact (file?_of_file?_deleteAll survives).symm
  | some file =>
      exact file?_deleteAll_of_deletable stale same.symm
        ((reported.unprotected.record .read).deletable_of_some found)

end Workspace.Reported

/-! ## What a run does -/

/-- What a run over an unprotected store does.  It leaves no file protected, and new
files but for the database are reported as generated.  Unless something has failed,
its database has what it reports, and what the earlier database had and the run does
not report is gone. -/
structure GenerationReport.Explains (report : GenerationReport) (database : Path)
    (before after : Store) : Prop where
  unprotected : after.Unprotected
  isApart : ∀ path ∈ report.output.listed, path.IsApart database
  created : ∀ path : Path, path.components ≠ database.components → after.file? path ≠ none →
    before.file? path ≠ none ∨ path.IsAmong report.output.generated
  file?_database : report.failures ≠ [] → after.file? database = before.file? database
  recorded : report.failures = [] → ∀ path : Path, path.IsAmong report.output.listed →
    (OutputDatabase.load after database).2.files.contains path = true
  removed : report.failures = [] → ∀ path : Path, path.IsApart database →
    ¬path.IsAmong report.output.listed →
    (OutputDatabase.load before database).2.files.contains path = true →
    after.file? path = none

theorem Builder.generate_explains {builder : Builder} {clock : Timestamp} {store : Store}
    {database : Path} {projects : List Project} {solutions : List Solution}
    (kept : builder.settings.cleanupDatabase = some database) (isClock : clock.IsClock)
    (unprotected : store.Unprotected)
    (areApart : ∀ pending ∈ builder.renderedOutputs projects, pending.path.IsApart database)
    (solutionsApart : ∀ solution ∈ solutions, solution.file.IsApart database) :
    ∃ final report, builder.generate clock store projects solutions = (final, .ok report) ∧
      report.Explains database store final := by
  have reported := reported_afterSolutions unprotected clock areApart solutionsApart
  rw [generate_eq]
  generalize builder.afterSolutions clock store projects solutions = state at reported
  by_cases clean : state.2.failures = []
  · obtain ⟨final, cleanup, cleaned, replaced⟩ :=
      builder.cleanUp_of_clean kept clean reported.unprotected
    rw [cleaned]
    refine ⟨final, _, rfl, ?_⟩
    exact {
      unprotected := ((reported.unprotected.record .read).deleteAll _).replaced replaced
      isApart := reported.isApart
      created := by
        intro path other present
        rw [replaced.file?_eq, if_neg other] at present
        obtain ⟨file, found⟩ := Option.ne_none_iff_exists'.1 present
        refine reported.created path ?_
        rw [Workspace.file?_of_file?_pruned found]
        exact Option.some_ne_none file
      file?_database := fun failed => absurd clean failed
      recorded := by
        intro _ path listed
        rw [reported.load_eq isClock replaced]
        exact reported.contains_of_isAmong listed
      removed := by
        intro _ path isApart unlisted recorded
        rw [replaced.file?_eq, if_neg isApart.components_ne]
        exact reported.file?_pruned_of_unreported isApart.hasRoot unlisted recorded }
  · rw [builder.cleanUp_of_failed clean]
    refine ⟨state.1.store, state.2, rfl, ?_⟩
    exact {
      unprotected := reported.unprotected
      isApart := reported.isApart
      created := fun path _ present => reported.created path present
      file?_database := fun _ => reported.file?_database
      recorded := fun success => absurd success clean
      removed := fun success => absurd success clean }

end ProjectFiles
