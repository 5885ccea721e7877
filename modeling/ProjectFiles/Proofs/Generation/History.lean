import ProjectFiles.Proofs.Generation.Minimal
import ProjectFiles.Proofs.Generation.Unprotected

/-!
# Histories of runs

Runs that keep one database follow one another over one store.  The database has
what the last clean run has reported.  A file that a failed run has generated is not
on record, so the next clean run that does not report it leaves it behind: it is
forgotten.  Every other file that an earlier run has generated is gone after a clean
run that does not report it.
-/

namespace ProjectFiles

open Store

/-! ## Runs one after the other -/

/-- What a run is asked for. -/
structure GenerationRequest where
  builder : Builder
  clock : Timestamp
  projects : List Project
  solutions : List Solution

namespace GenerationRequest

/-- Generate what is asked for. -/
def run (request : GenerationRequest) (store : Store) :
    Store × Except GenerationError GenerationReport :=
  request.builder.generate request.clock store request.projects request.solutions

/-- Serve one more request, behind the reports on the earlier ones. -/
def serve (state : Store × List GenerationReport) (request : GenerationRequest) :
    Except GenerationError (Store × List GenerationReport) :=
  let (store, result) := request.run state.1
  result.map fun report => (store, state.2 ++ [report])

/-- Serve requests one after the other, up to the first whose database cannot be
stored. -/
def serveAll (requests : List GenerationRequest) (start : Store) :
    Except GenerationError (Store × List GenerationReport) :=
  requests.foldlM serve (start, [])

/-- Whether a request keeps a database that is none of its outputs, and all of its
outputs are rooted. -/
structure Keeps (request : GenerationRequest) (database : Path) : Prop where
  kept : request.builder.settings.cleanupDatabase = some database
  isClock : request.clock.IsClock
  isApart : ∀ pending ∈ request.builder.renderedOutputs request.projects,
    pending.path.IsApart database
  isApart_solution : ∀ solution ∈ request.solutions, solution.file.IsApart database

theorem Keeps.explains {request : GenerationRequest} {database : Path} {store : Store}
    (keeps : request.Keeps database) (unprotected : store.Unprotected) :
    ∃ final report, request.run store = (final, .ok report) ∧
      report.Explains database store final :=
  Builder.generate_explains keeps.kept keeps.isClock unprotected keeps.isApart
    keeps.isApart_solution

end GenerationRequest

/-! ## What a history says of a file -/

namespace GenerationReport

variable {history : List GenerationReport} {last : GenerationReport} {path : Path}

/-- Whether the last clean run of a history has reported a file. -/
def Remembered (history : List GenerationReport) (path : Path) : Prop :=
  ∃ clean ∈ history.reverse.find? (·.isSuccess), path.IsAmong clean.output.listed

/-- Whether a failed run of a history has generated a file that the last clean run
before it had not reported, and no clean run behind it has reported the file. -/
def Forgotten (history : List GenerationReport) (path : Path) : Prop :=
  ∃ former failed latter, history = former ++ failed :: latter ∧ failed.failures ≠ [] ∧
    path.IsAmong failed.output.generated ∧ ¬Remembered former path ∧
    ∀ report ∈ latter, report.failures = [] → ¬path.IsAmong report.output.listed

theorem remembered_append_of_clean (clean : last.failures = []) :
    Remembered (history ++ [last]) path ↔ path.IsAmong last.output.listed := by
  simp [Remembered, isSuccess_of_clean clean]

theorem remembered_append_of_failed (failed : last.failures ≠ []) :
    Remembered (history ++ [last]) path ↔ Remembered history path := by
  simp [Remembered, isSuccess_of_failed failed]

/-- What has been forgotten stays so until a clean run reports it. -/
theorem Forgotten.append (forgotten : Forgotten history path)
    (unlisted : last.failures = [] → ¬path.IsAmong last.output.listed) :
    Forgotten (history ++ [last]) path := by
  obtain ⟨former, failed, latter, rfl, hasFailed, generated, unknown, others⟩ := forgotten
  refine ⟨former, failed, latter ++ [last], by simp, hasFailed, generated, unknown, ?_⟩
  intro report member
  rcases List.mem_append.1 member with earlier | isLast
  · exact others report earlier
  · rw [List.mem_singleton.1 isLast]
    exact unlisted

/-- A clean run forgets nothing. -/
theorem Forgotten.of_append (clean : last.failures = [])
    (forgotten : Forgotten (history ++ [last]) path) : Forgotten history path := by
  obtain ⟨former, failed, latter, spelled, hasFailed, generated, unknown, others⟩ := forgotten
  rcases List.eq_nil_or_concat latter with rfl | ⟨inside, final, rfl⟩
  · obtain ⟨_, isLast⟩ := List.append_inj' spelled rfl
    rw [List.singleton_inj.1 isLast] at clean
    exact absurd clean hasFailed
  · rw [List.concat_eq_append, ← List.cons_append, ← List.append_assoc] at spelled
    obtain ⟨isHistory, _⟩ := List.append_inj' spelled rfl
    refine ⟨former, failed, inside, isHistory, hasFailed, generated, unknown, ?_⟩
    exact fun report member => others report (by simp [member])

/-- A failed run forgets what it generates, unless it is remembered. -/
theorem forgotten_append_of_failed (failed : last.failures ≠ [])
    (generated : path.IsAmong last.output.generated) (unknown : ¬Remembered history path) :
    Forgotten (history ++ [last]) path :=
  ⟨history, last, [], rfl, failed, generated, unknown, fun _ member => nomatch member⟩

end GenerationReport

open GenerationReport

/-- What is known of a file behind a history: the database has it when it is
remembered, and if it is there although it was generated, it is remembered or
forgotten. -/
structure Store.Recalls (store : Store) (database : Path) (history : List GenerationReport)
    (path : Path) : Prop where
  contains_of_remembered : Remembered history path →
    (OutputDatabase.load store database).2.files.contains path = true
  cases_of_generated : store.file? path ≠ none →
    (∃ report ∈ history, path.IsAmong report.output.generated) →
    Remembered history path ∨ Forgotten history path

namespace Store.Recalls

variable {store final : Store} {database path : Path} {history : List GenerationReport}
variable {last : GenerationReport}

theorem start (store : Store) (database path : Path) : store.Recalls database [] path where
  contains_of_remembered := by
    rintro ⟨_, member, _⟩
    cases member
  cases_of_generated := by
    rintro _ ⟨_, member, _⟩
    cases member

/-- A file that a clean run does not report is there only when it was forgotten. -/
theorem forgotten_of_clean (recalls : store.Recalls database history path)
    (explains : last.Explains database store final) (isApart : path.IsApart database)
    (clean : last.failures = []) (unlisted : ¬path.IsAmong last.output.listed)
    (present : final.file? path ≠ none)
    (generated : ∃ report ∈ history, path.IsAmong report.output.generated) :
    Forgotten history path := by
  have earlier : store.file? path ≠ none := by
    rcases explains.created path isApart.components_ne present with there | isNew
    · exact there
    · exact absurd (isNew.mono (List.subset_append_left _ _)) unlisted
  rcases recalls.cases_of_generated earlier generated with remembered | forgotten
  · exact absurd (explains.removed clean path isApart unlisted
      (recalls.contains_of_remembered remembered)) present
  · exact forgotten

theorem step (recalls : store.Recalls database history path)
    (explains : last.Explains database store final) (isApart : path.IsApart database) :
    final.Recalls database (history ++ [last]) path := by
  by_cases clean : last.failures = []
  · exact {
      contains_of_remembered := fun remembered =>
        explains.recorded clean path ((remembered_append_of_clean clean).1 remembered)
      cases_of_generated := by
        rintro present ⟨report, member, generated⟩
        rw [remembered_append_of_clean clean]
        by_cases listed : path.IsAmong last.output.listed
        · exact .inl listed
        · refine .inr (Forgotten.append ?_ fun _ => listed)
          refine recalls.forgotten_of_clean explains isApart clean listed present ?_
          rcases List.mem_append.1 member with earlier | isLast
          · exact ⟨report, earlier, generated⟩
          · rw [List.mem_singleton.1 isLast] at generated
            exact absurd (generated.mono (List.subset_append_left _ _)) listed }
  · exact {
      contains_of_remembered := fun remembered => by
        rw [OutputDatabase.load_congr final store (explains.file?_database clean)]
        exact recalls.contains_of_remembered ((remembered_append_of_failed clean).1 remembered)
      cases_of_generated := by
        rintro present ⟨report, member, generated⟩
        rw [remembered_append_of_failed clean]
        by_cases isNew : path.IsAmong last.output.generated
        · by_cases remembered : Remembered history path
          · exact .inl remembered
          · exact .inr (forgotten_append_of_failed clean isNew remembered)
        · have there : store.file? path ≠ none :=
            (explains.created path isApart.components_ne present).resolve_right isNew
          have earlier : ∃ report ∈ history, path.IsAmong report.output.generated := by
            rcases List.mem_append.1 member with inHistory | isLast
            · exact ⟨report, inHistory, generated⟩
            · rw [List.mem_singleton.1 isLast] at generated
              exact absurd generated isNew
          exact (recalls.cases_of_generated there earlier).imp_right
            (Forgotten.append · fun success => absurd success clean) }

end Store.Recalls

/-! ## Histories -/

namespace GenerationRequest

variable {requests : List GenerationRequest} {database : Path} {store : Store}
variable {history : List GenerationReport}

theorem serve_of_run {request : GenerationRequest} {final : Store} {report : GenerationReport}
    (ran : request.run store = (final, .ok report)) :
    serve (store, history) request = .ok (final, history ++ [report]) := by
  rw [serve, ran]
  rfl

/-- Every request is served, and every file is accounted for behind them. -/
theorem recalls_foldlM_serve (unprotected : store.Unprotected)
    (isApart : ∀ report ∈ history, ∀ path ∈ report.output.listed, path.IsApart database)
    (recalls : ∀ path : Path, path.IsApart database → store.Recalls database history path)
    (keep : ∀ request ∈ requests, request.Keeps database) :
    ∃ final behind, requests.foldlM serve (store, history) = .ok (final, history ++ behind) ∧
      behind.length = requests.length ∧
      (∀ report ∈ history ++ behind, ∀ path ∈ report.output.listed, path.IsApart database) ∧
      ∀ path : Path, path.IsApart database → final.Recalls database (history ++ behind) path := by
  induction requests generalizing store history with
  | nil =>
      rw [← List.append_nil history] at isApart recalls
      exact ⟨store, [], by rw [List.append_nil]; rfl, rfl, isApart, recalls⟩
  | cons request requests ih =>
      obtain ⟨next, report, ran, explains⟩ :=
        (keep request List.mem_cons_self).explains unprotected
      have areApart : ∀ other ∈ history ++ [report], ∀ path ∈ other.output.listed,
          path.IsApart database := by
        intro other member
        rcases List.mem_append.1 member with earlier | isLast
        · exact isApart other earlier
        · rw [List.mem_singleton.1 isLast]
          exact explains.isApart
      obtain ⟨final, behind, served, length, others, recallsAll⟩ := ih explains.unprotected areApart
        (fun path isApart => (recalls path isApart).step explains isApart)
        (fun other member => keep other (List.mem_cons_of_mem _ member))
      rw [List.append_assoc, List.singleton_append] at served others recallsAll
      refine ⟨final, report :: behind, ?_, by rw [List.length_cons, length, List.length_cons],
        others, recallsAll⟩
      rw [List.foldlM_cons, serve_of_run ran]
      exact served

/-- Over a store without protected files all requests that keep one database are
served.  After a clean run, whatever an earlier run has generated and this run does
not report is gone, unless it was forgotten: a failed run generated it while the
database did not have it, and no clean run has reported it since. -/
theorem serveAll_removes_stale (database : Path) (start : Store)
    (requests : List GenerationRequest) (unprotected : start.Unprotected)
    (keep : ∀ request ∈ requests, request.Keeps database) :
    ∃ final history, serveAll requests start = .ok (final, history) ∧
      history.length = requests.length ∧
      ∀ earlier last, history = earlier ++ [last] → last.failures = [] →
        ∀ report ∈ earlier, ∀ path ∈ report.output.generated,
          ¬path.IsAmong last.output.listed → ¬Forgotten earlier path →
          final.file? path = none := by
  obtain ⟨final, history, served, length, isApart, recalls⟩ := recalls_foldlM_serve unprotected
    (List.forall_mem_nil _) (fun path _ => .start start database path) keep
  refine ⟨final, history, served, length, ?_⟩
  rintro earlier last rfl clean report member path generated unlisted unforgotten
  have inHistory : report ∈ earlier ++ [last] := List.mem_append_left _ member
  have apart : path.IsApart database :=
    isApart report inHistory path (List.mem_append_left _ generated)
  by_contra present
  rcases (recalls path apart).cases_of_generated present
    ⟨report, inHistory, path, generated, rfl⟩ with remembered | forgotten
  · exact unlisted ((remembered_append_of_clean clean).1 remembered)
  · exact unforgotten (forgotten.of_append clean)

/-! ### A file that is dropped, and one that is forgotten -/

/-- The database beside the projects. -/
def outputsJson : Path := ⟨"/w/outputs.json"⟩

/-- The builder that keeps it. -/
def keeper : Builder := .new { cleanupDatabase := some outputsJson }

/-- A request for projects that keeps the database. -/
def keeping (projects : List Project) : GenerationRequest := ⟨keeper, ⟨0, 0⟩, projects, []⟩

/-- The project file of `app`. -/
def appFile : Path := ⟨"/w/App.csproj"⟩

/-- A project that can be generated. -/
def app : Project := .minimal "App" appFile []

/-- A project without configurations, which cannot be generated. -/
def broken : Project where
  name := "Broken"
  kind := .cSharp "Broken"
  sourceRoot := ⟨"src"⟩
  sourceFiles := []
  configurations := []

theorem renderProject_app : ∃ contents beside rendered,
    keeper.renderProject app = .ok rendered ∧
      rendered.pending = [.file appFile contents, beside] ∧ beside.path = appFile.packageList := by
  have bracketless : ∀ text ∈ app.texts, '[' ∉ text.toList := by decide
  obtain ⟨context, _, contents, beside, rendered, created, listed, renders, pending⟩ :=
    Builder.renderProject_minimal { cleanupDatabase := some outputsJson } (by decide) bracketless
  refine ⟨contents, beside, rendered, renders, pending, ?_⟩
  rw [← GenerationContext.file_of_new created]
  rcases Format.PackageList.pending_eq_ok listed with ⟨_, rfl⟩ | ⟨_, _, rfl⟩ <;> rfl

theorem isClock_start : Timestamp.IsClock ⟨0, 0⟩ := ⟨by decide, .inl (by decide)⟩

theorem isApart_app {pending : PendingOutput} (member : pending ∈ keeper.pendings app) :
    pending.path.IsApart outputsJson := by
  obtain ⟨contents, beside, rendered, renders, pendings, besidePath⟩ := renderProject_app
  have own : keeper.pendings app = [.file appFile contents, beside] := by
    rw [Builder.pendings, renders]
    exact pendings
  rw [own, List.mem_cons, List.mem_singleton] at member
  rcases member with rfl | rfl
  · have isFile : appFile.IsApart outputsJson := ⟨by decide +kernel, by decide +kernel⟩
    exact isFile
  · rw [besidePath]
    exact ⟨by decide +kernel, by decide +kernel⟩

theorem keeps_keeping {projects : List Project}
    (known : ∀ project ∈ projects, project = app ∨ project = broken) :
    (keeping projects).Keeps outputsJson where
  kept := rfl
  isClock := isClock_start
  isApart := by
    intro pending member
    obtain ⟨project, inProjects, isOwn⟩ := List.mem_flatMap.1 member
    rcases known project inProjects with rfl | rfl
    · exact isApart_app isOwn
    · cases isOwn
  isApart_solution := fun _ member => nomatch member

theorem unprotected_empty : Store.empty.Unprotected where
  writable := fun _ _ found => nomatch found
  unlocked := fun _ => rfl

/-- A run for nothing is clean and reports nothing.  Without a database it leaves every
other file alone. -/
theorem run_keeping_nil {store : Store} (unprotected : store.Unprotected) :
    ∃ final report, (keeping []).run store = (final, .ok report) ∧ report.failures = [] ∧
      report.output = .empty ∧ (store.file? outputsJson = none →
        ∀ path : Path, path.components ≠ outputsJson.components →
          final.file? path = store.file? path) := by
  let state : Workspace × GenerationReport := (⟨store, .new ⟨0, 0⟩⟩, .empty)
  have ran : (keeping []).run store = ((keeper.cleanUp state).1.store, (keeper.cleanUp state).2) :=
    Builder.generate_eq keeper ⟨0, 0⟩ store [] []
  obtain ⟨final, cleanup, cleaned, replaced⟩ :=
    Builder.cleanUp_of_clean (rfl : keeper.settings.cleanupDatabase = some outputsJson)
      (rfl : state.2.failures = []) unprotected
  rw [cleaned] at ran
  refine ⟨final, _, ran, rfl, rfl, fun absent path other => ?_⟩
  have nothing : state.1.staleFiles outputsJson = [] := by
    rw [Workspace.staleFiles, OutputDatabase.load_snd_of_absent absent]
    rfl
  rw [replaced.file?_eq, if_neg other, Workspace.pruned, nothing]
  rfl

/-- When `app` has been generated, its file has been reported and nothing has failed. -/
theorem generateProject_app (state : Workspace × GenerationReport)
    (clean : state.2.failures = []) :
    (keeper.generateProject state app).2.failures = [] ∧
      appFile ∈ (keeper.generateProject state app).2.output.listed := by
  obtain ⟨contents, beside, rendered, renders, pendings, _⟩ := renderProject_app
  have step := keeper.generateProject_step app state
  generalize keeper.generateProject state app = after at step
  cases step with
  | unrendered fails =>
      rw [renders] at fails
      cases fails
  | stopped _ run => cases run.overwriteReadOnly_eq_false
  | finished again run =>
      obtain rfl := Except.ok.inj (renders.symm.trans again)
      rw [pendings] at run
      have listed := run.listed_of_file List.mem_cons_self
      exact ⟨clean, GenerationOutput.mem_listed_merge.2 (.inr listed)⟩

theorem generateProject_broken (state : Workspace × GenerationReport) :
    keeper.generateProject state broken = (state.1, state.2.addFailure
      ⟨"Broken", none, .invalidModel (.emptyProject "Broken")⟩) := rfl

/-- Projects that cannot be generated add failures to a report and nothing else. -/
theorem foldl_generateProject_broken {others : List Project}
    (known : others = [] ∨ others = [broken]) {state : Workspace × GenerationReport}
    (clean : state.2.failures = []) :
    ((others.foldl keeper.generateProject state).2.failures = [] ↔ others = []) ∧
      (others.foldl keeper.generateProject state).2.output = state.2.output := by
  rcases known with rfl | rfl
  · exact ⟨iff_of_true clean rfl, rfl⟩
  · rw [List.foldl_cons, List.foldl_nil, generateProject_broken]
    exact ⟨by simp [GenerationReport.addFailure], rfl⟩

theorem keeps_keeping_app {others : List Project} (known : others = [] ∨ others = [broken]) :
    (keeping (app :: others)).Keeps outputsJson := by
  refine keeps_keeping fun project member => ?_
  rcases List.mem_cons.1 member with isApp | inOthers
  · exact .inl isApp
  · rcases known with rfl | rfl
    · cases inOthers
    · exact .inr (List.mem_singleton.1 inOthers)

/-- Behind a run for `app` its file is there and reported as generated.  The run is clean
unless it is asked for more. -/
theorem run_keeping_app {others : List Project} (known : others = [] ∨ others = [broken]) :
    ∃ final report, (keeping (app :: others)).run .empty = (final, .ok report) ∧
      report.Explains outputsJson .empty final ∧ (report.failures = [] ↔ others = []) ∧
      final.file? appFile ≠ none ∧ appFile.IsAmong report.output.generated := by
  obtain ⟨final, report, ran, explains⟩ := (keeps_keeping_app known).explains unprotected_empty
  refine ⟨final, report, ran, explains, ?_⟩
  have reported : (keeper.generate ⟨0, 0⟩ .empty (app :: others) []).2 = .ok report :=
    congrArg Prod.snd ran
  have isFinal : (keeper.generate ⟨0, 0⟩ .empty (app :: others) []).1 = final :=
    congrArg Prod.fst ran
  obtain ⟨cleanup, isReport⟩ := (keeper.cleanUp_step
    (keeper.afterSolutions ⟨0, 0⟩ .empty (app :: others) [])).report_of_ok reported
  have ended : (keeper.afterSolutions ⟨0, 0⟩ .empty (app :: others) []).2 =
      (keeper.afterProjects ⟨0, 0⟩ .empty (app :: others)).2 := by
    rw [Builder.afterSolutions, List.foldl_nil, Builder.report_removeStale]
  rw [ended, Builder.afterProjects, List.foldl_cons] at isReport
  obtain ⟨appClean, appListed⟩ := generateProject_app (⟨.empty, .new ⟨0, 0⟩⟩, .empty) rfl
  obtain ⟨cleanIff, sameOutput⟩ := foldl_generateProject_broken known appClean
  have listed : appFile ∈ report.output.listed := by
    rw [isReport]
    exact sameOutput ▸ appListed
  have present : final.file? appFile ≠ none := by
    rw [← isFinal]
    exact Builder.file?_generate_ne_none_of_listed reported listed
  have apart : appFile.components ≠ outputsJson.components := by decide +kernel
  have absent : Store.empty.file? appFile = none := rfl
  exact ⟨isReport ▸ cleanIff, present,
    (explains.created appFile apart present).resolve_left fun there => there absent⟩

theorem serveAll_pair {first second : GenerationRequest} {start middle final : Store}
    {former latter : GenerationReport} (ranFirst : first.run start = (middle, .ok former))
    (ranSecond : second.run middle = (final, .ok latter)) :
    serveAll [first, second] start = .ok (final, [former, latter]) := by
  rw [serveAll, List.foldlM_cons, serve_of_run ranFirst]
  show List.foldlM serve (middle, [former]) [second] = _
  rw [List.foldlM_cons, serve_of_run ranSecond]
  rfl

/-- A project file is gone behind a clean run that drops its project. -/
theorem serveAll_removes_stale_app :
    ∃ final first last, serveAll [keeping [app], keeping []] .empty = .ok (final, [first, last]) ∧
      appFile.IsAmong first.output.generated ∧ last.failures = [] ∧
      last.output.listed = [] ∧ final.file? appFile = none := by
  obtain ⟨middle, first, ranFirst, explains, ended, _, generated⟩ := run_keeping_app (.inl rfl)
  obtain ⟨final, last, ranLast, clean, nothing, _⟩ := run_keeping_nil explains.unprotected
  have unlisted : last.output.listed = [] := by
    rw [nothing]
    rfl
  refine ⟨final, first, last, serveAll_pair ranFirst ranLast, generated, clean, unlisted, ?_⟩
  obtain ⟨other, history, served, _, gone⟩ := serveAll_removes_stale outputsJson .empty
    [keeping [app], keeping []] unprotected_empty (by
      intro request member
      rcases List.mem_cons.1 member with rfl | isLast
      · exact keeps_keeping fun project isApp => .inl (List.mem_singleton.1 isApp)
      · rw [List.mem_singleton.1 isLast]
        exact keeps_keeping fun _ member => nomatch member)
  rw [serveAll_pair ranFirst ranLast] at served
  obtain ⟨rfl, rfl⟩ := Prod.mk.inj (Except.ok.inj served)
  obtain ⟨named, member, same⟩ := generated
  rw [← final.file?_congr same]
  refine gone [first] last rfl clean first List.mem_cons_self named member ?_ ?_
  · rw [unlisted]
    rintro ⟨_, inNothing, _⟩
    cases inNothing
  · rintro ⟨former, failed, latter, spelled, hasFailed, _⟩
    have isFirst : failed ∈ [first] := spelled ▸ by simp
    rw [List.mem_singleton.1 isFirst] at hasFailed
    exact hasFailed (ended.2 rfl)

/-- A project file stays behind a clean run that drops its project when the run that has
generated it has failed. -/
theorem failed_run_is_forgotten :
    Store.empty.Unprotected ∧
      (∀ request ∈ [keeping [app, broken], keeping []], request.Keeps outputsJson) ∧
      ∃ final first last,
        serveAll [keeping [app, broken], keeping []] .empty = .ok (final, [first, last]) ∧
          appFile.IsAmong first.output.generated ∧ last.failures = [] ∧
          last.output.listed = [] ∧ final.file? appFile ≠ none := by
  obtain ⟨middle, first, ranFirst, explains, ended, present, generated⟩ :=
    run_keeping_app (.inr rfl)
  obtain ⟨final, last, ranLast, clean, nothing, unchanged⟩ :=
    run_keeping_nil explains.unprotected
  have failed : first.failures ≠ [] := fun clean => List.cons_ne_nil _ _ (ended.1 clean)
  have apart : appFile.components ≠ outputsJson.components := by decide +kernel
  have kept := unchanged (explains.file?_database failed) appFile apart
  refine ⟨unprotected_empty, ?_, final, first, last, serveAll_pair ranFirst ranLast, generated,
    clean, ?_, ?_⟩
  · intro request member
    rcases List.mem_cons.1 member with rfl | isLast
    · exact keeps_keeping fun project inBoth => by simpa using inBoth
    · rw [List.mem_singleton.1 isLast]
      exact keeps_keeping fun _ member => nomatch member
  · rw [nothing]
    rfl
  · rw [kept]
    exact present

end GenerationRequest

end ProjectFiles
