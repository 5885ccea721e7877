import ProjectFiles.Proofs.Generation.Deletion

/-!
# Failures are isolated

A project that cannot be rendered leaves no trace but its failure.  The run with
the project and the run without it are followed side by side: their reports
differ by that one failure, and their files differ only where the run without it
has removed something.
-/

namespace ProjectFiles

open Store PendingOutput

namespace Builder

/-- Two reports that agree but for one failure behind some earlier ones. -/
structure DiffersBy (failure : ProjectFailure) (earlier : List ProjectFailure)
    (rest whole : GenerationReport) : Prop where
  output_eq : whole.output = rest.output
  warnings_eq : whole.warnings = rest.warnings
  cleanup_eq : whole.cleanup = rest.cleanup
  failures_eq : ∃ later, rest.failures = earlier ++ later ∧
    whole.failures = earlier ++ failure :: later

section Projects

variable {failure : ProjectFailure} {earlier : List ProjectFailure}

theorem DiffersBy.addFailure {rest whole : GenerationReport}
    (differs : DiffersBy failure earlier rest whole) (next : ProjectFailure) :
    DiffersBy failure earlier (rest.addFailure next) (whole.addFailure next) where
  output_eq := differs.output_eq
  warnings_eq := differs.warnings_eq
  cleanup_eq := differs.cleanup_eq
  failures_eq := by
    obtain ⟨later, ofRest, ofWhole⟩ := differs.failures_eq
    refine ⟨later ++ [next], ?_, ?_⟩
    · simp [GenerationReport.addFailure, ofRest]
    · simp [GenerationReport.addFailure, ofWhole]

theorem DiffersBy.failures_ne_nil {rest whole : GenerationReport}
    (differs : DiffersBy failure earlier rest whole) : whole.failures ≠ [] := by
  obtain ⟨later, _, ofWhole⟩ := differs.failures_eq
  simp [ofWhole]

variable {rest whole : Workspace × GenerationReport}

/-- From one workspace, a project does the same whatever has failed before. -/
theorem DiffersBy.generateProject (builder : Builder) (project : Project)
    (same : whole.1 = rest.1) (differs : DiffersBy failure earlier rest.2 whole.2) :
    (builder.generateProject whole project).1 = (builder.generateProject rest project).1 ∧
      DiffersBy failure earlier (builder.generateProject rest project).2
        (builder.generateProject whole project).2 := by
  obtain ⟨workspace, restReport⟩ := rest
  obtain ⟨wholeWorkspace, wholeReport⟩ := whole
  obtain rfl : wholeWorkspace = workspace := same
  unfold Builder.generateProject
  cases builder.renderProject project with
  | error next => exact ⟨rfl, differs.addFailure next⟩
  | ok rendered =>
      cases committed : builder.commitAll project wholeWorkspace .empty rendered.pending with
      | mk final result =>
          cases result with
          | error next => simpa only [committed, true_and] using differs.addFailure next
          | ok output =>
              simp only [committed, true_and]
              refine ⟨?_, ?_, differs.cleanup_eq, differs.failures_eq⟩
              · exact congrArg (fun before => before.merge output) differs.output_eq
              · exact congrArg (fun before => before ++ rendered.warnings) differs.warnings_eq

theorem DiffersBy.foldl_generateProject (builder : Builder) (projects : List Project)
    (same : whole.1 = rest.1) (differs : DiffersBy failure earlier rest.2 whole.2) :
    (projects.foldl builder.generateProject whole).1 =
        (projects.foldl builder.generateProject rest).1 ∧
      DiffersBy failure earlier (projects.foldl builder.generateProject rest).2
        (projects.foldl builder.generateProject whole).2 := by
  induction projects generalizing rest whole with
  | nil => exact ⟨same, differs⟩
  | cons project others ih =>
      obtain ⟨sameNext, next⟩ := DiffersBy.generateProject builder project same differs
      exact ih sameNext next

end Projects

/-! ## Solutions -/

/-- Two states of runs of which one has removed some files: everything else is
alike. -/
structure Alike (failure : ProjectFailure) (earlier : List ProjectFailure) (removed : List Path)
    (rest whole : Workspace × GenerationReport) : Prop where
  differs : DiffersBy failure earlier rest.2 whole.2
  produced_eq : ∀ probe, whole.1.session.produced probe = rest.1.session.produced probe
  file?_eq : ∀ probe : Path, (∀ key ∈ removed, key.components ≠ probe.components) →
    whole.1.store.file? probe = rest.1.store.file? probe

section Solutions

variable {failure : ProjectFailure} {earlier : List ProjectFailure} {removed : List Path}
variable {rest whole restNext wholeNext : Workspace × GenerationReport}

/-- A write does the same in both when it is not to a removed file. -/
theorem Alike.write {overwriteReadOnly : Bool} {path : Path} {contents : String}
    {restFinal wholeFinal : Store} {restResult wholeResult : Except GenerationError WriteOutcome}
    (alike : Alike failure earlier removed rest whole)
    (apart : ∀ key ∈ removed, key.components ≠ path.components)
    (restStep : WriteStep overwriteReadOnly rest.1.store path contents restFinal restResult)
    (wholeStep : WriteStep overwriteReadOnly whole.1.store path contents wholeFinal wholeResult) :
    wholeResult = restResult ∧ ∀ probe : Path,
      (∀ key ∈ removed, key.components ≠ probe.components) →
        wholeFinal.file? probe = restFinal.file? probe := by
  obtain ⟨sameResult, sameFile⟩ := wholeStep.result_congr restStep (alike.file?_eq path apart)
  refine ⟨sameResult, fun probe unremoved => ?_⟩
  by_cases same : probe.components = path.components
  · rw [file?_congr _ same, file?_congr _ same, sameFile]
  · rw [wholeStep.file?_of_ne same, restStep.file?_of_ne same, alike.file?_eq probe unremoved]

theorem Alike.generateSolution {builder : Builder} {solution : Solution}
    (alike : Alike failure earlier removed rest whole)
    (apart : ∀ key ∈ removed, key.components ≠ solution.file.components)
    (restStep : SolutionStep builder solution rest restNext)
    (wholeStep : SolutionStep builder solution whole wholeNext) :
    Alike failure earlier removed restNext wholeNext := by
  have recorded : ∀ probe, (whole.1.session.recordOutput solution.file).produced probe =
      (rest.1.session.recordOutput solution.file).produced probe := by
    intro probe
    rw [Session.produced_recordOutput, Session.produced_recordOutput, alike.produced_eq]
  cases restStep with
  | unrendered fails =>
      cases wholeStep with
      | unrendered wholeFails =>
          obtain rfl := Except.error.inj (fails.symm.trans wholeFails)
          exact ⟨alike.differs.addFailure _, alike.produced_eq, alike.file?_eq⟩
      | refused renders | written renders => cases fails.symm.trans renders
  | refused renders step =>
      cases wholeStep with
      | unrendered fails => cases renders.symm.trans fails
      | refused wholeRenders wholeWrite =>
          obtain rfl := Except.ok.inj (renders.symm.trans wholeRenders)
          obtain ⟨sameResult, sameFiles⟩ := alike.write apart step wholeWrite
          obtain rfl := Except.error.inj sameResult
          exact ⟨alike.differs.addFailure _, recorded, sameFiles⟩
      | written wholeRenders wholeWrite =>
          obtain rfl := Except.ok.inj (renders.symm.trans wholeRenders)
          cases (alike.write apart step wholeWrite).1
  | written renders step =>
      cases wholeStep with
      | unrendered fails => cases renders.symm.trans fails
      | refused wholeRenders wholeWrite =>
          obtain rfl := Except.ok.inj (renders.symm.trans wholeRenders)
          cases (alike.write apart step wholeWrite).1
      | written wholeRenders wholeWrite =>
          obtain rfl := Except.ok.inj (renders.symm.trans wholeRenders)
          obtain ⟨sameResult, sameFiles⟩ := alike.write apart step wholeWrite
          obtain rfl := Except.ok.inj sameResult
          refine ⟨⟨?_, alike.differs.warnings_eq, alike.differs.cleanup_eq,
            alike.differs.failures_eq⟩, recorded, sameFiles⟩
          change whole.2.output.record _ _ = rest.2.output.record _ _
          rw [alike.differs.output_eq]

theorem Alike.foldl_generateSolution {solutions : List Solution} (builder : Builder)
    (alike : Alike failure earlier removed rest whole)
    (apart : ∀ solution ∈ solutions, ∀ key ∈ removed,
      key.components ≠ solution.file.components) :
    Alike failure earlier removed (solutions.foldl builder.generateSolution rest)
      (solutions.foldl builder.generateSolution whole) := by
  induction solutions generalizing rest whole with
  | nil => exact alike
  | cons solution others ih =>
      have next := alike.generateSolution (apart solution List.mem_cons_self)
        (builder.generateSolution_step solution rest) (builder.generateSolution_step solution whole)
      exact ih next fun other member => apart other (List.mem_cons_of_mem _ member)

end Solutions

/-! ## Runs with and without a failing project -/

section Runs

variable {settings : Settings} {clock : Timestamp} {store : Store} {before after : List Project}
variable {project : Project} {failure : ProjectFailure} {solutions : List Solution}

theorem removeStale_of_failed {state : Workspace × GenerationReport}
    (failed : state.2.failures ≠ []) : removeStale state = state := by
  unfold removeStale
  rw [GenerationReport.isSuccess_of_failed failed]
  rfl

/-- A project that cannot be rendered adds its failure and does nothing else. -/
theorem generateProject_of_unrendered {builder : Builder}
    (fails : builder.renderProject project = .error failure)
    (state : Workspace × GenerationReport) :
    builder.generateProject state project = (state.1, state.2.addFailure failure) := by
  unfold generateProject
  rw [fails]

theorem differs_afterProjects {builder : Builder} (clock : Timestamp) (store : Store)
    (before after : List Project) (fails : builder.renderProject project = .error failure) :
    (builder.afterProjects clock store (before ++ project :: after)).1 =
        (builder.afterProjects clock store (before ++ after)).1 ∧
      DiffersBy failure (builder.afterProjects clock store before).2.failures
        (builder.afterProjects clock store (before ++ after)).2
        (builder.afterProjects clock store (before ++ project :: after)).2 := by
  unfold afterProjects
  rw [List.foldl_append, List.foldl_append, List.foldl_cons, generateProject_of_unrendered fails]
  exact DiffersBy.foldl_generateProject builder after rfl
    ⟨rfl, rfl, rfl, [], (List.append_nil _).symm, rfl⟩

/-- No solution is one of the package lists that are removed. -/
theorem sameOutput_of_mem_staleLists {projects : List Project}
    (apart : ∀ solution ∈ solutions, ∀ project ∈ projects, ∀ file, project.IsCSharpFile file →
      solution.file.sameOutput file.packageList = false) {key : Path}
    (member : key ∈ staleLists ((Builder.new settings).afterProjects clock store projects))
    {solution : Solution} (isSolution : solution ∈ solutions) :
    solution.file.sameOutput key = false := by
  obtain ⟨project, inProjects, file, isCSharp, rfl⟩ :=
    ((accounts_afterProjects settings clock store projects).isRemovable member).beside
  rw [Path.sameOutput_absolute]
  exact apart solution isSolution project inProjects file isCSharp

/-- Whatever a run has recorded is none of the package lists that it removes. -/
theorem components_ne_of_mem_staleLists {projects : List Project}
    (apart : ∀ solution ∈ solutions, ∀ project ∈ projects, ∀ file, project.IsCSharpFile file →
      solution.file.sameOutput file.packageList = false) {key probe : Path}
    (member : key ∈ staleLists ((Builder.new settings).afterProjects clock store projects))
    (produced : ((Builder.new settings).afterSolutions clock store projects
      solutions).1.session.produced probe = true) : key.components ≠ probe.components := by
  intro same
  have removable := (accounts_afterProjects settings clock store projects).isRemovable member
  have sameOutput : probe.sameOutput key = true := Path.sameOutput_of_components_eq same.symm
  rcases recordsOnly_foldl_generateSolution (.new settings) _ solutions probe produced with
    earlier | ⟨path, isSolution, samePath⟩
  · rw [produced_removeStale, removable.unproduced probe sameOutput] at earlier
    cases earlier
  · obtain ⟨solution, inSolutions, rfl⟩ := List.mem_map.1 isSolution
    have differs := sameOutput_of_mem_staleLists apart member inSolutions
    rw [Path.sameOutput_congr_left sameOutput, Path.sameOutput_comm, differs] at samePath
    cases samePath

theorem alike_afterSolutions (clock : Timestamp) (store : Store) (before after : List Project)
    (fails : (Builder.new settings).renderProject project = .error failure)
    (apart : ∀ solution ∈ solutions, ∀ other ∈ before ++ after, ∀ file, other.IsCSharpFile file →
      solution.file.sameOutput file.packageList = false) :
    Alike failure ((Builder.new settings).afterProjects clock store before).2.failures
      (staleLists ((Builder.new settings).afterProjects clock store (before ++ after)))
      ((Builder.new settings).afterSolutions clock store (before ++ after) solutions)
      ((Builder.new settings).afterSolutions clock store (before ++ project :: after)
        solutions) := by
  obtain ⟨sameWorkspace, differs⟩ := differs_afterProjects clock store before after fails
  unfold afterSolutions
  refine Alike.foldl_generateSolution _ ⟨?_, ?_, ?_⟩ ?_
  · rw [report_removeStale, report_removeStale]
    exact differs
  · intro probe
    rw [produced_removeStale, produced_removeStale, sameWorkspace]
  · intro probe spared
    rw [removeStale_of_failed differs.failures_ne_nil, sameWorkspace, store_removeStale,
      file?_deleteAll_of_spared (.inl spared)]
  · intro solution inSolutions key member
    exact (Path.components_ne_of_apart (sameOutput_of_mem_staleLists apart member inSolutions)).symm

/-- The run with the failing project removes nothing and cleans up nothing. -/
theorem generate_of_unrendered (clock : Timestamp) (store : Store) (before after : List Project)
    (solutions : List Solution)
    (fails : (Builder.new settings).renderProject project = .error failure) :
    (Builder.new settings).generate clock store (before ++ project :: after) solutions =
        (((Builder.new settings).afterSolutions clock store (before ++ project :: after)
            solutions).1.store,
          .ok ((Builder.new settings).afterSolutions clock store (before ++ project :: after)
            solutions).2) ∧
      (Workspace.mk store (.new clock)).Progress settings.overwriteReadOnly
        ((Builder.new settings).afterSolutions clock store (before ++ project :: after)
          solutions).1 ∧
      ((Builder.new settings).afterSolutions clock store (before ++ project :: after)
        solutions).2.cleanup = none := by
  have failed :=
    (differs_afterProjects clock store before after fails).2.failures_ne_nil
  have first := advance_afterProjects (.new settings) clock store (before ++ project :: after)
  have second :=
    advance_afterSolutions (.new settings) clock store (before ++ project :: after) solutions
  rw [removeStale_of_failed failed] at second
  have whole := first.trans second
  rw [generate_eq, cleanUp_of_failed _ (failures_afterSolutions_ne_nil failed)]
  exact ⟨rfl, whole.progress, whole.cleanup_eq⟩

/-- Files that were recorded are the same at the end of both runs. -/
theorem file?_generate_of_produced (clock : Timestamp) (store : Store)
    (fails : (Builder.new settings).renderProject project = .error failure)
    (apart : ∀ solution ∈ solutions, ∀ other ∈ before ++ after, ∀ file, other.IsCSharpFile file →
      solution.file.sameOutput file.packageList = false)
    {path : Path} (isNotDatabase : settings.IsNotDatabase path)
    (produced : ((Builder.new settings).afterSolutions clock store (before ++ after)
      solutions).1.session.produced path = true) :
    ((Builder.new settings).generate clock store (before ++ project :: after)
        solutions).1.file? path =
      ((Builder.new settings).generate clock store (before ++ after) solutions).1.file? path := by
  have alike := alike_afterSolutions clock store before after fails apart
  rw [(generate_of_unrendered clock store before after solutions fails).1, generate_eq,
    (cleanUp_step (.new settings) _).file?_of_produced isNotDatabase produced]
  exact alike.file?_eq path fun key member => components_ne_of_mem_staleLists apart member produced

/-- Other files are as they were, unless the run without the failing project has
removed them. -/
theorem file?_generate_of_unproduced (clock : Timestamp) (store : Store)
    (fails : (Builder.new settings).renderProject project = .error failure)
    (apart : ∀ solution ∈ solutions, ∀ other ∈ before ++ after, ∀ file, other.IsCSharpFile file →
      solution.file.sameOutput file.packageList = false)
    {path : Path} (isNotDatabase : settings.IsNotDatabase path)
    (unproduced : ((Builder.new settings).afterSolutions clock store (before ++ after)
      solutions).1.session.produced path = false) :
    let whole := (Builder.new settings).generate clock store (before ++ project :: after) solutions
    let rest := (Builder.new settings).generate clock store (before ++ after) solutions
    whole.1.file? path = store.file? path ∧
      (rest.1.file? path = store.file? path ∨ rest.1.file? path = none) := by
  intro whole rest
  have alike := alike_afterSolutions clock store before after fails apart
  obtain ⟨ended, progress, _⟩ := generate_of_unrendered clock store before after solutions fails
  constructor
  · change ((Builder.new settings).generate clock store _ solutions).1.file? path = _
    rw [ended]
    exact progress.file?_of_unproduced ((alike.produced_eq path).trans unproduced)
  · change ((Builder.new settings).generate clock store _ solutions).1.file? path = _ ∨
      ((Builder.new settings).generate clock store _ solutions).1.file? path = _
    rw [generate_eq]
    rcases (cleanUp_step (.new settings) _).file?_cases isNotDatabase with kept | gone
    · cases found : ((Builder.new settings).afterSolutions clock store (before ++ after)
          solutions).1.store.file? path with
      | none => exact .inr (kept.trans found)
      | some file =>
          have untouched := found.trans (file?_of_file?_afterSolutions unproduced found).symm
          exact .inl (kept.trans untouched)
    · exact .inr gone

end Runs

/-! ## Isolation -/

/-- A project that cannot be rendered is isolated, when no solution file is the
package list of another project.  It writes nothing, claims nothing and adds its
failure in its place.  The run without it reports the same outputs and warnings
and the other failures, and every file that either run writes is the same at
their ends.  Beyond that they differ only where the run without it deletes what
is left behind and keeps its database, which the run with the project does not. -/
theorem generate_isolates_failure (settings : Settings) (clock : Timestamp) (store : Store)
    (before after : List Project) (project : Project) (failure : ProjectFailure)
    (solutions : List Solution)
    (fails : (Builder.new settings).renderProject project = .error failure)
    (apart : ∀ solution ∈ solutions, ∀ other ∈ before ++ after, ∀ file, other.IsCSharpFile file →
      solution.file.sameOutput file.packageList = false) :
    let builder := Builder.new settings
    let whole := builder.generate clock store (before ++ project :: after) solutions
    let rest := builder.generate clock store (before ++ after) solutions
    (∀ state, builder.generateProject state project = (state.1, state.2.addFailure failure)) ∧
    (∃ report, whole.2 = .ok report ∧ report.cleanup = none ∧
      ∀ other, rest.2 = .ok other →
        report.output = other.output ∧ report.warnings = other.warnings ∧
          ∃ later,
            other.failures = (builder.afterProjects clock store before).2.failures ++ later ∧
            report.failures =
              (builder.afterProjects clock store before).2.failures ++ failure :: later) ∧
    (∀ call ∈ whole.1.callsSince store, call.method ≠ .remove ∧
      (call.method = .write → ∃ output ∈ builder.outputs (before ++ after) solutions,
        call.path.sameOutput output = true)) ∧
    (∀ path, settings.IsNotDatabase path →
      (⟨.write, path⟩ ∈ whole.1.callsSince store ∨ ⟨.write, path⟩ ∈ rest.1.callsSince store) →
        whole.1.file? path = rest.1.file? path) ∧
    ∀ path, settings.IsNotDatabase path →
      whole.1.file? path = rest.1.file? path ∨
        (whole.1.file? path = store.file? path ∧ rest.1.file? path = none ∧
          ∃ asked : Path, asked.components = path.components ∧
            (asked ∈ staleLists (builder.afterProjects clock store (before ++ after)) ∨
              ∃ database, settings.cleanupDatabase = some database ∧
                asked ∈ (builder.afterSolutions clock store (before ++ after)
                  solutions).1.staleFiles database)) := by
  intro builder whole rest
  have alike := alike_afterSolutions clock store before after fails apart
  obtain ⟨ended, progress, uncleaned⟩ :=
    generate_of_unrendered clock store before after solutions fails
  refine ⟨generateProject_of_unrendered fails, ⟨_, congrArg Prod.snd ended, uncleaned, ?_⟩, ?_, ?_,
    ?_⟩
  · intro other reported
    obtain ⟨later, ofRest, ofWhole⟩ := alike.differs.failures_eq
    obtain ⟨cleanup, rfl⟩ := (cleanUp_step builder _).report_of_ok reported
    exact ⟨alike.differs.output_eq, alike.differs.warnings_eq, later, ofRest, ofWhole⟩
  · intro call member
    obtain ⟨calls, spelled, harmless⟩ := progress.calls_eq
    change call ∈ (builder.generate clock store _ solutions).1.callsSince store at member
    rw [ended, callsSince_eq spelled] at member
    refine ⟨(harmless call member).1, fun isWrite => ?_⟩
    apply mem_outputs_of_produced
    rw [← alike.produced_eq]
    exact (harmless call member).2 isWrite
  · intro path isNotDatabase written
    refine file?_generate_of_produced clock store fails apart isNotDatabase ?_
    rw [← alike.produced_eq]
    rcases written with ofWhole | ofRest
    · rcases produced_of_written ofWhole with produced | isDatabase
      · exact produced
      · exact absurd rfl (isNotDatabase path isDatabase)
    · rcases produced_of_written ofRest with produced | isDatabase
      · rw [alike.produced_eq]
        exact produced
      · exact absurd rfl (isNotDatabase path isDatabase)
  · intro path isNotDatabase
    cases produced : (builder.afterSolutions clock store (before ++ after)
        solutions).1.session.produced path with
    | true => exact .inl (file?_generate_of_produced clock store fails apart isNotDatabase produced)
    | false =>
        obtain ⟨ofWhole, ofRest⟩ :=
          file?_generate_of_unproduced clock store fails apart isNotDatabase produced
        rcases ofRest with kept | gone
        · exact .inl (ofWhole.trans kept.symm)
        · by_cases absent : store.file? path = none
          · exact .inl (ofWhole.trans (absent.trans gone.symm))
          · obtain ⟨_, asked, same, isAsked⟩ := asked_of_gone absent gone
            refine .inr ⟨ofWhole, gone, asked, same, ?_⟩
            rcases (mem_of_asked isAsked).2 with isList | ⟨_, stale⟩
            · exact .inl isList
            · exact .inr stale

/-- A project without configurations comes first among the failures of a run. -/
theorem generate_isolates_failure_empty :
    ∃ report, ((Builder.new {}).generate ⟨0, 0⟩ .empty
        [⟨"Empty", .cpp, ⟨"src"⟩, [], []⟩, .minimal "App" ⟨"out/App.csproj"⟩ []]
        [⟨"All", ⟨"out/All.sln"⟩, []⟩]).2 = .ok report ∧
      ∃ later, report.failures =
        ⟨"Empty", none, .invalidModel (.emptyProject "Empty")⟩ :: later := by
  obtain ⟨_, ⟨report, reported, _, agrees⟩, _⟩ := generate_isolates_failure {} ⟨0, 0⟩ .empty []
    [.minimal "App" ⟨"out/App.csproj"⟩ []] ⟨"Empty", .cpp, ⟨"src"⟩, [], []⟩
    ⟨"Empty", none, .invalidModel (.emptyProject "Empty")⟩ [⟨"All", ⟨"out/All.sln"⟩, []⟩] rfl
    (by
      intro solution isSolution other isOther file isCSharp
      rw [List.mem_singleton.1 isSolution]
      have isFile := isCSharp.1
      rw [List.mem_singleton.1 isOther, Project.projectFiles_minimal] at isFile
      rw [List.mem_singleton.1 isFile]
      decide +kernel)
  have ended : ((Builder.new {}).generate ⟨0, 0⟩ .empty [.minimal "App" ⟨"out/App.csproj"⟩ []]
      [⟨"All", ⟨"out/All.sln"⟩, []⟩]).2 = .ok ((Builder.new {}).afterSolutions ⟨0, 0⟩ .empty
        [.minimal "App" ⟨"out/App.csproj"⟩ []] [⟨"All", ⟨"out/All.sln"⟩, []⟩]).2 := by
    rw [generate_eq, cleanUp_of_none _ rfl]
  obtain ⟨_, _, later, _, failures⟩ := agrees _ ended
  exact ⟨report, reported, later, failures⟩

end Builder

end ProjectFiles
