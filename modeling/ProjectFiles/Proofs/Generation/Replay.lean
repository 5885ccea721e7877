import ProjectFiles.Proofs.Generation.Settled
import ProjectFiles.Proofs.Output.Echo

/-!
# Steps that are repeated

A run is repeated on the store that an earlier one has left.  The second run
renders the same outputs, finds the same claims, and meets every file as the first
run has left it, so each of its steps skips what was written and refuses what was
refused.
-/

namespace ProjectFiles

open Store PendingOutput

namespace Builder

/-! ## Projects -/

/-- The outputs of a project are committed again without a trace, when the final
store still has what the first run has settled. -/
theorem CommitRun.echo {overwriteReadOnly : Bool} {project : Project} {outputs later : List Path}
    {final : Store} {before after other otherAfter : Workspace}
    {output recorded otherOutput otherRecorded : GenerationOutput} {pendings : List PendingOutput}
    {refusal otherRefusal : Option (Path × GenerationError)}
    (run : CommitRun overwriteReadOnly before output pendings after recorded refusal)
    (again : CommitRun overwriteReadOnly other otherOutput pendings otherAfter otherRecorded
      otherRefusal)
    (belong : ∀ pending ∈ pendings, pending.BelongsTo project)
    (areOutputs : ∀ pending ∈ pendings, ∀ path, pending.writtenPath? = some path → path ∈ outputs)
    (distinct : Distinct (pendings.filterMap filePath? ++ later))
    (settles : ∀ path ∈ outputs, after.Settled overwriteReadOnly later path →
      final.file? path = after.store.file? path)
    (echo : Workspace.Echo final [] before other) (echoes : output.Echoes otherOutput) :
    otherRefusal = refusal ∧ Workspace.Echo final [] after otherAfter ∧
      recorded.Echoes otherRecorded := by
  induction run generalizing other otherOutput with
  | done =>
      cases again
      exact ⟨rfl, echo, echoes⟩
  | @next workspace middle _ _ _ _ pending rest _ step run ih =>
      have belongRest : ∀ pending ∈ rest, pending.BelongsTo project :=
        fun pending member => belong pending (List.mem_cons_of_mem _ member)
      have agree : ∀ path contents, pending.attempt? workspace.session = some (path, contents) →
          other.store.file? path = middle.store.file? path := by
        intro path contents attempt
        have own := Workspace.settled_of_attempt step (belong _ List.mem_cons_self) attempt
          (fun _ isFile _ member => distinct.apart isFile member)
        -- what is settled here stays so to the end of the run, where the second one starts
        obtain ⟨kept, last⟩ :=
          run.settled (fun pending member => ⟨project, belongRest pending member⟩) own
        have isOutput := areOutputs _ List.mem_cons_self path (writtenPath?_of_attempt attempt)
        rw [echo.file?_eq path (by simp), settles path isOutput last, kept]
      cases again with
      | next stepAgain runAgain =>
          obtain ⟨_, echoNext, echoesNext⟩ := step.echo stepAgain echo echoes agree
          exact ih runAgain belongRest
            (fun pending member => areOutputs pending (List.mem_cons_of_mem _ member))
            distinct.tail settles echoNext echoesNext
      | stopped stepAgain => cases (step.echo stepAgain echo echoes agree).1
  | @stopped workspace final _ _ pending rest _ step =>
      have agree : ∀ path contents, pending.attempt? workspace.session = some (path, contents) →
          other.store.file? path = final.store.file? path := by
        intro path contents attempt
        have own := Workspace.settled_of_attempt step (belong _ List.mem_cons_self) attempt
          (fun _ isFile _ member => distinct.apart isFile (List.mem_append_right _ member))
        have isOutput := areOutputs _ List.mem_cons_self path (writtenPath?_of_attempt attempt)
        rw [echo.file?_eq path (by simp), settles path isOutput own]
      cases again with
      | next stepAgain => cases (step.echo stepAgain echo echoes agree).1
      | stopped stepAgain =>
          obtain ⟨sameError, echoNext, echoesNext⟩ := step.echo stepAgain echo echoes agree
          obtain rfl := Except.error.inj sameError
          exact ⟨rfl, echoNext, echoesNext⟩

/-- The state of a second run and its report, at a point that a first run has
passed. -/
structure RunEcho (final : Store) (removed : List Path)
    (first second : Workspace × GenerationReport) : Prop where
  echo : Workspace.Echo final removed first.1 second.1
  echoes : first.2.output.Echoes second.2.output
  failures_eq : second.2.failures = first.2.failures
  warnings_eq : second.2.warnings = first.2.warnings

variable {settings : Settings} {outputs later : List Path} {final : Store} {removed : List Path}
variable {first second firstNext secondNext : Workspace × GenerationReport}

/-- A failure is reported again. -/
theorem RunEcho.addFailure (follows : RunEcho final removed first second)
    {firstAfter secondAfter : Workspace}
    (echo : Workspace.Echo final removed firstAfter secondAfter) (failure : ProjectFailure) :
    RunEcho final removed (firstAfter, first.2.addFailure failure)
      (secondAfter, second.2.addFailure failure) where
  echo := echo
  echoes := follows.echoes
  failures_eq := by simp [GenerationReport.addFailure, follows.failures_eq]
  warnings_eq := follows.warnings_eq

/-- The rendered outputs of a project leave no trace when they are committed
again. -/
theorem CommitRun.echo_of_rendered {project : Project} {rendered : RenderedProject}
    {firstAfter secondAfter : Workspace} {recorded otherRecorded : GenerationOutput}
    {refusal otherRefusal : Option (Path × GenerationError)}
    (renders : (Builder.new settings).renderProject project = .ok rendered)
    (run : CommitRun settings.overwriteReadOnly first.1 .empty rendered.pending firstAfter recorded
      refusal)
    (again : CommitRun settings.overwriteReadOnly second.1 .empty rendered.pending secondAfter
      otherRecorded otherRefusal)
    (areOutputs : ∀ path ∈ (Builder.new settings).projectOutputs project, path ∈ outputs)
    (distinct : Distinct (project.projectFiles ++ later))
    (settles : ∀ path ∈ outputs, firstAfter.Settled settings.overwriteReadOnly later path →
      final.file? path = firstAfter.store.file? path)
    (follows : RunEcho final [] first second) :
    otherRefusal = refusal ∧ Workspace.Echo final [] firstAfter secondAfter ∧
      recorded.Echoes otherRecorded := by
  obtain ⟨files, belong⟩ := renderProject_new_eq_ok renders
  have written : ∀ pending ∈ rendered.pending, ∀ path, pending.writtenPath? = some path →
      path ∈ outputs := by
    intro pending member path isWritten
    apply areOutputs
    unfold projectOutputs
    rw [renders]
    exact List.mem_filterMap.2 ⟨pending, member, isWritten⟩
  rw [← files] at distinct
  exact run.echo again belong written distinct settles follows.echo .empty

theorem ProjectStep.echo {project : Project}
    (step : ProjectStep (Builder.new settings) project first firstNext)
    (again : ProjectStep (Builder.new settings) project second secondNext)
    (areOutputs : ∀ path ∈ (Builder.new settings).projectOutputs project, path ∈ outputs)
    (distinct : Distinct (project.projectFiles ++ later))
    (settles : ∀ path ∈ outputs, firstNext.1.Settled settings.overwriteReadOnly later path →
      final.file? path = firstNext.1.store.file? path)
    (follows : RunEcho final [] first second) : RunEcho final [] firstNext secondNext := by
  cases step with
  | unrendered fails =>
      cases again with
      | unrendered failsAgain =>
          obtain rfl := Except.error.inj (fails.symm.trans failsAgain)
          exact follows.addFailure follows.echo _
      | stopped renders | finished renders => cases fails.symm.trans renders
  | stopped renders run =>
      cases again with
      | unrendered fails => cases renders.symm.trans fails
      | stopped rendersAgain runAgain =>
          obtain rfl := Except.ok.inj (renders.symm.trans rendersAgain)
          obtain ⟨sameRefusal, echo, _⟩ :=
            run.echo_of_rendered renders runAgain areOutputs distinct settles follows
          cases sameRefusal
          exact follows.addFailure echo _
      | finished rendersAgain runAgain =>
          obtain rfl := Except.ok.inj (renders.symm.trans rendersAgain)
          cases (run.echo_of_rendered renders runAgain areOutputs distinct settles follows).1
  | finished renders run =>
      cases again with
      | unrendered fails => cases renders.symm.trans fails
      | stopped rendersAgain runAgain =>
          obtain rfl := Except.ok.inj (renders.symm.trans rendersAgain)
          cases (run.echo_of_rendered renders runAgain areOutputs distinct settles follows).1
      | finished rendersAgain runAgain =>
          obtain rfl := Except.ok.inj (renders.symm.trans rendersAgain)
          obtain ⟨_, echo, echoes⟩ :=
            run.echo_of_rendered renders runAgain areOutputs distinct settles follows
          refine ⟨echo, follows.echoes.merge echoes, follows.failures_eq, ?_⟩
          exact congrArg (fun before => before ++ _) follows.warnings_eq

theorem echo_foldl_generateProject {projects : List Project} (outputs : List Path)
    (areOutputs : ∀ project ∈ projects,
      ∀ path ∈ (Builder.new settings).projectOutputs project, path ∈ outputs)
    (distinct : Distinct (projects.flatMap Project.projectFiles))
    (settles : ∀ path ∈ outputs,
      (projects.foldl (Builder.new settings).generateProject first).1.session.produced path = true →
      final.file? path =
        (projects.foldl (Builder.new settings).generateProject first).1.store.file? path)
    (follows : RunEcho final [] first second) :
    RunEcho final [] (projects.foldl (Builder.new settings).generateProject first)
      (projects.foldl (Builder.new settings).generateProject second) := by
  induction projects generalizing first second with
  | nil => exact follows
  | cons project rest ih =>
      rw [List.flatMap_cons] at distinct
      refine ih (fun other member => areOutputs other (List.mem_cons_of_mem _ member))
        (distinct.sublist (List.sublist_append_right _ _)) settles ?_
      refine ProjectStep.echo ((Builder.new settings).generateProject_step project first)
        ((Builder.new settings).generateProject_step project second)
        (areOutputs project List.mem_cons_self) distinct ?_ follows
      intro path isOutput settled
      have allFiles : rest.flatMap Project.projectFiles =
          rest.flatMap Project.projectFiles ++ [] := (List.append_nil _).symm
      rw [allFiles] at settled
      obtain ⟨kept, last⟩ := settled_foldl_generateProject rest settled
      exact (settles path isOutput last.produced).trans kept

/-! ## Solutions -/

/-- Removing package lists makes no writes, and takes only them away. -/
theorem RunEcho.removeStale (follows : RunEcho final [] first second) :
    RunEcho final (staleLists second) (removeStale first) (removeStale second) where
  echo := {
    isClaimed_eq := by
      intro probe
      rw [isClaimed_removeStale, isClaimed_removeStale, follows.echo.isClaimed_eq]
    file?_eq := by
      intro probe spared
      rw [store_removeStale, file?_deleteAll_of_spared (.inl spared),
        follows.echo.file?_eq probe (by simp)]
    file?_of_some := by
      intro probe file found
      rw [store_removeStale] at found
      exact follows.echo.file?_of_some probe file (file?_of_file?_deleteAll found)
    writes_eq := by rw [store_removeStale, writes_deleteAll, follows.echo.writes_eq]
    calls_eq := by
      obtain ⟨calls, spelled, quiet⟩ := follows.echo.calls_eq
      obtain ⟨removals, removed, each, _⟩ := calls_deleteAll second.1.store (staleLists second)
      refine ⟨calls ++ removals, by simp [store_removeStale, removed, spelled], ?_⟩
      intro call member
      rcases List.mem_append.1 member with earlier | isRemoval
      · exact quiet call earlier
      · simp [(each call isRemoval).1] }
  echoes := by
    rw [report_removeStale, report_removeStale]
    exact follows.echoes
  failures_eq := by
    rw [report_removeStale, report_removeStale]
    exact follows.failures_eq
  warnings_eq := by
    rw [report_removeStale, report_removeStale]
    exact follows.warnings_eq

theorem SolutionStep.echo {solution : Solution}
    (step : SolutionStep (Builder.new settings) solution first firstNext)
    (again : SolutionStep (Builder.new settings) solution second secondNext)
    (spared : ∀ key ∈ removed, key.components ≠ solution.file.components)
    (settles : firstNext.1.session.produced solution.file = true →
      final.file? solution.file = firstNext.1.store.file? solution.file)
    (follows : RunEcho final removed first second) :
    RunEcho final removed firstNext secondNext := by
  have agree := follows.echo.file?_eq solution.file spared
  have recorded : (first.1.session.recordOutput solution.file).produced solution.file = true := by
    rw [Session.produced_recordOutput, Path.sameOutput_self, Bool.true_or]
  have claims : ∀ probe, (second.1.session.recordOutput solution.file).isClaimed probe =
      (first.1.session.recordOutput solution.file).isClaimed probe := follows.echo.isClaimed_eq
  cases step with
  | unrendered fails =>
      cases again with
      | unrendered failsAgain =>
          obtain rfl := Except.error.inj (fails.symm.trans failsAgain)
          exact follows.addFailure follows.echo _
      | refused renders | written renders => cases fails.symm.trans renders
  | refused renders step =>
      cases again with
      | unrendered fails => cases renders.symm.trans fails
      | refused rendersAgain stepAgain =>
          obtain rfl := Except.ok.inj (renders.symm.trans rendersAgain)
          obtain ⟨rfl, refused⟩ := step.echo stepAgain (agree.trans (settles recorded))
          obtain rfl := Except.error.inj refused
          exact follows.addFailure (follows.echo.record claims _ _) _
      | written rendersAgain stepAgain =>
          obtain rfl := Except.ok.inj (renders.symm.trans rendersAgain)
          cases (step.echo stepAgain (agree.trans (settles recorded))).2
  | written renders step =>
      cases again with
      | unrendered fails => cases renders.symm.trans fails
      | refused rendersAgain stepAgain =>
          obtain rfl := Except.ok.inj (renders.symm.trans rendersAgain)
          cases (step.echo stepAgain (agree.trans (settles recorded))).2
      | written rendersAgain stepAgain =>
          obtain rfl := Except.ok.inj (renders.symm.trans rendersAgain)
          obtain ⟨rfl, skipped⟩ := step.echo stepAgain (agree.trans (settles recorded))
          obtain rfl := Except.ok.inj skipped
          exact ⟨follows.echo.record claims _ _, follows.echoes.record _ _, follows.failures_eq,
            follows.warnings_eq⟩

theorem echo_foldl_generateSolution {solutions : List Solution}
    (distinct : Distinct (solutions.map (·.file)))
    (spared : ∀ solution ∈ solutions, ∀ key ∈ removed,
      key.components ≠ solution.file.components)
    (settles : ∀ solution ∈ solutions,
      (solutions.foldl (Builder.new settings).generateSolution first).1.session.produced
        solution.file = true →
      final.file? solution.file =
        (solutions.foldl (Builder.new settings).generateSolution first).1.store.file?
          solution.file)
    (follows : RunEcho final removed first second) :
    RunEcho final removed (solutions.foldl (Builder.new settings).generateSolution first)
      (solutions.foldl (Builder.new settings).generateSolution second) := by
  induction solutions generalizing first second with
  | nil => exact follows
  | cons solution rest ih =>
      obtain ⟨apart, distinctRest⟩ := List.pairwise_cons.1 distinct
      refine ih distinctRest (fun other member => spared other (List.mem_cons_of_mem _ member))
        (fun other member => settles other (List.mem_cons_of_mem _ member)) ?_
      refine SolutionStep.echo ((Builder.new settings).generateSolution_step solution first)
        ((Builder.new settings).generateSolution_step solution second)
        (spared solution List.mem_cons_self) ?_ follows
      intro produced
      have progress := (advance_foldl_generateSolution (.new settings)
        ((Builder.new settings).generateSolution first solution) rest).progress
      have kept := settles solution List.mem_cons_self (progress.produced_of_produced produced)
      rw [List.foldl_cons] at kept
      rw [kept]
      exact file?_foldl_generateSolution fun other member =>
        apart other.file (List.mem_map_of_mem member)

/-! ## The end of the second run -/

/-- A database that the first run has left writable is not read-only when the
second run stores it. -/
theorem RunEcho.file?_pruned_ne (follows : RunEcho final removed first second) {database : Path}
    {contents : String} (isWritable : final.file? database = some ⟨contents, false⟩)
    (old : String) : (second.1.pruned database).file? database ≠ some ⟨old, true⟩ := by
  intro found
  rw [follows.echo.file?_of_some _ _ (Workspace.file?_of_file?_pruned found)] at isWritable
  cases isWritable

/-- A second run that has nothing to write but its database succeeds. -/
theorem RunEcho.cleanUp {ended : Workspace} {result : Except GenerationError GenerationReport}
    (follows : RunEcho final removed first second)
    (writable : ∀ database, settings.cleanupDatabase = some database → first.2.failures = [] →
      ∃ contents, final.file? database = some ⟨contents, false⟩)
    (step : CleanUpStep (Builder.new settings) second ended result) :
    (∃ cleanup, result = .ok { second.2 with cleanup := cleanup }) ∧
      ended.store.writes = final.writes +
        (if first.2.isSuccess && settings.cleanupDatabase.isSome then 1 else 0) ∧
      ∀ call ∈ ended.store.callsSince final, call.method = .write →
        settings.cleanupDatabase = some call.path := by
  have onlyDatabase : ∀ call ∈ ended.store.callsSince final, call.method = .write →
      settings.cleanupDatabase = some call.path := by
    obtain ⟨earlier, earlierCalls, quiet⟩ := follows.echo.calls_eq
    obtain ⟨later, laterCalls, _, writes, _⟩ := step.calls_eq
    rw [earlierCalls, List.append_assoc] at laterCalls
    intro call member isWrite
    rw [callsSince_eq laterCalls] at member
    rcases List.mem_append.1 member with inEarlier | inLater
    · exact absurd isWrite (quiet call inEarlier)
    · exact writes call inLater isWrite
  have clean : second.2.failures = [] → first.2.failures = [] := by
    rw [follows.failures_eq]
    exact id
  cases step with
  | idle reason =>
      refine ⟨⟨second.2.cleanup, rfl⟩, ?_, onlyDatabase⟩
      rcases reason with unkept | failed
      · have isNone : settings.cleanupDatabase = none := unkept
        simp [isNone, follows.echo.writes_eq]
      · rw [follows.failures_eq] at failed
        simp [GenerationReport.isSuccess_of_failed failed, follows.echo.writes_eq]
  | stored kept isClean _ replaced =>
      refine ⟨⟨_, rfl⟩, ?_, onlyDatabase⟩
      have isSome : settings.cleanupDatabase = _ := kept
      have successful := GenerationReport.isSuccess_of_clean (clean isClean)
      rw [replaced.writes_eq, Workspace.writes_pruned, follows.echo.writes_eq, isSome, successful]
      rfl
  | refused kept isClean found =>
      obtain ⟨contents, isWritable⟩ := writable _ kept (clean isClean)
      exact absurd found (follows.file?_pruned_ne isWritable _)

end Builder

end ProjectFiles
