import ProjectFiles.Proofs.Generation.Recorded

/-!
# Deletions

Files are deleted at two points of a run: package lists behind the projects, and
recorded files at the end.  Both spare whatever the run has produced, whatever is
read-only or locked, and everything as soon as something has failed.
-/

namespace ProjectFiles

open Store PendingOutput

/-- Whether a store has been asked to delete the file at a path since it was an
earlier store. -/
def Store.AskedToDelete (after before : Store) (path : Path) : Prop :=
  ⟨.remove, path⟩ ∈ after.callsSince before

namespace Builder

/-- The package list of a directory with a C# project file of the run, when no
project of the run produces it. -/
structure IsAbandonedList (builder : Builder) (projects : List Project) (path : Path) : Prop where
  beside : ∃ project ∈ projects, ∃ file, project.IsCSharpFile file ∧
    path = file.packageList.absolute
  unclaimed : ∀ project ∈ projects, ∀ rendered, builder.renderProject project = .ok rendered →
    ∀ list contents, .shared list contents ∈ rendered.pending → list.sameOutput path = false

/-- A file of the database as the run finds it, when the run neither generates
nor skips it. -/
structure IsDroppedRecord (builder : Builder) (store : Store) (output : GenerationOutput)
    (path : Path) : Prop where
  recorded : ∃ database, builder.settings.cleanupDatabase = some database ∧
    path ∈ (OutputDatabase.load store database).2.files.keys
  unlisted : ∀ listed ∈ output.listed, listed.sameOutput path = false

section Phases

variable {settings : Settings} {clock : Timestamp} {store : Store} {projects : List Project}
variable {solutions : List Solution} {path : Path}

/-- Files that the projects have not recorded are as the run has found them. -/
theorem file?_afterProjects_of_unproduced
    (unproduced : ((Builder.new settings).afterProjects clock store projects).1.session.produced
      path = false) :
    ((Builder.new settings).afterProjects clock store projects).1.store.file? path =
      store.file? path :=
  (advance_afterProjects _ clock store projects).progress.file?_of_unproduced unproduced

/-- So are files that the whole run has not recorded, unless they are gone. -/
theorem file?_of_file?_afterSolutions {file : StoredFile}
    (unproduced : ((Builder.new settings).afterSolutions clock store projects
      solutions).1.session.produced path = false)
    (found : ((Builder.new settings).afterSolutions clock store projects
      solutions).1.store.file? path = some file) : store.file? path = some file := by
  have progress := (advance_afterSolutions (.new settings) clock store projects solutions).progress
  have earlier := progress.unproduced_of_unproduced unproduced
  rw [produced_removeStale] at earlier
  rw [progress.file?_of_unproduced unproduced, store_removeStale] at found
  rw [← file?_afterProjects_of_unproduced earlier]
  exact file?_of_file?_deleteAll found

/-- Outputs survive the deletion of package lists. -/
theorem file?_removeStale_of_produced
    (produced : ((Builder.new settings).afterProjects clock store projects).1.session.produced
      path = true) :
    (removeStale ((Builder.new settings).afterProjects clock store projects)).1.store.file? path =
      ((Builder.new settings).afterProjects clock store projects).1.store.file? path := by
  rw [store_removeStale]
  refine file?_deleteAll_of_spared (.inl fun key member same => ?_)
  have removable := (accounts_afterProjects settings clock store projects).isRemovable member
  rw [removable.unproduced path (Path.sameOutput_of_components_eq same.symm)] at produced
  cases produced

variable (settings clock store projects solutions) in
/-- Everything reported is there when the solutions have been generated. -/
theorem hasAll_afterSolutions :
    ((Builder.new settings).afterSolutions clock store projects solutions).1.HasAll
      ((Builder.new settings).afterSolutions clock store projects solutions).2.output.listed := by
  apply (advance_afterSolutions (.new settings) clock store projects solutions).hasAll
  rw [report_removeStale]
  intro path member
  obtain ⟨produced, present⟩ :=
    (advance_afterProjects (.new settings) clock store projects).hasAll
      (by simp [Workspace.HasAll, GenerationReport.empty, GenerationOutput.listed,
        GenerationOutput.empty]) path member
  rw [produced_removeStale, file?_removeStale_of_produced produced]
  exact ⟨produced, present⟩

/-- What the projects leave in the failures of a run stays there. -/
theorem failures_afterSolutions_ne_nil
    (failed : ((Builder.new settings).afterProjects clock store projects).2.failures ≠ []) :
    ((Builder.new settings).afterSolutions clock store projects solutions).2.failures ≠ [] := by
  have more := (advance_afterSolutions (.new settings) clock store projects solutions).failures
  rw [report_removeStale] at more
  intro clean
  rw [clean] at more
  exact failed (List.prefix_nil.1 more)

theorem locked_afterProjects :
    ((Builder.new settings).afterProjects clock store projects).1.store.locked = store.locked :=
  (advance_afterProjects _ clock store projects).progress.locked_eq

theorem locked_afterSolutions :
    ((Builder.new settings).afterSolutions clock store projects solutions).1.store.locked =
      store.locked := by
  have progress := (advance_afterSolutions (.new settings) clock store projects solutions).progress
  rw [progress.locked_eq, store_removeStale, locked_deleteAll, locked_afterProjects]

/-- A package list that is deleted is as the run has found it. -/
theorem file?_of_mem_staleLists {key : Path}
    (member : key ∈ staleLists ((Builder.new settings).afterProjects clock store projects)) :
    ((Builder.new settings).afterProjects clock store projects).1.store.file? key =
      store.file? key := by
  have removable := (accounts_afterProjects settings clock store projects).isRemovable member
  exact file?_afterProjects_of_unproduced
    (removable.unproduced key key.sameOutput_self)

/-- A package list that can be deleted after the projects could be when the run began. -/
theorem deletable_of_mem_staleLists {key : Path}
    (member : key ∈ staleLists ((Builder.new settings).afterProjects clock store projects))
    (deletable :
      ((Builder.new settings).afterProjects clock store projects).1.store.Deletable key) :
    store.Deletable key := by
  unfold Deletable at deletable
  rwa [file?_of_mem_staleLists member, locked_afterProjects] at deletable

/-- What disappears before the end of a run disappears with a package list. -/
theorem deletable_of_gone_afterSolutions {probe : Path} (present : store.file? probe ≠ none)
    (gone : ((Builder.new settings).afterSolutions clock store projects
      solutions).1.store.file? probe = none) :
    ∃ key ∈ staleLists ((Builder.new settings).afterProjects clock store projects),
      key.components = probe.components ∧
        ((Builder.new settings).afterProjects clock store projects).1.store.Deletable key := by
  have projectsAdvance := (advance_afterProjects (.new settings) clock store projects).progress
  have solutionsAdvance :=
    (advance_afterSolutions (.new settings) clock store projects solutions).progress
  have goneBefore : (removeStale ((Builder.new settings).afterProjects clock store
      projects)).1.store.file? probe = none :=
    Classical.byContradiction fun kept => solutionsAdvance.file?_ne_none kept gone
  rw [store_removeStale] at goneBefore
  obtain ⟨deletable, key, member, same⟩ :=
    deletable_of_gone (projectsAdvance.file?_ne_none present) goneBefore
  exact ⟨key, member, same, (deletable_congr same).2 deletable⟩

/-! ## What is asked for -/

variable (settings clock store projects solutions) in
/-- Until the end of a run only package lists are asked for, and each that
disappears.  Only recorded outputs are written. -/
theorem calls_afterSolutions :
    ∃ calls, ((Builder.new settings).afterSolutions clock store projects solutions).1.store.calls =
        store.calls ++ calls ∧
      (∀ call ∈ calls, call.method = .remove →
        call.path ∈ staleLists ((Builder.new settings).afterProjects clock store projects) ∧
          ∃ contents, store.file? call.path = some ⟨contents, false⟩) ∧
      (∀ call ∈ calls, call.method = .write →
        ((Builder.new settings).afterSolutions clock store projects
          solutions).1.session.produced call.path = true) ∧
      ∀ probe : Path, store.file? probe ≠ none →
        ((Builder.new settings).afterSolutions clock store projects solutions).1.store.file? probe =
          none →
        store.Deletable probe ∧ ∃ call ∈ calls, call.method = .remove ∧
          call.path.components = probe.components := by
  have projectsAdvance := (advance_afterProjects (.new settings) clock store projects).progress
  have solutionsAdvance :=
    (advance_afterSolutions (.new settings) clock store projects solutions).progress
  obtain ⟨former, formerCalls, formerHarmless⟩ := projectsAdvance.calls_eq
  obtain ⟨removals, removalCalls, each, asked⟩ := calls_deleteAll
    ((Builder.new settings).afterProjects clock store projects).1.store
    (staleLists ((Builder.new settings).afterProjects clock store projects))
  obtain ⟨latter, latterCalls, latterHarmless⟩ := solutionsAdvance.calls_eq
  rw [store_removeStale, removalCalls, formerCalls] at latterCalls
  refine ⟨former ++ removals ++ latter, by simpa using latterCalls, ?_, ?_, ?_⟩
  · intro call member isRemoval
    simp only [List.mem_append] at member
    rcases member with (inFormer | inRemovals) | inLatter
    · exact absurd isRemoval (formerHarmless call inFormer).1
    · obtain ⟨_, named, found⟩ := each call inRemovals
      rw [file?_of_mem_staleLists named] at found
      exact ⟨named, found⟩
    · exact absurd isRemoval (latterHarmless call inLatter).1
  · intro call member isWrite
    simp only [List.mem_append] at member
    rcases member with (inFormer | inRemovals) | inLatter
    · apply solutionsAdvance.produced_of_produced
      rw [produced_removeStale]
      exact (formerHarmless call inFormer).2 isWrite
    · rw [(each call inRemovals).1] at isWrite
      cases isWrite
    · exact (latterHarmless call inLatter).2 isWrite
  · intro probe present gone
    obtain ⟨key, member, same, deletable⟩ := deletable_of_gone_afterSolutions present gone
    obtain ⟨call, inRemovals, named⟩ := asked key member deletable
    exact ⟨(deletable_congr same).1 (deletable_of_mem_staleLists member deletable),
      call, by simp [inRemovals], (each call inRemovals).1, named.trans same⟩

/-- In a run whose projects have failed nothing is asked for. -/
theorem staleLists_of_failed
    (failed : ((Builder.new settings).afterProjects clock store projects).2.failures ≠ []) :
    staleLists ((Builder.new settings).afterProjects clock store projects) = [] := by
  unfold staleLists
  rw [GenerationReport.isSuccess_of_failed failed]
  rfl

/-- A package list that is deleted is one that the run has abandoned. -/
theorem isAbandonedList_of_mem {key : Path}
    (member : key ∈ staleLists ((Builder.new settings).afterProjects clock store projects)) :
    (Builder.new settings).IsAbandonedList projects key := by
  have accounts := accounts_afterProjects settings clock store projects
  have removable := accounts.isRemovable member
  refine ⟨removable.beside, ?_⟩
  intro project inProjects rendered renders list contents inPending
  have claimed := accounts.isClaimed_of_rendered removable.clean project inProjects rendered
    renders list contents inPending
  cases same : list.sameOutput key with
  | false => rfl
  | true =>
      rw [removable.unclaimed list same] at claimed
      cases claimed

variable (clock store) in
/-- A database that is not an output is not recorded. -/
theorem unproduced_of_apart {database : Path}
    (apart : ∀ output ∈ (Builder.new settings).outputs projects solutions,
      output.sameOutput database = false) :
    ((Builder.new settings).afterSolutions clock store projects solutions).1.session.produced
      database = false := by
  cases produced : ((Builder.new settings).afterSolutions clock store projects
      solutions).1.session.produced database with
  | false => rfl
  | true =>
      obtain ⟨output, isOutput, same⟩ := mem_outputs_of_produced produced
      rw [Path.sameOutput_comm, apart output isOutput] at same
      cases same

/-- Until the end of a run a database that is not an output stays as it is,
unless it is an abandoned package list. -/
theorem file?_afterSolutions_of_apart {database : Path}
    (apart : ∀ output ∈ (Builder.new settings).outputs projects solutions,
      output.sameOutput database = false) :
    ((Builder.new settings).afterSolutions clock store projects solutions).1.store.file? database =
        store.file? database ∨
      ∃ list, (Builder.new settings).IsAbandonedList projects list ∧
        list.components = database.components := by
  have progress := (advance_afterSolutions (.new settings) clock store projects solutions).progress
  have unproduced := unproduced_of_apart clock store apart
  have unproducedBefore := progress.unproduced_of_unproduced unproduced
  rw [produced_removeStale] at unproducedBefore
  by_cases isList : ∃ key ∈ staleLists ((Builder.new settings).afterProjects clock store projects),
      key.components = database.components
  · obtain ⟨key, member, same⟩ := isList
    exact .inr ⟨key, isAbandonedList_of_mem member, same⟩
  · refine .inl ?_
    rw [progress.file?_of_unproduced unproduced, store_removeStale,
      file?_deleteAll_of_spared (.inl fun key member same => isList ⟨key, member, same⟩),
      file?_afterProjects_of_unproduced unproducedBefore]

/-- A database that is not an output is read as the run has found it, unless it
is gone. -/
theorem mem_keys_of_mem_staleFiles {database : Path}
    (apart : ∀ output ∈ (Builder.new settings).outputs projects solutions,
      output.sameOutput database = false)
    (member : path ∈ ((Builder.new settings).afterSolutions clock store projects
      solutions).1.staleFiles database) :
    path ∈ (OutputDatabase.load store database).2.files.keys := by
  have recorded := (OutputDatabase.mem_staleFiles.1 member).1
  cases found : ((Builder.new settings).afterSolutions clock store projects
      solutions).1.store.file? database with
  | none =>
      have missing := OutputDatabase.load_congr _ .empty found
      rw [missing] at recorded
      cases recorded
  | some file =>
      rwa [OutputDatabase.load_congr _ _
        (found.trans
          (file?_of_file?_afterSolutions (unproduced_of_apart clock store apart) found).symm)]
        at recorded

/-- A recorded file that is deleted is one that the run has dropped. -/
theorem isDroppedRecord_of_mem {database : Path}
    (kept : settings.cleanupDatabase = some database)
    (apart : ∀ output ∈ (Builder.new settings).outputs projects solutions,
      output.sameOutput database = false)
    (member : path ∈ ((Builder.new settings).afterSolutions clock store projects
      solutions).1.staleFiles database) :
    (Builder.new settings).IsDroppedRecord store
      ((Builder.new settings).afterSolutions clock store projects solutions).2.output path where
  recorded := ⟨database, kept, mem_keys_of_mem_staleFiles apart member⟩
  unlisted := by
    intro listed isListed
    cases same : listed.sameOutput path with
    | false => rfl
    | true =>
        have unproduced := (OutputDatabase.mem_staleFiles.1 member).2
        have produced :=
          (hasAll_afterSolutions settings clock store projects solutions listed isListed).1
        rw [← Session.produced_congr _ same, produced] at unproduced
        cases unproduced

/-- Whatever is asked for was writable when the run began, and is a package list
or a recorded file to be deleted. -/
theorem mem_of_asked
    (asked : ((Builder.new settings).generate clock store projects solutions).1.AskedToDelete store
      path) :
    (∃ contents, store.file? path = some ⟨contents, false⟩) ∧
      (path ∈ staleLists ((Builder.new settings).afterProjects clock store projects) ∨
        (((Builder.new settings).afterSolutions clock store projects solutions).2.failures = [] ∧
          ∃ database, settings.cleanupDatabase = some database ∧
            path ∈ ((Builder.new settings).afterSolutions clock store projects
              solutions).1.staleFiles database)) := by
  obtain ⟨earlier, earlierCalls, earlierAsked, _, _⟩ :=
    calls_afterSolutions settings clock store projects solutions
  obtain ⟨later, laterCalls, laterAsked, _⟩ := ((Builder.new settings).cleanUp_step
    ((Builder.new settings).afterSolutions clock store projects solutions)).calls_eq
  rw [earlierCalls, List.append_assoc] at laterCalls
  unfold AskedToDelete at asked
  rw [generate_eq, callsSince_eq laterCalls] at asked
  rcases List.mem_append.1 asked with inEarlier | inLater
  · obtain ⟨isList, found⟩ := earlierAsked _ inEarlier rfl
    exact ⟨found, .inl isList⟩
  · obtain ⟨clean, database, kept, stale, contents, found⟩ := laterAsked _ inLater rfl
    have unproduced := (OutputDatabase.mem_staleFiles.1 stale).2
    exact ⟨⟨contents, file?_of_file?_afterSolutions unproduced found⟩,
      .inr ⟨clean, database, kept, stale⟩⟩

/-- Whatever is written is a recorded output or the database. -/
theorem produced_of_written
    (written : ⟨.write, path⟩ ∈
      ((Builder.new settings).generate clock store projects solutions).1.callsSince store) :
    ((Builder.new settings).afterSolutions clock store projects solutions).1.session.produced
        path = true ∨ settings.cleanupDatabase = some path := by
  obtain ⟨earlier, earlierCalls, _, earlierWrites, _⟩ :=
    calls_afterSolutions settings clock store projects solutions
  obtain ⟨later, laterCalls, _, laterWrites, _⟩ := ((Builder.new settings).cleanUp_step
    ((Builder.new settings).afterSolutions clock store projects solutions)).calls_eq
  rw [earlierCalls, List.append_assoc] at laterCalls
  rw [generate_eq, callsSince_eq laterCalls] at written
  rcases List.mem_append.1 written with inEarlier | inLater
  · have recorded := earlierWrites _ inEarlier rfl
    exact .inl recorded
  · have isDatabase := laterWrites _ inLater rfl
    exact .inr isDatabase

/-- Whatever has disappeared could be deleted and was asked for. -/
theorem asked_of_gone (present : store.file? path ≠ none)
    (gone : ((Builder.new settings).generate clock store projects solutions).1.file? path = none) :
    store.Deletable path ∧ ∃ asked : Path, asked.components = path.components ∧
      ((Builder.new settings).generate clock store projects solutions).1.AskedToDelete store
        asked := by
  obtain ⟨earlier, earlierCalls, _, _, earlierGone⟩ :=
    calls_afterSolutions settings clock store projects solutions
  obtain ⟨later, laterCalls, laterAsked, _, laterGone⟩ := ((Builder.new settings).cleanUp_step
    ((Builder.new settings).afterSolutions clock store projects solutions)).calls_eq
  rw [earlierCalls, List.append_assoc] at laterCalls
  unfold AskedToDelete
  rw [generate_eq, callsSince_eq laterCalls]
  cases still : ((Builder.new settings).afterSolutions clock store projects
      solutions).1.store.file? path with
  | none =>
      obtain ⟨deletable, ⟨method, asked⟩, member, isRemoval, same⟩ := earlierGone path present still
      cases isRemoval
      exact ⟨deletable, asked, same, List.mem_append_left _ member⟩
  | some file =>
      obtain ⟨deletable, ⟨method, asked⟩, member, isRemoval, same⟩ :=
        laterGone path (by simp [still]) gone
      cases isRemoval
      refine ⟨?_, asked, same, List.mem_append_right _ member⟩
      obtain ⟨unlocked, contents, found⟩ := deletable
      obtain ⟨_, _, _, stale, _⟩ := laterAsked _ member rfl
      have unproduced := (OutputDatabase.mem_staleFiles.1 stale).2
      rw [Session.produced_congr _ (Path.sameOutput_of_components_eq same)] at unproduced
      rw [locked_afterSolutions] at unlocked
      exact ⟨unlocked, contents, file?_of_file?_afterSolutions unproduced found⟩

/-- Whatever is reported is there at the end. -/
theorem file?_generate_ne_none_of_listed {report : GenerationReport}
    (reported : ((Builder.new settings).generate clock store projects solutions).2 = .ok report)
    (member : path ∈ report.output.listed) :
    ((Builder.new settings).generate clock store projects solutions).1.file? path ≠ none := by
  rw [generate_eq] at reported ⊢
  have all := hasAll_afterSolutions settings clock store projects solutions
  have step := (Builder.new settings).cleanUp_step
    ((Builder.new settings).afterSolutions clock store projects solutions)
  generalize (Builder.new settings).cleanUp
    ((Builder.new settings).afterSolutions clock store projects solutions) = ended at step reported
  obtain ⟨final, result⟩ := ended
  cases step with
  | idle =>
      cases reported
      exact (all path member).2
  | stored _ _ _ replaced =>
      cases reported
      obtain ⟨produced, present⟩ := all path member
      rw [replaced.file?_eq]
      split
      · simp
      · rwa [Workspace.file?_pruned_of_produced (.inl produced)]
  | refused => cases reported

end Phases

/-! ## Deletion safety -/

/-- Deletion is safe in every run with the standard generators whose database is
none of the outputs.  Nothing is deleted once a project has failed, and cleaning
up does nothing once anything has failed, so the database stays as it is.
Whatever is asked for was writable when the run began, and it is a package list
that no project produces or a recorded file that the run has dropped.  Whatever
has disappeared was asked for and was not locked, and whatever is reported is
there at the end. -/
theorem generate_deletes_safely (settings : Settings) (clock : Timestamp) (store : Store)
    (projects : List Project) (solutions : List Solution)
    (apart : ∀ database, settings.cleanupDatabase = some database →
      ∀ output ∈ (Builder.new settings).outputs projects solutions,
        output.sameOutput database = false) :
    let builder := Builder.new settings
    let run := builder.generate clock store projects solutions
    let finished := builder.afterSolutions clock store projects solutions
    ((builder.afterProjects clock store projects).2.failures ≠ [] →
      (∀ path, ¬ run.1.AskedToDelete store path) ∧
        ∀ path, store.file? path ≠ none → run.1.file? path ≠ none) ∧
    (finished.2.failures ≠ [] →
      builder.cleanUp finished = (finished.1, .ok finished.2) ∧
        ∀ database, settings.cleanupDatabase = some database →
          run.1.file? database = store.file? database ∨
            ∃ list, builder.IsAbandonedList projects list ∧
              list.components = database.components) ∧
    (∀ path, run.1.AskedToDelete store path →
      (∃ contents, store.file? path = some ⟨contents, false⟩) ∧
        (builder.IsAbandonedList projects path ∨
          builder.IsDroppedRecord store finished.2.output path)) ∧
    (∀ path, store.file? path ≠ none → run.1.file? path = none →
      store.locked.contains path = false ∧
        ∃ asked : Path, asked.components = path.components ∧ run.1.AskedToDelete store asked) ∧
    ∀ report, run.2 = .ok report →
      ∀ path ∈ report.output.generated ++ report.output.skipped, run.1.file? path ≠ none := by
  intro builder run finished
  have neverAsked : (builder.afterProjects clock store projects).2.failures ≠ [] →
      ∀ path, ¬ run.1.AskedToDelete store path := by
    intro failed path asked
    rcases (mem_of_asked asked).2 with isList | ⟨clean, _⟩
    · rw [staleLists_of_failed failed] at isList
      cases isList
    · exact failures_afterSolutions_ne_nil failed clean
  refine ⟨fun failed => ⟨neverAsked failed, ?_⟩, fun failed => ?_, ?_, ?_, ?_⟩
  · intro path present gone
    obtain ⟨_, asked, _, isAsked⟩ := asked_of_gone present gone
    exact neverAsked failed asked isAsked
  · have idle := builder.cleanUp_of_failed failed
    refine ⟨idle, fun database kept => ?_⟩
    have ended : run.1 = finished.1.store := by
      change (builder.generate clock store projects solutions).1 = _
      rw [generate_eq, idle]
    rw [ended]
    exact file?_afterSolutions_of_apart (apart database kept)
  · intro path asked
    obtain ⟨found, isList | ⟨_, database, kept, stale⟩⟩ := mem_of_asked asked
    · exact ⟨found, .inl (isAbandonedList_of_mem isList)⟩
    · exact ⟨found, .inr (isDroppedRecord_of_mem kept (apart database kept) stale)⟩
  · intro path present gone
    obtain ⟨⟨unlocked, _⟩, asked⟩ := asked_of_gone present gone
    exact ⟨unlocked, asked⟩
  · intro report reported path member
    exact file?_generate_ne_none_of_listed reported member

/-- A file that is locked survives a run that keeps a database. -/
theorem generate_deletes_safely_locked :
    ((Builder.new { cleanupDatabase := some ⟨"state.json"⟩ }).generate ⟨0, 0⟩
      ((Store.empty.withFile ⟨"/old.txt"⟩ ⟨"text", false⟩).lock ⟨"/old.txt"⟩)
      [.minimal "App" ⟨"out/App.csproj"⟩ []] [⟨"All", ⟨"All.sln"⟩, []⟩]).1.file? ⟨"/old.txt"⟩ ≠
        none := by
  intro gone
  have safe := generate_deletes_safely { cleanupDatabase := some ⟨"state.json"⟩ } ⟨0, 0⟩
    ((Store.empty.withFile ⟨"/old.txt"⟩ ⟨"text", false⟩).lock ⟨"/old.txt"⟩)
    [.minimal "App" ⟨"out/App.csproj"⟩ []] [⟨"All", ⟨"All.sln"⟩, []⟩]
    (by
      intro database kept output isOutput
      cases kept
      rcases mem_outputs_new isOutput with ⟨project, member, file, isFile, spelled⟩ |
        ⟨solution, member, rfl⟩
      · rw [List.mem_singleton.1 member, Project.projectFiles_minimal,
          List.mem_singleton] at isFile
        subst isFile
        rcases spelled with rfl | rfl <;> decide +kernel
      · rw [List.mem_singleton.1 member]
        decide +kernel)
  have unlocked := (safe.2.2.2.1 ⟨"/old.txt"⟩ (by decide +kernel) gone).1
  exact absurd unlocked (by decide +kernel)

end Builder

end ProjectFiles
