import ProjectFiles.Proofs.Generation.Isolation
import ProjectFiles.Proofs.Generation.Replay

/-!
# Running again

A run that has ended can be repeated.  Every output of the first run is still there
when the second one comes to it, since solutions and the database are no outputs of
projects, so the second run writes nothing but its database.
-/

namespace ProjectFiles

open Store PendingOutput

namespace Builder

section SecondRun

variable {settings : Settings} {clock laterClock : Timestamp} {store : Store}
variable {projects : List Project} {solutions : List Solution}

/-- No output of a project is a solution file. -/
theorem sameOutput_of_mem_projectOutputs {path : Path}
    (distinct : Distinct (projects.flatMap Project.projectFiles ++ solutions.map (·.file)))
    (apart : ∀ solution ∈ solutions, ∀ project ∈ projects, ∀ file, project.IsCSharpFile file →
      solution.file.sameOutput file.packageList = false)
    (isOutput : path ∈ projects.flatMap (Builder.new settings).projectOutputs)
    {solution : Solution} (isSolution : solution ∈ solutions) :
    path.sameOutput solution.file = false := by
  obtain ⟨project, inProjects, ofProject⟩ := List.mem_flatMap.1 isOutput
  rcases mem_projectOutputs_new ofProject with isFile | ⟨file, isCSharp, rfl⟩
  · exact (List.pairwise_append.1 distinct).2.2 path
      (List.mem_flatMap.2 ⟨project, inProjects, isFile⟩) solution.file
      (List.mem_map_of_mem isSolution)
  · rw [Path.sameOutput_comm]
    exact apart solution isSolution project inProjects file isCSharp

/-- What a run has recorded is not its database. -/
theorem isNotDatabase_of_produced {path : Path}
    (separate : ∀ database, settings.cleanupDatabase = some database →
      ∀ output ∈ (Builder.new settings).outputs projects solutions,
        output.sameOutput database = false)
    (produced : ((Builder.new settings).afterSolutions clock store projects
      solutions).1.session.produced path = true) : settings.IsNotDatabase path := by
  intro database kept same
  have unproduced := unproduced_of_apart clock store (separate database kept)
  rw [← Session.produced_congr _ (Path.sameOutput_of_components_eq same), produced] at unproduced
  cases unproduced

/-- The second run follows the first one up to its end. -/
theorem echo_afterSolutions (clock laterClock : Timestamp) (store final : Store)
    (left : ((Builder.new settings).generate clock store projects solutions).1 = final)
    (distinct : Distinct (projects.flatMap Project.projectFiles ++ solutions.map (·.file)))
    (apart : ∀ solution ∈ solutions, ∀ project ∈ projects, ∀ file, project.IsCSharpFile file →
      solution.file.sameOutput file.packageList = false)
    (separate : ∀ database, settings.cleanupDatabase = some database →
      ∀ output ∈ (Builder.new settings).outputs projects solutions,
        output.sameOutput database = false) :
    RunEcho final (staleLists ((Builder.new settings).afterProjects laterClock final projects))
      ((Builder.new settings).afterSolutions clock store projects solutions)
      ((Builder.new settings).afterSolutions laterClock final projects solutions) := by
  have start : RunEcho final [] (⟨store, .new clock⟩, .empty) (⟨final, .new laterClock⟩, .empty) :=
    { echo := {
        isClaimed_eq := fun _ => rfl
        file?_eq := fun _ _ => rfl
        file?_of_some := fun _ _ => id
        writes_eq := rfl
        calls_eq := ⟨[], (List.append_nil _).symm, by simp⟩ }
      echoes := .empty
      failures_eq := rfl
      warnings_eq := rfl }
  have ofProjects : RunEcho final [] ((Builder.new settings).afterProjects clock store projects)
      ((Builder.new settings).afterProjects laterClock final projects) := by
    refine echo_foldl_generateProject (projects.flatMap (Builder.new settings).projectOutputs)
      (fun project member path isOutput => List.mem_flatMap.2 ⟨project, member, isOutput⟩)
      (List.pairwise_append.1 distinct).1 ?_ start
    intro path isOutput produced
    have progress :=
      (advance_afterSolutions (.new settings) clock store projects solutions).progress
    have stillProduced := progress.produced_of_produced
      ((produced_removeStale _ path).trans produced)
    rw [← left]
    exact file?_generate_of_settled produced
      (fun solution => sameOutput_of_mem_projectOutputs distinct apart isOutput)
      (isNotDatabase_of_produced separate stillProduced)
  refine echo_foldl_generateSolution (List.pairwise_append.1 distinct).2.1 ?_ ?_
    ofProjects.removeStale
  · intro solution inSolutions key member
    exact (Path.components_ne_of_apart (sameOutput_of_mem_staleLists apart member inSolutions)).symm
  · intro solution inSolutions produced
    have isNotDatabase := isNotDatabase_of_produced separate produced
    rw [← left, generate_eq]
    exact (cleanUp_step (.new settings) _).file?_of_produced isNotDatabase produced

/-- A run ends with a report when its database can be written. -/
theorem generate_eq_ok (settings : Settings) (clock : Timestamp) (store : Store)
    (separate : ∀ database, settings.cleanupDatabase = some database →
      ∀ output ∈ (Builder.new settings).outputs projects solutions,
        output.sameOutput database = false)
    (writable : ∀ database, settings.cleanupDatabase = some database →
      ∀ old, store.file? database ≠ some ⟨old, true⟩) :
    ∃ final report,
      (Builder.new settings).generate clock store projects solutions = (final, .ok report) := by
  have step := (Builder.new settings).cleanUp_step
    ((Builder.new settings).afterSolutions clock store projects solutions)
  rw [generate_eq]
  generalize (Builder.new settings).cleanUp
    ((Builder.new settings).afterSolutions clock store projects solutions) = ended at step ⊢
  obtain ⟨workspace, result⟩ := ended
  cases step with
  | idle => exact ⟨_, _, rfl⟩
  | stored => exact ⟨_, _, rfl⟩
  | refused kept _ found =>
      have before := file?_of_file?_afterSolutions
        (unproduced_of_apart clock store (separate _ kept)) (Workspace.file?_of_file?_pruned found)
      exact absurd before (writable _ kept _)

end SecondRun

/-- A run that has ended can be repeated and then writes nothing but its
database.  The second run reports the same failures and warnings, it skips what
the first run has generated or skipped, and it leaves all of that as it was.  The
project files and solution files are distinct outputs, no solution file is the
package list of a C# project, and the database is none of the outputs. -/
theorem generate_again_writes_nothing (settings : Settings) (clock laterClock : Timestamp)
    (store final : Store) (projects : List Project) (solutions : List Solution)
    (report : GenerationReport)
    (ran : (Builder.new settings).generate clock store projects solutions = (final, .ok report))
    (distinct : Distinct (projects.flatMap Project.projectFiles ++ solutions.map (·.file)))
    (apart : ∀ solution ∈ solutions, ∀ project ∈ projects, ∀ file, project.IsCSharpFile file →
      solution.file.sameOutput file.packageList = false)
    (separate : ∀ database, settings.cleanupDatabase = some database →
      ∀ output ∈ (Builder.new settings).outputs projects solutions,
        output.sameOutput database = false) :
    ∃ last again,
      (Builder.new settings).generate laterClock final projects solutions = (last, .ok again) ∧
      again.output.generated = [] ∧
      again.output.skipped.Perm (report.output.generated ++ report.output.skipped) ∧
      again.failures = report.failures ∧ again.warnings = report.warnings ∧
      last.writes = final.writes +
        (if report.isSuccess && settings.cleanupDatabase.isSome then 1 else 0) ∧
      (∀ call ∈ last.callsSince final, call.method = .write →
        settings.cleanupDatabase = some call.path) ∧
      ∀ path ∈ report.output.generated ++ report.output.skipped,
        last.file? path = final.file? path := by
  have isFinal : ((Builder.new settings).generate clock store projects solutions).1 = final :=
    congrArg Prod.fst ran
  have follows := echo_afterSolutions clock laterClock store final isFinal distinct apart separate
  have ended := (Builder.new settings).cleanUp_step
    ((Builder.new settings).afterSolutions clock store projects solutions)
  have endedAgain := (Builder.new settings).cleanUp_step
    ((Builder.new settings).afterSolutions laterClock final projects solutions)
  rw [generate_eq] at ran isFinal
  obtain ⟨cleanup, rfl⟩ := ended.report_of_ok (congrArg Prod.snd ran)
  obtain ⟨⟨cleanupAgain, reportedAgain⟩, writes, calls⟩ := follows.cleanUp
    (by
      intro database kept clean
      rw [← isFinal]
      exact ended.file?_database_of_ok (congrArg Prod.snd ran) kept clean)
    endedAgain
  refine ⟨_, _, (generate_eq ..).trans (Prod.ext rfl reportedAgain), follows.echoes.generated_eq,
    follows.echoes.skipped_perm, follows.failures_eq, follows.warnings_eq, writes, calls, ?_⟩
  intro path listed
  have listedAgain : path ∈ ((Builder.new settings).afterSolutions laterClock final projects
      solutions).2.output.listed :=
    List.mem_append_right _ (follows.echoes.skipped_perm.mem_iff.2 listed)
  have produced :=
    (hasAll_afterSolutions settings laterClock final projects solutions path listedAgain).1
  change ((cleanUp _ _).1.store).file? path = _
  rw [endedAgain.file?_of_produced (isNotDatabase_of_produced separate produced) produced]
  exact follows.echo.file?_eq path fun key member =>
    components_ne_of_mem_staleLists apart member produced

/-- A C# project and its solution are generated once. -/
theorem generate_again_writes_nothing_app :
    ∃ final report last again,
      (Builder.new { cleanupDatabase := some ⟨"state.json"⟩ }).generate ⟨0, 0⟩ .empty
        [.minimal "App" ⟨"out/App.csproj"⟩ []] [⟨"All", ⟨"All.sln"⟩, []⟩] = (final, .ok report) ∧
      (Builder.new { cleanupDatabase := some ⟨"state.json"⟩ }).generate ⟨60, 0⟩ final
        [.minimal "App" ⟨"out/App.csproj"⟩ []] [⟨"All", ⟨"All.sln"⟩, []⟩] = (last, .ok again) ∧
      again.output.generated = [] := by
  have separate : ∀ database, some (Path.mk "state.json") = some database →
      ∀ output ∈ (Builder.new { cleanupDatabase := some ⟨"state.json"⟩ }).outputs
        [.minimal "App" ⟨"out/App.csproj"⟩ []] [⟨"All", ⟨"All.sln"⟩, []⟩],
        output.sameOutput database = false := by
    intro database kept output isOutput
    cases kept
    rcases mem_outputs_new isOutput with ⟨project, member, file, isFile, spelled⟩ |
      ⟨solution, member, rfl⟩
    · rw [List.mem_singleton.1 member, Project.projectFiles_minimal, List.mem_singleton] at isFile
      subst isFile
      rcases spelled with rfl | rfl <;> decide +kernel
    · rw [List.mem_singleton.1 member]
      decide +kernel
  obtain ⟨final, report, ran⟩ := generate_eq_ok { cleanupDatabase := some ⟨"state.json"⟩ } ⟨0, 0⟩
    .empty separate fun _ _ _ => nofun
  obtain ⟨last, again, ranAgain, nothing, _⟩ := generate_again_writes_nothing
    { cleanupDatabase := some ⟨"state.json"⟩ } ⟨0, 0⟩ ⟨60, 0⟩ .empty final
    [.minimal "App" ⟨"out/App.csproj"⟩ []] [⟨"All", ⟨"All.sln"⟩, []⟩] report ran
    (by decide +kernel)
    (by
      intro solution isSolution project isProject file isCSharp
      rw [List.mem_singleton.1 isSolution]
      have isFile := isCSharp.1
      rw [List.mem_singleton.1 isProject, Project.projectFiles_minimal] at isFile
      rw [List.mem_singleton.1 isFile]
      decide +kernel)
    separate
  exact ⟨final, report, last, again, ran, ranAgain, nothing⟩

end Builder

end ProjectFiles
