import ProjectFiles.Proofs.Generation.Cleanup

/-!
# Recorded outputs

The outputs that a run may record can be told beforehand: they are the files and
shared outputs of the projects that can be rendered, and the solution files.
Everything else is still unrecorded, and so untouched, when the solutions have
been generated.
-/

namespace ProjectFiles

open Store PendingOutput

/-- The path of an output that is to be written. -/
def PendingOutput.writtenPath? : PendingOutput → Option Path
  | file path _ | shared path _ => some path
  | staleShared _ => none

theorem PendingOutput.writtenPath?_of_attempt {session : Session} {pending : PendingOutput}
    {path : Path} {contents : String}
    (attempt : pending.attempt? session = some (path, contents)) :
    pending.writtenPath? = some path := by
  cases pending with
  | file =>
      cases attempt
      rfl
  | shared =>
      obtain ⟨_, rfl, _⟩ := attempt?_shared_eq_some.1 attempt
      rfl
  | staleShared => cases attempt

theorem PendingOutput.filterMap_writtenPath?_cons (pending : PendingOutput)
    (rest : List PendingOutput) :
    (pending :: rest).filterMap writtenPath? =
      pending.writtenPath?.toList ++ rest.filterMap writtenPath? := by
  cases pending <;> rfl

namespace Builder

/-- The outputs of a project that are written when nobody else claims them. -/
def projectOutputs (builder : Builder) (project : Project) : List Path :=
  match builder.renderProject project with
  | .ok rendered => rendered.pending.filterMap writtenPath?
  | .error _ => []

/-- The outputs of a run. -/
def outputs (builder : Builder) (projects : List Project) (solutions : List Solution) : List Path :=
  projects.flatMap builder.projectOutputs ++ solutions.map (·.file)

/-- The outputs of a project are its own files and package lists beside its C#
project files. -/
theorem mem_projectOutputs_new {settings : Settings} {project : Project} {path : Path}
    (member : path ∈ (Builder.new settings).projectOutputs project) :
    path ∈ project.projectFiles ∨ ∃ file, project.IsCSharpFile file ∧ path = file.packageList := by
  unfold projectOutputs at member
  split at member
  · rename_i rendered renders
    obtain ⟨pending, inPending, written⟩ := List.mem_filterMap.1 member
    cases (renderProject_new_eq_ok renders).2 pending inPending with
    | file isMember =>
        cases written
        exact .inl isMember
    | shared isCSharp =>
        cases written
        exact .inr ⟨_, isCSharp, rfl⟩
    | staleShared => cases written
  · cases member

/-- The outputs of a run are project files, package lists beside C# project files
and solution files. -/
theorem mem_outputs_new {settings : Settings} {projects : List Project} {solutions : List Solution}
    {path : Path} (member : path ∈ (Builder.new settings).outputs projects solutions) :
    (∃ project ∈ projects, ∃ file ∈ project.projectFiles, path = file ∨ path = file.packageList) ∨
      ∃ solution ∈ solutions, path = solution.file := by
  rcases List.mem_append.1 member with ofProject | ofSolution
  · obtain ⟨project, inProjects, isOutput⟩ := List.mem_flatMap.1 ofProject
    rcases mem_projectOutputs_new isOutput with isFile | ⟨file, isCSharp, rfl⟩
    · exact .inl ⟨project, inProjects, path, isFile, .inl rfl⟩
    · exact .inl ⟨project, inProjects, file, isCSharp.1, .inr rfl⟩
  · obtain ⟨solution, inSolutions, rfl⟩ := List.mem_map.1 ofSolution
    exact .inr ⟨solution, inSolutions, rfl⟩

/-- Whether a session has recorded nothing but the named outputs and those of an
earlier session. -/
def RecordsOnly (paths : List Path) (before after : Session) : Prop :=
  ∀ probe : Path, after.produced probe = true →
    before.produced probe = true ∨ ∃ path ∈ paths, probe.sameOutput path = true

theorem RecordsOnly.trans {former latter : List Path} {first second third : Session}
    (earlier : RecordsOnly former first second) (later : RecordsOnly latter second third) :
    RecordsOnly (former ++ latter) first third := by
  intro probe produced
  rcases later probe produced with before | ⟨path, member, same⟩
  · rcases earlier probe before with start | ⟨path, member, same⟩
    · exact .inl start
    · exact .inr ⟨path, List.mem_append_left _ member, same⟩
  · exact .inr ⟨path, List.mem_append_right _ member, same⟩

theorem RecordsOnly.mono {fewer paths : List Path} {before after : Session}
    (records : RecordsOnly fewer before after) (more : ∀ path ∈ fewer, path ∈ paths) :
    RecordsOnly paths before after := by
  intro probe produced
  apply (records probe produced).imp_right
  rintro ⟨path, member, same⟩
  exact ⟨path, more path member, same⟩

end Builder

/-- A commit records the output that it tries to write. -/
theorem PendingOutput.CommitStep.recordsOnly {overwriteReadOnly : Bool}
    {before after : Workspace} {output recorded : GenerationOutput} {pending : PendingOutput}
    {result : Except GenerationError Unit}
    (step : CommitStep overwriteReadOnly before output pending after recorded result) :
    Builder.RecordsOnly pending.writtenPath?.toList before.session after.session := by
  intro probe produced
  cases step with
  | deferred | handled => exact .inl produced
  | written attempt =>
      rw [produced_accepted attempt, Bool.or_eq_true] at produced
      rw [writtenPath?_of_attempt attempt]
      exact produced.symm.imp_right fun same => ⟨_, List.mem_singleton_self _, same⟩
  | failed attempt =>
      rw [produced_rejected attempt, Bool.or_eq_true] at produced
      rw [writtenPath?_of_attempt attempt]
      exact produced.symm.imp_right fun same => ⟨_, List.mem_singleton_self _, same⟩

namespace Builder

theorem CommitRun.recordsOnly {overwriteReadOnly : Bool} {before after : Workspace}
    {output recorded : GenerationOutput} {pendings : List PendingOutput}
    {refusal : Option (Path × GenerationError)}
    (run : CommitRun overwriteReadOnly before output pendings after recorded refusal) :
    RecordsOnly (pendings.filterMap writtenPath?) before.session after.session := by
  induction run with
  | done => exact fun _ produced => .inl produced
  | next step _ ih =>
      rw [filterMap_writtenPath?_cons]
      exact step.recordsOnly.trans ih
  | stopped step =>
      rw [filterMap_writtenPath?_cons]
      exact step.recordsOnly.mono fun _ => List.mem_append_left _

theorem ProjectStep.recordsOnly {builder : Builder} {project : Project}
    {before after : Workspace × GenerationReport}
    (step : ProjectStep builder project before after) :
    RecordsOnly (builder.projectOutputs project) before.1.session after.1.session := by
  cases step with
  | unrendered => exact fun _ produced => .inl produced
  | stopped renders run | finished renders run =>
      unfold projectOutputs
      rw [renders]
      exact run.recordsOnly

theorem recordsOnly_foldl_generateProject (builder : Builder)
    (state : Workspace × GenerationReport) (projects : List Project) :
    RecordsOnly (projects.flatMap builder.projectOutputs) state.1.session
      (projects.foldl builder.generateProject state).1.session := by
  induction projects generalizing state with
  | nil => exact fun _ produced => .inl produced
  | cons project rest ih =>
      exact (builder.generateProject_step project state).recordsOnly.trans (ih _)

theorem SolutionStep.recordsOnly {builder : Builder} {solution : Solution}
    {before after : Workspace × GenerationReport}
    (step : SolutionStep builder solution before after) :
    RecordsOnly [solution.file] before.1.session after.1.session := by
  intro probe produced
  cases step with
  | unrendered => exact .inl produced
  | refused | written =>
      rw [Session.produced_recordOutput, Bool.or_eq_true] at produced
      exact produced.symm.imp id fun same => ⟨_, List.mem_singleton_self _, same⟩

theorem recordsOnly_foldl_generateSolution (builder : Builder)
    (state : Workspace × GenerationReport) (solutions : List Solution) :
    RecordsOnly (solutions.map (·.file)) state.1.session
      (solutions.foldl builder.generateSolution state).1.session := by
  induction solutions generalizing state with
  | nil => exact fun _ produced => .inl produced
  | cons solution rest ih =>
      exact (builder.generateSolution_step solution state).recordsOnly.trans (ih _)

/-- A run records nothing but its outputs. -/
theorem mem_outputs_of_produced {builder : Builder} {clock : Timestamp} {store : Store}
    {projects : List Project} {solutions : List Solution} {probe : Path}
    (produced : (builder.afterSolutions clock store projects solutions).1.session.produced probe =
      true) :
    ∃ path ∈ builder.outputs projects solutions, probe.sameOutput path = true := by
  have ofProjects :=
    builder.recordsOnly_foldl_generateProject (⟨store, .new clock⟩, .empty) projects
  have ofSolutions := builder.recordsOnly_foldl_generateSolution
    (removeStale (builder.afterProjects clock store projects)) solutions
  rcases ofSolutions probe produced with earlier | ⟨path, member, same⟩
  · rw [produced_removeStale] at earlier
    rcases ofProjects probe earlier with start | ⟨path, member, same⟩
    · cases start
    · exact ⟨path, List.mem_append_left _ member, same⟩
  · exact ⟨path, List.mem_append_right _ member, same⟩

end Builder

end ProjectFiles
