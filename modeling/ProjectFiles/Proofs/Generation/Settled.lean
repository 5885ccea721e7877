import ProjectFiles.Proofs.Generation.Deletion

/-!
# Settled outputs

Once an output has been written or refused, the rest of the run leaves it alone:
a refused file is protected, a package list is claimed, and a project file is the
output of one project only.
-/

namespace ProjectFiles

open Store PendingOutput

/-- Whether the file at a path is protected from every other contents. -/
def Store.Protects (store : Store) (overwriteReadOnly : Bool) (path : Path) : Prop :=
  overwriteReadOnly = false ∧ ∃ contents, store.file? path = some ⟨contents, true⟩

theorem Store.Refuses.protects {store : Store} {overwriteReadOnly : Bool} {path : Path}
    {contents : String} (refuses : store.Refuses overwriteReadOnly path contents) :
    store.Protects overwriteReadOnly path := by
  obtain ⟨off, old, found, _⟩ := refuses
  exact ⟨off, old, found⟩

theorem Store.Protects.file?_eq {before after : Workspace} {overwriteReadOnly : Bool} {path : Path}
    (protects : before.store.Protects overwriteReadOnly path)
    (progress : before.Progress overwriteReadOnly after) :
    after.store.file? path = before.store.file? path := by
  obtain ⟨off, contents, found⟩ := protects
  rw [found, progress.file?_of_readOnly off found]

namespace Workspace

/-- Whether an output has been dealt with, so that only the project files of
`later` projects could still change it. -/
structure Settled (overwriteReadOnly : Bool) (workspace : Workspace) (later : List Path)
    (path : Path) : Prop where
  produced : workspace.session.produced path = true
  guarded : workspace.store.Protects overwriteReadOnly path ∨
    ((path.isPackageList = true → workspace.session.isClaimed path = true) ∧
      ∀ file ∈ later, file.isPackageList = false → path.sameOutput file = false)

variable {overwriteReadOnly : Bool} {before after : Workspace} {project : Project}
variable {later : List Path} {path : Path}

/-- The fewer projects follow, the fewer can still change an output. -/
theorem Settled.mono {files : List Path} (settled : before.Settled overwriteReadOnly files path)
    (fewer : ∀ file ∈ later, file ∈ files) : before.Settled overwriteReadOnly later path := by
  refine ⟨settled.produced, settled.guarded.imp_right ?_⟩
  rintro ⟨claimed, apart⟩
  exact ⟨claimed, fun file member => apart file (fewer file member)⟩

/-- A commit leaves a settled output alone. -/
theorem Settled.commit {pending : PendingOutput} {output recorded : GenerationOutput}
    {result : Except GenerationError Unit}
    (settled : before.Settled overwriteReadOnly (pending.filePath?.toList ++ later) path)
    (step : CommitStep overwriteReadOnly before output pending after recorded result)
    (belongs : pending.BelongsTo project) :
    after.store.file? path = before.store.file? path ∧
      after.Settled overwriteReadOnly later path := by
  have progress := Progress.commit step
  have produced := progress.produced_of_produced settled.produced
  rcases settled.guarded with protects | ⟨claimed, apart⟩
  · have kept := protects.file?_eq progress
    refine ⟨kept, produced, .inl ?_⟩
    unfold Store.Protects
    rw [kept]
    exact protects
  · have remains : after.Settled overwriteReadOnly later path :=
      ⟨produced, .inr ⟨fun isList => progress.isClaimed_of_isClaimed (claimed isList),
        fun file member => apart file (List.mem_append_right _ member)⟩⟩
    have elsewhere : ∀ {target : Path} {contents : String},
        pending.attempt? before.session = some (target, contents) →
        path.components ≠ target.components := by
      intro target contents attempt
      cases belongs with
      | file _ isOwn =>
          cases attempt
          exact Path.components_ne_of_apart (apart _ (by simp [filePath?]) isOwn)
      | shared =>
          obtain ⟨unclaimed, rfl, _⟩ := attempt?_shared_eq_some.1 attempt
          intro same
          have isList := Path.isPackageList_congr same
          rw [Path.isPackageList_packageList] at isList
          have sameOutput := Path.sameOutput_of_components_eq same
          rw [← Session.isClaimed_congr _ sameOutput, claimed isList] at unclaimed
          cases unclaimed
      | staleShared => cases attempt
    cases step with
    | deferred | handled => exact ⟨rfl, remains⟩
    | written attempt step => exact ⟨step.file?_of_ne (elsewhere attempt), remains⟩
    | failed attempt step => exact ⟨step.file?_of_ne (elsewhere attempt), remains⟩

/-- An output is settled by its own commit. -/
theorem settled_of_attempt {pending : PendingOutput} {contents : String}
    {output recorded : GenerationOutput} {result : Except GenerationError Unit}
    (step : CommitStep overwriteReadOnly before output pending after recorded result)
    (belongs : pending.BelongsTo project)
    (attempt : pending.attempt? before.session = some (path, contents))
    (apart : ∀ file ∈ pending.filePath?, ∀ other ∈ later, file.sameOutput other = false) :
    after.Settled overwriteReadOnly later path := by
  cases step with
  | deferred => cases attempt
  | handled claimed => simp [attempt?, claimed] at attempt
  | written written step =>
      obtain ⟨rfl, rfl⟩ := Prod.mk.inj (Option.some.inj (attempt.symm.trans written))
      refine ⟨by rw [produced_accepted attempt, path.sameOutput_self, Bool.true_or], .inr ?_⟩
      cases belongs with
      | file _ isOwn =>
          cases attempt
          constructor
          · intro isList
            rw [isOwn] at isList
            cases isList
          · intro other member _
            exact apart _ (by simp [filePath?]) other member
      | shared =>
          obtain ⟨_, rfl, _⟩ := attempt?_shared_eq_some.1 attempt
          refine ⟨fun _ => by rw [isClaimed_accepted attempt, Path.sameOutput_self]; rfl, ?_⟩
          intro other _ isOwn
          cases same : Path.sameOutput _ other with
          | false => rfl
          | true =>
              rw [← Path.isPackageList_of_sameOutput same, Path.isPackageList_packageList] at isOwn
              cases isOwn
      | staleShared => cases attempt
  | failed failed step =>
      obtain ⟨rfl, rfl⟩ := Prod.mk.inj (Option.some.inj (attempt.symm.trans failed))
      obtain ⟨_, refuses, kept⟩ := step.of_error
      refine ⟨?_, .inl ?_⟩
      · rw [produced_rejected attempt, Path.sameOutput_self, Bool.true_or]
      · rw [kept]
        exact refuses.protects

end Workspace

namespace Builder

variable {settings : Settings} {project : Project} {later : List Path} {path : Path}

theorem CommitRun.settled {overwriteReadOnly : Bool} {before after : Workspace}
    {output recorded : GenerationOutput} {pendings : List PendingOutput}
    {refusal : Option (Path × GenerationError)}
    (run : CommitRun overwriteReadOnly before output pendings after recorded refusal)
    (belong : ∀ pending ∈ pendings, ∃ project, pending.BelongsTo project)
    (settled : before.Settled overwriteReadOnly (pendings.filterMap filePath? ++ later) path) :
    after.store.file? path = before.store.file? path ∧
      after.Settled overwriteReadOnly later path := by
  induction run with
  | done => exact ⟨rfl, settled⟩
  | @next _ _ _ _ _ _ pending rest _ step _ ih =>
      rw [filterMap_filePath?_cons, List.append_assoc] at settled
      obtain ⟨_, belongs⟩ := belong _ List.mem_cons_self
      obtain ⟨kept, next⟩ := settled.commit step belongs
      obtain ⟨keptBehind, last⟩ :=
        ih (fun other member => belong other (List.mem_cons_of_mem _ member)) next
      exact ⟨keptBehind.trans kept, last⟩
  | @stopped _ _ _ _ pending rest _ step =>
      rw [filterMap_filePath?_cons, List.append_assoc] at settled
      obtain ⟨_, belongs⟩ := belong _ List.mem_cons_self
      obtain ⟨kept, last⟩ := settled.commit step belongs
      exact ⟨kept, last.mono fun _ => List.mem_append_right _⟩

theorem ProjectStep.settled {before after : Workspace × GenerationReport}
    (step : ProjectStep (Builder.new settings) project before after)
    (settled : before.1.Settled settings.overwriteReadOnly (project.projectFiles ++ later) path) :
    after.1.store.file? path = before.1.store.file? path ∧
      after.1.Settled settings.overwriteReadOnly later path := by
  cases step with
  | unrendered => exact ⟨rfl, settled.mono fun _ => List.mem_append_right _⟩
  | stopped renders run | finished renders run =>
      obtain ⟨files, belong⟩ := renderProject_new_eq_ok renders
      rw [← files] at settled
      exact run.settled (fun pending member => ⟨project, belong pending member⟩) settled

theorem settled_foldl_generateProject {state : Workspace × GenerationReport}
    (projects : List Project)
    (settled : state.1.Settled settings.overwriteReadOnly
      (projects.flatMap Project.projectFiles ++ later) path) :
    (projects.foldl (Builder.new settings).generateProject state).1.store.file? path =
        state.1.store.file? path ∧
      (projects.foldl (Builder.new settings).generateProject state).1.Settled
        settings.overwriteReadOnly later path := by
  induction projects generalizing state with
  | nil => exact ⟨rfl, settled⟩
  | cons project rest ih =>
      rw [List.flatMap_cons, List.append_assoc] at settled
      obtain ⟨kept, next⟩ :=
        ((Builder.new settings).generateProject_step project state).settled settled
      obtain ⟨keptBehind, last⟩ := ih next
      exact ⟨keptBehind.trans kept, last⟩

/-! ## Behind the projects -/

/-- Solutions leave files alone that are not theirs. -/
theorem file?_foldl_generateSolution {builder : Builder} {state : Workspace × GenerationReport}
    {solutions : List Solution}
    (apart : ∀ solution ∈ solutions, path.sameOutput solution.file = false) :
    (solutions.foldl builder.generateSolution state).1.store.file? path =
      state.1.store.file? path := by
  induction solutions generalizing state with
  | nil => rfl
  | cons solution rest ih =>
      have other := Path.components_ne_of_apart (apart solution List.mem_cons_self)
      have kept : (builder.generateSolution state solution).1.store.file? path =
          state.1.store.file? path := by
        generalize generated : builder.generateSolution state solution = next
        have step := builder.generateSolution_step solution state
        rw [generated] at step
        cases step with
        | unrendered => rfl
        | refused _ step | written _ step => exact step.file?_of_ne other
      rw [List.foldl_cons, ih fun later member => apart later (List.mem_cons_of_mem _ member), kept]

/-- An output of the projects is at the end of the run what it was when they had
been generated. -/
theorem file?_generate_of_settled {clock : Timestamp} {store : Store} {projects : List Project}
    {solutions : List Solution}
    (produced : ((Builder.new settings).afterProjects clock store projects).1.session.produced
      path = true)
    (apart : ∀ solution ∈ solutions, path.sameOutput solution.file = false)
    (isNotDatabase : settings.IsNotDatabase path) :
    ((Builder.new settings).generate clock store projects solutions).1.file? path =
      ((Builder.new settings).afterProjects clock store projects).1.store.file? path := by
  have progress := (advance_afterSolutions (.new settings) clock store projects solutions).progress
  have stillProduced := progress.produced_of_produced
    ((produced_removeStale _ path).trans produced)
  rw [generate_eq, (cleanUp_step (.new settings) _).file?_of_produced isNotDatabase stillProduced]
  unfold afterSolutions
  rw [file?_foldl_generateSolution apart, file?_removeStale_of_produced produced]

end Builder

end ProjectFiles
