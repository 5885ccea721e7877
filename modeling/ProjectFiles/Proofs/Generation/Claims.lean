import ProjectFiles.Proofs.Generation.Run

/-!
# Claims on package lists

Package lists are the shared outputs of a run.  As long as nothing has failed,
every package list that was written is claimed, and so is every one that a
project renders.  A list that is removed is therefore one that nobody claims and
nobody has written.
-/

namespace ProjectFiles

open Store PendingOutput

/-- What waits for removal and is claimed by nobody is taken. -/
theorem Session.exists_mem_takeUnclaimed {session : Session} {path : Path}
    (stale : session.stale.contains path.absolute = true)
    (unclaimed : session.isClaimed path = false) :
    ∃ key ∈ session.takeUnclaimed.2, key.components = path.absolute.components := by
  obtain ⟨key, isKey, equal⟩ := SortedMap.contains_iff_mem_keys.1 stale
  refine ⟨key, List.mem_filter.2 ⟨isKey, ?_⟩, (Path.compare_eq_iff.1 equal).symm⟩
  unfold isClaimed SortedMap.contains at unclaimed
  rw [SortedMap.get?_congr _ equal] at unclaimed
  simp [SortedMap.contains, unclaimed]

/-! ## Commits -/

/-- Only a deferral asks for a removal. -/
theorem PendingOutput.CommitStep.stale_of_mem {overwriteReadOnly : Bool} {before after : Workspace}
    {pending : PendingOutput} {output recorded : GenerationOutput}
    {result : Except GenerationError Unit}
    (step : CommitStep overwriteReadOnly before output pending after recorded result) {key : Path}
    (member : key ∈ after.session.stale.keys) :
    key ∈ before.session.stale.keys ∨
      ∃ path, pending = .staleShared path ∧ key = path.absolute := by
  cases step with
  | deferred path =>
      rcases SortedMap.mem_keys_insert member with rfl | older
      · exact .inr ⟨path, rfl, rfl⟩
      · exact .inl older
  | handled => exact .inl member
  | written attempt =>
      rw [stale_accepted attempt] at member
      exact .inl member
  | failed attempt =>
      rw [stale_rejected attempt] at member
      exact .inl member

/-- Whether every package list that has been recorded is claimed. -/
def Session.HoldsLists (session : Session) : Prop :=
  ∀ path : Path, path.isPackageList = true → session.produced path = true →
    session.isClaimed path = true

theorem PendingOutput.CommitStep.holdsLists {overwriteReadOnly : Bool} {before after : Workspace}
    {project : Project} {pending : PendingOutput} {output recorded : GenerationOutput}
    (step : CommitStep overwriteReadOnly before output pending after recorded (.ok ()))
    (belongs : pending.BelongsTo project) (holds : before.session.HoldsLists) :
    after.session.HoldsLists := by
  intro probe isList produced
  cases step with
  | deferred | handled => exact holds probe isList produced
  | written attempt =>
      rw [isClaimed_accepted attempt]
      rw [produced_accepted attempt, Bool.or_eq_true] at produced
      rcases produced with same | earlier
      · cases belongs with
        | file _ isOwn =>
            cases attempt
            rw [Path.isPackageList_of_sameOutput same, isOwn] at isList
            cases isList
        | shared => simp [isShared, same]
        | staleShared => cases attempt
      · rw [holds probe isList earlier, Bool.or_true]

/-- Who commits a shared output finds it claimed afterwards. -/
theorem PendingOutput.CommitStep.isClaimed_shared {overwriteReadOnly : Bool}
    {before after : Workspace} {path : Path} {contents : String}
    {output recorded : GenerationOutput}
    (step : CommitStep overwriteReadOnly before output (.shared path contents) after recorded
      (.ok ())) : after.session.isClaimed path = true := by
  cases step with
  | handled claimed => exact claimed
  | written attempt =>
      obtain ⟨_, rfl, rfl⟩ := attempt?_shared_eq_some.1 attempt
      rw [isClaimed_accepted attempt, Path.sameOutput_self]
      rfl

namespace Builder

namespace CommitRun

variable {overwriteReadOnly : Bool} {before after : Workspace} {project : Project}
variable {output recorded : GenerationOutput} {pendings : List PendingOutput}
variable {refusal : Option (Path × GenerationError)}

theorem stale_of_mem
    (run : CommitRun overwriteReadOnly before output pendings after recorded refusal) {key : Path}
    (member : key ∈ after.session.stale.keys) :
    key ∈ before.session.stale.keys ∨
      ∃ path, .staleShared path ∈ pendings ∧ key = path.absolute := by
  induction run with
  | done => exact .inl member
  | next step _ ih =>
      rcases ih member with earlier | ⟨path, inRest, rfl⟩
      · rcases step.stale_of_mem earlier with older | ⟨path, rfl, rfl⟩
        · exact .inl older
        · exact .inr ⟨path, List.mem_cons_self, rfl⟩
      · exact .inr ⟨path, List.mem_cons_of_mem _ inRest, rfl⟩
  | stopped step =>
      rcases step.stale_of_mem member with older | ⟨path, rfl, rfl⟩
      · exact .inl older
      · exact .inr ⟨path, List.mem_cons_self, rfl⟩

theorem holdsLists (run : CommitRun overwriteReadOnly before output pendings after recorded none)
    (belong : ∀ pending ∈ pendings, pending.BelongsTo project)
    (holds : before.session.HoldsLists) : after.session.HoldsLists := by
  generalize refused : (none : Option (Path × GenerationError)) = refusal at run
  induction run with
  | done => exact holds
  | next step _ ih =>
      have kept := step.holdsLists (belong _ List.mem_cons_self) holds
      exact ih (fun pending member => belong pending (List.mem_cons_of_mem _ member)) kept refused
  | stopped => cases refused

theorem isClaimed_of_mem
    (run : CommitRun overwriteReadOnly before output pendings after recorded none) {path : Path}
    {contents : String} (member : .shared path contents ∈ pendings) :
    after.session.isClaimed path = true := by
  generalize refused : (none : Option (Path × GenerationError)) = refusal at run
  induction run with
  | done => cases member
  | next step run ih =>
      rcases List.mem_cons.1 member with rfl | inRest
      · exact run.progress.isClaimed_of_isClaimed step.isClaimed_shared
      · exact ih inRest refused
  | stopped => cases refused

end CommitRun

/-! ## Projects -/

/-- What a session knows about the package lists of the projects generated so
far. -/
structure Accounts (builder : Builder) (done : List Project)
    (state : Workspace × GenerationReport) : Prop where
  /-- Every request for a removal comes from a C# project. -/
  beside_of_stale : ∀ key ∈ state.1.session.stale.keys,
    ∃ project ∈ done, ∃ file, project.IsCSharpFile file ∧ key = file.packageList.absolute
  holdsLists : state.2.failures = [] → state.1.session.HoldsLists
  isClaimed_of_rendered : state.2.failures = [] → ∀ project ∈ done, ∀ rendered,
    builder.renderProject project = .ok rendered → ∀ path contents,
      .shared path contents ∈ rendered.pending → state.1.session.isClaimed path = true

theorem accounts_start (builder : Builder) (clock : Timestamp) (store : Store) :
    builder.Accounts [] (⟨store, .new clock⟩, .empty) where
  beside_of_stale := by
    intro key member
    cases member
  holdsLists := by
    intro _ path _ produced
    cases produced
  isClaimed_of_rendered := by simp

/-- A list beside a file of some project is one with another project added. -/
theorem exists_beside_of_mem {done : List Project} {project : Project} {key : Path}
    (beside : ∃ other ∈ done, ∃ file, other.IsCSharpFile file ∧ key = file.packageList.absolute) :
    ∃ other ∈ done ++ [project], ∃ file, other.IsCSharpFile file ∧
      key = file.packageList.absolute := by
  obtain ⟨other, member, found⟩ := beside
  exact ⟨other, List.mem_append_left _ member, found⟩

/-- A run over the outputs of a project adds only requests of this project. -/
theorem Accounts.beside_of_run {settings : Settings} {done : List Project} {project : Project}
    {before : Workspace × GenerationReport} {after : Workspace} {rendered : RenderedProject}
    {output recorded : GenerationOutput} {refusal : Option (Path × GenerationError)}
    (accounts : (Builder.new settings).Accounts done before)
    (renders : (Builder.new settings).renderProject project = .ok rendered)
    (run : CommitRun settings.overwriteReadOnly before.1 output rendered.pending after recorded
      refusal) :
    ∀ key ∈ after.session.stale.keys, ∃ other ∈ done ++ [project], ∃ file,
      other.IsCSharpFile file ∧ key = file.packageList.absolute := by
  intro key member
  rcases run.stale_of_mem member with older | ⟨path, deferred, rfl⟩
  · exact exists_beside_of_mem (accounts.beside_of_stale key older)
  · cases (renderProject_new_eq_ok renders).2 _ deferred with
    | staleShared isCSharp => exact ⟨project, by simp, _, isCSharp, rfl⟩

theorem Accounts.generateProject {settings : Settings} {done : List Project} {project : Project}
    {before after : Workspace × GenerationReport}
    (accounts : (Builder.new settings).Accounts done before)
    (step : ProjectStep (Builder.new settings) project before after) :
    (Builder.new settings).Accounts (done ++ [project]) after := by
  cases step with
  | unrendered =>
      exact {
        beside_of_stale := fun key member =>
          exists_beside_of_mem (accounts.beside_of_stale key member)
        holdsLists := fun clean => by simp [GenerationReport.addFailure] at clean
        isClaimed_of_rendered := fun clean => by simp [GenerationReport.addFailure] at clean }
  | stopped renders run =>
      exact {
        beside_of_stale := accounts.beside_of_run renders run
        holdsLists := fun clean => by simp [GenerationReport.addFailure] at clean
        isClaimed_of_rendered := fun clean => by simp [GenerationReport.addFailure] at clean }
  | finished renders run =>
      exact {
        beside_of_stale := accounts.beside_of_run renders run
        holdsLists := fun clean =>
          run.holdsLists (renderProject_new_eq_ok renders).2 (accounts.holdsLists clean)
        isClaimed_of_rendered := by
          intro clean other member rendered otherRenders path contents inPending
          rcases List.mem_append.1 member with earlier | isLast
          · exact run.progress.isClaimed_of_isClaimed
              (accounts.isClaimed_of_rendered clean other earlier rendered otherRenders path
                contents inPending)
          · rw [List.mem_singleton.1 isLast, renders] at otherRenders
            cases otherRenders
            exact run.isClaimed_of_mem inPending }

theorem Accounts.foldl_generateProject {settings : Settings} {done projects : List Project}
    {state : Workspace × GenerationReport} (accounts : (Builder.new settings).Accounts done state) :
    (Builder.new settings).Accounts (done ++ projects)
      (projects.foldl (Builder.new settings).generateProject state) := by
  induction projects generalizing done state with
  | nil => simpa using accounts
  | cons project rest ih =>
      have step := (Builder.new settings).generateProject_step project state
      have next := accounts.generateProject step
      simpa using ih next

theorem accounts_afterProjects (settings : Settings) (clock : Timestamp) (store : Store)
    (projects : List Project) :
    (Builder.new settings).Accounts projects
      ((Builder.new settings).afterProjects clock store projects) :=
  (accounts_start (Builder.new settings) clock store).foldl_generateProject

/-! ## Removal -/

/-- The package lists that are removed behind the projects. -/
def staleLists (state : Workspace × GenerationReport) : List Path :=
  if state.2.isSuccess then state.1.session.takeUnclaimed.2 else []

theorem store_removeStale (state : Workspace × GenerationReport) :
    (removeStale state).1.store = (state.1.store.deleteAll (staleLists state)).1 := by
  unfold removeStale staleLists
  split <;> rfl

theorem report_removeStale (state : Workspace × GenerationReport) :
    (removeStale state).2 = state.2 := by
  unfold removeStale
  split <;> rfl

theorem produced_removeStale (state : Workspace × GenerationReport) (probe : Path) :
    (removeStale state).1.session.produced probe = state.1.session.produced probe := by
  unfold removeStale
  split <;> rfl

theorem isClaimed_removeStale (state : Workspace × GenerationReport) (probe : Path) :
    (removeStale state).1.session.isClaimed probe = state.1.session.isClaimed probe := by
  unfold removeStale
  split <;> rfl

/-- A list that is removed lies beside a C# project, is claimed by nobody and has
not been written. -/
structure IsRemovable (builder : Builder) (projects : List Project)
    (state : Workspace × GenerationReport) (key : Path) : Prop where
  clean : state.2.failures = []
  beside : ∃ project ∈ projects, ∃ file, project.IsCSharpFile file ∧
    key = file.packageList.absolute
  isPackageList : key.isPackageList = true
  unclaimed : ∀ path : Path, path.sameOutput key = true → state.1.session.isClaimed path = false
  unproduced : ∀ path : Path, path.sameOutput key = true → state.1.session.produced path = false

theorem Accounts.isRemovable {builder : Builder} {projects : List Project}
    {state : Workspace × GenerationReport} (accounts : builder.Accounts projects state)
    {key : Path} (member : key ∈ staleLists state) : builder.IsRemovable projects state key := by
  unfold staleLists at member
  split at member
  · rename_i success
    have clean : state.2.failures = [] := List.isEmpty_iff.1 success
    obtain ⟨stale, free⟩ := List.mem_filter.1 member
    obtain ⟨project, inProjects, file, isCSharp, rfl⟩ := accounts.beside_of_stale key stale
    have isList : file.packageList.absolute.isPackageList = true := by
      rw [Path.isPackageList_absolute, Path.isPackageList_packageList]
    have unclaimed : ∀ path : Path, path.sameOutput file.packageList.absolute = true →
        state.1.session.isClaimed path = false := by
      intro path same
      rw [Session.isClaimed_congr _ same]
      have sameKey := Path.compare_eq_iff.2 (Path.components_absolute_absolute file.packageList)
      unfold SortedMap.contains at free
      unfold Session.isClaimed SortedMap.contains
      rw [SortedMap.get?_congr _ sameKey]
      simpa using free
    refine ⟨clean, ⟨project, inProjects, file, isCSharp, rfl⟩, isList, unclaimed, ?_⟩
    intro path same
    cases produced : state.1.session.produced path with
    | false => rfl
    | true =>
        have pathIsList : path.isPackageList = true := by
          rw [Path.isPackageList_of_sameOutput same, isList]
        rw [← unclaimed path same, accounts.holdsLists clean path pathIsList produced]
  · cases member

end Builder

end ProjectFiles
