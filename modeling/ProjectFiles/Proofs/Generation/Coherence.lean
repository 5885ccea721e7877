import ProjectFiles.Proofs.Generation.Tracking

/-!
# Coherence

The invariant of committers that share a store and a session.  No two of them own
one output, a package list is claimed exactly when somebody owns it, and whatever
nobody owns is as it was at the start.  Every step keeps this, whichever committer
takes it.
-/

namespace ProjectFiles

open Relation Store PendingOutput Builder

/-- The outputs that committers own. -/
def ownedBy (committers : List Committer) : List Path :=
  committers.flatMap Committer.owned

/-- The outputs that committers own, and their project files still to come. -/
def footprints (committers : List Committer) : List Path :=
  committers.flatMap Committer.footprint

/-- The invariant of committers that share a workspace. -/
structure Coherent (builder : Builder) (start : Store) (projects : List Project)
    (state : Workspace × List Committer) : Prop where
  projects_eq : state.2.map (·.project) = projects
  tracks : ∀ committer ∈ state.2, ∃ done, committer.Tracks builder state.1.session done
  sound : ∀ committer ∈ state.2,
    committer.Sound start (builder.renderedOutputs projects) state.1.store
  distinct : Distinct (footprints state.2)
  isClaimed_iff : ∀ probe : Path, state.1.session.isClaimed probe = true ↔
    ∃ own ∈ ownedBy state.2, own.isPackageList = true ∧ probe.sameOutput own = true
  stale_of_mem : ∀ key ∈ state.1.session.stale.keys,
    ∃ path, .staleShared path ∈ builder.renderedOutputs projects ∧ key = path.absolute
  file?_of_unowned : ∀ probe : Path, (∀ own ∈ ownedBy state.2, own.components ≠ probe.components) →
    state.1.store.file? probe = start.file? probe
  locked_eq : state.1.store.locked = start.locked

/-! ## Members of a list -/

theorem mem_middle_iff {α : Type} {before after : List α} {item other : α} :
    other ∈ before ++ item :: after ↔ other = item ∨ other ∈ before ++ after :=
  List.perm_middle.mem_iff.trans List.mem_cons

/-- What the members of a list contribute, one of them first. -/
theorem flatMap_middle_perm {α β : Type} (f : α → List β) (before after : List α) (item : α) :
    ((before ++ item :: after).flatMap f).Perm (f item ++ (before ++ after).flatMap f) := by
  have moved : (before ++ item :: after).Perm (item :: (before ++ after)) := List.perm_middle
  simpa using moved.flatMap_right f

theorem mem_ownedBy_middle {before after : List Committer} {committer : Committer} {path : Path} :
    path ∈ ownedBy (before ++ committer :: after) ↔
      path ∈ committer.owned ∨ path ∈ ownedBy (before ++ after) := by
  have perm := flatMap_middle_perm Committer.owned before after committer
  unfold ownedBy
  rw [perm.mem_iff, List.mem_append]

theorem mem_ownedBy {committers : List Committer} {committer : Committer} {path : Path}
    (member : committer ∈ committers) (owns : path ∈ committer.owned) : path ∈ ownedBy committers :=
  List.mem_flatMap.2 ⟨committer, member, owns⟩

theorem mem_footprints_of_mem_ownedBy {committers : List Committer} {path : Path}
    (owns : path ∈ ownedBy committers) : path ∈ footprints committers := by
  obtain ⟨committer, member, owned⟩ := List.mem_flatMap.1 owns
  exact List.mem_flatMap.2 ⟨committer, member, List.mem_append_left _ owned⟩

namespace Coherent

variable {settings : Settings} {start : Store} {projects : List Project}
variable {workspace next : Workspace} {committer moved : Committer} {before after : List Committer}

section Pending

variable {output : PendingOutput} {rest : List PendingOutput} {path : Path} {contents : String}

/-- What a committer has still to do has been rendered for its project. -/
theorem mem_pendings {state : Workspace × List Committer}
    (coherent : Coherent (Builder.new settings) start projects state)
    (member : committer ∈ state.2) (pending : output ∈ committer.pending) :
    output ∈ (Builder.new settings).pendings committer.project := by
  obtain ⟨done, tracks⟩ := coherent.tracks committer member
  rw [tracks.pendings_eq]
  exact List.mem_append_right done pending

theorem mem_outputs {state : Workspace × List Committer}
    (coherent : Coherent (Builder.new settings) start projects state)
    (member : committer ∈ state.2) (pending : output ∈ committer.pending) :
    output ∈ (Builder.new settings).renderedOutputs projects := by
  refine List.mem_flatMap.2 ⟨committer.project, ?_, coherent.mem_pendings member pending⟩
  rw [← coherent.projects_eq]
  exact List.mem_map_of_mem member

/-- The project files still to come are no package lists. -/
theorem mem_ownedBy_or {state : Workspace × List Committer}
    (coherent : Coherent (Builder.new settings) start projects state)
    (member : path ∈ footprints state.2) :
    path ∈ ownedBy state.2 ∨ path.isPackageList = false := by
  obtain ⟨committer, inState, inFootprint⟩ := List.mem_flatMap.1 member
  rcases List.mem_append.1 inFootprint with owned | isPending
  · exact .inl (mem_ownedBy inState owned)
  · obtain ⟨output, pending, isFile⟩ := List.mem_filterMap.1 isPending
    cases belongsTo_of_mem_pendings (coherent.mem_pendings inState pending) with
    | file _ isOwn =>
        cases isFile
        exact .inr isOwn
    | shared | staleShared => cases isFile

/-- A package list that nobody claims is apart from all that committers own. -/
theorem apart_of_unclaimed {state : Workspace × List Committer}
    (coherent : Coherent (Builder.new settings) start projects state)
    (isList : path.isPackageList = true) (unclaimed : state.1.session.isClaimed path = false) :
    ∀ other ∈ footprints state.2, path.sameOutput other = false := by
  intro other member
  cases same : path.sameOutput other with
  | false => rfl
  | true =>
      rw [Path.isPackageList_of_sameOutput same] at isList
      rcases coherent.mem_ownedBy_or member with owned | isOwn
      · have claimed := (coherent.isClaimed_iff path).2 ⟨other, owned, isList, same⟩
        rw [unclaimed] at claimed
        cases claimed
      · rw [isOwn] at isList
        cases isList

/-- An output that is begun is apart from all that committers own. -/
theorem distinct_begun
    (coherent : Coherent (Builder.new settings) start projects
      (workspace, before ++ committer :: after))
    (pending : committer.pending = output :: rest)
    (attempt : output.attempt? workspace.session = some (path, contents)) :
    Distinct (path :: (committer.owned ++ rest.filterMap filePath? ++
      footprints (before ++ after))) := by
  have isPending : output ∈ committer.pending := by simp [pending]
  have belongs := belongsTo_of_mem_pendings (coherent.mem_pendings (by simp) isPending)
  have split := coherent.distinct.perm
    (flatMap_middle_perm Committer.footprint before after committer)
  cases belongs with
  | file =>
      cases attempt
      apply split.perm
      simp [Committer.footprint, pending, filePath?, footprints]
  | @shared file _ =>
      obtain ⟨unclaimed, rfl, _⟩ := attempt?_shared_eq_some.1 attempt
      have fresh := coherent.apart_of_unclaimed (Path.isPackageList_packageList file) unclaimed
      have spelled : committer.footprint = committer.owned ++ rest.filterMap filePath? := by
        unfold Committer.footprint
        rw [pending]
        rfl
      rw [← spelled]
      apply List.pairwise_cons.2 ⟨?_, split⟩
      -- the list itself was in no footprint, so only the claims keep the others off it
      intro other member
      apply fresh
      exact (flatMap_middle_perm Committer.footprint before after committer).mem_iff.2 member
  | staleShared => cases attempt

theorem apart_begun
    (coherent : Coherent (Builder.new settings) start projects
      (workspace, before ++ committer :: after))
    (pending : committer.pending = output :: rest)
    (attempt : output.attempt? workspace.session = some (path, contents)) :
    ∀ own ∈ ownedBy (before ++ committer :: after), path.sameOutput own = false := by
  intro own member
  apply (List.pairwise_cons.1 (coherent.distinct_begun pending attempt)).1
  rcases mem_ownedBy_middle.1 member with owned | inOthers
  · simp [owned]
  · exact List.mem_append_right _ (mem_footprints_of_mem_ownedBy inOthers)

/-- What a committer owns is apart from what the others own. -/
theorem apart_others
    (coherent : Coherent (Builder.new settings) start projects
      (workspace, before ++ committer :: after)) :
    ∀ other ∈ before ++ after, ∀ theirs ∈ other.owned, ∀ own ∈ committer.owned,
      theirs.sameOutput own = false := by
  intro other member theirs owns own owned
  have split := coherent.distinct.perm
    (flatMap_middle_perm Committer.footprint before after committer)
  have apart := (List.pairwise_append.1 split).2.2 own (List.mem_append_left _ owned) theirs
    (mem_footprints_of_mem_ownedBy (mem_ownedBy member owns))
  rwa [Path.sameOutput_comm]

end Pending

/-! ## Steps -/

section Steps

variable (coherent : Coherent (Builder.new settings) start projects
  (workspace, before ++ committer :: after))
variable (taken : committer.Taken start ((Builder.new settings).renderedOutputs projects)
  workspace next moved)

include coherent taken

theorem tracks_taken (other : Committer) (member : other ∈ before ++ moved :: after) :
    ∃ done, other.Tracks (Builder.new settings) next.session done := by
  rcases mem_middle_iff.1 member with rfl | inOthers
  · obtain ⟨done, tracks⟩ := coherent.tracks committer (by simp)
    exact taken.tracks tracks
  · obtain ⟨done, tracks⟩ := coherent.tracks other (mem_middle_iff.2 (.inr inOthers))
    exact ⟨done, { tracks with
      handled := fun output inDone => taken.handled (fun _ => id) (tracks.handled output inDone) }⟩

theorem distinct_taken : Distinct (footprints (before ++ moved :: after)) := by
  have whole := flatMap_middle_perm Committer.footprint before after moved
  have split := coherent.distinct.perm
    (flatMap_middle_perm Committer.footprint before after committer)
  cases taken with
  | @begun output rest path contents idle pending attempt =>
      have distinct := coherent.distinct_begun pending attempt
      rw [Committer.owned_of_idle idle] at distinct
      exact distinct.perm whole.symm
  | @passed output rest idle pending attempt =>
      have spelled : committer.footprint = committer.owned ++ rest.filterMap filePath? := by
        unfold Committer.footprint
        rw [pending, List.filterMap_cons_none (filePath?_of_attempt?_eq_none attempt)]
      rw [spelled] at split
      exact split.perm whole.symm
  | @worked job next activity output current agree claimed_eq stale_eq goesOn sound =>
      have same := (Committer.owned_worked current goesOn).append_right
        (committer.pending.filterMap filePath?)
      exact split.perm ((same.symm.append_right _).trans whole.symm)

theorem isClaimed_iff_taken (probe : Path) : next.session.isClaimed probe = true ↔
    ∃ own ∈ ownedBy (before ++ moved :: after), own.isPackageList = true ∧
      probe.sameOutput own = true := by
  have earlier := coherent.isClaimed_iff probe
  simp only [mem_ownedBy_middle] at earlier ⊢
  cases taken with
  | @begun output rest path contents idle pending attempt =>
      have belongs := belongsTo_of_mem_pendings
        (coherent.mem_pendings (by simp) (show output ∈ committer.pending by simp [pending]))
      simp only [Committer.owned_begun idle]
      rw [isClaimed_noted attempt, belongs.isShared_eq attempt, Bool.or_eq_true, earlier,
        Bool.and_eq_true]
      constructor
      · rintro (⟨isList, same⟩ | ⟨own, owned, isList, same⟩)
        · exact ⟨path, .inl List.mem_cons_self, isList, same⟩
        · exact ⟨own, owned.imp_left (List.mem_cons_of_mem path), isList, same⟩
      · rintro ⟨own, inCommitter | inOthers, isList, same⟩
        · rcases List.mem_cons.1 inCommitter with rfl | owned
          · exact .inl ⟨isList, same⟩
          · exact .inr ⟨own, .inl owned, isList, same⟩
        · exact .inr ⟨own, .inr inOthers, isList, same⟩
  | @passed output rest idle pending attempt =>
      rw [isClaimed_noted_of_none attempt]
      exact earlier
  | @worked job next activity output current agree claimed_eq stale_eq goesOn sound =>
      rw [Session.isClaimed, claimed_eq]
      simp only [(Committer.owned_worked current goesOn).mem_iff]
      exact earlier

theorem stale_of_mem_taken (key : Path) (member : key ∈ next.session.stale.keys) :
    ∃ path, .staleShared path ∈ (Builder.new settings).renderedOutputs projects ∧
      key = path.absolute := by
  cases taken with
  | begun _ pending | passed _ pending =>
      rcases mem_stale_noted member with earlier | ⟨path, rfl, rfl⟩
      · exact coherent.stale_of_mem key earlier
      · have isPending : .staleShared path ∈ committer.pending := by simp [pending]
        exact ⟨path, coherent.mem_outputs (by simp) isPending, rfl⟩
  | worked _ _ _ stale_eq =>
      rw [stale_eq] at member
      exact coherent.stale_of_mem key member

theorem file?_of_unowned_taken (probe : Path)
    (unowned : ∀ own ∈ ownedBy (before ++ moved :: after), own.components ≠ probe.components) :
    next.store.file? probe = start.file? probe := by
  have earlier : workspace.store.file? probe = start.file? probe := by
    apply coherent.file?_of_unowned
    intro own member
    apply unowned
    rw [mem_ownedBy_middle] at member ⊢
    exact member.imp_left taken.mem_owned
  cases taken with
  | begun | passed => exact earlier
  | @worked job next activity output current agree claimed_eq stale_eq goesOn sound =>
      have owns : job.path ∈ committer.owned := by
        simp [Committer.owned, current]
      have stillOwns := (Committer.owned_worked current goesOn).mem_iff.2 owns
      have other := unowned job.path (mem_ownedBy_middle.2 (.inl stillOwns))
      rw [agree.file?_eq probe other.symm, earlier]

theorem sound_taken (other : Committer) (member : other ∈ before ++ moved :: after) :
    other.Sound start ((Builder.new settings).renderedOutputs projects) next.store := by
  have earlier := coherent.sound committer (by simp)
  have others : ∀ other ∈ before ++ after,
      other.Sound start ((Builder.new settings).renderedOutputs projects) workspace.store :=
    fun other inOthers => coherent.sound other (mem_middle_iff.2 (.inr inOthers))
  cases taken with
  | @begun output rest path contents idle pending attempt =>
      rcases mem_middle_iff.1 member with rfl | inOthers
      · have isPending : output ∈ committer.pending := by simp [pending]
        have writes : Writes ((Builder.new settings).renderedOutputs projects) path contents :=
          ⟨output, coherent.mem_outputs (by simp) isPending, written?_of_attempt? attempt⟩
        have fresh : workspace.store.file? path = start.file? path := by
          apply coherent.file?_of_unowned
          intro own owned
          exact (Path.components_ne_of_apart (coherent.apart_begun pending attempt own owned)).symm
        exact { earlier with holds := ⟨writes, fresh⟩ }
      · exact others other inOthers
  | @passed output rest idle pending attempt =>
      rcases mem_middle_iff.1 member with rfl | inOthers
      · exact { earlier with }
      · exact others other inOthers
  | @worked job next activity output current agree claimed_eq stale_eq goesOn sound =>
      rcases mem_middle_iff.1 member with rfl | inOthers
      · exact sound
      · apply (others other inOthers).congr
        intro path owned
        have isCurrent : job.path ∈ committer.owned := by simp [Committer.owned, current]
        apply agree.file?_eq
        exact Path.components_ne_of_apart
          (coherent.apart_others other inOthers path owned job.path isCurrent)

end Steps

/-- Every step keeps committers coherent. -/
theorem step {before after : Workspace × List Committer}
    (coherent : Coherent (Builder.new settings) start projects before)
    (step : Committer.Step true before after) :
    Coherent (Builder.new settings) start projects after := by
  cases step with
  | @mk workspace next committer moved before after steps =>
      have split := coherent.distinct.perm
        (flatMap_middle_perm Committer.footprint before after committer)
      have own : Distinct committer.owned :=
        (List.pairwise_append.1 (List.pairwise_append.1 split).1).1
      have taken := (coherent.sound committer (by simp)).taken own steps
      exact {
        projects_eq := by simpa [taken.project_eq] using coherent.projects_eq
        tracks := coherent.tracks_taken taken
        sound := coherent.sound_taken taken
        distinct := coherent.distinct_taken taken
        isClaimed_iff := coherent.isClaimed_iff_taken taken
        stale_of_mem := coherent.stale_of_mem_taken taken
        file?_of_unowned := coherent.file?_of_unowned_taken taken
        locked_eq := taken.locked_eq.trans coherent.locked_eq }

/-! ## Runs -/

section Start

variable (builder : Builder) (project : Project)

theorem project_committer : (builder.committer project).project = project := by
  unfold Builder.committer
  cases builder.renderProject project <;> rfl

theorem pending_committer : (builder.committer project).pending = builder.pendings project := by
  unfold Builder.committer Builder.pendings
  cases builder.renderProject project <;> rfl

theorem output_committer : (builder.committer project).output = .empty := by
  unfold Builder.committer
  cases builder.renderProject project <;> rfl

theorem job?_committer : (builder.committer project).activity.job? = none := by
  unfold Builder.committer
  cases builder.renderProject project <;> rfl

theorem owned_committer : (builder.committer project).owned = [] := by
  unfold Committer.owned
  rw [job?_committer, output_committer]
  rfl

theorem tracks_committer (session : Session) :
    (builder.committer project).Tracks builder session [] where
  pendings_eq := by simp [project_committer, pending_committer]
  stopped_iff := by
    intro failure
    rw [project_committer]
    unfold Builder.committer
    cases builder.renderProject project <;> simp
  output_of_stopped := fun _ _ => output_committer builder project
  handled := by simp
  generated_ordered := by
    rw [job?_committer, output_committer]
    exact List.nil_sublist _
  skipped_ordered := by
    rw [job?_committer, output_committer]
    exact List.nil_sublist _

theorem sound_committer (start : Store) (outputs : List PendingOutput) :
    (builder.committer project).Sound start outputs start where
  generated := by simp [output_committer, GenerationOutput.empty]
  skipped := by simp [output_committer, GenerationOutput.empty]
  holds := by
    unfold Builder.committer
    cases builder.renderProject project <;> trivial

end Start

theorem ownedBy_committers (builder : Builder) (projects : List Project) :
    ownedBy (projects.map builder.committer) = [] := by
  simp [ownedBy, owned_committer]

theorem footprints_committers_sublist (settings : Settings) (projects : List Project) :
    (footprints (projects.map (Builder.new settings).committer)).Sublist
      (projects.flatMap Project.projectFiles) := by
  induction projects with
  | nil => exact List.Sublist.refl _
  | cons project rest ih =>
      have first : ((Builder.new settings).committer project).footprint =
          ((Builder.new settings).pendings project).filterMap filePath? := by
        simp [Committer.footprint, owned_committer, pending_committer]
      have behind := (filterMap_pendings_sublist settings project).append ih
      rw [← first] at behind
      exact behind

/-- Committers are coherent at the start. -/
theorem start_committers (settings : Settings) (clock : Timestamp) (store : Store)
    {projects : List Project} (distinct : Distinct (projects.flatMap Project.projectFiles)) :
    Coherent (Builder.new settings) store projects
      (⟨store, .new clock⟩, projects.map (Builder.new settings).committer) where
  projects_eq := by
    rw [List.map_map]
    exact List.map_id'' (project_committer (Builder.new settings)) projects
  tracks := by
    intro committer member
    obtain ⟨project, _, rfl⟩ := List.mem_map.1 member
    exact ⟨[], tracks_committer _ project _⟩
  sound := by
    intro committer member
    obtain ⟨project, _, rfl⟩ := List.mem_map.1 member
    exact sound_committer _ project store _
  distinct := distinct.sublist (footprints_committers_sublist settings projects)
  isClaimed_iff := by
    intro probe
    have unclaimed : (Session.new clock).isClaimed probe = false := rfl
    simp [unclaimed, ownedBy_committers]
  stale_of_mem := by
    intro key member
    cases member
  file?_of_unowned := fun _ _ => rfl
  locked_eq := rfl

/-- However committers take their steps, they stay coherent. -/
theorem of_completes (clock : Timestamp) {store : Store}
    (distinct : Distinct (projects.flatMap Project.projectFiles))
    {final : Workspace × List Committer}
    (run : ReflTransGen (Committer.Step true)
      (⟨store, .new clock⟩, projects.map (Builder.new settings).committer) final) :
    Coherent (Builder.new settings) store projects final := by
  induction run with
  | refl => exact start_committers settings clock store distinct
  | tail _ steps ih => exact ih.step steps

end Coherent

end ProjectFiles
