import ProjectFiles.Proofs.Generation.Ownership

/-!
# Progress of a committer

How far a committer has got with the outputs of its project.  What it has taken up
is its own, claimed or noted for removal, and its project files come in the order
in which they have been rendered.  Every step keeps this.
-/

namespace ProjectFiles

open Store PendingOutput Builder

/-! ## Taking up an output -/

section Noted

variable {session : Session} {output : PendingOutput} {path : Path} {contents : String}

/-- Who begins to write a shared output claims it. -/
theorem PendingOutput.isClaimed_noted (attempt : output.attempt? session = some (path, contents))
    (probe : Path) :
    (output.noted session).isClaimed probe =
      (output.isShared && probe.sameOutput path || session.isClaimed probe) := by
  cases output with
  | file => rfl
  | shared other _ =>
      obtain ⟨_, rfl, rfl⟩ := attempt?_shared_eq_some.1 attempt
      exact session.isClaimed_claim other probe
  | staleShared => cases attempt

/-- An output is passed over without a new claim. -/
theorem PendingOutput.isClaimed_noted_of_none (attempt : output.attempt? session = none)
    (probe : Path) : (output.noted session).isClaimed probe = session.isClaimed probe := by
  cases output with
  | file => cases attempt
  | shared other _ =>
      cases claimed : session.isClaimed other with
      | true => simp [noted, Session.claim, claimed]
      | false => simp [attempt?, claimed] at attempt
  | staleShared => rfl

theorem PendingOutput.filePath?_of_attempt?_eq_none (attempt : output.attempt? session = none) :
    output.filePath? = none := by
  cases output with
  | file => cases attempt
  | shared | staleShared => rfl

theorem PendingOutput.written?_of_attempt?
    (attempt : output.attempt? session = some (path, contents)) :
    output.written? = some (path, contents) := by
  cases output with
  | file => exact attempt
  | shared =>
      obtain ⟨_, rfl, rfl⟩ := attempt?_shared_eq_some.1 attempt
      rfl
  | staleShared => cases attempt

/-- The outputs of a project that others may write, too, are its package lists. -/
theorem PendingOutput.BelongsTo.isShared_eq {project : Project} (belongs : output.BelongsTo project)
    (attempt : output.attempt? session = some (path, contents)) :
    output.isShared = path.isPackageList := by
  cases belongs with
  | file _ isOwn =>
      cases attempt
      rw [isOwn]
      rfl
  | @shared file _ _ =>
      obtain ⟨_, rfl, _⟩ := attempt?_shared_eq_some.1 attempt
      rw [Path.isPackageList_packageList]
      rfl
  | staleShared => cases attempt

theorem PendingOutput.mem_stale_noted {key : Path}
    (member : key ∈ (output.noted session).stale.keys) :
    key ∈ session.stale.keys ∨ ∃ path, output = .staleShared path ∧ key = path.absolute := by
  cases output with
  | file => exact .inl member
  | shared other _ =>
      rw [noted, Session.stale_claim] at member
      exact .inl member
  | staleShared other =>
      rcases SortedMap.mem_keys_insert member with rfl | older
      · exact .inr ⟨other, rfl, rfl⟩
      · exact .inl older

theorem PendingOutput.isStale_noted {probe : Path} (stale : session.stale.contains probe = true) :
    (output.noted session).stale.contains probe = true := by
  cases output with
  | file => exact stale
  | shared other _ => rwa [noted, Session.stale_claim]
  | staleShared other =>
      rw [noted, Session.deferStale, SortedMap.contains_insert, stale, Bool.or_true]

end Noted

/-! ## What a committer has handled -/

namespace Committer

/-- What is left of an output that a committer has taken up: a file is its own,
a shared output is claimed, and a removal is noted. -/
def Handled (session : Session) (committer : Committer) : PendingOutput → Prop
  | .file path _ => path ∈ committer.owned
  | .shared path _ => session.isClaimed path = true
  | .staleShared path => session.stale.contains path.absolute = true

/-- How far a committer has got with the rendered outputs of its project. -/
structure Tracks (builder : Builder) (session : Session) (done : List PendingOutput)
    (committer : Committer) : Prop where
  pendings_eq : builder.pendings committer.project = done ++ committer.pending
  stopped_iff : ∀ failure, committer.activity = .stopped failure ↔
    builder.renderProject committer.project = .error failure
  output_of_stopped : ∀ failure, committer.activity = .stopped failure → committer.output = .empty
  handled : ∀ output ∈ done, committer.Handled session output
  generated_ordered :
    (projectFilesOf (committer.output.generated ++
      committer.activity.job?.toList.map (·.path))).Sublist (done.filterMap filePath?)
  skipped_ordered :
    (projectFilesOf (committer.output.skipped ++
      committer.activity.job?.toList.map (·.path))).Sublist (done.filterMap filePath?)

end Committer

/-! ## What a step does to its committer -/

theorem GenerationOutput.listed_record_perm (output : GenerationOutput) (path : Path)
    (outcome : WriteOutcome) :
    (output.record path outcome).listed.Perm (path :: output.listed) := by
  cases outcome with
  | generated =>
      have moved : (output.generated ++ [path] ++ output.skipped).Perm
          (path :: (output.generated ++ output.skipped)) := by
        simp
      exact moved
  | skipped =>
      have moved : (output.generated ++ (output.skipped ++ [path])).Perm
          (path :: (output.generated ++ output.skipped)) := by
        rw [← List.append_assoc]
        exact List.perm_append_singleton path _
      exact moved

namespace Committer

variable {builder : Builder} {start : Store} {outputs done : List PendingOutput}
variable {workspace next : Workspace} {committer moved : Committer}

theorem owned_of_idle (idle : committer.activity = .idle) :
    committer.owned = committer.output.listed := by
  simp [owned, idle, Activity.job?]

theorem owned_begun (idle : committer.activity = .idle) (job : WriteJob)
    (rest : List PendingOutput) :
    Committer.owned { committer with pending := rest, activity := .recording job } =
      job.path :: committer.owned := by
  rw [owned_of_idle idle]
  rfl

/-- Going on with an output changes nothing in what a committer owns. -/
theorem owned_worked {job : WriteJob} {activity : Activity} {output : GenerationOutput}
    (current : committer.activity.job? = some job)
    (goesOn : (activity.job? = some job ∧ output = committer.output) ∨
      (activity = .idle ∧ ∃ outcome, output = committer.output.record job.path outcome)) :
    (Committer.owned { committer with activity := activity, output := output }).Perm
      committer.owned := by
  rcases goesOn with ⟨same, rfl⟩ | ⟨rfl, outcome, rfl⟩
  · simp [owned, same, current]
  · have spelled : committer.owned = job.path :: committer.output.listed := by
      simp [owned, current]
    rw [spelled]
    exact committer.output.listed_record_perm job.path outcome

/-- The current output stays the last one, or it is done with. -/
theorem outputs_worked {job : WriteJob} {activity : Activity} {output : GenerationOutput}
    (current : committer.activity.job? = some job)
    (goesOn : (activity.job? = some job ∧ output = committer.output) ∨
      (activity = .idle ∧ ∃ outcome, output = committer.output.record job.path outcome)) :
    (output.generated ++ activity.job?.toList.map (·.path)).Sublist
        (committer.output.generated ++ committer.activity.job?.toList.map (·.path)) ∧
      (output.skipped ++ activity.job?.toList.map (·.path)).Sublist
        (committer.output.skipped ++ committer.activity.job?.toList.map (·.path)) := by
  rcases goesOn with ⟨same, rfl⟩ | ⟨rfl, outcome, rfl⟩
  · simp [same, current]
  · rw [current]
    cases outcome <;> simp [Activity.job?, GenerationOutput.record]

theorem Taken.project_eq (taken : committer.Taken start outputs workspace next moved) :
    moved.project = committer.project := by
  cases taken <;> rfl

theorem Taken.locked_eq (taken : committer.Taken start outputs workspace next moved) :
    next.store.locked = workspace.store.locked := by
  cases taken with
  | begun | passed => rfl
  | worked _ agree => exact agree.locked_eq

theorem Taken.mem_owned (taken : committer.Taken start outputs workspace next moved) {path : Path}
    (member : path ∈ committer.owned) : path ∈ moved.owned := by
  cases taken with
  | begun idle =>
      rw [owned_of_idle idle] at member
      exact List.mem_cons_of_mem _ member
  | passed => exact member
  | worked current _ _ _ goesOn => exact (owned_worked current goesOn).mem_iff.2 member

theorem Taken.isClaimed_of_isClaimed (taken : committer.Taken start outputs workspace next moved)
    {probe : Path} (claimed : workspace.session.isClaimed probe = true) :
    next.session.isClaimed probe = true := by
  cases taken with
  | begun _ _ attempt => rw [isClaimed_noted attempt, claimed, Bool.or_true]
  | passed _ _ attempt => rw [isClaimed_noted_of_none attempt, claimed]
  | worked _ _ claimed_eq => rwa [Session.isClaimed, claimed_eq]

theorem Taken.isStale_of_isStale (taken : committer.Taken start outputs workspace next moved)
    {probe : Path} (stale : workspace.session.stale.contains probe = true) :
    next.session.stale.contains probe = true := by
  cases taken with
  | begun | passed => exact isStale_noted stale
  | worked _ _ _ stale_eq => rwa [stale_eq]

/-- What has been handled stays so. -/
theorem Taken.handled (taken : committer.Taken start outputs workspace next moved)
    {one other : Committer} (owned : ∀ path ∈ one.owned, path ∈ other.owned)
    {output : PendingOutput} (handled : one.Handled workspace.session output) :
    other.Handled next.session output := by
  cases output with
  | file path contents => exact owned path handled
  | shared path contents => exact taken.isClaimed_of_isClaimed handled
  | staleShared path => exact taken.isStale_of_isStale handled

/-- An output that is being written is handled. -/
theorem handled_noted {session : Session} {output : PendingOutput} {path : Path} {contents : String}
    (attempt : output.attempt? session = some (path, contents)) (owns : path ∈ committer.owned) :
    committer.Handled (output.noted session) output := by
  cases output with
  | file other written =>
      cases attempt
      exact owns
  | shared other written =>
      obtain ⟨_, rfl, rfl⟩ := attempt?_shared_eq_some.1 attempt
      change ((shared other written).noted session).isClaimed other = true
      rw [isClaimed_noted attempt, Path.sameOutput_self]
      rfl
  | staleShared other => cases attempt

/-- An output that is passed over is handled. -/
theorem handled_noted_of_none {session : Session} {output : PendingOutput}
    (attempt : output.attempt? session = none) :
    committer.Handled (output.noted session) output := by
  cases output with
  | file => cases attempt
  | shared other written =>
      change ((shared other written).noted session).isClaimed other = true
      rw [isClaimed_noted_of_none attempt]
      simpa [attempt?] using attempt
  | staleShared other =>
      change ((session.deferStale other).stale.contains other.absolute) = true
      rw [Session.deferStale, SortedMap.contains_insert, Path.compare_eq_iff.2 rfl]
      rfl

/-- A project file is written in its turn. -/
theorem ordered_append {project : Project} {session : Session} {paths : List Path}
    {output : PendingOutput} {path : Path} {contents : String}
    (belongs : output.BelongsTo project)
    (attempt : output.attempt? session = some (path, contents))
    (ordered : (projectFilesOf paths).Sublist (done.filterMap filePath?)) :
    (projectFilesOf (paths ++ [path])).Sublist ((done ++ [output]).filterMap filePath?) := by
  rw [projectFilesOf_append, List.filterMap_append]
  cases belongs with
  | file _ isOwn =>
      cases attempt
      have single : projectFilesOf [path] = [path] := by
        simp [projectFilesOf, isOwn]
      rw [single]
      exact ordered.append_right [path]
  | @shared file _ _ =>
      obtain ⟨_, rfl, _⟩ := attempt?_shared_eq_some.1 attempt
      have nothing : projectFilesOf [file.packageList] = [] := by
        simp [projectFilesOf, Path.isPackageList_packageList]
      rw [nothing]
      exact ordered.append (List.nil_sublist _)
  | staleShared => cases attempt

theorem Taken.tracks {settings : Settings}
    (taken : committer.Taken start outputs workspace next moved)
    (tracks : committer.Tracks (Builder.new settings) workspace.session done) :
    ∃ done, moved.Tracks (Builder.new settings) next.session done := by
  have kept : ∀ output ∈ done, moved.Handled next.session output :=
    fun output member => taken.handled (fun _ => taken.mem_owned) (tracks.handled output member)
  cases taken with
  | @begun output rest path contents idle pending attempt =>
      have pendings_eq := tracks.pendings_eq
      rw [pending] at pendings_eq
      have belongs : output.BelongsTo committer.project := by
        apply belongsTo_of_mem_pendings
        rw [pendings_eq]
        simp
      have generated := tracks.generated_ordered
      have skipped := tracks.skipped_ordered
      simp [idle, Activity.job?] at generated skipped
      refine ⟨done ++ [output], ?_⟩
      exact {
        pendings_eq := by simpa using pendings_eq
        stopped_iff := by simpa [idle] using tracks.stopped_iff
        output_of_stopped := by simp
        handled := by
          intro other member
          rcases List.mem_append.1 member with earlier | isLast
          · exact kept other earlier
          · rw [List.mem_singleton.1 isLast]
            exact handled_noted attempt List.mem_cons_self
        generated_ordered := ordered_append belongs attempt generated
        skipped_ordered := ordered_append belongs attempt skipped }
  | @passed output rest idle pending attempt =>
      have pendings_eq := tracks.pendings_eq
      rw [pending] at pendings_eq
      have behind : (done.filterMap filePath?).Sublist ((done ++ [output]).filterMap filePath?) :=
        (List.sublist_append_left done [output]).filterMap filePath?
      refine ⟨done ++ [output], ?_⟩
      exact {
        pendings_eq := by simpa using pendings_eq
        stopped_iff := tracks.stopped_iff
        output_of_stopped := tracks.output_of_stopped
        handled := by
          intro other member
          rcases List.mem_append.1 member with earlier | isLast
          · exact kept other earlier
          · rw [List.mem_singleton.1 isLast]
            exact handled_noted_of_none attempt
        generated_ordered := tracks.generated_ordered.trans behind
        skipped_ordered := tracks.skipped_ordered.trans behind }
  | @worked job next activity output current agree claimed_eq stale_eq goesOn sound =>
      have running : ∀ failure, committer.activity ≠ .stopped failure := by
        intro failure stopped
        rw [stopped] at current
        cases current
      have goes : ∀ failure, activity ≠ .stopped failure := by
        rintro failure rfl
        rcases goesOn with ⟨same, _⟩ | ⟨idle, _⟩
        · cases same
        · cases idle
      obtain ⟨generated, skipped⟩ := outputs_worked current goesOn
      refine ⟨done, ?_⟩
      exact {
        pendings_eq := tracks.pendings_eq
        stopped_iff := fun failure =>
          (iff_of_false (goes failure) (running failure)).trans (tracks.stopped_iff failure)
        output_of_stopped := fun failure stopped => absurd stopped (goes failure)
        handled := kept
        generated_ordered := (generated.filter _).trans tracks.generated_ordered
        skipped_ordered := (skipped.filter _).trans tracks.skipped_ordered }

end Committer

end ProjectFiles
