import ProjectFiles.Proofs.Generation.Claims
import ProjectFiles.Proofs.Generation.Committer

/-!
# Ownership

While several committers share a store, each file is dealt with by one of them.
A committer owns the output it is writing and those that it has written.  What it
does to them depends only on the store that the run has started from, and it
touches no other file.
-/

namespace ProjectFiles

open Store PendingOutput Builder

/-- Whether two stores hold the same files, but for the one at a path. -/
structure Store.AgreeBut (path : Path) (before after : Store) : Prop where
  locked_eq : after.locked = before.locked
  file?_eq : ∀ probe : Path, probe.components ≠ path.components →
    after.file? probe = before.file? probe

namespace Store

theorem AgreeBut.refl (path : Path) (store : Store) : AgreeBut path store store where
  locked_eq := rfl
  file?_eq := fun _ _ => rfl

theorem agreeBut_record (store : Store) (method : StoreMethod) (path : Path) :
    AgreeBut path store (store.record method path) where
  locked_eq := rfl
  file?_eq := by simp

theorem agreeBut_withFile (store : Store) (method : StoreMethod) (path : Path)
    (file : StoredFile) : AgreeBut path store ((store.record method path).withFile path file) where
  locked_eq := rfl
  file?_eq := by
    intro probe other
    rw [file?_withFile, if_neg other, file?_record]

/-- Writing to a file that is not read-only replaces it. -/
theorem write_agreeBut {store : Store} {path : Path}
    (writable : ∀ old, store.file? path ≠ some ⟨old, true⟩) (contents : String) :
    ∃ written, store.write path contents = (written, .ok ()) ∧ AgreeBut path store written ∧
      written.file? path = some ⟨contents, false⟩ := by
  have only := store.agreeBut_withFile .write path ⟨contents, false⟩
  have found : ((store.record .write path).withFile path ⟨contents, false⟩).file? path =
      some ⟨contents, false⟩ := by
    rw [file?_withFile, if_pos rfl]
  exact ⟨_, write_of_writable writable contents, ⟨only.locked_eq, only.file?_eq⟩, found⟩

end Store

/-- What an output writes, and where. -/
def PendingOutput.written? : PendingOutput → Option (Path × String)
  | file path contents | shared path contents => some (path, contents)
  | staleShared _ => none

/-- The session after an output has been taken up. -/
def PendingOutput.noted (session : Session) : PendingOutput → Session
  | file .. => session
  | shared path _ => (session.claim path).1
  | staleShared path => session.deferStale path

/-- Whether a list of outputs writes contents to a path. -/
def Writes (outputs : List PendingOutput) (path : Path) (contents : String) : Prop :=
  ∃ output ∈ outputs, output.written? = some (path, contents)

/-- The output that is being written. -/
def Activity.job? : Activity → Option WriteJob
  | recording job | reading job | inspecting job | unlocking job | writing job
  | releasing job _ => some job
  | idle | stopped _ => none

/-- What is known of the output being written, from the store that a run has
started from and the present one. -/
def Activity.Holds (start : Store) (outputs : List PendingOutput) (store : Store) :
    Activity → Prop
  | idle => True
  | recording job | reading job =>
      Writes outputs job.path job.contents ∧ store.file? job.path = start.file? job.path
  | inspecting job | unlocking job =>
      Writes outputs job.path job.contents ∧ start.contents? job.path ≠ some job.contents ∧
        store.file? job.path ≠ none
  | writing job =>
      Writes outputs job.path job.contents ∧ start.contents? job.path ≠ some job.contents ∧
        ∀ old, store.file? job.path ≠ some ⟨old, true⟩
  | releasing _ _ => False
  | stopped _ => True

namespace Committer

/-- The outputs that a committer is writing or has written. -/
def owned (committer : Committer) : List Path :=
  committer.activity.job?.toList.map (·.path) ++ committer.output.listed

/-- The outputs that a committer owns, and its project files still to come. -/
def footprint (committer : Committer) : List Path :=
  committer.owned ++ committer.pending.filterMap filePath?

/-- What is known of the outputs of a committer: those generated had other
contents when the run started, and those skipped are as they were then. -/
structure Sound (start : Store) (outputs : List PendingOutput) (store : Store)
    (committer : Committer) : Prop where
  generated : ∀ path ∈ committer.output.generated, ∃ contents, Writes outputs path contents ∧
    start.contents? path ≠ some contents ∧ store.file? path = some ⟨contents, false⟩
  skipped : ∀ path ∈ committer.output.skipped, ∃ contents, Writes outputs path contents ∧
    start.contents? path = some contents ∧ store.file? path = start.file? path
  holds : committer.activity.Holds start outputs store

variable {start : Store} {outputs : List PendingOutput} {committer : Committer}

/-- Only the files that a committer owns matter to it. -/
theorem Sound.congr {before after : Store} (sound : committer.Sound start outputs before)
    (agree : ∀ path ∈ committer.owned, after.file? path = before.file? path) :
    committer.Sound start outputs after where
  generated := by
    intro path member
    obtain ⟨contents, writes, differs, found⟩ := sound.generated path member
    refine ⟨contents, writes, differs, ?_⟩
    rw [agree path (by simp [owned, GenerationOutput.listed, member]), found]
  skipped := by
    intro path member
    obtain ⟨contents, writes, same, kept⟩ := sound.skipped path member
    refine ⟨contents, writes, same, ?_⟩
    rw [agree path (by simp [owned, GenerationOutput.listed, member]), kept]
  holds := by
    have current : ∀ job, committer.activity.job? = some job →
        after.file? job.path = before.file? job.path := by
      intro job isCurrent
      exact agree job.path (by simp [owned, isCurrent])
    have holds := sound.holds
    cases activity : committer.activity with
    | idle | stopped => trivial
    | recording job | reading job | inspecting job | unlocking job | writing job =>
        rw [activity] at holds current
        simpa only [Activity.Holds, current job rfl] using holds
    | releasing job error =>
        rw [activity] at holds
        exact holds

/-- What a step of a committer does.  It begins to write an output, passes one over
that is not to be written, or goes on with the current one and touches nothing
else. -/
inductive Taken (start : Store) (outputs : List PendingOutput) (workspace : Workspace)
    (committer : Committer) : Workspace → Committer → Prop where
  | begun {output : PendingOutput} {rest : List PendingOutput} {path : Path} {contents : String}
      (idle : committer.activity = .idle) (pending : committer.pending = output :: rest)
      (attempt : output.attempt? workspace.session = some (path, contents)) :
      Taken start outputs workspace committer
        ⟨workspace.store, output.noted workspace.session⟩
        { committer with
          pending := rest, activity := .recording ⟨path, contents, output.isShared⟩ }
  | passed {output : PendingOutput} {rest : List PendingOutput}
      (idle : committer.activity = .idle) (pending : committer.pending = output :: rest)
      (attempt : output.attempt? workspace.session = none) :
      Taken start outputs workspace committer
        ⟨workspace.store, output.noted workspace.session⟩ { committer with pending := rest }
  | worked {job : WriteJob} {next : Workspace} {activity : Activity} {output : GenerationOutput}
      (current : committer.activity.job? = some job)
      (agree : AgreeBut job.path workspace.store next.store)
      (claimed_eq : next.session.claimed = workspace.session.claimed)
      (stale_eq : next.session.stale = workspace.session.stale)
      (goesOn : (activity.job? = some job ∧ output = committer.output) ∨
        (activity = .idle ∧ ∃ outcome, output = committer.output.record job.path outcome))
      (sound : Sound start outputs next.store
        { committer with activity := activity, output := output }) :
      Taken start outputs workspace committer next
        { committer with activity := activity, output := output }

/-! ## The steps of a sound committer -/

section Working

variable {store next : Store} {job : WriteJob}

/-- The outputs written so far do not change when the current one is worked on. -/
theorem Sound.work (sound : committer.Sound start outputs store)
    (distinct : Distinct committer.owned) (current : committer.activity.job? = some job)
    (agree : AgreeBut job.path store next)
    {activity : Activity} (holds : activity.Holds start outputs next) :
    Sound start outputs next { committer with activity := activity } := by
  have others : ∀ path ∈ committer.output.listed, next.file? path = store.file? path := by
    intro path member
    have spelled : committer.owned = job.path :: committer.output.listed := by
      simp [owned, current]
    rw [spelled] at distinct
    have apart := (List.pairwise_cons.1 distinct).1 path member
    exact agree.file?_eq path (Path.components_ne_of_apart apart).symm
  constructor
  · intro path member
    obtain ⟨contents, writes, differs, found⟩ := sound.generated path member
    have kept := others path (List.mem_append_left _ member)
    exact ⟨contents, writes, differs, kept.trans found⟩
  · intro path member
    obtain ⟨contents, writes, same, found⟩ := sound.skipped path member
    have kept := others path (List.mem_append_right _ member)
    exact ⟨contents, writes, same, kept.trans found⟩
  · exact holds

/-- An output that has been written is one of those generated. -/
theorem Sound.generate (sound : Sound start outputs next { committer with activity := .idle })
    (writes : Writes outputs job.path job.contents)
    (differs : start.contents? job.path ≠ some job.contents)
    (found : next.file? job.path = some ⟨job.contents, false⟩) :
    Sound start outputs next (committer.finish job .generated) where
  generated := by
    intro path member
    rcases List.mem_append.1 member with earlier | isJob
    · exact sound.generated path earlier
    · rw [List.mem_singleton.1 isJob]
      exact ⟨job.contents, writes, differs, found⟩
  skipped := sound.skipped
  holds := trivial

/-- An output that has been found as it should be is one of those skipped. -/
theorem Sound.skip (sound : Sound start outputs next { committer with activity := .idle })
    (writes : Writes outputs job.path job.contents)
    (same : start.contents? job.path = some job.contents)
    (kept : next.file? job.path = start.file? job.path) :
    Sound start outputs next (committer.finish job .skipped) where
  generated := sound.generated
  skipped := by
    intro path member
    rcases List.mem_append.1 member with earlier | isJob
    · exact sound.skipped path earlier
    · rw [List.mem_singleton.1 isJob]
      exact ⟨job.contents, writes, same, kept⟩
  holds := trivial

/-- The file that is read decides how to go on. -/
theorem Sound.reading {workspace : Workspace}
    (sound : committer.Sound start outputs workspace.store)
    (distinct : Distinct committer.owned) (activity : committer.activity = .reading job)
    (holds : Activity.Holds start outputs workspace.store (.reading job)) :
    committer.Taken start outputs workspace
      ⟨workspace.store.record .read job.path, workspace.session⟩
      (match workspace.store.contents? job.path with
        | none => { committer with activity := .writing job }
        | some stored =>
            if stored = job.contents then committer.finish job .skipped
            else { committer with activity := .inspecting job }) := by
  obtain ⟨writes, untouched⟩ := holds
  have current : committer.activity.job? = some job := by
    rw [activity]
    rfl
  have agree := workspace.store.agreeBut_record .read job.path
  have contents_eq : workspace.store.contents? job.path = start.contents? job.path := by
    unfold contents?
    rw [untouched]
  cases stored : workspace.store.contents? job.path with
  | none =>
      have absent : workspace.store.file? job.path = none := by
        simpa [contents?] using stored
      have goesOn : Activity.Holds start outputs (workspace.store.record .read job.path)
          (.writing job) := by
        refine ⟨writes, ?_, ?_⟩
        · rw [← contents_eq, stored]
          simp
        · simp [absent]
      exact .worked current agree rfl rfl (.inl ⟨rfl, rfl⟩)
        (sound.work distinct current agree goesOn)
  | some old =>
      by_cases same : old = job.contents
      · simp only [same, if_true]
        have isStored : start.contents? job.path = some job.contents := by
          rw [← contents_eq, stored, same]
        have rests : Activity.Holds start outputs (workspace.store.record .read job.path) .idle :=
          trivial
        have others := sound.work distinct current agree rests
        exact .worked current agree rfl rfl (.inr ⟨rfl, .skipped, rfl⟩)
          (others.skip writes isStored untouched)
      · simp only [same, if_false]
        obtain ⟨readOnly, found⟩ := contents?_eq_some_iff.1 stored
        have goesOn : Activity.Holds start outputs (workspace.store.record .read job.path)
            (.inspecting job) := by
          refine ⟨writes, ?_, ?_⟩
          · rw [← contents_eq, stored]
            simpa using same
          · simp [found]
        exact .worked current agree rfl rfl (.inl ⟨rfl, rfl⟩)
          (sound.work distinct current agree goesOn)

/-- A read-only file is made writable, any other one is written. -/
theorem Sound.inspecting {workspace : Workspace}
    (sound : committer.Sound start outputs workspace.store) (distinct : Distinct committer.owned)
    (activity : committer.activity = .inspecting job)
    (holds : Activity.Holds start outputs workspace.store (.inspecting job)) :
    committer.Taken start outputs workspace workspace
      (match workspace.store.isReadOnly job.path with
        | .error fault => committer.fail job (.io fault)
        | .ok false => { committer with activity := .writing job }
        | .ok true => { committer with activity := .unlocking job }) := by
  obtain ⟨writes, differs, present⟩ := holds
  have current : committer.activity.job? = some job := by
    rw [activity]
    rfl
  have agree := AgreeBut.refl job.path workspace.store
  cases found : workspace.store.file? job.path with
  | none => exact absurd found present
  | some file =>
      obtain ⟨old, readOnly⟩ := file
      have isReadOnly : workspace.store.isReadOnly job.path = .ok readOnly := by
        simp [Store.isReadOnly, found]
      rw [isReadOnly]
      cases readOnly with
      | true =>
          have goesOn : Activity.Holds start outputs workspace.store (.unlocking job) :=
            ⟨writes, differs, present⟩
          exact .worked current agree rfl rfl (.inl ⟨rfl, rfl⟩)
            (sound.work distinct current agree goesOn)
      | false =>
          have goesOn : Activity.Holds start outputs workspace.store (.writing job) :=
            ⟨writes, differs, by simp [found]⟩
          exact .worked current agree rfl rfl (.inl ⟨rfl, rfl⟩)
            (sound.work distinct current agree goesOn)

/-- A file that is there can be made writable. -/
theorem Sound.unlocking {workspace next : Workspace} {moved : Committer}
    (sound : committer.Sound start outputs workspace.store) (distinct : Distinct committer.owned)
    (activity : committer.activity = .unlocking job)
    (holds : Activity.Holds start outputs workspace.store (.unlocking job))
    (steps : (match workspace.store.setReadOnly job.path false with
      | (store, .ok ()) =>
          some (⟨store, workspace.session⟩, { committer with activity := .writing job })
      | (store, .error fault) =>
          some (⟨store, workspace.session⟩, committer.fail job (.io fault))) =
      some (next, moved)) : committer.Taken start outputs workspace next moved := by
  obtain ⟨writes, differs, present⟩ := holds
  have current : committer.activity.job? = some job := by
    rw [activity]
    rfl
  cases found : workspace.store.file? job.path with
  | none => exact absurd found present
  | some file =>
      simp only [setReadOnly, found, Option.some.injEq] at steps
      cases steps
      have agree := workspace.store.agreeBut_withFile .setReadOnly job.path
        { file with readOnly := false }
      have goesOn : Activity.Holds start outputs
          ((workspace.store.record .setReadOnly job.path).withFile job.path
            { file with readOnly := false }) (.writing job) := by
        refine ⟨writes, differs, ?_⟩
        intro old
        rw [file?_withFile, if_pos rfl]
        simp
      exact .worked current agree rfl rfl (.inl ⟨rfl, rfl⟩)
        (sound.work distinct current agree goesOn)

/-- A file that is not read-only can be written. -/
theorem Sound.writing {workspace next : Workspace} {moved : Committer}
    (sound : committer.Sound start outputs workspace.store) (distinct : Distinct committer.owned)
    (activity : committer.activity = .writing job)
    (holds : Activity.Holds start outputs workspace.store (.writing job))
    (steps : (match workspace.store.write job.path job.contents with
      | (store, .ok ()) => some (⟨store, workspace.session⟩, committer.finish job .generated)
      | (store, .error fault) =>
          some (⟨store, workspace.session⟩, committer.fail job (.io fault))) =
      some (next, moved)) : committer.Taken start outputs workspace next moved := by
  obtain ⟨writes, differs, writable⟩ := holds
  have current : committer.activity.job? = some job := by
    rw [activity]
    rfl
  obtain ⟨written, replaces, agree, found⟩ := write_agreeBut writable job.contents
  rw [replaces] at steps
  cases steps
  have rests : Activity.Holds start outputs written .idle := trivial
  have others := sound.work distinct current agree rests
  exact .worked current agree rfl rfl (.inr ⟨rfl, .generated, rfl⟩)
    (others.generate writes differs found)

end Working

/-- Taking up an output begins to write it or passes it over. -/
theorem taken_takeUp {workspace next : Workspace} {moved : Committer} {output : PendingOutput}
    {rest : List PendingOutput} (idle : committer.activity = .idle)
    (pending : committer.pending = output :: rest)
    (steps : takeUp workspace committer output rest = (next, moved)) :
    committer.Taken start outputs workspace next moved := by
  cases output with
  | file path contents =>
      cases steps
      exact .begun idle pending rfl
  | shared path contents =>
      cases claimed : workspace.session.isClaimed path with
      | true =>
          have attempt : (shared path contents).attempt? workspace.session = none := by
            simp [attempt?, claimed]
          have kept : (shared path contents).noted workspace.session = workspace.session := by
            simp [noted, Session.claim, claimed]
          simp only [takeUp, claim_of_claimed claimed] at steps
          cases steps
          have passed : committer.Taken start outputs workspace _ _ := .passed idle pending attempt
          rwa [kept] at passed
      | false =>
          have attempt : (shared path contents).attempt? workspace.session =
              some (path, contents) := by
            simp [attempt?, claimed]
          simp only [takeUp, claim_of_unclaimed claimed] at steps
          cases steps
          exact .begun idle pending attempt
  | staleShared path =>
      cases steps
      exact .passed idle pending rfl

/-- When read-only files may be overwritten, every step of a sound committer is
one of those listed, and the committer is sound afterwards. -/
theorem Sound.taken {workspace next : Workspace} {moved : Committer}
    (sound : committer.Sound start outputs workspace.store)
    (distinct : Distinct committer.owned)
    (steps : committer.step? true workspace = some (next, moved)) :
    committer.Taken start outputs workspace next moved := by
  have holds := sound.holds
  unfold step? at steps
  cases activity : committer.activity with
  | idle =>
      simp only [activity] at steps
      cases pending : committer.pending with
      | nil => simp [pending] at steps
      | cons output rest =>
          simp only [pending, Option.some.injEq] at steps
          exact taken_takeUp activity pending steps
  | recording job =>
      simp only [activity, Option.some.injEq] at steps
      cases steps
      rw [activity] at holds
      have current : committer.activity.job? = some job := by rw [activity]; rfl
      have agree := AgreeBut.refl job.path workspace.store
      exact .worked current agree rfl rfl (.inl ⟨rfl, rfl⟩)
        (sound.work distinct current agree holds)
  | reading job =>
      simp only [activity, Option.some.injEq] at steps
      cases steps
      rw [activity] at holds
      exact sound.reading distinct activity holds
  | inspecting job =>
      simp only [activity, Option.some.injEq] at steps
      cases steps
      rw [activity] at holds
      exact sound.inspecting distinct activity holds
  | unlocking job =>
      simp only [activity] at steps
      rw [activity] at holds
      exact sound.unlocking distinct activity holds steps
  | writing job =>
      simp only [activity] at steps
      rw [activity] at holds
      exact sound.writing distinct activity holds steps
  | releasing job error =>
      rw [activity] at holds
      exact holds.elim
  | stopped failure => simp [activity] at steps

end Committer

end ProjectFiles
