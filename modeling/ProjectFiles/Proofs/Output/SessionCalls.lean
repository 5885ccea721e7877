import Mathlib.Data.List.DropRight
import ProjectFiles.Proofs.Output.Commit

/-!
# Calls on the shared outputs

Claims, releases, deferrals and removals of shared outputs come in any order and under
any spelling of their paths.  The calls before tell what a session answers.  A claim is
granted when none has been since the output was last given back.  A removal deletes,
once each, the outputs deferred since the removal before it that nobody holds, and
forgets the others.
-/

namespace ProjectFiles

open Store

/-! ## Deleting in any way -/

/-- A way to delete the file at a path, which may read and change a state. -/
abbrev Deletion (σ : Type) := σ → Path → σ × DeleteOutcome

namespace Deletion

variable {σ : Type}

/-- Delete one file after the other. -/
def each (delete : Deletion σ) : σ → List Path → σ × List (Path × DeleteOutcome)
  | state, [] => (state, [])
  | state, path :: rest =>
      let (next, outcome) := delete state path
      let (final, outcomes) := delete.each next rest
      (final, (path, outcome) :: outcomes)

/-- The same deletion, which notes the paths that it is called for. -/
def noted (delete : Deletion σ) : Deletion (σ × List Path) :=
  fun (state, called) path =>
    let (next, outcome) := delete state path
    ((next, called ++ [path]), outcome)

theorem each_noted (delete : Deletion σ) (state : σ) (called paths : List Path) :
    delete.noted.each (state, called) paths =
      (((delete.each state paths).1, called ++ paths), (delete.each state paths).2) := by
  induction paths generalizing state called with
  | nil => simp [each]
  | cons path rest ih => simp [each, noted, ih]

theorem map_fst_each (delete : Deletion σ) (state : σ) (paths : List Path) :
    (delete.each state paths).2.map (·.1) = paths := by
  induction paths generalizing state with
  | nil => rfl
  | cons path rest ih => exact congrArg (path :: ·) (ih _)

end Deletion

theorem Store.deleteAll_eq_each (store : Store) (paths : List Path) :
    store.deleteAll paths = Deletion.each deleteIfWritable store paths := by
  induction paths generalizing store with
  | nil => rfl
  | cons path rest ih =>
      unfold deleteAll Deletion.each
      simp only [ih]

/-- Remove the shared outputs that are waiting for removal and that nobody claims, by a
deletion of one's own. -/
def Session.removeUnclaimed {σ : Type} (session : Session) (delete : Deletion σ) (state : σ) :
    Session × σ × List (Path × DeleteOutcome) :=
  let (next, paths) := session.takeUnclaimed
  (next, delete.each state paths)

/-- A workspace deletes the files of its store unless they are read-only. -/
theorem Workspace.removeUnclaimed_eq (workspace : Workspace) :
    workspace.removeUnclaimed =
      let (session, store, outcomes) :=
        workspace.session.removeUnclaimed deleteIfWritable workspace.store
      (⟨store, session⟩, outcomes) := by
  unfold removeUnclaimed Session.removeUnclaimed
  simp only [Store.deleteAll_eq_each]

/-! ## Calls and what they answer -/

/-- A call on the shared outputs of a session. -/
inductive SessionCall where
  | claim (path : Path)
  | release (path : Path)
  | deferStale (path : Path)
  | removeUnclaimed
  deriving DecidableEq, Repr

/-- A call that has been made. -/
inductive SessionEvent where
  /-- A claim, which has been granted or not. -/
  | claim (path : Path) (granted : Bool)
  | release (path : Path)
  | deferStale (path : Path)
  | removeUnclaimed
  deriving DecidableEq, Repr

namespace SessionEvent

/-- Whether a claim on the output of a path is granted. -/
def grants (path : Path) : SessionEvent → Bool
  | claim claimed granted => granted && path.sameOutput claimed
  | release _ | deferStale _ | removeUnclaimed => false

/-- Whether the output of a path is given back. -/
def releases (path : Path) : SessionEvent → Bool
  | release released => path.sameOutput released
  | claim .. | deferStale _ | removeUnclaimed => false

/-- Whether the outputs that are waiting are removed. -/
def isRemoval : SessionEvent → Bool
  | removeUnclaimed => true
  | claim .. | release _ | deferStale _ => false

/-- The path that is to be removed later. -/
def deferred? : SessionEvent → Option Path
  | deferStale path => some path
  | claim .. | release _ | removeUnclaimed => none

/-- How many claims on an output have been granted since it was last given back. -/
def grantsSinceRelease (path : Path) (events : List SessionEvent) : Nat :=
  (events.rtakeWhile fun event => !event.releases path).countP (·.grants path)

/-- The paths deferred since the last removal. -/
def deferredSinceRemoval (events : List SessionEvent) : List Path :=
  (events.rtakeWhile fun event => !event.isRemoval).filterMap deferred?

theorem grantsSinceRelease_concat (path : Path) (events : List SessionEvent)
    (event : SessionEvent) :
    grantsSinceRelease path (events ++ [event]) =
      if event.releases path then 0
      else grantsSinceRelease path events + (event.grants path).toNat := by
  unfold grantsSinceRelease
  rw [List.rtakeWhile_concat]
  cases released : event.releases path with
  | true => rfl
  | false =>
      simp only [Bool.not_false, if_true, List.countP_append, List.countP_singleton]
      cases event.grants path <;> rfl

theorem deferredSinceRemoval_concat (events : List SessionEvent) (event : SessionEvent) :
    deferredSinceRemoval (events ++ [event]) =
      if event.isRemoval then [] else deferredSinceRemoval events ++ event.deferred?.toList := by
  unfold deferredSinceRemoval
  rw [List.rtakeWhile_concat]
  cases removal : event.isRemoval with
  | true => rfl
  | false =>
      simp only [Bool.not_false, if_true, List.filterMap_append]
      cases deferred : event.deferred? <;> simp [deferred]

/-- What has been deferred since the last removal has been deferred at some time. -/
theorem deferStale_mem_of_mem_deferredSinceRemoval {events : List SessionEvent} {path : Path}
    (deferred : path ∈ deferredSinceRemoval events) : deferStale path ∈ events := by
  obtain ⟨event, recent, isDeferral⟩ := List.mem_filterMap.1 deferred
  cases event with
  | deferStale other =>
      cases isDeferral
      exact (List.rtakeWhile_suffix _ _).mem recent
  | claim | release | removeUnclaimed => cases isDeferral

end SessionEvent

namespace Session

open SessionEvent

/-- Make a call. -/
def serve (session : Session) : SessionCall → Session × SessionEvent
  | .claim path => ((session.claim path).1, .claim path (session.claim path).2)
  | .release path => (session.release path, .release path)
  | .deferStale path => (session.deferStale path, .deferStale path)
  | .removeUnclaimed => (session.takeUnclaimed.1, .removeUnclaimed)

/-- Make one call after the other. -/
def serveAll : Session → List SessionCall → Session × List SessionEvent
  | session, [] => (session, [])
  | session, call :: rest =>
      let (next, event) := session.serve call
      let (final, events) := next.serveAll rest
      (final, event :: events)

/-- What every call preserves holds after all of them. -/
theorem serveAll_preserves {motive : Session → List SessionEvent → Prop}
    (step : ∀ session events call, motive session events →
      motive (session.serve call).1 (events ++ [(session.serve call).2]))
    (session : Session) (events : List SessionEvent) (start : motive session events)
    (calls : List SessionCall) :
    motive (session.serveAll calls).1 (events ++ (session.serveAll calls).2) := by
  induction calls generalizing session events with
  | nil =>
      rw [serveAll, List.append_nil]
      exact start
  | cons call rest ih =>
      rw [serveAll, List.append_cons]
      exact ih _ _ (step session events call start)

theorem deferStale_mem_of_mem_serveAll {session : Session} {calls : List SessionCall} {path : Path}
    (member : SessionEvent.deferStale path ∈ (session.serveAll calls).2) :
    SessionCall.deferStale path ∈ calls := by
  induction calls generalizing session with
  | nil => cases member
  | cons call rest ih =>
      rcases List.mem_cons.1 member with first | later
      · cases call with
        | deferStale other =>
            cases first
            exact List.mem_cons_self
        | claim | release | removeUnclaimed => cases first
      · exact List.mem_cons_of_mem _ (ih later)

/-! ## Claims and the calls before -/

theorem snd_claim (session : Session) (path : Path) :
    (session.claim path).2 = !session.isClaimed path := by
  unfold claim
  cases session.isClaimed path <;> rfl

/-- One claim at most has been granted since an output was last given back, and its
holder has it still. -/
theorem grantsSinceRelease_serve {session : Session} {path : Path} {events : List SessionEvent}
    (granted : grantsSinceRelease path events = (session.isClaimed path).toNat)
    (call : SessionCall) :
    grantsSinceRelease path (events ++ [(session.serve call).2]) =
      ((session.serve call).1.isClaimed path).toNat := by
  rw [grantsSinceRelease_concat, granted]
  cases call with
  | claim other =>
      simp only [serve, releases, grants, isClaimed_claim, snd_claim]
      by_cases same : path.sameOutput other = true
      · rw [← session.isClaimed_congr same, same]
        cases session.isClaimed path <;> rfl
      · simp [same]
  | release other =>
      simp only [serve, releases, grants, isClaimed_release]
      by_cases same : path.sameOutput other = true <;> simp [same]
  | deferStale | removeUnclaimed => rfl

theorem grantsSinceRelease_serveAll (clock : Timestamp) (calls : List SessionCall) (path : Path) :
    grantsSinceRelease path ((new clock).serveAll calls).2 =
      (((new clock).serveAll calls).1.isClaimed path).toNat :=
  serveAll_preserves
    (motive := fun session events =>
      grantsSinceRelease path events = (session.isClaimed path).toNat)
    (fun _ _ call granted => grantsSinceRelease_serve granted call) (new clock) [] rfl calls

/-! ## What waits for removal and the calls before -/

/-- Whether the outputs that wait for removal are those deferred since the last one. -/
def Awaits (session : Session) (events : List SessionEvent) : Prop :=
  session.stale = .ofList ((deferredSinceRemoval events).map Path.absolute)

theorem Awaits.serve {session : Session} {events : List SessionEvent}
    (awaits : session.Awaits events) (call : SessionCall) :
    (session.serve call).1.Awaits (events ++ [(session.serve call).2]) := by
  unfold Awaits at awaits ⊢
  rw [deferredSinceRemoval_concat]
  cases call with
  | claim path =>
      simp only [Session.serve, stale_claim, isRemoval, deferred?]
      simpa using awaits
  | release path => simpa [Session.serve, release, isRemoval, deferred?] using awaits
  | deferStale path =>
      simp only [Session.serve, deferStale, isRemoval, deferred?, Option.toList_some,
        Bool.false_eq_true, if_false, List.map_append, List.map_cons, List.map_nil]
      rw [SortedSet.ofList_concat, awaits]
  | removeUnclaimed => rfl

/-- Where nothing waits, only the calls to come count. -/
theorem awaits_serveAll {session : Session} (nothing : session.stale = .empty)
    (calls : List SessionCall) :
    (session.serveAll calls).1.Awaits (session.serveAll calls).2 :=
  serveAll_preserves (motive := Awaits) (fun _ _ call awaits => awaits.serve call) session []
    nothing calls

namespace Awaits

variable {session : Session} {events : List SessionEvent}

theorem contains_absolute (awaits : session.Awaits events) (path : Path) :
    session.stale.contains path.absolute =
      (deferredSinceRemoval events).any path.sameOutput := by
  rw [awaits, SortedSet.contains_ofList, List.any_map]
  congr 1
  funext other
  rw [Bool.eq_iff_iff, Function.comp_apply, decide_eq_true_iff, Path.compare_eq_iff,
    Path.sameOutput_iff]

theorem eq_absolute_of_mem (awaits : session.Awaits events) {path : Path}
    (waiting : path ∈ session.stale.keys) :
    ∃ deferred ∈ deferredSinceRemoval events, path = deferred.absolute := by
  rw [awaits] at waiting
  obtain ⟨deferred, recent, spelled⟩ := List.mem_map.1 (SortedSet.mem_of_mem_keys_ofList waiting)
  exact ⟨deferred, recent, spelled.symm⟩

/-- What waits is spelled as the output is, so it is compared as it stands. -/
theorem sameOutput_eq_of_mem (awaits : session.Awaits events) {key : Path}
    (waiting : key ∈ session.stale.keys) (path : Path) :
    path.sameOutput key = decide (compare path.absolute key = .eq) := by
  obtain ⟨deferred, _, rfl⟩ := awaits.eq_absolute_of_mem waiting
  rw [Path.sameOutput_absolute, Bool.eq_iff_iff, decide_eq_true_iff, Path.compare_eq_iff,
    Path.sameOutput_iff]

/-- Each output that waits is taken once, unless it is claimed. -/
theorem countP_takeUnclaimed (awaits : session.Awaits events) (path : Path) :
    session.takeUnclaimed.2.countP path.sameOutput =
      ((deferredSinceRemoval events).any path.sameOutput && !session.isClaimed path).toNat := by
  have alike : ∀ key ∈ session.stale.keys,
      (path.sameOutput key && !session.claimed.contains key) =
        (decide (compare path.absolute key = .eq) && !session.isClaimed path) := by
    intro key waiting
    rw [awaits.sameOutput_eq_of_mem waiting]
    by_cases equal : compare path.absolute key = .eq
    · unfold isClaimed SortedMap.contains
      rw [session.claimed.get?_congr equal]
    · simp [equal]
  rw [← awaits.contains_absolute, takeUnclaimed, List.countP_filter,
    List.countP_congr fun key waiting => by rw [alike key waiting]]
  cases session.isClaimed path with
  | true => simp
  | false => simpa using session.stale.countP_keys path.absolute

end Awaits

/-! ## What the calls before tell -/

/-- The paths that a removal calls a deletion for. -/
def called {σ : Type} (session : Session) (delete : Deletion σ) (state : σ) : List Path :=
  (session.removeUnclaimed delete.noted (state, [])).2.1.2

theorem called_eq {σ : Type} (session : Session) (delete : Deletion σ) (state : σ) :
    session.called delete state = session.takeUnclaimed.2 := by
  have noted := delete.each_noted state [] session.takeUnclaimed.2
  rw [List.nil_append] at noted
  exact congrArg (fun deletions => deletions.1.2) noted

/-- What a removal does after some events: which session is left, which paths the
deletion is called for, and what the answer is. -/
structure Removes (session : Session) (events : List SessionEvent) (next : Session)
    (called : List Path) (outcomes : List (Path × DeleteOutcome)) : Prop where
  /-- The deletion is called in the order of the paths. -/
  increasing : called.Pairwise fun left right => compare left right = .lt
  /-- It is called once for each output that has been deferred since the removal before
  and is not claimed, and for no other. -/
  countP_called : ∀ path, called.countP path.sameOutput =
    if (∃ deferred ∈ deferredSinceRemoval events, path.sameOutput deferred = true) ∧
      session.isClaimed path = false then 1 else 0
  eq_absolute_of_mem : ∀ path ∈ called,
    ∃ deferred ∈ deferredSinceRemoval events, path = deferred.absolute
  outcomes_eq : outcomes.map (·.1) = called
  /-- However the files are deleted, the session is the same. -/
  next_eq : next = (session.serve .removeUnclaimed).1
  claimed_eq : next.claimed = session.claimed
  stale_eq : next.stale = .empty
  /-- No removal to come deletes an output that is not deferred again. -/
  later : ∀ (calls : List SessionCall) (path : Path),
    (∀ other, .deferStale other ∈ calls → path.sameOutput other = false) →
    ∀ {τ : Type} (delete : Deletion τ) (state : τ),
      ∀ other ∈ (next.serveAll calls).1.called delete state, path.sameOutput other = false

/-- Whether a session answers each call that it is made next as the events so far
demand. -/
structure Reflects (session : Session) (events : List SessionEvent) : Prop where
  claim_iff : ∀ path, (session.claim path).2 = true ↔ grantsSinceRelease path events = 0
  removes : ∀ {σ : Type} (delete : Deletion σ) (state : σ),
    session.Removes events (session.removeUnclaimed delete state).1
      (session.called delete state) (session.removeUnclaimed delete state).2.2

/-- What is not deferred again after a removal stays. -/
theorem sameOutput_eq_false_of_mem_called {session : Session} (nothing : session.stale = .empty)
    {calls : List SessionCall} {path other : Path}
    (undeferred : ∀ other, .deferStale other ∈ calls → path.sameOutput other = false)
    {σ : Type} {delete : Deletion σ} {state : σ}
    (isCalled : other ∈ (session.serveAll calls).1.called delete state) :
    path.sameOutput other = false := by
  rw [called_eq] at isCalled
  have waiting := List.mem_of_mem_filter isCalled
  obtain ⟨deferred, recent, rfl⟩ := (awaits_serveAll nothing calls).eq_absolute_of_mem waiting
  rw [Path.sameOutput_absolute]
  exact undeferred deferred
    (deferStale_mem_of_mem_serveAll (deferStale_mem_of_mem_deferredSinceRemoval recent))

theorem Awaits.removes {session : Session} {events : List SessionEvent}
    (awaits : session.Awaits events) {σ : Type} (delete : Deletion σ) (state : σ) :
    session.Removes events (session.removeUnclaimed delete state).1
      (session.called delete state) (session.removeUnclaimed delete state).2.2 := by
  rw [called_eq]
  constructor
  · exact (List.pairwise_map.2 session.stale.increasing).filter _
  · intro path
    rw [awaits.countP_takeUnclaimed]
    change (bif _ then 1 else 0) = _
    simp only [Bool.cond_eq_ite, Bool.and_eq_true, List.any_eq_true, Bool.not_eq_true']
  · intro path member
    exact awaits.eq_absolute_of_mem (List.mem_of_mem_filter member)
  · exact delete.map_fst_each state _
  · rfl
  · rfl
  · rfl
  · intro calls path undeferred _ _ _ _ isCalled
    exact sameOutput_eq_false_of_mem_called rfl undeferred isCalled

/-- Whatever is called on a new session, it answers as the calls before demand. -/
theorem reflects_calls (clock : Timestamp) (calls : List SessionCall) :
    ((new clock).serveAll calls).1.Reflects ((new clock).serveAll calls).2 := by
  constructor
  · intro path
    rw [snd_claim, grantsSinceRelease_serveAll, Bool.toNat_eq_zero, Bool.not_eq_true']
  · intro _ delete state
    exact (awaits_serveAll rfl calls).removes delete state

/-! An output that is claimed during a removal stays, even when it is given back then. -/

example :
    let tracked := ((new ⟨0, 0⟩).serveAll
      [.deferStale ⟨"/w/list"⟩, .deferStale ⟨"/w/./old"⟩, .claim ⟨"/w//list"⟩]).1
    let settled := (tracked.serveAll [.removeUnclaimed, .release ⟨"/w/list"⟩]).1
    tracked.called (fun _ _ => ((), .deleted)) () = [⟨"/w/old"⟩] ∧
      settled.called (fun _ _ => ((), .deleted)) () = [] := by
  decide +kernel

end Session

end ProjectFiles
