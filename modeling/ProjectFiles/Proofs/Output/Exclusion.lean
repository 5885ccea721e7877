import ProjectFiles.Proofs.Output.SharedCallers

/-!
# Exclusion on shared outputs

However the callers of shared outputs take their steps, each output has one of them at a
time between claim and completion, and one at most that writes it.  Being told that
another caller has handled an output promises less: the other one holds the claim by
then, and may fail and give it back when nobody is left who asks.  The output is there
at the end if none of its callers has failed.
-/

namespace ProjectFiles

open Relation

namespace SharedCaller

variable {overwriteReadOnly : Bool} {initial reached : Workspace × List SharedCaller}

/-! ## A caller alone -/

/-- A caller that runs alone and meets no failing file system does what
`Workspace.writeShared` does. -/
theorem moves_writeShared (workspace : Workspace) (path : Path)
    (render : Unit → Except GenerationError String) {final : Workspace}
    {recorded : GenerationOutput} {result : Except GenerationError SharedOutcome}
    (writing : workspace.writeShared overwriteReadOnly path render .empty =
      (final, recorded, result)) :
    ∃ moved : SharedCaller,
      ReflTransGen (Moves overwriteReadOnly) (workspace, .start path render none)
        (final, moved) ∧
      moved.path = path ∧ moved.stage = .returned result ∧ moved.output = recorded := by
  obtain ⟨claimed, answer⟩ : ∃ claimed, workspace.claim path = claimed := ⟨_, rfl⟩
  rw [Workspace.writeShared, answer] at writing
  obtain ⟨claimed, _ | _⟩ := claimed
  · cases writing
    exact ⟨_, .single (.refused rfl answer), rfl, rfl, rfl⟩
  · have granted : ReflTransGen (Moves overwriteReadOnly) (workspace, .start path render none)
        (claimed, { SharedCaller.start path render none with stage := .producing, won := true }) :=
      .single (.granted rfl answer)
    unfold Workspace.produceClaimed at writing
    cases rendering : render () with
    | error error =>
        rw [rendering] at writing
        cases writing
        exact ⟨_, (granted.tail (.unrendered rfl rendering)).tail (.released rfl), rfl, rfl, rfl⟩
    | ok contents =>
        rw [rendering] at writing
        obtain ⟨stored, answered⟩ :
            ∃ stored, claimed.writeInto overwriteReadOnly path contents .empty = stored :=
          ⟨_, rfl⟩
        dsimp only at writing
        rw [answered] at writing
        obtain ⟨next, recorded, error | outcome⟩ := stored
        · cases writing
          exact ⟨_, (granted.tail (.unwritten rfl rendering rfl answered)).tail (.released rfl),
            rfl, rfl, rfl⟩
        · cases writing
          exact ⟨_, granted.tail (.written rfl rendering rfl answered), rfl, rfl, rfl⟩

/-- Callers that stand still do not keep another one from its steps. -/
theorem runs_of_moves {former latter : Workspace × SharedCaller} (before after : List SharedCaller)
    (moves : ReflTransGen (Moves overwriteReadOnly) former latter) :
    Runs overwriteReadOnly (former.1, before ++ former.2 :: after)
      (latter.1, before ++ latter.2 :: after) := by
  induction moves with
  | refl => exact .refl
  | tail _ move ih => exact ih.tail (.mk before after move)

/-! ## A failing caller

A first caller gets the claim and fails, and a second one asks in between. -/

section Forsaken

variable {workspace : Workspace} {former latter : Path}

/-- The first caller at the end. -/
def failed (path : Path) (error : GenerationError) : SharedCaller :=
  { start path (fun _ => .error error) none with
    stage := .returned (.error error)
    won := true
    renders := 1 }

/-- The second caller at the end. -/
def sentAway (path : Path) (render : Unit → Except GenerationError String)
    (fault : Option StoreFault) : SharedCaller :=
  { start path render fault with stage := .returned (.ok .alreadyHandled) }

/-- A caller that asks while another one is about to fail is sent away all the same. -/
theorem runs_forsaken (unclaimed : workspace.session.isClaimed former = false)
    (same : latter.sameOutput former = true) (error : GenerationError)
    (render : Unit → Except GenerationError String) (fault : Option StoreFault)
    (others : List SharedCaller) :
    Runs overwriteReadOnly
      (workspace,
        start former (fun _ => .error error) none :: start latter render fault :: others)
      ((workspace.claim former).1.release former,
        failed former error :: sentAway latter render fault :: others) := by
  let claimed := (workspace.claim former).1
  let producing := { start former (fun _ => .error error) none with
    stage := .producing, won := true }
  let releasing := { producing with stage := .releasing error, renders := 1 }
  have granted : workspace.claim former = (claimed, true) := by
    dsimp only [claimed]
    rw [PendingOutput.claim_of_unclaimed unclaimed]
  have isClaimed : claimed.session.isClaimed latter = true := by
    rw [(Workspace.claim_eq_true granted).1, Session.isClaimed_claim, same, Bool.true_or]
  have refused : claimed.claim latter = (claimed, false) :=
    PendingOutput.claim_of_claimed isClaimed
  have wins : Moves overwriteReadOnly (workspace, start former (fun _ => .error error) none)
      (claimed, producing) := .granted rfl granted
  have leaves : Moves overwriteReadOnly (claimed, start latter render fault)
      (claimed, sentAway latter render fault) := .refused rfl refused
  have fails : Moves overwriteReadOnly (claimed, producing) (claimed, releasing) :=
    .unrendered rfl rfl
  have gives : Moves overwriteReadOnly (claimed, releasing)
      (claimed.release former, failed former error) := .released rfl
  have firstWins := Step.mk [] (start latter render fault :: others) wins
  have secondLeaves := Step.mk [producing] others leaves
  have firstFails := Step.mk [] (sentAway latter render fault :: others) fails
  have firstGives := Step.mk [] (sentAway latter render fault :: others) gives
  exact .tail (.tail (.tail (.single firstWins) secondLeaves) firstFails) firstGives

/-- A caller whose rendering fails, one that spells the same output in another way, and
some others. -/
def rivals (others : List SharedCaller) : Workspace × List SharedCaller :=
  (⟨.empty, .new ⟨0, 0⟩⟩,
    start ⟨"/w/shared.json"⟩ (fun _ => .error (.invalidModel (.stated "broken"))) none ::
      start ⟨"/w/./shared.json"⟩ (fun _ => .ok "text") none :: others)

/-- A caller that comes after the others. -/
def latecomer : SharedCaller :=
  start ⟨"/w/shared.json"⟩ (fun _ => .ok "text") none

theorem isStart_rivals {others : List SharedCaller}
    (fresh : ∀ caller ∈ others, ∃ path render fault, caller = start path render fault) :
    IsStart (rivals others) where
  callers := List.forall_mem_cons.2
    ⟨⟨_, _, _, rfl⟩, List.forall_mem_cons.2 ⟨⟨_, _, _, rfl⟩, fresh⟩⟩
  unclaimed _ := rfl

theorem isStart_rivals_latecomer : IsStart (rivals [latecomer]) :=
  isStart_rivals (List.forall_mem_singleton.2 ⟨_, _, _, rfl⟩)

/-- The rivals at the end. -/
def beaten (others : List SharedCaller) : List SharedCaller :=
  failed ⟨"/w/shared.json"⟩ (.invalidModel (.stated "broken")) ::
    sentAway ⟨"/w/./shared.json"⟩ (fun _ => .ok "text") none :: others

/-- The rivals spell one output in two ways. -/
theorem sameOutput_rivals :
    (⟨"/w/./shared.json"⟩ : Path).sameOutput ⟨"/w/shared.json"⟩ = true := by
  decide +kernel

/-- Both rivals are beaten, and nobody holds a claim. -/
theorem runs_rivals (others : List SharedCaller) :
    Runs false (rivals others)
      (((rivals others).1.claim ⟨"/w/shared.json"⟩).1.release ⟨"/w/shared.json"⟩,
        beaten others) :=
  runs_forsaken rfl sameOutput_rivals _ _ none others

theorem isHandled_beaten (others : List SharedCaller) :
    ∃ caller ∈ beaten others, caller.isAt CallStage.isHandled ⟨"/w/shared.json"⟩ = true :=
  ⟨_, .tail _ (.head _), sameOutput_rivals⟩

/-- The latecomer writes. -/
theorem runs_rivals_latecomer :
    ∃ final moved, Runs false (rivals [latecomer]) (final, beaten [moved]) ∧
      moved.path = ⟨"/w/shared.json"⟩ ∧ moved.stage = .returned (.ok (.written .generated)) := by
  have writing : ∃ final recorded,
      (((rivals [latecomer]).1.claim ⟨"/w/shared.json"⟩).1.release
        ⟨"/w/shared.json"⟩).writeShared false ⟨"/w/shared.json"⟩ (fun _ => .ok "text") .empty =
        (final, recorded, .ok (.written .generated)) := ⟨_, _, rfl⟩
  obtain ⟨final, recorded, writing⟩ := writing
  obtain ⟨moved, moves, path, stage, _⟩ := moves_writeShared _ _ _ writing
  exact ⟨final, moved, (runs_rivals [latecomer]).trans (runs_of_moves (beaten []) [] moves),
    path, stage⟩

end Forsaken

/-! ## Exclusion -/

/-- What holds in every state that a run reaches. -/
structure Excludes (overwriteReadOnly : Bool) (initial reached : Workspace × List SharedCaller) :
    Prop where
  /-- No two callers stand between claim and completion for one output. -/
  busy_le_one : ∀ path, reached.2.countP (isAt CallStage.isBusy path) ≤ 1
  /-- No two callers return that they have written one output. -/
  written_le_one : ∀ path, reached.2.countP (isAt CallStage.isWritten path) ≤ 1
  /-- The recorded outputs are those of the callers that return that they have written. -/
  recorded_eq : reached.2.flatMap recorded =
    (reached.2.filter (·.stage.isWritten)).map (·.path)
  /-- A caller is told that another one has handled its output only at a moment at which
  another one stands between claim and completion for it or has written it. -/
  handled : ∀ caller ∈ reached.2, caller.stage.isHandled = true →
    ∃ workspace before asker after,
      Runs overwriteReadOnly initial (workspace, before ++ asker :: after) ∧
      asker.stage = .asking ∧
      caller = { asker with stage := .returned (.ok .alreadyHandled) } ∧
      (∃ other ∈ before ++ after, other.isAt CallStage.holdsClaim asker.path = true) ∧
      Runs overwriteReadOnly (workspace, before ++ caller :: after) reached
  /-- A caller that has not got the claim has not rendered. -/
  rendered : ∀ caller ∈ reached.2, caller.won = false → caller.renders = 0
  /-- At the end an output is claimed if and only if one caller has written it. -/
  claimed_iff : (∀ caller ∈ reached.2, caller.stage.isReturned = true) →
    ∀ path, reached.1.session.isClaimed path = true ↔
      reached.2.countP (isAt CallStage.isWritten path) = 1

theorem IsSound.written_le_one {state : Workspace × List SharedCaller} (sound : IsSound state)
    (path : Path) : state.2.countP (isAt CallStage.isWritten path) ≤ 1 := by
  apply sound.countP_le_one
  intro stage written
  rw [CallStage.holdsClaim, written, Bool.or_true]

/-- Callers of shared outputs exclude one another, in whatever order they take their
steps and whichever of them fail. -/
theorem runs_exclude (isStart : IsStart initial) (run : Runs overwriteReadOnly initial reached) :
    Excludes overwriteReadOnly initial reached := by
  have sound := Runs.isSound run isStart.isSound
  constructor
  · apply sound.countP_le_one
    intro stage busy
    rw [CallStage.holdsClaim, busy]
    rfl
  · exact sound.written_le_one
  · exact flatMap_recorded sound.coherent
  · intro caller member handled
    exact Runs.exists_holder isStart run member handled
  · intro caller member lost
    exact (sound.coherent caller member).renders_eq_zero lost
  · exact sound.isClaimed_iff

/-- Of two rivals and a latecomer the latecomer writes. -/
theorem runs_exclude_latecomer :
    ∃ final moved, IsStart (rivals [latecomer]) ∧
      Runs false (rivals [latecomer]) (final, beaten [moved]) ∧
      moved.stage = .returned (.ok (.written .generated)) ∧
      Excludes false (rivals [latecomer]) (final, beaten [moved]) := by
  obtain ⟨final, moved, run, _, stage⟩ := runs_rivals_latecomer
  exact ⟨final, moved, isStart_rivals_latecomer, run, stage,
    runs_exclude isStart_rivals_latecomer run⟩

/-! ## Lost outputs -/

/-- A caller that has got the claim keeps it, writes or fails. -/
theorem Moves.hasWon {workspace next : Workspace} {caller moved : SharedCaller}
    (moves : Moves overwriteReadOnly (workspace, caller) (next, moved))
    (won : caller.stage.hasWon = true) : moved.stage.hasWon = true := by
  cases moves with
  | refused asks =>
      rw [asks] at won
      cases won
  | granted | unrendered | written | unwritten | faulty | released => rfl

theorem Runs.exists_hasWon (run : Runs overwriteReadOnly initial reached) {path : Path}
    (won : ∃ caller ∈ initial.2, caller.isAt CallStage.hasWon path = true) :
    ∃ caller ∈ reached.2, caller.isAt CallStage.hasWon path = true := by
  induction run with
  | refl => exact won
  | tail _ step ih =>
      obtain ⟨winner, member, wins⟩ := ih
      cases step with
      | @mk workspace next caller moved before after moves =>
          rcases List.mem_append.1 member with isBefore | isCallerOrAfter
          · exact ⟨winner, List.mem_append_left _ isBefore, wins⟩
          · rcases List.mem_cons.1 isCallerOrAfter with rfl | isAfter
            · refine ⟨moved, List.mem_append_right _ List.mem_cons_self, ?_⟩
              rw [isAt, Bool.and_eq_true] at wins ⊢
              rw [moves.path_eq]
              exact ⟨moves.hasWon wins.1, wins.2⟩
            · exact ⟨winner, List.mem_append_right _ (.tail _ isAfter), wins⟩

/-- Where a caller is told that another one has handled the output, exactly one has written
it at the end, or one has failed. -/
theorem written_or_failed_of_handled (isStart : IsStart initial)
    (run : Runs overwriteReadOnly initial reached)
    (returned : ∀ caller ∈ reached.2, caller.stage.isReturned = true) {path : Path}
    (handled : ∃ caller ∈ reached.2, caller.isAt CallStage.isHandled path = true) :
    reached.2.countP (isAt CallStage.isWritten path) = 1 ∨
      ∃ caller ∈ reached.2, caller.isAt CallStage.isFailed path = true := by
  obtain ⟨caller, member, told⟩ := handled
  rw [isAt, Bool.and_eq_true] at told
  obtain ⟨_, before, asker, after, _, _, same, ⟨other, isThere, holds⟩, rest⟩ :=
    Runs.exists_holder isStart run member told.1
  have sameOutput : asker.path.sameOutput path = true := by
    rw [← told.2, same]
  have holding : ∃ other ∈ before ++ caller :: after,
      other.isAt CallStage.hasWon path = true := by
    refine ⟨other, ?_, ?_⟩
    · rcases List.mem_append.1 isThere with isBefore | isAfter
      · exact List.mem_append_left _ isBefore
      · exact List.mem_append_right _ (.tail _ isAfter)
    · rw [isAt, Bool.and_eq_true] at holds ⊢
      exact ⟨CallStage.hasWon_of_holdsClaim holds.1,
        (Path.sameOutput_congr_left holds.2).trans sameOutput⟩
  obtain ⟨winner, isThere, wins⟩ := Runs.exists_hasWon rest holding
  rw [isAt, Bool.and_eq_true] at wins
  rcases CallStage.isWritten_or_isFailed (returned winner isThere) wins.1 with written | failed
  · have once := (Runs.isSound run isStart.isSound).written_le_one path
    have some : 0 < reached.2.countP (isAt CallStage.isWritten path) :=
      List.countP_pos_iff.2 ⟨winner, isThere, by rw [isAt, written, wins.2]; rfl⟩
    exact .inl (Nat.le_antisymm once some)
  · exact .inr ⟨winner, isThere, by rw [isAt, failed, wins.2]; rfl⟩

/-- The latecomer makes up for the first rival. -/
theorem written_or_failed_of_handled_latecomer :
    ∃ final moved, IsStart (rivals [latecomer]) ∧
      Runs false (rivals [latecomer]) (final, beaten [moved]) ∧
      (∀ caller ∈ beaten [moved], caller.stage.isReturned = true) ∧
      (∃ caller ∈ beaten [moved], caller.isAt CallStage.isHandled ⟨"/w/shared.json"⟩ = true) ∧
      ((beaten [moved]).countP (isAt CallStage.isWritten ⟨"/w/shared.json"⟩) = 1 ∨
        ∃ caller ∈ beaten [moved],
          caller.isAt CallStage.isFailed ⟨"/w/shared.json"⟩ = true) := by
  obtain ⟨final, moved, run, _, stage⟩ := runs_rivals_latecomer
  have returned : ∀ caller ∈ beaten [moved], caller.stage.isReturned = true := by
    refine List.forall_mem_cons.2 ⟨rfl, List.forall_mem_cons.2 ⟨rfl, ?_⟩⟩
    rw [List.forall_mem_singleton, stage]
    rfl
  have handled := isHandled_beaten [moved]
  exact ⟨final, moved, isStart_rivals_latecomer, run, returned, handled,
    written_or_failed_of_handled isStart_rivals_latecomer run returned handled⟩

/-- The second rival is told that its output has been handled, and nobody writes it. -/
theorem handled_without_writer :
    ∃ reached, IsStart (rivals []) ∧ Runs false (rivals []) reached ∧
      (∀ caller ∈ reached.2, caller.stage.isReturned = true) ∧
      (∃ caller ∈ reached.2, caller.isAt CallStage.isHandled ⟨"/w/shared.json"⟩ = true) ∧
      (∀ caller ∈ reached.2, caller.isAt CallStage.isWritten ⟨"/w/shared.json"⟩ = false) ∧
      reached.1.store.contents? ⟨"/w/shared.json"⟩ = none := by
  refine ⟨_, isStart_rivals (by simp), runs_rivals [], ?_, ?_, ?_, rfl⟩
  · exact List.forall_mem_cons.2 ⟨rfl, List.forall_mem_singleton.2 rfl⟩
  · exact isHandled_beaten []
  · exact List.forall_mem_cons.2 ⟨rfl, List.forall_mem_singleton.2 rfl⟩

end SharedCaller

end ProjectFiles
