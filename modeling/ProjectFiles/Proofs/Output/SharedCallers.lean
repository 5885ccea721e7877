import Mathlib.Data.List.Count
import Mathlib.Logic.Relation
import ProjectFiles.Proofs.Output.Commit

/-!
# Callers of a shared output

Several callers of `Workspace.writeShared` share a session and take their steps in any
order.  Each of them asks for the claim in one step, renders and writes the output in
the next one, and gives the claim back in a third one when it has failed.  A caller
holds the claim from the moment it gets it until it has given it back, and for good once
it has written the output.

A session knows no more than which outputs are claimed.  All that callers may rely on
comes from one equation: for every output, as many callers hold the claim as the session
knows of, which is one or none.
-/

namespace ProjectFiles

open Relation

/-- Where a caller of a shared output stands. -/
inductive CallStage where
  /-- It has not asked for the output yet. -/
  | asking
  /-- It has the claim, and renders and writes the output next. -/
  | producing
  /-- It has failed, and gives the claim back next. -/
  | releasing (error : GenerationError)
  | returned (result : Except GenerationError SharedOutcome)

namespace CallStage

/-- Whether a caller stands between its claim and its completion. -/
def isBusy : CallStage → Bool
  | producing | releasing _ => true
  | asking | returned _ => false

/-- Whether a caller has returned that it has written the output. -/
def isWritten : CallStage → Bool
  | returned (.ok (.written _)) => true
  | _ => false

/-- Whether a caller has returned an error. -/
def isFailed : CallStage → Bool
  | returned (.error _) => true
  | _ => false

/-- Whether a caller has returned that another one has handled the output. -/
def isHandled : CallStage → Bool
  | returned (.ok .alreadyHandled) => true
  | _ => false

/-- Whether a caller has returned. -/
def isReturned : CallStage → Bool
  | returned _ => true
  | _ => false

/-- Whether a caller keeps others from the output. -/
def holdsClaim (stage : CallStage) : Bool :=
  stage.isBusy || stage.isWritten

/-- Whether a caller has got the claim. -/
def hasWon : CallStage → Bool
  | producing | releasing _ | returned (.ok (.written _)) | returned (.error _) => true
  | asking | returned (.ok .alreadyHandled) => false

/-- How often a caller has rendered the output. -/
def renders : CallStage → Nat
  | releasing _ | returned (.ok (.written _)) | returned (.error _) => 1
  | asking | producing | returned (.ok .alreadyHandled) => 0

theorem hasWon_of_holdsClaim {stage : CallStage} (holds : stage.holdsClaim = true) :
    stage.hasWon = true := by
  rcases stage with _ | _ | _ | _ | _ | _
  · cases holds
  · rfl
  · rfl
  · rfl
  · rfl
  · cases holds

/-- A caller that has got the claim returns that it has written or an error. -/
theorem isWritten_or_isFailed {stage : CallStage} (returned : stage.isReturned = true)
    (won : stage.hasWon = true) : stage.isWritten = true ∨ stage.isFailed = true := by
  rcases stage with _ | _ | _ | _ | _ | _
  · cases returned
  · cases returned
  · cases returned
  · exact .inr rfl
  · exact .inl rfl
  · cases won

end CallStage

/-- A call of `Workspace.writeShared`. -/
structure SharedCaller where
  path : Path
  render : Unit → Except GenerationError String
  /-- The failure of the file system that the call meets, if it meets one. -/
  fault : Option StoreFault
  stage : CallStage
  /-- Whether the caller has got the claim. -/
  won : Bool
  /-- How often the caller has rendered. -/
  renders : Nat
  output : GenerationOutput

namespace SharedCaller

/-- A call that has not begun. -/
def start (path : Path) (render : Unit → Except GenerationError String)
    (fault : Option StoreFault) : SharedCaller where
  path := path
  render := render
  fault := fault
  stage := .asking
  won := false
  renders := 0
  output := .empty

/-- Whether a caller is one of an output and stands at one of some stages. -/
def isAt (stages : CallStage → Bool) (path : Path) (caller : SharedCaller) : Bool :=
  stages caller.stage && caller.path.sameOutput path

/-- The paths that a caller has recorded. -/
def recorded (caller : SharedCaller) : List Path :=
  caller.output.generated ++ caller.output.skipped

/-- A step of a caller. -/
inductive Moves (overwriteReadOnly : Bool) :
    Workspace × SharedCaller → Workspace × SharedCaller → Prop where
  | refused {workspace unchanged : Workspace} {caller : SharedCaller}
      (asks : caller.stage = .asking)
      (answer : workspace.claim caller.path = (unchanged, false)) :
      Moves overwriteReadOnly (workspace, caller)
        (unchanged, { caller with stage := .returned (.ok .alreadyHandled) })
  | granted {workspace claimed : Workspace} {caller : SharedCaller}
      (asks : caller.stage = .asking)
      (answer : workspace.claim caller.path = (claimed, true)) :
      Moves overwriteReadOnly (workspace, caller)
        (claimed, { caller with stage := .producing, won := true })
  | unrendered {workspace : Workspace} {caller : SharedCaller} {error : GenerationError}
      (produces : caller.stage = .producing) (rendering : caller.render () = .error error) :
      Moves overwriteReadOnly (workspace, caller)
        (workspace,
          { caller with stage := .releasing error, renders := caller.renders + 1 })
  | written {workspace final : Workspace} {caller : SharedCaller} {contents : String}
      {recorded : GenerationOutput} {outcome : WriteOutcome}
      (produces : caller.stage = .producing) (rendering : caller.render () = .ok contents)
      (sound : caller.fault = none)
      (writing : workspace.writeInto overwriteReadOnly caller.path contents caller.output =
        (final, recorded, .ok outcome)) :
      Moves overwriteReadOnly (workspace, caller)
        (final,
          { caller with
            stage := .returned (.ok (.written outcome))
            renders := caller.renders + 1
            output := recorded })
  | unwritten {workspace final : Workspace} {caller : SharedCaller} {contents : String}
      {recorded : GenerationOutput} {error : GenerationError}
      (produces : caller.stage = .producing) (rendering : caller.render () = .ok contents)
      (sound : caller.fault = none)
      (writing : workspace.writeInto overwriteReadOnly caller.path contents caller.output =
        (final, recorded, .error error)) :
      Moves overwriteReadOnly (workspace, caller)
        (final,
          { caller with
            stage := .releasing error
            renders := caller.renders + 1
            output := recorded })
  /-- Whatever a failing file system has done to the files, the output is recorded in the
  session before the first call of it. -/
  | faulty {workspace : Workspace} {caller : SharedCaller} {contents : String}
      {fault : StoreFault} (produces : caller.stage = .producing)
      (rendering : caller.render () = .ok contents) (fails : caller.fault = some fault)
      (store : Store) :
      Moves overwriteReadOnly (workspace, caller)
        (⟨store, workspace.session.recordOutput caller.path⟩,
          { caller with stage := .releasing (.io fault), renders := caller.renders + 1 })
  | released {workspace : Workspace} {caller : SharedCaller} {error : GenerationError}
      (releases : caller.stage = .releasing error) :
      Moves overwriteReadOnly (workspace, caller)
        (workspace.release caller.path, { caller with stage := .returned (.error error) })

/-- A step of one of several callers. -/
inductive Step (overwriteReadOnly : Bool) :
    Workspace × List SharedCaller → Workspace × List SharedCaller → Prop where
  | mk {workspace next : Workspace} {caller moved : SharedCaller}
      (before after : List SharedCaller)
      (moves : Moves overwriteReadOnly (workspace, caller) (next, moved)) :
      Step overwriteReadOnly (workspace, before ++ caller :: after)
        (next, before ++ moved :: after)

/-- A run of several callers that take their steps in some order. -/
def Runs (overwriteReadOnly : Bool) :
    Workspace × List SharedCaller → Workspace × List SharedCaller → Prop :=
  ReflTransGen (Step overwriteReadOnly)

end SharedCaller

/-! ## Claims and writes -/

namespace Workspace

variable {workspace final : Workspace} {path : Path}

theorem claim_eq_false (answer : workspace.claim path = (final, false)) :
    final = workspace ∧ workspace.session.isClaimed path = true := by
  cases claimed : workspace.session.isClaimed path with
  | true =>
      rw [PendingOutput.claim_of_claimed claimed] at answer
      cases answer
      exact ⟨rfl, rfl⟩
  | false =>
      rw [PendingOutput.claim_of_unclaimed claimed] at answer
      cases answer

theorem claim_eq_true (answer : workspace.claim path = (final, true)) :
    final.session = (workspace.session.claim path).1 ∧
      workspace.session.isClaimed path = false := by
  cases claimed : workspace.session.isClaimed path with
  | true =>
      rw [PendingOutput.claim_of_claimed claimed] at answer
      cases answer
  | false =>
      rw [PendingOutput.claim_of_unclaimed claimed] at answer
      cases answer
      exact ⟨rfl, rfl⟩

/-- A write that succeeds records its path in the session and in the outputs of its
caller. -/
theorem writeInto_ok {overwriteReadOnly : Bool} {contents : String}
    {output recorded : GenerationOutput} {outcome : WriteOutcome}
    (writing : workspace.writeInto overwriteReadOnly path contents output =
      (final, recorded, .ok outcome)) :
    final.session = workspace.session.recordOutput path ∧
      recorded = output.record path outcome := by
  obtain ⟨store, result, written, _⟩ := workspace.write_step overwriteReadOnly path contents
  unfold writeInto at writing
  rw [written] at writing
  cases result with
  | ok =>
      cases writing
      exact ⟨rfl, rfl⟩
  | error => cases writing

/-- A write that fails records its path in the session only. -/
theorem writeInto_error {overwriteReadOnly : Bool} {contents : String}
    {output recorded : GenerationOutput} {error : GenerationError}
    (writing : workspace.writeInto overwriteReadOnly path contents output =
      (final, recorded, .error error)) :
    final.session = workspace.session.recordOutput path ∧ recorded = output := by
  obtain ⟨store, result, written, _⟩ := workspace.write_step overwriteReadOnly path contents
  unfold writeInto at writing
  rw [written] at writing
  cases result with
  | ok => cases writing
  | error =>
      cases writing
      exact ⟨rfl, rfl⟩

end Workspace

namespace SharedCaller

variable {overwriteReadOnly : Bool} {workspace next : Workspace} {caller moved : SharedCaller}

/-! ## One step -/

/-- What a caller has done so far shows in where it stands. -/
structure IsCoherent (caller : SharedCaller) : Prop where
  won_eq : caller.won = caller.stage.hasWon
  renders_eq : caller.renders = caller.stage.renders
  recorded_eq : caller.recorded = if caller.stage.isWritten then [caller.path] else []

theorem isCoherent_start (path : Path) (render : Unit → Except GenerationError String)
    (fault : Option StoreFault) : (start path render fault).IsCoherent :=
  ⟨rfl, rfl, rfl⟩

theorem IsCoherent.renders_eq_zero (coherent : caller.IsCoherent) (lost : caller.won = false) :
    caller.renders = 0 := by
  have notWon := coherent.won_eq.symm.trans lost
  rw [coherent.renders_eq]
  cases stage : caller.stage with
  | asking | producing => rfl
  | releasing =>
      rw [stage] at notWon
      cases notWon
  | returned result =>
      rw [stage] at notWon
      rcases result with _ | _ | _
      · cases notWon
      · cases notWon
      · rfl

theorem Moves.path_eq (moves : Moves overwriteReadOnly (workspace, caller) (next, moved)) :
    moved.path = caller.path := by
  cases moves <;> rfl

theorem Moves.isCoherent (moves : Moves overwriteReadOnly (workspace, caller) (next, moved))
    (coherent : caller.IsCoherent) : moved.IsCoherent := by
  obtain ⟨won_eq, renders_eq, recorded_eq⟩ := coherent
  cases moves with
  | refused asks =>
      rw [asks] at won_eq renders_eq recorded_eq
      exact ⟨won_eq, renders_eq, recorded_eq⟩
  | granted asks =>
      rw [asks] at renders_eq recorded_eq
      exact ⟨rfl, renders_eq, recorded_eq⟩
  | unrendered produces | faulty produces =>
      rw [produces] at won_eq renders_eq recorded_eq
      exact ⟨won_eq, congrArg (· + 1) renders_eq, recorded_eq⟩
  | @written _ _ _ _ _ outcome produces _ _ writing =>
      rw [produces] at won_eq renders_eq recorded_eq
      refine ⟨won_eq, congrArg (· + 1) renders_eq, ?_⟩
      obtain ⟨noneGenerated, noneSkipped⟩ := List.append_eq_nil_iff.1 recorded_eq
      obtain ⟨_, rfl⟩ := Workspace.writeInto_ok writing
      cases outcome <;>
        simp [recorded, GenerationOutput.record, noneGenerated, noneSkipped, CallStage.isWritten]
  | unwritten produces _ _ writing =>
      rw [produces] at won_eq renders_eq recorded_eq
      obtain ⟨_, rfl⟩ := Workspace.writeInto_error writing
      exact ⟨won_eq, congrArg (· + 1) renders_eq, recorded_eq⟩
  | released releases =>
      rw [releases] at won_eq renders_eq recorded_eq
      exact ⟨won_eq, renders_eq, recorded_eq⟩

/-- A caller that begins or ends to hold a claim makes the session know of one more or of
one less. -/
theorem Moves.balance (moves : Moves overwriteReadOnly (workspace, caller) (next, moved))
    (known : caller.stage.holdsClaim = true → workspace.session.isClaimed caller.path = true)
    (probe : Path) :
    (moved.isAt CallStage.holdsClaim probe).toNat + (workspace.session.isClaimed probe).toNat =
      (caller.isAt CallStage.holdsClaim probe).toNat + (next.session.isClaimed probe).toNat := by
  have congruent : caller.path.sameOutput probe = true →
      workspace.session.isClaimed probe = workspace.session.isClaimed caller.path :=
    fun same => (workspace.session.isClaimed_congr same).symm
  unfold isAt
  cases moves with
  | refused asks answer =>
      obtain ⟨rfl, _⟩ := Workspace.claim_eq_false answer
      rw [asks]
      rfl
  | granted asks answer =>
      obtain ⟨session, unclaimed⟩ := Workspace.claim_eq_true answer
      rw [session, Session.isClaimed_claim, asks, Path.sameOutput_comm probe]
      cases same : caller.path.sameOutput probe with
      | true =>
          rw [congruent same, unclaimed]
          rfl
      | false => simp
  | unrendered produces =>
      rw [produces]
      rfl
  | faulty produces =>
      rw [produces]
      rfl
  | written produces _ _ writing =>
      rw [(Workspace.writeInto_ok writing).1, Session.isClaimed_recordOutput, produces]
      rfl
  | unwritten produces _ _ writing =>
      rw [(Workspace.writeInto_error writing).1, Session.isClaimed_recordOutput, produces]
      rfl
  | released releases =>
      have claimed : workspace.session.isClaimed caller.path = true := known (by rw [releases]; rfl)
      rw [Workspace.release, Session.isClaimed_release, releases, Path.sameOutput_comm probe]
      cases same : caller.path.sameOutput probe with
      | true =>
          rw [congruent same, claimed]
          rfl
      | false => simp

/-! ## Every state of a run -/

/-- For every output, as many callers hold the claim as the session knows of. -/
structure IsSound (state : Workspace × List SharedCaller) : Prop where
  coherent : ∀ caller ∈ state.2, caller.IsCoherent
  holders_eq : ∀ path, state.2.countP (isAt CallStage.holdsClaim path) =
    (state.1.session.isClaimed path).toNat

/-- Whether no caller has begun and no output is claimed. -/
structure IsStart (state : Workspace × List SharedCaller) : Prop where
  callers : ∀ caller ∈ state.2, ∃ path render fault, caller = start path render fault
  unclaimed : ∀ path, state.1.session.isClaimed path = false

variable {state later final : Workspace × List SharedCaller}

theorem IsStart.isSound (isStart : IsStart state) : IsSound state where
  coherent caller member := by
    obtain ⟨path, render, fault, rfl⟩ := isStart.callers caller member
    exact isCoherent_start path render fault
  holders_eq path := by
    rw [isStart.unclaimed, Bool.toNat_false, List.countP_eq_zero]
    intro caller member
    obtain ⟨_, _, _, rfl⟩ := isStart.callers caller member
    exact Bool.false_ne_true

/-- Who holds a claim is known to the session. -/
theorem IsSound.isClaimed (sound : IsSound state) {path : Path} {holder : SharedCaller}
    (member : holder ∈ state.2) (holds : holder.isAt CallStage.holdsClaim path = true) :
    state.1.session.isClaimed path = true := by
  have some := List.countP_pos_iff.2 ⟨holder, member, holds⟩
  rw [sound.holders_eq] at some
  cases claimed : state.1.session.isClaimed path with
  | true => rfl
  | false =>
      rw [claimed] at some
      cases some

/-- The session knows of a claim only if a caller holds it. -/
theorem IsSound.exists_holder (sound : IsSound state) {path : Path}
    (claimed : state.1.session.isClaimed path = true) :
    ∃ holder ∈ state.2, holder.isAt CallStage.holdsClaim path = true := by
  apply List.countP_pos_iff.1
  rw [sound.holders_eq, claimed]
  exact Nat.one_pos

theorem IsSound.countP_le_one (sound : IsSound state) (stages : CallStage → Bool)
    (holds : ∀ stage, stages stage = true → stage.holdsClaim = true) (path : Path) :
    state.2.countP (isAt stages path) ≤ 1 := by
  have fewer : state.2.countP (isAt stages path) ≤
      state.2.countP (isAt CallStage.holdsClaim path) := by
    apply List.countP_mono_left
    intro caller _ isThere
    rw [isAt, Bool.and_eq_true] at isThere ⊢
    exact ⟨holds _ isThere.1, isThere.2⟩
  rw [sound.holders_eq] at fewer
  exact Nat.le_trans fewer (Bool.toNat_le _)

theorem Step.isSound (step : Step overwriteReadOnly state later) (sound : IsSound state) :
    IsSound later := by
  cases step with
  | @mk workspace next caller moved before after moves =>
      have own : caller.IsCoherent := sound.coherent caller (by simp)
      constructor
      · intro other member
        rcases List.mem_append.1 member with isBefore | isMovedOrAfter
        · exact sound.coherent other (List.mem_append_left _ isBefore)
        · rcases List.mem_cons.1 isMovedOrAfter with rfl | isAfter
          · exact moves.isCoherent own
          · exact sound.coherent other (List.mem_append_right _ (.tail _ isAfter))
      · intro path
        have isThere : caller ∈ before ++ caller :: after :=
          List.mem_append_right _ List.mem_cons_self
        have known : caller.stage.holdsClaim = true →
            workspace.session.isClaimed caller.path = true := by
          intro holds
          apply sound.isClaimed isThere
          rw [isAt, holds, Path.sameOutput_self]
          rfl
        have balance := moves.balance known path
        have holders := sound.holders_eq path
        have counted (holds : Bool) : holds.toNat = if holds = true then 1 else 0 := by
          cases holds <;> rfl
        simp only [List.countP_append, List.countP_cons, counted] at balance holders ⊢
        omega

theorem Runs.isSound (run : Runs overwriteReadOnly state final) (sound : IsSound state) :
    IsSound final := by
  induction run with
  | refl => exact sound
  | tail _ step ih => exact step.isSound ih

/-! ## What a run keeps apart -/

variable {start : Workspace × List SharedCaller}

theorem Moves.eq_of_isHandled (moves : Moves overwriteReadOnly (workspace, caller) (next, moved))
    (handled : moved.stage.isHandled = true) :
    workspace.session.isClaimed caller.path = true ∧ next = workspace ∧
      caller.stage = .asking ∧
      moved = { caller with stage := .returned (.ok .alreadyHandled) } := by
  cases moves with
  | refused asks answer =>
      obtain ⟨rfl, claimed⟩ := Workspace.claim_eq_false answer
      exact ⟨claimed, rfl, asks, rfl⟩
  | granted | unrendered | written | unwritten | faulty | released => cases handled

/-- A caller that is told that another one has handled the output has been told so when
another one held the claim. -/
theorem Runs.exists_holder (isStart : IsStart start) (run : Runs overwriteReadOnly start final)
    (member : caller ∈ final.2) (handled : caller.stage.isHandled = true) :
    ∃ workspace before asker after,
      Runs overwriteReadOnly start (workspace, before ++ asker :: after) ∧
      asker.stage = .asking ∧
      caller = { asker with stage := .returned (.ok .alreadyHandled) } ∧
      (∃ other ∈ before ++ after, other.isAt CallStage.holdsClaim asker.path = true) ∧
      Runs overwriteReadOnly (workspace, before ++ caller :: after) final := by
  induction run with
  | refl =>
      obtain ⟨_, _, _, rfl⟩ := isStart.callers caller member
      cases handled
  | tail earlier step ih =>
      -- The caller has been told in this step or stands as it has stood before it.
      have extend {state : Workspace × List SharedCaller} (rest : Runs overwriteReadOnly state _) :=
        ReflTransGen.tail rest step
      cases step with
      | @mk workspace next asker moved before after moves =>
          rcases List.mem_append.1 member with isBefore | isMovedOrAfter
          · obtain ⟨now, former, one, latter, run, asks, same, holder, rest⟩ :=
              ih (List.mem_append_left _ isBefore)
            exact ⟨now, former, one, latter, run, asks, same, holder, extend rest⟩
          · rcases List.mem_cons.1 isMovedOrAfter with rfl | isAfter
            · obtain ⟨claimed, rfl, asks, same⟩ := moves.eq_of_isHandled handled
              obtain ⟨other, isThere, holds⟩ :=
                (Runs.isSound earlier isStart.isSound).exists_holder claimed
              refine ⟨next, before, asker, after, earlier, asks, same, ⟨other, ?_, holds⟩, .refl⟩
              rcases List.mem_append.1 isThere with isBefore | isAskerOrAfter
              · exact List.mem_append_left _ isBefore
              · rcases List.mem_cons.1 isAskerOrAfter with rfl | isAfter
                · rw [isAt, asks] at holds
                  cases holds
                · exact List.mem_append_right _ isAfter
            · obtain ⟨now, former, one, latter, run, asks, same, holder, rest⟩ :=
                ih (List.mem_append_right _ (.tail _ isAfter))
              exact ⟨now, former, one, latter, run, asks, same, holder, extend rest⟩

/-- The callers record what they have written. -/
theorem flatMap_recorded {callers : List SharedCaller}
    (coherent : ∀ caller ∈ callers, caller.IsCoherent) :
    callers.flatMap recorded = (callers.filter (·.stage.isWritten)).map (·.path) := by
  induction callers with
  | nil => rfl
  | cons caller callers ih =>
      obtain ⟨own, others⟩ := List.forall_mem_cons.1 coherent
      rw [List.flatMap_cons, own.recorded_eq, ih others]
      rw [List.filter_cons]
      cases caller.stage.isWritten <;> rfl

/-- Once every caller has returned, only those that have written hold claims. -/
theorem isAt_holdsClaim_of_isReturned (returned : caller.stage.isReturned = true) (path : Path) :
    caller.isAt CallStage.holdsClaim path = caller.isAt CallStage.isWritten path := by
  unfold isAt
  cases stage : caller.stage with
  | asking | producing | releasing =>
      rw [stage] at returned
      cases returned
  | returned => rfl

theorem IsSound.isClaimed_iff (sound : IsSound state)
    (returned : ∀ caller ∈ state.2, caller.stage.isReturned = true) (path : Path) :
    state.1.session.isClaimed path = true ↔ state.2.countP (isAt CallStage.isWritten path) = 1 := by
  have holders := sound.holders_eq path
  rw [List.countP_congr fun caller member => by
    rw [isAt_holdsClaim_of_isReturned (returned caller member)]] at holders
  rw [holders]
  cases state.1.session.isClaimed path <;> simp

end SharedCaller

end ProjectFiles
