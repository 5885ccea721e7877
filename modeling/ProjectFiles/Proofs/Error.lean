import Mathlib.Data.List.Forall2
import ProjectFiles.Error

/-!
# Errors that the author of a model can mend

An error is mended either in the model or in what handles it.  A computation yields
what it should when it fails with errors of the first sort only; its steps are
then followed one by one.
-/

namespace ProjectFiles

namespace GenerationError

/-- Whether an error comes from a template, a generator or the store, whatever the
model is. -/
def isIntegration : GenerationError → Bool
  | missingBinding .. | duplicateBinding _ | notScalar _ | recursionLimit _
  | optionKeyCollision .. | json | io _ => true
  | _ => false

/-- Whether an error is the author's to mend, and nobody else's. -/
def IsMendable (error : GenerationError) : Prop :=
  error.isAuthoring = true ∧ error.isIntegration = false

theorem isMendable_invalidModel (fault : ModelFault) : (invalidModel fault).IsMendable :=
  ⟨rfl, rfl⟩

theorem isMendable_configurationConflict (file : Path) (conflict : Conflict) :
    (configurationConflict file conflict).IsMendable :=
  ⟨rfl, rfl⟩

end GenerationError

/-! ## Computations -/

theorem bind_ok {ε α β : Type} (value : α) (next : α → Except ε β) :
    (Except.ok value >>= next) = next value := rfl

/-- A step that has a value is followed by the next one. -/
theorem bind_of_eq_some {α β : Type} {step : Option α} {value : α} {next : α → Option β}
    (isValue : step = some value) : (step >>= next) = next value := by
  rw [isValue]
  rfl

/-- A computation succeeds when all of its steps do. -/
theorem ok_of_bind_eq_ok {ε α β : Type} {first : Except ε α} {next : α → Except ε β}
    {result : β} (succeeded : first >>= next = .ok result) :
    ∃ value, first = .ok value ∧ next value = .ok result := by
  cases first with
  | error => cases succeeded
  | ok value => exact ⟨value, rfl, succeeded⟩

theorem exists_eq_ok_of_isOk {ε α : Type} {result : Except ε α} (isOk : result.isOk = true) :
    ∃ value, result = .ok value := by
  cases result with
  | error => cases isOk
  | ok value => exact ⟨value, rfl⟩

/-- A fold succeeds when all of its steps do. -/
theorem exists_eq_ok_of_foldlM {ε α β : Type} {step : α → β → Except ε α} {members : List β}
    {start result : α} (succeeded : members.foldlM step start = .ok result) {member : β}
    (isMember : member ∈ members) : ∃ before after, step before member = .ok after := by
  induction members generalizing start with
  | nil => cases isMember
  | cons first rest ih =>
      rw [List.foldlM_cons] at succeeded
      obtain ⟨next, isNext, others⟩ := ok_of_bind_eq_ok succeeded
      rcases List.mem_cons.1 isMember with rfl | inRest
      · exact ⟨start, next, isNext⟩
      · exact ih others inRest

/-- A list of computations succeeds with the value of each. -/
theorem mapM_eq_ok_iff {ε α β : Type} {compute : α → Except ε β} {members : List α}
    {values : List β} :
    members.mapM compute = .ok values ↔
      List.Forall₂ (fun member value => compute member = .ok value) members values := by
  induction members generalizing values with
  | nil => simp [pure, Except.pure, eq_comm]
  | cons member rest ih =>
      rw [List.mapM_cons, List.forall₂_cons_left_iff]
      constructor
      · intro computed
        obtain ⟨value, isValue, afterValue⟩ := ok_of_bind_eq_ok computed
        obtain ⟨others, areOthers, returned⟩ := ok_of_bind_eq_ok afterValue
        cases returned
        exact ⟨value, others, isValue, ih.1 areOthers, rfl⟩
      · rintro ⟨value, others, isValue, areOthers, rfl⟩
        rw [isValue, bind_ok, ih.2 areOthers]
        rfl

/-- It fails with the error of the first one that fails. -/
theorem mapM_eq_error {ε α β : Type} {compute : α → Except ε β} {former latter : List α}
    {member : α} {error : ε} (succeed : ∀ other ∈ former, ∃ value, compute other = .ok value)
    (fails : compute member = .error error) :
    (former ++ member :: latter).mapM compute = .error error := by
  induction former with
  | nil =>
      rw [List.nil_append, List.mapM_cons, fails]
      rfl
  | cons first rest ih =>
      obtain ⟨value, isValue⟩ := succeed first List.mem_cons_self
      have others := ih fun other inRest => succeed other (List.mem_cons_of_mem _ inRest)
      rw [List.cons_append, List.mapM_cons, isValue, bind_ok, others]
      rfl

/-- `CarriesOver first second` means that the second computation succeeds with whatever the
first one succeeds with. -/
def CarriesOver {ε α : Type} (first second : Except ε α) : Prop :=
  ∀ value, first = .ok value → second = .ok value

namespace CarriesOver

variable {ε α β : Type} {first second : Except ε α}

theorem refl (result : Except ε α) : CarriesOver result result :=
  fun _ succeeded => succeeded

theorem bind {next other : α → Except ε β} (carries : CarriesOver first second)
    (others : ∀ value, first = .ok value → CarriesOver (next value) (other value)) :
    CarriesOver (first >>= next) (second >>= other) := by
  intro result succeeded
  obtain ⟨value, isValue, behind⟩ := ok_of_bind_eq_ok succeeded
  rw [carries value isValue, bind_ok]
  exact others value isValue result behind

theorem map (carries : CarriesOver first second) (f : α → β) :
    CarriesOver (first.map f) (second.map f) := by
  intro result succeeded
  cases isValue : first with
  | error =>
      rw [isValue] at succeeded
      cases succeeded
  | ok value =>
      rw [carries value isValue, ← isValue]
      exact succeeded

theorem foldlM {step other : α → β → Except ε α} {members : List β}
    (each : ∀ state, ∀ member ∈ members, CarriesOver (step state member) (other state member))
    (start : α) : CarriesOver (members.foldlM step start) (members.foldlM other start) := by
  induction members generalizing start with
  | nil => exact .refl _
  | cons member rest ih =>
      rw [List.foldlM_cons, List.foldlM_cons]
      refine (each start member List.mem_cons_self).bind fun state _ => ?_
      exact ih (fun state other inRest => each state other (List.mem_cons_of_mem _ inRest)) state

end CarriesOver

/-- Whether a computation gives a value that meets a condition, or else fails with an
error that the author can mend. -/
inductive Yields {α : Type} (meets : α → Prop) : Except GenerationError α → Prop where
  | ok {value : α} (isMet : meets value) : Yields meets (.ok value)
  | error {error : GenerationError} (isMendable : error.IsMendable) : Yields meets (.error error)

namespace Yields

variable {α β : Type} {meets : α → Prop} {meetsNext : β → Prop}
variable {result : Except GenerationError α} {next : α → Except GenerationError β}

theorem of_exists_eq_ok (succeeds : ∃ value, result = .ok value) :
    Yields (fun _ => True) result := by
  obtain ⟨value, rfl⟩ := succeeds
  exact .ok trivial

theorem bind (first : Yields meets result)
    (others : ∀ value, meets value → Yields meetsNext (next value)) :
    Yields meetsNext (result >>= next) := by
  cases first with
  | ok isMet => exact others _ isMet
  | error isMendable => exact .error isMendable

/-- Every value that a list of computations gives meets the condition of each. -/
theorem mapM {compute : β → Except GenerationError α} {members : List β}
    (each : ∀ member ∈ members, Yields meets (compute member)) :
    Yields (fun values => ∀ value ∈ values, meets value) (members.mapM compute) := by
  induction members with
  | nil => exact .ok fun value member => nomatch member
  | cons first rest ih =>
      rw [List.mapM_cons]
      have others := ih fun member inRest => each member (List.mem_cons_of_mem _ inRest)
      refine (each first List.mem_cons_self).bind fun value isMet => ?_
      refine others.bind fun values areMet => ?_
      exact .ok (List.forall_mem_cons.2 ⟨isMet, areMet⟩)

/-- What every step of a fold keeps is met at its end. -/
theorem foldlM {step : α → β → Except GenerationError α} {members : List β} {start : α}
    (each : ∀ state, ∀ member ∈ members, meets state → Yields meets (step state member))
    (isMet : meets start) : Yields meets (members.foldlM step start) := by
  induction members generalizing start with
  | nil => exact .ok isMet
  | cons first rest ih =>
      rw [List.foldlM_cons]
      refine (each start first List.mem_cons_self isMet).bind fun state isMet => ?_
      exact ih (fun state member inRest => each state member (List.mem_cons_of_mem _ inRest)) isMet

theorem meets_of_ok {value : α} (yields : Yields meets (.ok value)) : meets value := by
  cases yields with
  | ok isMet => exact isMet

theorem isMendable_of_error {error : GenerationError} (yields : Yields meets (.error error)) :
    error.IsMendable := by
  cases yields with
  | error isMendable => exact isMendable

end Yields

end ProjectFiles
