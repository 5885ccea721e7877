import Mathlib.Data.List.Induction
import ProjectFiles.Proofs.Options
import ProjectFiles.Proofs.SortedMap

/-!
# Options belong to the axis that sets them first

The options of a configuration are computed by calls, each for one axis; an axis may be
called again, and calls go on after failures.  A call runs one effect at most, and runs it
to its end, whatever it meets in it.  So the options are settled by everything that the
calls have tried to set: an option belongs to the axis that was the first to try, and has
the last value that this axis has tried.
-/

namespace ProjectFiles

/-! ## The effect of a call -/

/-- Whether an effect is that of the first rule that applies, or what to set when no rule
does. -/
inductive OptionAxis.Chooses (call : OptionAxis) (configuration : Configuration) :
    OptionEffect → Prop where
  | rule {former latter : List OptionRule} {rule : OptionRule}
      (isRule : call.rules = former ++ rule :: latter)
      (skips : ∀ other ∈ former, other.applies configuration = false)
      (applies : rule.applies configuration = true) : call.Chooses configuration rule.effect
  | fallback {effect : OptionEffect}
      (skips : ∀ rule ∈ call.rules, rule.applies configuration = false)
      (isFallback : call.fallback = some effect) : call.Chooses configuration effect

/-- An option that an axis tries to set. -/
structure OptionAttempt where
  axis : String
  key : String
  value : Value

/-- The options that an effect tries to set for an axis. -/
def OptionEffect.attempts (effect : OptionEffect) (axis : String) : List OptionAttempt :=
  effect.map fun entry => ⟨axis, entry.1, entry.2⟩

/-- The options that a call tries to set. -/
def OptionAxis.attempts (call : OptionAxis) (configuration : Configuration) :
    List OptionAttempt :=
  ((call.effectFor? configuration).map (OptionEffect.attempts · call.name)).getD []

namespace OptionAxis

variable {call : OptionAxis} {configuration : Configuration} {effect : OptionEffect}

theorem chooses_iff : call.Chooses configuration effect ↔
    call.effectFor? configuration = some effect := by
  unfold effectFor?
  constructor
  · rintro (⟨isRule, skips, applies⟩ | ⟨skips, isFallback⟩)
    · have found : call.rules.find? (fun rule => rule.applies configuration) = some _ :=
        List.find?_eq_some_iff_append.2 ⟨applies, _, _, isRule, by simpa using skips⟩
      rw [found]
    · have absent : call.rules.find? (fun rule => rule.applies configuration) = none :=
        List.find?_eq_none.2 (by simpa using skips)
      rw [absent, isFallback]
  · intro chosen
    split at chosen
    · rename_i rule found
      cases chosen
      obtain ⟨applies, former, latter, isRule, skips⟩ := List.find?_eq_some_iff_append.1 found
      exact .rule isRule (by simpa using skips) applies
    · rename_i absent
      exact .fallback (by simpa using List.find?_eq_none.1 absent) chosen

theorem forall_not_chooses_iff : (∀ effect, ¬ call.Chooses configuration effect) ↔
    call.fallback = none ∧ ∀ rule ∈ call.rules, rule.applies configuration = false := by
  simp only [chooses_iff, effectFor?]
  cases found : call.rules.find? (fun rule => rule.applies configuration) with
  | some rule =>
      have applies := List.find?_some found
      have isRule := List.mem_of_find?_eq_some found
      simp only [Option.some.injEq, forall_eq', false_iff, not_and]
      intro _ skips
      exact Bool.false_ne_true ((skips rule isRule).symm.trans applies)
  | none =>
      have skips := List.find?_eq_none.1 found
      simp only [← Option.eq_none_iff_forall_ne_some]
      exact ⟨fun isNone => ⟨isNone, by simpa using skips⟩, And.left⟩

end OptionAxis

namespace ExplicitOptions

variable {options : ExplicitOptions} {configuration : Configuration} {call : OptionAxis}
variable {effect : OptionEffect} {axis key owner : String} {value : Value}

/-! ## Setting one option -/

/-- Whether an option belongs to another axis. -/
def IsForeign (options : ExplicitOptions) (axis key owner : String) : Prop :=
  options.owner? key = some owner ∧ owner ≠ axis

theorem set_of_isForeign (foreign : options.IsForeign axis key owner) (value : Value) :
    options.set axis key value = (options, some owner) := by
  simp [set, foreign.1, foreign.2]

theorem set_of_not_isForeign (own : ∀ owner, ¬ options.IsForeign axis key owner)
    (value : Value) : options.set axis key value = (options.record axis key value, none) := by
  cases owned : options.owner? key with
  | none => exact set_of_unowned owned axis value
  | some owner =>
      have same : owner = axis := by
        by_contra differs
        exact own owner ⟨owned, differs⟩
      simp [set, owned, same]

/-- An option of another axis is left alone, and every other one is set. -/
theorem set_cases (options : ExplicitOptions) (axis key : String) (value : Value) :
    (∃ owner, options.IsForeign axis key owner ∧
      options.set axis key value = (options, some owner)) ∨
    (∀ owner, ¬ options.IsForeign axis key owner) ∧
      options.set axis key value = (options.record axis key value, none) := by
  by_cases foreign : ∃ owner, options.IsForeign axis key owner
  · obtain ⟨owner, isForeign⟩ := foreign
    exact .inl ⟨owner, isForeign, set_of_isForeign isForeign value⟩
  · rw [not_exists] at foreign
    exact .inr ⟨foreign, set_of_not_isForeign foreign value⟩

/-- What an axis sets is not foreign to it, before or afterwards. -/
theorem isForeign_set_iff (options : ExplicitOptions) (axis key : String) (value : Value)
    (probe other : String) :
    (options.set axis key value).1.IsForeign axis probe other ↔
      options.IsForeign axis probe other := by
  rcases options.set_cases axis key value with ⟨owner, foreign, isSet⟩ | ⟨own, isSet⟩
  · rw [isSet]
  · rw [isSet]
    unfold IsForeign
    rw [owner?_record]
    split
    · rename_i isKey
      subst isKey
      constructor
      · rintro ⟨isOwner, differs⟩
        exact absurd (Option.some.inj isOwner).symm differs
      · exact fun foreign => absurd foreign (own other)
    · rfl

/-! ## Running an effect -/

/-- Try to set an option. -/
def attempt (options : ExplicitOptions) (attempt : OptionAttempt) : ExplicitOptions :=
  (options.set attempt.axis attempt.key attempt.value).1

/-- Whether an option is the first one in an effect that belongs to another axis. -/
def CollidesAt (options : ExplicitOptions) (axis : String) (effect : OptionEffect)
    (key owner : String) : Prop :=
  ∃ former value latter, effect = former ++ (key, value) :: latter ∧
    options.IsForeign axis key owner ∧
    ∀ entry ∈ former, ∀ other, ¬ options.IsForeign axis entry.1 other

/-- An effect is run to its end. -/
theorem apply_fst (options : ExplicitOptions) (axis : String) (effect : OptionEffect) :
    (options.apply axis effect).1 = (effect.attempts axis).foldl attempt options := by
  induction effect generalizing options with
  | nil => rfl
  | cons entry rest ih => exact ih (options.attempt ⟨axis, entry.1, entry.2⟩)

/-- An effect meets options of other axes as they were before it. -/
theorem apply_snd_cases (options : ExplicitOptions) (axis : String) (effect : OptionEffect) :
    ((options.apply axis effect).2 = none ∧
      ∀ entry ∈ effect, ∀ owner, ¬ options.IsForeign axis entry.1 owner) ∨
    ∃ key owner, (options.apply axis effect).2 = some (key, owner) ∧
      options.CollidesAt axis effect key owner := by
  induction effect generalizing options with
  | nil => exact .inl ⟨rfl, fun _ member => nomatch member⟩
  | cons entry rest ih =>
      obtain ⟨key, value⟩ := entry
      rcases options.set_cases axis key value with ⟨owner, foreign, isSet⟩ | ⟨own, isSet⟩
      · refine .inr ⟨key, owner, ?_, [], value, rest, rfl, foreign, fun _ member => nomatch member⟩
        simp [apply, isSet]
      · have applied : (options.apply axis ((key, value) :: rest)).2 =
            ((options.record axis key value).apply axis rest).2 := by
          simp [apply, isSet]
        have foreign_iff (probe other : String) :
            (options.record axis key value).IsForeign axis probe other ↔
              options.IsForeign axis probe other := by
          have kept := isForeign_set_iff options axis key value probe other
          rwa [isSet] at kept
        rw [applied]
        rcases ih (options.record axis key value) with ⟨isNone, free⟩ |
          ⟨found, owner, isFound, former, foundValue, latter, rfl, foreign, before⟩
        · refine .inl ⟨isNone, List.forall_mem_cons.2 ⟨own, fun other inRest => ?_⟩⟩
          exact fun owner => mt (foreign_iff _ _).2 (free other inRest owner)
        · refine .inr ⟨found, owner, isFound, (key, value) :: former, foundValue, latter, rfl,
            (foreign_iff _ _).1 foreign, List.forall_mem_cons.2 ⟨own, fun other member => ?_⟩⟩
          exact fun owner => mt (foreign_iff _ _).2 (before other member owner)

/-! ## Making calls -/

/-- The options after calls, which are made one after the other whether or not they fail. -/
def afterCalls (configuration : Configuration) (calls : List OptionAxis) : ExplicitOptions :=
  calls.foldl (fun options call => (options.runAxis configuration call).1) empty

theorem runAxis_fst (options : ExplicitOptions) (configuration : Configuration)
    (call : OptionAxis) :
    (options.runAxis configuration call).1 =
      (call.attempts configuration).foldl attempt options := by
  unfold runAxis OptionAxis.attempts
  cases call.effectFor? configuration with
  | none => rfl
  | some effect =>
      dsimp only [Option.map_some, Option.getD_some]
      rw [← apply_fst]
      split <;> simp [*]

theorem afterCalls_eq (configuration : Configuration) (calls : List OptionAxis) :
    afterCalls configuration calls =
      (calls.flatMap (·.attempts configuration)).foldl attempt empty := by
  unfold afterCalls
  simp only [runAxis_fst, List.foldl_flatMap]

/-! ## What attempts settle -/

/-- `options.SettledBy attempts` means that options belong to the axes that were the first
to try to set them, and have the last values that these axes have tried. -/
structure SettledBy (options : ExplicitOptions) (attempts : List OptionAttempt) : Prop where
  sameKeys : options.values.keys = options.owners.keys
  owner?_eq : ∀ key, options.owner? key = (attempts.find? (·.key = key)).map (·.axis)
  get?_eq : ∀ key owner, options.owner? key = some owner → options.get? key =
    (attempts.filter fun attempt => attempt.axis = owner ∧ attempt.key = key).getLast?.map (·.value)

theorem settledBy_empty : empty.SettledBy [] where
  sameKeys := rfl
  owner?_eq _ := rfl
  get?_eq _ _ owned := nomatch owned

/-- Who is the first to try to set an option, with one more attempt. -/
theorem SettledBy.first_concat {attempts : List OptionAttempt}
    (settled : options.SettledBy attempts) (next : OptionAttempt) (key : String) :
    ((attempts ++ [next]).find? (·.key = key)).map (·.axis) =
      (options.owner? key).or (if next.key = key then some next.axis else none) := by
  rw [List.find?_append, settled.owner?_eq]
  cases attempts.find? (·.key = key) <;> by_cases isKey : next.key = key <;> simp [isKey]

/-- What another axis owns keeps its owner and its value. -/
theorem SettledBy.refused {attempts : List OptionAttempt}
    (settled : options.SettledBy attempts) (foreign : options.IsForeign axis key owner) :
    options.SettledBy (attempts ++ [⟨axis, key, value⟩]) := by
  obtain ⟨owned, differs⟩ := foreign
  refine ⟨settled.sameKeys, fun probe => ?_, fun probe holder isOwner => ?_⟩
  · rw [settled.first_concat]
    by_cases isKey : key = probe
    · subst isKey
      rw [owned, Option.some_or]
    · simp [isKey]
  · have skipped : ¬ (axis = holder ∧ key = probe) := by
      rintro ⟨rfl, rfl⟩
      exact differs (Option.some.inj (owned.symm.trans isOwner))
    rw [settled.get?_eq probe holder isOwner, List.filter_append,
      List.filter_cons_of_neg (by simpa using skipped), List.filter_nil, List.append_nil]

/-- Anything else is set, and belongs to the axis from now on if it did not before. -/
theorem SettledBy.recorded {attempts : List OptionAttempt}
    (settled : options.SettledBy attempts) (own : ∀ owner, ¬ options.IsForeign axis key owner) :
    (options.record axis key value).SettledBy (attempts ++ [⟨axis, key, value⟩]) := by
  refine ⟨SortedMap.keys_insert_congr settled.sameKeys .., fun probe => ?_,
    fun probe holder isOwner => ?_⟩
  · rw [settled.first_concat, owner?_record]
    by_cases isKey : probe = key
    · subst isKey
      rw [if_pos rfl, if_pos rfl]
      cases owned : options.owner? probe with
      | none => rfl
      | some owner =>
          have same : owner = axis := by
            by_contra differs
            exact own owner ⟨owned, differs⟩
          rw [same, Option.some_or]
    · rw [if_neg isKey, if_neg (Ne.symm isKey), Option.or_none]
  · rw [owner?_record] at isOwner
    rw [get?_record, List.filter_append]
    by_cases isKey : probe = key
    · rw [if_pos isKey, Option.some.injEq] at isOwner
      rw [if_pos isKey, List.filter_cons_of_pos (by simp [isOwner, isKey]), List.filter_nil,
        List.getLast?_concat]
      rfl
    · rw [if_neg isKey] at isOwner
      rw [if_neg isKey, settled.get?_eq probe holder isOwner,
        List.filter_cons_of_neg (by simp [Ne.symm isKey]), List.filter_nil, List.append_nil]

theorem SettledBy.attempt {attempts : List OptionAttempt} (settled : options.SettledBy attempts)
    (next : OptionAttempt) : (options.attempt next).SettledBy (attempts ++ [next]) := by
  obtain ⟨axis, key, value⟩ := next
  unfold ExplicitOptions.attempt
  rcases options.set_cases axis key value with ⟨owner, foreign, isSet⟩ | ⟨own, isSet⟩
  · rw [isSet]
    exact settled.refused foreign
  · rw [isSet]
    exact settled.recorded own

theorem settledBy_foldl_attempt (attempts : List OptionAttempt) :
    (attempts.foldl attempt empty).SettledBy attempts := by
  induction attempts using List.reverseRecOn with
  | nil => exact settledBy_empty
  | append_singleton attempts next ih =>
      rw [List.foldl_concat]
      exact ih.attempt next

/-! ## What later attempts leave alone -/

theorem owner?_attempt (owned : options.owner? key = some owner) (next : OptionAttempt) :
    (options.attempt next).owner? key = some owner := by
  unfold attempt
  rcases options.set_cases next.axis next.key next.value with ⟨_, _, isSet⟩ | ⟨own, isSet⟩
  · rw [isSet, owned]
  · rw [isSet, owner?_record]
    split
    · rename_i isKey
      subst isKey
      by_contra differs
      exact own owner ⟨owned, fun same => differs (congrArg some same.symm)⟩
    · exact owned

theorem get?_attempt (owned : options.owner? key = some owner) {next : OptionAttempt}
    (another : next.axis ≠ owner) : (options.attempt next).get? key = options.get? key := by
  unfold attempt
  rcases options.set_cases next.axis next.key next.value with ⟨_, _, isSet⟩ | ⟨own, isSet⟩
  · rw [isSet]
  · rw [isSet, get?_record, if_neg]
    rintro rfl
    exact own owner ⟨owned, Ne.symm another⟩

theorem owner?_foldl_attempt (owned : options.owner? key = some owner)
    (attempts : List OptionAttempt) :
    (attempts.foldl attempt options).owner? key = some owner := by
  induction attempts generalizing options with
  | nil => exact owned
  | cons next rest ih => exact ih (owner?_attempt owned next)

theorem get?_foldl_attempt (owned : options.owner? key = some owner)
    {attempts : List OptionAttempt} (others : ∀ next ∈ attempts, next.axis ≠ owner) :
    (attempts.foldl attempt options).get? key = options.get? key := by
  induction attempts generalizing options with
  | nil => rfl
  | cons next rest ih =>
      obtain ⟨another, others⟩ := List.forall_mem_cons.1 others
      rw [List.foldl_cons, ih (owner?_attempt owned next) others, get?_attempt owned another]

/-- A call tries to set options for its axis only. -/
theorem axis_of_mem_attempts {next : OptionAttempt} (member : next ∈ call.attempts configuration) :
    next.axis = call.name := by
  unfold OptionAxis.attempts at member
  cases chosen : call.effectFor? configuration with
  | none => simp [chosen] at member
  | some effect =>
      rw [chosen, Option.map_some, Option.getD_some] at member
      obtain ⟨_, _, rfl⟩ := List.mem_map.1 member
      rfl

/-! ## Outcomes -/

/-- What a call comes to. -/
structure RunsOneEffect (configuration : Configuration) (options : ExplicitOptions)
    (call : OptionAxis) : Prop where
  unique : ∀ effect other, call.Chooses configuration effect →
    call.Chooses configuration other → effect = other
  /-- There is an effect unless no rule applies and nothing is to be set then. -/
  unmatched_iff : (∀ effect, ¬ call.Chooses configuration effect) ↔
    call.fallback = none ∧ ∀ rule ∈ call.rules, rule.applies configuration = false
  /-- Without an effect a call tries to set nothing, changes nothing and fails. -/
  unmatched : (∀ effect, ¬ call.Chooses configuration effect) →
    call.attempts configuration = [] ∧ options.runAxis configuration call =
      (options, .error (.noOptionMatch configuration.display call.name))
  /-- The effect is what a call tries to set; it is run to its end, and nothing else is done. -/
  runs : ∀ effect, call.Chooses configuration effect →
    call.attempts configuration = effect.attempts call.name ∧
      (options.runAxis configuration call).1 = (effect.attempts call.name).foldl attempt options
  /-- A call fails when its effect sets an option of another axis, and then reports the first
  one, and otherwise succeeds. -/
  outcome : ∀ effect, call.Chooses configuration effect →
    ((options.runAxis configuration call).2 = .ok () ∧
      ∀ entry ∈ effect, ∀ owner, ¬ options.IsForeign call.name entry.1 owner) ∨
    ∃ key owner, (options.runAxis configuration call).2 =
        .error (.optionKeyCollision configuration.display key call.name owner) ∧
      options.CollidesAt call.name effect key owner

theorem runsOneEffect (configuration : Configuration) (options : ExplicitOptions)
    (call : OptionAxis) : RunsOneEffect configuration options call where
  unique effect other chosen chosenOther := by
    rw [OptionAxis.chooses_iff] at chosen chosenOther
    exact Option.some.inj (chosen.symm.trans chosenOther)
  unmatched_iff := OptionAxis.forall_not_chooses_iff
  unmatched none := by
    simp only [OptionAxis.chooses_iff, ← Option.eq_none_iff_forall_ne_some] at none
    simp [runAxis, OptionAxis.attempts, none]
  runs effect chosen := by
    have attempts_eq : call.attempts configuration = effect.attempts call.name := by
      rw [OptionAxis.attempts, OptionAxis.chooses_iff.1 chosen]
      rfl
    exact ⟨attempts_eq, by rw [runAxis_fst, attempts_eq]⟩
  outcome effect chosen := by
    rw [OptionAxis.chooses_iff] at chosen
    rcases options.apply_snd_cases call.name effect with ⟨isNone, own⟩ |
      ⟨key, owner, isFound, collides⟩
    · refine .inl ⟨?_, own⟩
      unfold runAxis
      rw [chosen]
      dsimp only
      split <;> simp_all
    · refine .inr ⟨key, owner, ?_, collides⟩
      unfold runAxis
      rw [chosen]
      dsimp only
      split <;> simp_all

/-- How the options are owned after calls, and what becomes of that. -/
structure OwnedByFirst (configuration : Configuration) (calls : List OptionAxis) : Prop where
  /-- An option belongs to the first axis that has tried to set it, and has the last value
  that this axis has tried.  There are no owners without values, and no values without
  owners. -/
  settled : (afterCalls configuration calls).SettledBy (calls.flatMap (·.attempts configuration))
  /-- Options keep their owners for ever, and their values until their owners are called. -/
  kept : ∀ later key owner, (afterCalls configuration calls).owner? key = some owner →
    (afterCalls configuration (calls ++ later)).owner? key = some owner ∧
      ((∀ call ∈ later, call.name ≠ owner) →
        (afterCalls configuration (calls ++ later)).get? key =
          (afterCalls configuration calls).get? key)
  /-- Whatever has been called before, one more call runs one effect at most. -/
  next : ∀ call, RunsOneEffect configuration (afterCalls configuration calls) call

/-- Whatever calls are made, options belong to the axes that were the first to set them. -/
theorem first_axis_owns (configuration : Configuration) (calls : List OptionAxis) :
    OwnedByFirst configuration calls where
  settled := by
    rw [afterCalls_eq]
    exact settledBy_foldl_attempt _
  kept later key owner owned := by
    have split : afterCalls configuration (calls ++ later) =
        (later.flatMap (·.attempts configuration)).foldl attempt
          (afterCalls configuration calls) := by
      rw [afterCalls_eq, afterCalls_eq, List.flatMap_append, List.foldl_append]
    rw [split]
    refine ⟨owner?_foldl_attempt owned _, fun others => get?_foldl_attempt owned ?_⟩
    intro next member
    obtain ⟨call, isCall, inCall⟩ := List.mem_flatMap.1 member
    rw [axis_of_mem_attempts inCall]
    exact others call isCall
  next call := runsOneEffect configuration _ call

/-- A call that fails has still set the options that it could. -/
example :
    let configuration := Configuration.new "app" "Debug" "x64"
    let packaging := OptionAxis.selectWithFallback "Packaging" []
      [("Format", .text "zip"), ("OutputFile", .text "b.zip"), ("Format", .text "apk")]
    let options := afterCalls configuration [.assign "OutputFile" (.text "a.apk"), packaging]
    options.get? "OutputFile" = some (.text "a.apk") ∧
      options.owner? "OutputFile" = some "OutputFile" ∧
      options.get? "Format" = some (.text "apk") ∧ options.owner? "Format" = some "Packaging" :=
  ⟨rfl, rfl, rfl, rfl⟩

end ExplicitOptions

end ProjectFiles
