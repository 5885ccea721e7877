import ProjectFiles.Options
import ProjectFiles.Proofs.Error
import ProjectFiles.Proofs.Template.Scope

/-!
# Options of axes that own different keys

Every effect of an axis sets the same keys.  When no two axes set the same key,
computing the options of a configuration never runs into an option of another
axis: it fails only at an axis none of whose rules applies, and otherwise sets
every key of every axis.
-/

namespace ProjectFiles

open Text

/-- What is collected by leaving out what has been seen before was given. -/
theorem mem_foldl_unseen {α β : Type} (isSeen : List β → α → Bool) (read : α → β) {members : List α}
    {seen : List β} {value : β}
    (member : value ∈ members.foldl (fun seen member =>
      if isSeen seen member then seen else seen ++ [read member]) seen) :
    value ∈ seen ∨ ∃ given ∈ members, value = read given := by
  induction members generalizing seen with
  | nil => exact .inl member
  | cons first rest ih =>
      rcases ih member with inSeen | ⟨given, inRest, isRead⟩
      · dsimp only at inSeen
        split at inSeen
        · exact .inl inSeen
        · rcases List.mem_append.1 inSeen with older | isNew
          · exact .inl older
          · exact .inr ⟨first, List.mem_cons_self, List.mem_singleton.1 isNew⟩
      · exact .inr ⟨given, List.mem_cons_of_mem _ inRest, isRead⟩

namespace OptionAxis

/-- The effects that an axis can have. -/
def effects (axis : OptionAxis) : List OptionEffect :=
  axis.rules.map (·.effect) ++ axis.fallback.toList

/-- The keys that an axis sets. -/
def keys (axis : OptionAxis) : List String :=
  (axis.effects.head?.getD []).map (·.1)

/-- Whether every effect of an axis sets the same keys. -/
def isUniform (axis : OptionAxis) : Bool :=
  axis.effects.all fun effect => effect.map (·.1) == axis.keys

theorem mem_effects_of_effectFor? {axis : OptionAxis} {configuration : Configuration}
    {effect : OptionEffect} (chosen : axis.effectFor? configuration = some effect) :
    effect ∈ axis.effects := by
  unfold effectFor? at chosen
  unfold effects
  split at chosen
  · rename_i rule found
    cases chosen
    exact List.mem_append_left _ (List.mem_map_of_mem (List.mem_of_find?_eq_some found))
  · exact List.mem_append_right _ (Option.mem_toList.2 chosen)

theorem keys_of_effectFor? {axis : OptionAxis} (uniform : axis.isUniform = true)
    {configuration : Configuration} {effect : OptionEffect}
    (chosen : axis.effectFor? configuration = some effect) : effect.map (·.1) = axis.keys :=
  eq_of_beq (List.all_eq_true.1 uniform effect (mem_effects_of_effectFor? chosen))

/-- Whether every value that an axis sets has a text. -/
def HasTexts (avoided : List Char) (axis : OptionAxis) : Prop :=
  ∀ effect ∈ axis.effects, ∀ entry ∈ effect, entry.2.HasText avoided

/-- Whether a value is fixed, and not taken from a model. -/
def isFixedValue : Value → Bool
  | .text text => isFixed text.toList
  | .integer _ | .omit => true
  | _ => false

theorem hasText_of_isFixedValue {avoided : List Char} (within : avoided ⊆ separators)
    {value : Value} (fixed : isFixedValue value = true) : value.HasText avoided := by
  unfold isFixedValue at fixed
  split at fixed
  · refine Value.hasText_text ?_
    have avoids := Avoids.of_isFixed within fixed
    rwa [String.ofList_toList] at avoids
  · exact Value.hasText_integer within _
  · exact Value.hasText_omit within
  · cases fixed

/-- Axes that set fixed values only. -/
theorem hasTexts_of_isFixedValue {avoided : List Char} (within : avoided ⊆ separators)
    {axis : OptionAxis}
    (fixed : (axis.effects.all fun effect => effect.all fun entry => isFixedValue entry.2) = true) :
    axis.HasTexts avoided := by
  intro effect isEffect entry member
  have allFixed := List.all_eq_true.1 fixed effect isEffect
  exact hasText_of_isFixedValue within (List.all_eq_true.1 allFixed entry member)

theorem hasTexts_assign {avoided : List Char} {key : String} {value : Value}
    (hasText : value.HasText avoided) : (OptionAxis.assign key value).HasTexts avoided := by
  intro effect isEffect entry member
  have single : effect = [(key, value)] := by simpa [effects, assign] using isEffect
  rw [single, List.mem_singleton] at member
  rw [member]
  exact hasText

end OptionAxis

namespace ExplicitOptions

variable {options : ExplicitOptions} {configuration : Configuration}

theorem get?_record (options : ExplicitOptions) (axis key : String) (value : Value)
    (probe : String) :
    (options.record axis key value).get? probe =
      if probe = key then some value else options.get? probe := by
  unfold get? record
  rw [SortedMap.get?_insert]
  simp only [Std.LawfulEqOrd.compare_eq_iff_eq]

theorem owner?_record (options : ExplicitOptions) (axis key : String) (value : Value)
    (probe : String) :
    (options.record axis key value).owner? probe =
      if probe = key then some axis else options.owner? probe := by
  unfold owner? record
  rw [SortedMap.get?_insert]
  simp only [Std.LawfulEqOrd.compare_eq_iff_eq]

theorem lookup_eq_none {effect : OptionEffect} {key : String}
    (absent : key ∉ effect.map (·.1)) : effect.lookup key = none := by
  rw [List.lookup_eq_none_iff]
  intro entry member
  rw [bne_iff_ne]
  rintro rfl
  exact absent (List.mem_map_of_mem member)

theorem exists_lookup_eq_some {effect : OptionEffect} {key : String}
    (member : key ∈ effect.map (·.1)) : ∃ value, effect.lookup key = some value := by
  cases found : effect.lookup key with
  | some value => exact ⟨value, rfl⟩
  | none =>
      obtain ⟨entry, inEffect, rfl⟩ := List.mem_map.1 member
      have absent := List.lookup_eq_none_iff.1 found entry inEffect
      simp at absent

/-- A key that belongs to no axis can be set. -/
theorem set_of_unowned {key : String} (unowned : options.owner? key = none) (axis : String)
    (value : Value) : options.set axis key value = (options.record axis key value, none) := by
  simp [set, unowned]

/-- So can all keys of an effect. -/
theorem apply_of_unowned {effect : OptionEffect} (nodup : (effect.map (·.1)).Nodup)
    (unowned : ∀ key ∈ effect.map (·.1), options.owner? key = none) (axis : String) :
    ∃ final, options.apply axis effect = (final, none) ∧
      (∀ probe, final.get? probe = (effect.lookup probe).or (options.get? probe)) ∧
      ∀ probe ∉ effect.map (·.1), final.owner? probe = options.owner? probe := by
  induction effect generalizing options with
  | nil => exact ⟨options, rfl, fun _ => rfl, fun _ _ => rfl⟩
  | cons entry rest ih =>
      obtain ⟨key, value⟩ := entry
      rw [List.map_cons, List.nodup_cons] at nodup
      have isUnowned := unowned key List.mem_cons_self
      have unownedRest : ∀ other ∈ rest.map (·.1),
          (options.record axis key value).owner? other = none := by
        intro other member
        have differs : other ≠ key := by
          rintro rfl
          exact nodup.1 member
        rw [owner?_record, if_neg differs]
        exact unowned other (List.mem_cons_of_mem _ member)
      obtain ⟨final, applied, reads, keeps⟩ := ih nodup.2 unownedRest
      refine ⟨final, ?_, fun probe => ?_, fun probe absent => ?_⟩
      · unfold apply
        simp [set_of_unowned isUnowned, applied]
      · rw [reads, get?_record, List.lookup_cons]
        by_cases same : probe = key
        · subst same
          simp [lookup_eq_none nodup.1]
        · have differs : (probe == key) = false := by simpa using same
          simp [same, differs]
      · rw [List.map_cons, List.mem_cons, not_or] at absent
        rw [keeps probe absent.2, owner?_record, if_neg absent.1]

/-- What computing axes comes to when their keys are all different: an axis without
a rule that applies ends it, and otherwise every key of every axis is set. -/
theorem runAxes_cases {axes : List OptionAxis}
    (uniform : ∀ axis ∈ axes, axis.isUniform = true)
    (nodup : (axes.flatMap (·.keys)).Nodup)
    (unowned : ∀ key ∈ axes.flatMap (·.keys), options.owner? key = none) :
    (∃ axis, axes.find? (fun axis => (axis.effectFor? configuration).isNone) = some axis ∧
      options.runAxes configuration axes =
        .error (.noOptionMatch configuration.display axis.name)) ∨
    ∃ final, options.runAxes configuration axes = .ok final ∧
      (∀ key ∉ axes.flatMap (·.keys), final.get? key = options.get? key) ∧
      ∀ axis ∈ axes, ∃ effect, axis.effectFor? configuration = some effect ∧
        ∀ key ∈ axis.keys, final.get? key = effect.lookup key := by
  induction axes generalizing options with
  | nil => exact .inr ⟨options, rfl, fun _ _ => rfl, by simp⟩
  | cons axis rest ih =>
      cases chosen : axis.effectFor? configuration with
      | none =>
          refine .inl ⟨axis, by simp [chosen], ?_⟩
          simp [runAxes, runAxis, chosen]
      | some effect =>
          have keys_eq := OptionAxis.keys_of_effectFor? (uniform axis List.mem_cons_self) chosen
          simp only [List.flatMap_cons, List.mem_append] at nodup unowned
          obtain ⟨nodupOwn, nodupRest, disjoint⟩ := List.nodup_append.1 nodup
          rw [← keys_eq] at nodupOwn
          obtain ⟨next, applied, reads, keepsOwners⟩ := apply_of_unowned nodupOwn
            (fun key member => unowned key (.inl (keys_eq ▸ member))) axis.name
          have lookup_none : ∀ key ∉ axis.keys, effect.lookup key = none :=
            fun key absent => lookup_eq_none (keys_eq ▸ absent)
          have unownedRest : ∀ key ∈ rest.flatMap (·.keys), next.owner? key = none := by
            intro key member
            have absent : key ∉ axis.keys := fun own => disjoint key own key member rfl
            rw [keepsOwners key (keys_eq ▸ absent)]
            exact unowned key (.inr member)
          have steps : options.runAxes configuration (axis :: rest) =
              next.runAxes configuration rest := by
            simp [runAxes, runAxis, chosen, applied]
          rw [steps, List.find?_cons]
          simp only [chosen, Option.isNone_some]
          rcases ih (fun other member => uniform other (List.mem_cons_of_mem _ member)) nodupRest
            unownedRest with ⟨stuck, found, failed⟩ | ⟨final, succeeded, keeps, sets⟩
          · exact .inl ⟨stuck, found, failed⟩
          · refine .inr ⟨final, succeeded, ?_, ?_⟩
            · intro key absent
              simp only [List.flatMap_cons, List.mem_append, not_or] at absent
              rw [keeps key absent.2, reads, lookup_none key absent.1, Option.none_or]
            · intro other member
              rcases List.mem_cons.1 member with rfl | inRest
              · refine ⟨effect, chosen, fun key isOwn => ?_⟩
                have notLater : key ∉ rest.flatMap (·.keys) :=
                  fun later => disjoint key isOwn key later rfl
                obtain ⟨value, found⟩ := exists_lookup_eq_some (keys_eq ▸ isOwn)
                rw [keeps key notLater, reads, found, Option.some_or]
              · exact sets other inRest

/-- The options of axes whose keys are all different. -/
theorem ofAxes_cases {axes : List OptionAxis} (uniform : axes.all (·.isUniform) = true)
    (nodup : (axes.flatMap (·.keys)).Nodup) :
    (∃ axis, axes.find? (fun axis => (axis.effectFor? configuration).isNone) = some axis ∧
      ofAxes configuration axes = .error (.noOptionMatch configuration.display axis.name)) ∨
    ∃ options, ofAxes configuration axes = .ok options ∧
      ∀ axis ∈ axes, ∃ effect, axis.effectFor? configuration = some effect ∧
        ∀ key ∈ axis.keys, options.get? key = effect.lookup key := by
  rcases runAxes_cases (List.all_eq_true.1 uniform) nodup
    (fun key _ => (rfl : empty.owner? key = none)) with failed | ⟨options, succeeded, _, sets⟩
  · exact .inl failed
  · exact .inr ⟨options, succeeded, sets⟩

/-! ## Options in templates -/

/-- Whether the keys of a list are set to values that have texts. -/
def Sets (avoided : List Char) (keys : List String) (options : ExplicitOptions) : Prop :=
  ∀ key ∈ keys, ∃ value, options.get? key = some value ∧ value.HasText avoided

theorem Sets.of_axes {avoided : List Char} {axes : List OptionAxis}
    (uniform : axes.all (·.isUniform) = true)
    (hasTexts : ∀ axis ∈ axes, axis.HasTexts avoided)
    (sets : ∀ axis ∈ axes, ∃ effect, axis.effectFor? configuration = some effect ∧
      ∀ key ∈ axis.keys, options.get? key = effect.lookup key) :
    options.Sets avoided (axes.flatMap (·.keys)) := by
  intro key member
  obtain ⟨axis, isAxis, isKey⟩ := List.mem_flatMap.1 member
  obtain ⟨effect, chosen, reads⟩ := sets axis isAxis
  have keys_eq := OptionAxis.keys_of_effectFor? (List.all_eq_true.1 uniform axis isAxis) chosen
  obtain ⟨value, found⟩ := exists_lookup_eq_some (keys_eq ▸ isKey)
  have inEffect : (key, value) ∈ effect := by
    obtain ⟨former, latter, rfl, _⟩ := List.lookup_eq_some_iff.1 found
    simp
  refine ⟨value, by rw [reads key isKey, found], ?_⟩
  exact hasTexts axis isAxis effect (OptionAxis.mem_effects_of_effectFor? chosen) _ inEffect

/-- Axes whose keys are all different set each of them, or else none of the rules of
some axis applies. -/
theorem yields_ofAxes {avoided : List Char} {axes : List OptionAxis} {keys : List String}
    (keys_eq : axes.flatMap (·.keys) = keys) (nodup : keys.Nodup)
    (uniform : axes.all (·.isUniform) = true)
    (hasTexts : ∀ axis ∈ axes, axis.HasTexts avoided) :
    Yields (fun options => options.Sets avoided keys) (ofAxes configuration axes) := by
  subst keys_eq
  rcases ofAxes_cases uniform nodup with ⟨axis, _, failed⟩ | ⟨options, succeeded, sets⟩
  · rw [failed]
    exact .error ⟨rfl, rfl⟩
  · rw [succeeded]
    exact .ok (.of_axes uniform hasTexts sets)

theorem lookup?_toValue (options : ExplicitOptions) (key : String) :
    options.toValue.lookup? [key] = options.get? key := by
  unfold toValue toList get? SortedMap.get? SortedMap.entry?
  have agree : (fun entry : String × Value => compare key entry.1 == .eq) =
      fun entry => entry.1 == key := by
    funext entry
    rw [Bool.eq_iff_iff, beq_iff_eq, beq_iff_eq, Std.LawfulEqOrd.compare_eq_iff_eq, eq_comm]
  rw [agree]
  simp only [Value.lookup?]
  cases options.values.entries.find? fun entry => entry.1 == key <;> rfl

/-- Options are a record of the keys that are set. -/
theorem Sets.fits {avoided : List Char} {keys : List String} (sets : options.Sets avoided keys) :
    options.toValue.Fits avoided (.record keys) := by
  intro key member
  obtain ⟨value, found, hasText⟩ := sets key member
  exact ⟨value, by rw [lookup?_toValue, found], hasText⟩

/-! ## Options of a whole file -/

theorem mem_distinctValues {key : String} {fallback value : Value} {maps : List ExplicitOptions}
    (member : value ∈ distinctValues key fallback maps) :
    ∃ options ∈ maps, value = (options.get? key).getD fallback := by
  unfold distinctValues at member
  rcases mem_foldl_unseen
    (fun seen options => seen.any fun other => other.same ((options.get? key).getD fallback))
    (fun options : ExplicitOptions => (options.get? key).getD fallback) member with
    inNothing | found
  · cases inNothing
  · exact found

/-- A value for the whole file is the fallback or that of some configuration; there
is none only when configurations contradict each other. -/
theorem uniform_cases (file : Path) (key : String) (maps : List ExplicitOptions)
    (fallback : Value) :
    (∃ value, uniform file key maps fallback = .ok value ∧
      (value = fallback ∨ ∃ options ∈ maps, value = (options.get? key).getD fallback)) ∨
    ∃ conflict, uniform file key maps fallback = .error (.configurationConflict file conflict) := by
  unfold uniform
  cases distinct : distinctValues key fallback maps with
  | nil => exact .inl ⟨fallback, rfl, .inl rfl⟩
  | cons first rest =>
      cases rest with
      | nil => exact .inl ⟨first, rfl, .inr (mem_distinctValues (by rw [distinct]; simp))⟩
      | cons second others => exact .inr ⟨_, rfl⟩

theorem yields_uniform {avoided : List Char} {keys : List String} {maps : List ExplicitOptions}
    (sets : ∀ options ∈ maps, options.Sets avoided keys) {key : String} (isKey : key ∈ keys)
    (file : Path) {fallback : Value} (hasText : fallback.HasText avoided) :
    Yields (fun value => value.HasText avoided) (uniform file key maps fallback) := by
  rcases uniform_cases file key maps fallback with ⟨value, found, isRead⟩ | ⟨conflict, failed⟩
  · rw [found]
    rcases isRead with rfl | ⟨options, member, rfl⟩
    · exact .ok hasText
    · obtain ⟨value, isSet, hasText⟩ := sets options member key isKey
      rw [isSet]
      exact .ok hasText
  · rw [failed]
    exact .error (GenerationError.isMendable_configurationConflict file conflict)

end ExplicitOptions

end ProjectFiles
