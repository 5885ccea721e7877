import ProjectFiles.Generation.Context
import ProjectFiles.Proofs.Options
import ProjectFiles.Proofs.Validation.Acceptance

/-!
# What axes demand of configurations

An axis without a fallback demands that one of its rules applies to a configuration.  The
options of configurations are computed just when each of them meets the demands of all axes.
Otherwise the first configuration that does not is reported, with the first axis whose demand
it does not meet.  What has to be the same in the whole file is then read off the options.
-/

namespace ProjectFiles

/-! ## Demands -/

/-- What an axis demands of a configuration. -/
structure Demand where
  axis : String
  isMet : Configuration → Bool

namespace Demand

/-- One of some values is chosen on an axis, or nothing at all. -/
def choice (axis : String) (values : List String) : Demand where
  axis := axis
  isMet configuration := (configuration.chosen? axis).all values.contains

/-- Whether a configuration meets all demands. -/
def AreMet (demands : List Demand) (configuration : Configuration) : Prop :=
  ∀ demand ∈ demands, demand.isMet configuration = true

/-- Whether several configurations do. -/
def AreMetByAll (demands : List Demand) (configurations : List Configuration) : Prop :=
  ∀ configuration ∈ configurations, AreMet demands configuration

instance {demands : List Demand} {configurations : List Configuration} :
    Decidable (AreMetByAll demands configurations) :=
  inferInstanceAs (Decidable (∀ configuration ∈ configurations, ∀ demand ∈ demands,
    demand.isMet configuration = true))

/-- The first demand that a configuration does not meet. -/
def firstUnmet? (demands : List Demand) (configuration : Configuration) : Option Demand :=
  demands.find? fun demand => !demand.isMet configuration

/-- The first configuration that does not meet all demands, and the first one that it does
not meet. -/
def firstOffence? (demands : List Demand) (configurations : List Configuration) :
    Option (Configuration × Demand) :=
  configurations.findSome? fun configuration =>
    (firstUnmet? demands configuration).map fun demand => (configuration, demand)

variable {demands : List Demand} {configuration : Configuration}
variable {configurations : List Configuration}

theorem firstUnmet?_eq_none_iff :
    firstUnmet? demands configuration = none ↔ AreMet demands configuration := by
  simp [firstUnmet?, AreMet]

theorem exists_firstOffence? (unmet : ¬ AreMetByAll demands configurations) :
    ∃ configuration demand,
      firstOffence? demands configurations = some (configuration, demand) := by
  cases found : firstOffence? demands configurations with
  | some offence => exact ⟨offence.1, offence.2, rfl⟩
  | none =>
      refine absurd (fun configuration member => ?_) unmet
      have noneUnmet := List.findSome?_eq_none_iff.1 found configuration member
      exact firstUnmet?_eq_none_iff.1 (Option.map_eq_none_iff.1 noneUnmet)

/-- Before the first offence all demands are met. -/
theorem of_firstOffence?_eq_some {demand : Demand}
    (found : firstOffence? demands configurations = some (configuration, demand)) :
    firstUnmet? demands configuration = some demand ∧
      ∃ former latter, configurations = former ++ configuration :: latter ∧
        ∀ other ∈ former, AreMet demands other := by
  obtain ⟨former, offender, latter, spelled, offends, earlier⟩ := List.findSome?_eq_some_iff.1 found
  obtain ⟨unmet, isUnmet, isOffence⟩ := Option.map_eq_some_iff.1 offends
  cases isOffence
  refine ⟨isUnmet, former, latter, spelled, fun other inFormer => ?_⟩
  exact firstUnmet?_eq_none_iff.1 (Option.map_eq_none_iff.1 (earlier other inFormer))

end Demand

/-! ## Axes and their demands -/

namespace OptionRule

variable {axis value : String} {effect : OptionEffect} {configuration : Configuration}

@[simp]
theorem applies_setting : (setting axis value effect).applies configuration =
    (configuration.chosen? axis == some value) := rfl

@[simp]
theorem applies_defaultSetting : (defaultSetting axis value effect).applies configuration =
    (configuration.chosen? axis).all (· == value) := rfl

@[simp]
theorem applies_output {kind : OutputKind} :
    (output kind effect).applies configuration = (configuration.output == kind) := rfl

end OptionRule

namespace OptionAxis

variable {configuration : Configuration}

/-- Whether an axis has something to set just for the configurations that meet a demand. -/
structure Makes (axis : OptionAxis) (demand : Demand) : Prop where
  name : axis.name = demand.axis
  isSome_effectFor? : ∀ configuration,
    (axis.effectFor? configuration).isSome = demand.isMet configuration

/-- An axis that has no fallback demands that one of its rules applies. -/
theorem makes_of_iff {axis : OptionAxis} {demand : Demand} (name : axis.name = demand.axis)
    (noFallback : axis.fallback = none)
    (applies : ∀ configuration,
      (∃ rule ∈ axis.rules, rule.applies configuration = true) ↔
        demand.isMet configuration = true) :
    axis.Makes demand where
  name := name
  isSome_effectFor? configuration := by
    rw [Bool.eq_iff_iff, ← applies, ← List.find?_isSome]
    unfold effectFor?
    cases axis.rules.find? fun rule => rule.applies configuration with
    | some rule => rfl
    | none => rw [noFallback]; rfl

/-- Only an axis without a fallback can have nothing to set. -/
theorem find?_isNone_eq (axes : List OptionAxis) :
    axes.find? (fun axis => (axis.effectFor? configuration).isNone) =
      (axes.filter (·.fallback.isNone)).find? fun axis =>
        (axis.effectFor? configuration).isNone := by
  rw [List.find?_filter]
  congr 1
  funext axis
  unfold effectFor?
  cases axis.rules.find? fun rule => rule.applies configuration with
  | some rule => simp
  | none => simp only [and_self, Bool.decide_eq_true]

/-- The first axis that has nothing to set makes the first demand that is not met. -/
theorem map_find?_isNone_eq {axes : List OptionAxis} {demands : List Demand}
    (made : List.Forall₂ Makes axes demands) :
    (axes.find? fun axis => (axis.effectFor? configuration).isNone).map (·.name) =
      (Demand.firstUnmet? demands configuration).map (·.axis) := by
  unfold Demand.firstUnmet?
  induction made with
  | nil => rfl
  | @cons axis demand _ _ makes _ ih =>
      rw [List.find?_cons, List.find?_cons, ← makes.isSome_effectFor?, Option.not_isSome]
      cases (axis.effectFor? configuration).isNone with
      | true => exact congrArg some makes.name
      | false => exact ih

end OptionAxis

/-- The axes of a file format, the demands of those without a fallback, and what makes the
options of all of them computable. -/
structure MakeDemands (axes : Configuration → List OptionAxis) (demands : List Demand) :
    Prop where
  uniform : ∀ configuration, (axes configuration).all (·.isUniform) = true
  nodup : ∀ configuration, ((axes configuration).flatMap (·.keys)).Nodup
  made : ∀ configuration,
    List.Forall₂ OptionAxis.Makes ((axes configuration).filter (·.fallback.isNone)) demands

/-- Whether options are those that axes give a configuration. -/
def ExplicitOptions.Follow (options : ExplicitOptions) (configuration : Configuration)
    (axes : List OptionAxis) : Prop :=
  ∀ axis ∈ axes, ∃ effect, axis.effectFor? configuration = some effect ∧
    ∀ key ∈ axis.keys, options.get? key = effect.lookup key

namespace MakeDemands

variable {axes : Configuration → List OptionAxis} {demands : List Demand}
variable {configuration : Configuration} {demand : Demand} {context : GenerationContext}

theorem map_find?_isNone_eq (make : MakeDemands axes demands) (configuration : Configuration) :
    ((axes configuration).find? fun axis => (axis.effectFor? configuration).isNone).map (·.name) =
      (Demand.firstUnmet? demands configuration).map (·.axis) := by
  rw [OptionAxis.find?_isNone_eq]
  exact OptionAxis.map_find?_isNone_eq (make.made configuration)

/-- A configuration that does not meet a demand has no options. -/
theorem ofAxes_eq_error (make : MakeDemands axes demands)
    (unmet : Demand.firstUnmet? demands configuration = some demand) :
    ExplicitOptions.ofAxes configuration (axes configuration) =
      .error (.noOptionMatch configuration.display demand.axis) := by
  have stuck := make.map_find?_isNone_eq configuration
  rw [unmet] at stuck
  obtain ⟨axis, found, named⟩ := Option.map_eq_some_iff.1 stuck
  rcases ExplicitOptions.ofAxes_cases (make.uniform configuration) (make.nodup configuration) with
    ⟨other, alsoFound, failed⟩ | ⟨_, _, follow⟩
  · rw [found] at alsoFound
    cases alsoFound
    rw [failed, named]
  · obtain ⟨_, isSome, _⟩ := follow axis (List.mem_of_find?_eq_some found)
    have isNone := List.find?_some found
    rw [isSome] at isNone
    cases isNone

/-- One that meets all of them has what the axes set. -/
theorem exists_ofAxes_eq_ok (make : MakeDemands axes demands)
    (met : Demand.AreMet demands configuration) :
    ∃ options, ExplicitOptions.ofAxes configuration (axes configuration) = .ok options ∧
      options.Follow configuration (axes configuration) := by
  rcases ExplicitOptions.ofAxes_cases (make.uniform configuration) (make.nodup configuration) with
    ⟨axis, found, _⟩ | follows
  · have stuck := make.map_find?_isNone_eq configuration
    rw [found, Demand.firstUnmet?_eq_none_iff.2 met] at stuck
    cases stuck
  · exact follows

/-- The first offence keeps the options of a file from being computed. -/
theorem computeOptions_eq_error (make : MakeDemands axes demands)
    (offence : Demand.firstOffence? demands context.configurations =
      some (configuration, demand)) :
    (context.computeOptions fun configuration => .ok (axes configuration)) =
      .error (.noOptionMatch configuration.display demand.axis) := by
  obtain ⟨unmet, former, latter, spelled, met⟩ := Demand.of_firstOffence?_eq_some offence
  unfold GenerationContext.computeOptions
  rw [spelled]
  refine mapM_eq_error (fun other inFormer => ?_) (make.ofAxes_eq_error unmet)
  obtain ⟨options, computed, _⟩ := make.exists_ofAxes_eq_ok (met other inFormer)
  exact ⟨options, computed⟩

/-- Without an offence they are computed. -/
theorem exists_computeOptions_eq_ok (make : MakeDemands axes demands)
    (met : Demand.AreMetByAll demands context.configurations) :
    ∃ options, (context.computeOptions fun configuration => .ok (axes configuration)) =
        .ok options ∧
      List.Forall₂ (fun configuration own => own.Follow configuration (axes configuration))
        context.configurations options := by
  unfold GenerationContext.computeOptions
  generalize context.configurations = configurations at met
  induction configurations with
  | nil => exact ⟨[], rfl, .nil⟩
  | cons configuration rest ih =>
      obtain ⟨own, computed, follow⟩ :=
        make.exists_ofAxes_eq_ok (met configuration List.mem_cons_self)
      obtain ⟨others, areOthers, followOthers⟩ :=
        ih fun other inRest => met other (List.mem_cons_of_mem _ inRest)
      refine ⟨own :: others, ?_, .cons follow followOthers⟩
      exact mapM_eq_ok_iff.2 (.cons computed (mapM_eq_ok_iff.1 areOthers))

end MakeDemands

/-! ## Options of a whole file -/

namespace ExplicitOptions

variable {key : String} {fallback : Value} {texts : List String} {maps : List ExplicitOptions}
variable {read : Configuration → Option String} {configurations : List Configuration}

/-- Texts are collected in the order in which they are first seen. -/
theorem foldl_unseen_eq (texts : List String) :
    texts.foldl (fun seen text =>
      if seen.any (·.same (.text text)) then seen else seen ++ [.text text]) [] =
      texts.eraseDups.map Value.text := by
  induction texts using List.reverseRecOn with
  | nil => rfl
  | append_singleton former text ih =>
      have isSeen : (former.eraseDups.map Value.text).any (·.same (.text text)) =
          former.contains text := by
        rw [Bool.eq_iff_iff]
        simp [Value.same]
      have isNew : [text].removeAll former = if former.contains text then [] else [text] := by
        cases seen : former.contains text <;> simpa [List.removeAll] using seen
      rw [List.foldl_concat, ih, isSeen, List.eraseDups_append, isNew]
      cases former.contains text <;> simp [List.eraseDups_cons]

theorem distinctValues_eq
    (reads : maps.map (fun own => (own.get? key).getD fallback) = texts.map .text) :
    distinctValues key fallback maps = texts.eraseDups.map .text := by
  have ofValues : distinctValues key fallback maps =
      (maps.map fun own => (own.get? key).getD fallback).foldl (fun seen value =>
        if seen.any (·.same value) then seen else seen ++ [value]) [] := by
    rw [List.foldl_map]
    rfl
  rw [ofValues, reads, List.foldl_map, foldl_unseen_eq]

/-- Whether a text of every configuration is the value of an option. -/
def ReadAs (read : Configuration → Option String) (key : String)
    (configurations : List Configuration) (maps : List ExplicitOptions) : Prop :=
  List.Forall₂ (fun configuration own =>
    ∃ text, read configuration = some text ∧ own.get? key = some (.text text)) configurations maps

/-- What is read of a configuration is read of the options that axes give it. -/
theorem ReadAs.of_follow {axes : Configuration → List OptionAxis} {demands : List Demand}
    (follow : List.Forall₂ (fun configuration own => own.Follow configuration (axes configuration))
      configurations maps)
    (met : Demand.AreMetByAll demands configurations)
    (reads : ∀ {configuration : Configuration} {own : ExplicitOptions},
      Demand.AreMet demands configuration → own.Follow configuration (axes configuration) →
        ∃ text, read configuration = some text ∧ own.get? key = some (.text text)) :
    ReadAs read key configurations maps :=
  ((List.forall₂_and_left _ _).2 ⟨met, follow⟩).imp fun _ _ both => reads both.1 both.2

theorem ReadAs.map_eq (areRead : ReadAs read key configurations maps) :
    maps.map (fun own => (own.get? key).getD fallback) =
      (configurations.filterMap read).map .text := by
  induction areRead with
  | nil => rfl
  | cons isRead _ ih =>
      obtain ⟨text, isText, isValue⟩ := isRead
      rw [List.map_cons, ih, List.filterMap_cons_some isText, isValue]
      rfl

theorem ReadAs.exists_eq_some (areRead : ReadAs read key configurations maps)
    {configuration : Configuration} (member : configuration ∈ configurations) :
    ∃ text, read configuration = some text := by
  induction areRead with
  | nil => cases member
  | cons isRead _ ih =>
      rcases List.mem_cons.1 member with rfl | inRest
      · obtain ⟨text, isText, _⟩ := isRead
        exact ⟨text, isText⟩
      · exact ih inRest

/-- Configurations agree just when there are no two texts. -/
theorem ReadAs.agree_iff (areRead : ReadAs read key configurations maps) :
    Configuration.Agree read configurations ↔
      ∀ left ∈ configurations.filterMap read, ∀ right ∈ configurations.filterMap read,
        left = right := by
  constructor
  · intro agree left isLeft right isRight
    obtain ⟨former, isFormer, ofFormer⟩ := List.mem_filterMap.1 isLeft
    obtain ⟨latter, isLatter, ofLatter⟩ := List.mem_filterMap.1 isRight
    have alike := agree former isFormer latter isLatter
    exact Option.some.inj (ofFormer.symm.trans (alike.trans ofLatter))
  · intro same former isFormer latter isLatter
    obtain ⟨left, ofFormer⟩ := areRead.exists_eq_some isFormer
    obtain ⟨right, ofLatter⟩ := areRead.exists_eq_some isLatter
    rw [ofFormer, ofLatter, same left (List.mem_filterMap.2 ⟨former, isFormer, ofFormer⟩) right
      (List.mem_filterMap.2 ⟨latter, isLatter, ofLatter⟩)]

/-- An option on which all configurations agree has one value. -/
theorem ReadAs.exists_uniform_eq_ok (areRead : ReadAs read key configurations maps)
    (agree : Configuration.Agree read configurations) (file : Path) (fallback : Value) :
    ∃ value, uniform file key maps fallback = .ok value := by
  have same := areRead.agree_iff.1 agree
  unfold uniform
  rw [distinctValues_eq areRead.map_eq]
  cases spelled : configurations.filterMap read with
  | nil => exact ⟨fallback, rfl⟩
  | cons text rest =>
      rw [spelled] at same
      have noOther : rest.filter (fun other => !other == text) = [] := by
        refine List.filter_eq_nil_iff.2 fun other inRest => ?_
        simp [same other (List.mem_cons_of_mem _ inRest) text List.mem_cons_self]
      rw [List.eraseDups_cons, noOther]
      exact ⟨.text text, rfl⟩

/-- One on which they do not agree has several, and they are in conflict. -/
theorem ReadAs.uniform_eq_error (areRead : ReadAs read key configurations maps)
    (disagree : ¬ Configuration.Agree read configurations) (file : Path) (fallback : Value) :
    uniform file key maps fallback =
      .error (.configurationConflict file
        (.optionValues key (configurations.filterMap read).eraseDups)) := by
  have isCollected : ∀ text ∈ configurations.filterMap read,
      text ∈ (configurations.filterMap read).eraseDups := fun _ => List.mem_eraseDups.2
  rw [areRead.agree_iff] at disagree
  unfold uniform
  rw [distinctValues_eq areRead.map_eq]
  cases collected : (configurations.filterMap read).eraseDups with
  | nil =>
      rw [collected] at isCollected
      refine absurd (fun left isLeft => ?_) disagree
      exact absurd (isCollected left isLeft) List.not_mem_nil
  | cons text rest =>
      cases rest with
      | nil =>
          simp only [collected, List.mem_singleton] at isCollected
          refine absurd (fun left isLeft right isRight => ?_) disagree
          exact (isCollected left isLeft).trans (isCollected right isRight).symm
      | cons other others =>
          have shown : ((text :: other :: others).map Value.text).map Value.display =
              text :: other :: others := by
            rw [List.map_map]
            exact List.map_id _
          exact congrArg (fun values => Except.error
            (GenerationError.configurationConflict file (.optionValues key values))) shown

end ExplicitOptions

end ProjectFiles
