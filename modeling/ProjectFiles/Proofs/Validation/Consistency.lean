import Mathlib.Data.List.Forall2
import ProjectFiles.Proofs.Validation.Dependencies

/-!
# Agreement of configurations on their dependencies

A project is disputed when some configurations of a file depend on it and others do not.
Every disputed project has one finding, which names both sides.  Whether there are any
depends on the sets of projects that the configurations depend on, and on nothing else.
-/

namespace ProjectFiles.Configuration

open ProjectReference

variable {configurations others : List Configuration} {configuration : Configuration}
variable {reference : ProjectReference}

/-- What a configuration depends on. -/
def identities (configuration : Configuration) : List (List Path.Component × Guid) :=
  configuration.dependencies.map ProjectReference.identity

/-- All dependencies of configurations, one after the other. -/
def dependenciesOf (configurations : List Configuration) : List ProjectReference :=
  configurations.flatMap (·.dependencies)

/-- Whether two configurations depend on the same projects. -/
def DependAlike (left right : Configuration) : Prop :=
  ∀ key, key ∈ left.identities ↔ key ∈ right.identities

/-- Whether some configurations depend on a project and others do not. -/
def IsDisputed (configurations : List Configuration) (key : List Path.Component × Guid) : Prop :=
  (∃ configuration ∈ configurations, key ∈ configuration.identities) ∧
    ∃ configuration ∈ configurations, key ∉ configuration.identities

/-- What is said of a disputed project: the configurations that depend on it and those that
do not, both in their order. -/
def finding (configurations : List Configuration) (reference : ProjectReference) : String :=
  reference.projectName ++ " (" ++ reference.projectFile.text ++ ") is a dependency of " ++
    labels (configurations.filter fun configuration =>
      reference.identity ∈ configuration.identities) ++
    " but not of " ++
    labels (configurations.filter fun configuration =>
      reference.identity ∉ configuration.identities)

/-- Whether references are the first ones to every disputed project, in their order. -/
structure Disputes (configurations : List Configuration) (disputed : List ProjectReference) :
    Prop where
  mem_iff : ∀ key, key ∈ disputed.map ProjectReference.identity ↔ IsDisputed configurations key
  nodup : (disputed.map ProjectReference.identity).Nodup
  first : ∀ reference ∈ disputed,
    (dependenciesOf configurations)[firstSeen (dependenciesOf configurations) reference]? =
      some reference
  increasing : disputed.Pairwise fun left right =>
    firstSeen (dependenciesOf configurations) left <
      firstSeen (dependenciesOf configurations) right

/-- Whether other configurations depend on the same projects in another order, where also
the dependencies of a configuration can be rearranged and repeated. -/
def Rearranged (configurations others : List Configuration) : Prop :=
  ∃ middle, configurations.Perm middle ∧ List.Forall₂ DependAlike middle others

/-! ## Findings -/

theorem refersTo_iff :
    configuration.refersTo reference = true ↔ reference.identity ∈ configuration.identities :=
  any_sameIdentity_iff

theorem mem_map_identity_dependenciesOf {key : List Path.Component × Guid} :
    key ∈ (dependenciesOf configurations).map ProjectReference.identity ↔
      ∃ configuration ∈ configurations, key ∈ configuration.identities := by
  rw [dependenciesOf, List.map_flatMap]
  exact List.mem_flatMap

/-- Whether some configuration does not depend on the project of a reference. -/
def isLacked (configurations : List Configuration) (reference : ProjectReference) : Bool :=
  configurations.any fun configuration => reference.identity ∉ configuration.identities

/-- The first references to projects that some configuration does not depend on. -/
def lacking (configurations : List Configuration) : List ProjectReference :=
  (consolidatedDependencies configurations).filter (isLacked configurations)

theorem isLacked_iff : isLacked configurations reference = true ↔
    ∃ configuration ∈ configurations, reference.identity ∉ configuration.identities := by
  simp [isLacked]

theorem disputes_lacking (configurations : List Configuration) :
    Disputes configurations (lacking configurations) := by
  have areFirst := firstOfEach_distinct (dependenciesOf configurations)
  have isLacking : ∀ reference, reference ∈ lacking configurations ↔
      reference ∈ distinct (dependenciesOf configurations) ∧
        ∃ configuration ∈ configurations, reference.identity ∉ configuration.identities := by
    intro reference
    rw [lacking, List.mem_filter, isLacked_iff]
    rfl
  have isSublist : (lacking configurations).Sublist (distinct (dependenciesOf configurations)) :=
    List.filter_sublist
  constructor
  · intro key
    rw [IsDisputed, ← mem_map_identity_dependenciesOf, ← areFirst.mem_map_identity_iff]
    constructor
    · intro isListed
      obtain ⟨reference, isMember, rfl⟩ := List.mem_map.1 isListed
      obtain ⟨isDistinct, isMissing⟩ := (isLacking reference).1 isMember
      exact ⟨List.mem_map_of_mem isDistinct, isMissing⟩
    · rintro ⟨isListed, isMissing⟩
      obtain ⟨reference, isDistinct, rfl⟩ := List.mem_map.1 isListed
      exact List.mem_map_of_mem ((isLacking reference).2 ⟨isDistinct, isMissing⟩)
  · exact areFirst.nodup_identity.sublist (isSublist.map ProjectReference.identity)
  · intro reference isMember
    exact (areFirst.mem_iff reference).1 (isSublist.subset isMember)
  · exact areFirst.increasing.sublist isSublist

/-- A project is reported just when some configuration does not depend on it. -/
theorem inconsistency?_eq (configurations : List Configuration) (reference : ProjectReference) :
    inconsistency? configurations reference =
      (Option.guard (isLacked configurations) reference).map (finding configurations) := by
  have refers : ∀ configuration : Configuration, configuration.refersTo reference =
      decide (reference.identity ∈ configuration.identities) := by
    intro configuration
    rw [Bool.eq_iff_iff, refersTo_iff, decide_eq_true_iff]
  have noneMissing : (configurations.filter fun configuration =>
      !configuration.refersTo reference).isEmpty = !isLacked configurations reference := by
    rw [Bool.eq_iff_iff, List.isEmpty_iff, List.filter_eq_nil_iff]
    simp [refers, isLacked]
  unfold inconsistency?
  dsimp only
  rw [noneMissing]
  cases lacked : isLacked configurations reference with
  | false => simp [Option.guard, lacked]
  | true => simp [Option.guard, lacked, finding, refers]

theorem inconsistencies_eq (configurations : List Configuration) :
    inconsistencies configurations = (lacking configurations).map (finding configurations) := by
  rw [inconsistencies, funext (inconsistency?_eq configurations), ← List.map_filterMap,
    List.filterMap_eq_filter, lacking]

theorem foldl_addWarning (result : ValidationResult) (messages : List String) :
    messages.foldl ValidationResult.addWarning result =
      { result with warnings := result.warnings ++ messages } := by
  induction messages generalizing result with
  | nil => simp
  | cons message rest ih => simp [ih, ValidationResult.addWarning]

theorem checkDependencyConsistency_warn (project : String) (several : 2 ≤ configurations.length) :
    checkDependencyConsistency project configurations .warn =
      .ok ⟨true, [], (lacking configurations).map (finding configurations)⟩ := by
  unfold checkDependencyConsistency
  rw [if_neg (by simp; omega), inconsistencies_eq]
  cases (lacking configurations).map (finding configurations) with
  | nil => rfl
  | cons first rest =>
      dsimp only
      rw [foldl_addWarning]
      rfl

theorem checkDependencyConsistency_error (project : String)
    (several : 2 ≤ configurations.length) :
    checkDependencyConsistency project configurations .error =
      if lacking configurations = [] then .ok .new
      else .error (.dependencyInconsistency project
        ("\n".intercalate ((lacking configurations).map (finding configurations)))) := by
  unfold checkDependencyConsistency
  rw [if_neg (by simp; omega), inconsistencies_eq]
  cases lacking configurations <;> rfl

/-! ## Agreement -/

/-- Nothing is disputed just when all configurations depend on the same projects. -/
theorem lacking_eq_nil_iff : lacking configurations = [] ↔
    ∀ left ∈ configurations, ∀ right ∈ configurations, DependAlike left right := by
  have disputes := disputes_lacking configurations
  rw [← List.map_eq_nil_iff (f := ProjectReference.identity), List.eq_nil_iff_forall_not_mem]
  simp only [disputes.mem_iff]
  constructor
  · intro undisputed left isLeft right isRight key
    have carries : ∀ {one other}, one ∈ configurations → other ∈ configurations →
        key ∈ one.identities → key ∈ other.identities := by
      intro one other isOne isOther depends
      by_contra lacks
      exact undisputed key ⟨⟨one, isOne, depends⟩, other, isOther, lacks⟩
    exact ⟨carries isLeft isRight, carries isRight isLeft⟩
  · rintro alike key ⟨⟨one, isOne, depends⟩, other, isOther, lacks⟩
    exact lacks ((alike one isOne other isOther key).1 depends)

/-- What is related to a list has all its members related to members of that list. -/
theorem exists_of_mem_of_forall₂ {α β : Type} {related : α → β → Prop} {members : List α}
    {images : List β} (all : List.Forall₂ related members images) :
    ∀ image ∈ images, ∃ member ∈ members, related member image := by
  induction all with
  | nil => simp
  | cons first _ ih =>
      intro image isImage
      rcases List.mem_cons.1 isImage with rfl | inRest
      · exact ⟨_, List.mem_cons_self, first⟩
      · obtain ⟨member, isMember, isRelated⟩ := ih image inRest
        exact ⟨member, List.mem_cons_of_mem _ isMember, isRelated⟩

/-- Lists whose members depend on what some members of another depend on are alike with it. -/
theorem dependAlike_of_each (alike : ∀ left ∈ configurations, ∀ right ∈ configurations,
      DependAlike left right)
    (each : ∀ other ∈ others, ∃ configuration ∈ configurations,
      DependAlike configuration other) :
    ∀ left ∈ others, ∀ right ∈ others, DependAlike left right := by
  intro left isLeft right isRight key
  obtain ⟨one, isOne, sameLeft⟩ := each left isLeft
  obtain ⟨other, isOther, sameRight⟩ := each right isRight
  rw [← sameLeft key, ← sameRight key]
  exact alike one isOne other isOther key

theorem Rearranged.length_eq (rearranged : Rearranged configurations others) :
    configurations.length = others.length := by
  obtain ⟨middle, perm, alike⟩ := rearranged
  exact perm.length_eq.trans alike.length_eq

/-- A rearrangement disputes nothing just when nothing was disputed before. -/
theorem Rearranged.lacking_eq_nil_iff (rearranged : Rearranged configurations others) :
    lacking others = [] ↔ lacking configurations = [] := by
  obtain ⟨middle, perm, alike⟩ := rearranged
  rw [Configuration.lacking_eq_nil_iff, Configuration.lacking_eq_nil_iff]
  constructor
  · intro othersAlike
    refine dependAlike_of_each othersAlike fun configuration isMember => ?_
    obtain ⟨other, isOther, same⟩ :=
      exists_of_mem_of_forall₂ alike.flip configuration (perm.mem_iff.1 isMember)
    exact ⟨other, isOther, fun key => (same key).symm⟩
  · intro allAlike
    refine dependAlike_of_each allAlike fun other isOther => ?_
    obtain ⟨configuration, isMember, same⟩ := exists_of_mem_of_forall₂ alike other isOther
    exact ⟨configuration, perm.mem_iff.2 isMember, same⟩

/-- Two configurations that depend on a library and one that does not. -/
def divided : List Configuration :=
  let library := GenerationContext.libraryReference false
  [{ Configuration.new "App" "Debug" "x64" with dependencies := [library] },
    Configuration.new "App" "Profile" "x64",
    { Configuration.new "App" "Release" "x64" with dependencies := [library, library] }]

end ProjectFiles.Configuration
