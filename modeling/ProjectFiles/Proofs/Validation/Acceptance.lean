import ProjectFiles.Proofs.Validation.Configurations

/-!
# Which configurations belong together

The configurations of a file are accepted when there are some, they name one project,
carry one project identifier and have different identities.  Otherwise the first of these
demands that is not met is reported.  Neither the demands nor their order depend on the
order in which the configurations are declared.
-/

namespace ProjectFiles.Configuration

/-- Whether configurations have something in common. -/
def Agree {α : Type} (read : Configuration → α) (configurations : List Configuration) : Prop :=
  ∀ left ∈ configurations, ∀ right ∈ configurations, read left = read right

instance {α : Type} [DecidableEq α] {read : Configuration → α}
    {configurations : List Configuration} : Decidable (Agree read configurations) :=
  inferInstanceAs (Decidable (∀ left ∈ configurations, ∀ right ∈ configurations,
    read left = read right))

/-- Whether configurations can be those of one file. -/
structure BelongTogether (configurations : List Configuration) : Prop where
  nonempty : configurations ≠ []
  names : Agree projectName configurations
  guids : Agree projectGuid configurations
  apart : (configurations.map identity).Nodup

/-- What keeps configurations from being those of one file. -/
inductive Obstacle where
  | missing
  | projectNames
  | projectGuids
  | identities

/-- Whether an obstacle is the first one that configurations meet. -/
def Obstacle.StopsFirst (configurations : List Configuration) : Obstacle → Prop
  | missing => configurations = []
  | projectNames => ¬ Agree projectName configurations
  | projectGuids => Agree projectName configurations ∧ ¬ Agree projectGuid configurations
  | identities =>
      Agree projectName configurations ∧ Agree projectGuid configurations ∧
        ¬ (configurations.map identity).Nodup

/-- `Reports file configurations obstacle error` means that an error reports an obstacle,
by configurations that show it. -/
inductive Reports (file : Path) (configurations : List Configuration) :
    Obstacle → GenerationError → Prop where
  | missing : Reports file configurations .missing (.invalidModel (.noConfigurations file))
  | projectNames {first other : Configuration} (isFirst : first ∈ configurations)
      (isOther : other ∈ configurations) (differ : first.projectName ≠ other.projectName) :
      Reports file configurations .projectNames
        (.configurationConflict file (.projectNames first.projectName other.projectName))
  | projectGuids {first other : Configuration} (isFirst : first ∈ configurations)
      (isOther : other ∈ configurations) (differ : first.projectGuid ≠ other.projectGuid) :
      Reports file configurations .projectGuids
        (.configurationConflict file
          (.projectGuids first.projectGuid other.projectGuid other.display))
  | identities {first second : Configuration}
      (neighbours : [first, second] <:+: sorted configurations)
      (same : first.identity = second.identity) :
      Reports file configurations .identities
        (.configurationConflict file (collision first second))

/-- The obstacle that the form of an error stands for. -/
def obstacleOf? : GenerationError → Option Obstacle
  | .invalidModel _ => some .missing
  | .configurationConflict _ (.projectNames ..) => some .projectNames
  | .configurationConflict _ (.projectGuids ..) => some .projectGuids
  | .configurationConflict _ (.sameIdentity ..) => some .identities
  | _ => none

/-! ## Demands and obstacles -/

section Demands

variable {α : Type} {read : Configuration → α} {configurations others : List Configuration}

theorem Agree.of_perm (agree : Agree read configurations) (perm : configurations.Perm others) :
    Agree read others :=
  fun left isLeft right isRight =>
    agree left (perm.mem_iff.2 isLeft) right (perm.mem_iff.2 isRight)

theorem agree_congr (perm : configurations.Perm others) :
    Agree read configurations ↔ Agree read others :=
  ⟨fun agree => agree.of_perm perm, fun agree => agree.of_perm perm.symm⟩

theorem Agree.map {β : Type} (agree : Agree read configurations) (f : α → β) :
    Agree (fun configuration => f (read configuration)) configurations :=
  fun left isLeft right isRight => congrArg f (agree left isLeft right isRight)

/-- Configurations agree when none differs from the first. -/
theorem find?_differing_eq_none_iff [DecidableEq α] {first : Configuration}
    {rest : List Configuration} :
    ((first :: rest).find? fun other => read other != read first) = none ↔
      Agree read (first :: rest) := by
  simp only [List.find?_eq_none, bne_iff_ne, ne_eq, Decidable.not_not]
  constructor
  · intro same left isLeft right isRight
    exact (same left isLeft).trans (same right isRight).symm
  · intro agree other isOther
    exact agree other isOther first List.mem_cons_self

theorem BelongTogether.not_stopsFirst (together : BelongTogether configurations)
    (obstacle : Obstacle) : ¬ obstacle.StopsFirst configurations := by
  cases obstacle with
  | missing => exact together.nonempty
  | projectNames => exact fun disagree => disagree together.names
  | projectGuids => exact fun stops => stops.2 together.guids
  | identities => exact fun stops => stops.2.2 together.apart

theorem Obstacle.StopsFirst.unique {obstacle other : Obstacle}
    (stops : obstacle.StopsFirst configurations) (stopsOther : other.StopsFirst configurations) :
    obstacle = other := by
  -- where there are no configurations, no other demand is in question
  have ofNone (none : configurations = []) : Agree projectName configurations ∧
      Agree projectGuid configurations ∧ (configurations.map identity).Nodup := by
    subst none
    exact ⟨nofun, nofun, List.nodup_nil⟩
  cases obstacle <;> cases other <;> simp only [StopsFirst] at stops stopsOther <;> tauto

theorem Obstacle.stopsFirst_congr (obstacle : Obstacle) (perm : configurations.Perm others) :
    obstacle.StopsFirst configurations ↔ obstacle.StopsFirst others := by
  cases obstacle with
  | missing =>
      simp only [StopsFirst]
      constructor
      · rintro rfl
        exact perm.nil_eq.symm
      · rintro rfl
        exact perm.eq_nil
  | projectNames => simp only [StopsFirst, agree_congr perm]
  | projectGuids => simp only [StopsFirst, agree_congr perm]
  | identities => simp only [StopsFirst, agree_congr perm, (perm.map identity).nodup_iff]

/-- An error reports one obstacle. -/
theorem Reports.unique {file : Path} {obstacle other : Obstacle} {error : GenerationError}
    (reports : Reports file configurations obstacle error)
    (reportsOther : Reports file configurations other error) : obstacle = other := by
  have isReported {obstacle : Obstacle} (reports : Reports file configurations obstacle error) :
      obstacleOf? error = some obstacle := by
    cases reports <;> rfl
  exact Option.some.inj ((isReported reports).symm.trans (isReported reportsOther))

end Demands

/-! ## Accepted and refused configurations -/

section Validation

variable {file : Path} {configurations accepted others : List Configuration}
variable {error : GenerationError}

theorem perm_sorted (configurations : List Configuration) :
    (sorted configurations).Perm configurations :=
  List.mergeSort_perm configurations _

/-- In order of their identities, configurations of one identity are neighbours. -/
theorem firstCollision?_sorted_eq_none_iff :
    firstCollision? (sorted configurations) = none ↔ (configurations.map identity).Nodup := by
  have ordered : (sorted configurations).Pairwise fun left right =>
      (compareIdentity left right).isLE = true := Sorting.pairwise_mergeSort_isLE configurations
  rw [firstCollision?_eq_none_iff, ← ((perm_sorted configurations).map identity).nodup_iff]
  constructor
  · intro apart
    have increasing := Sorting.increasing_of_neighbours ordered
      (apart.imp fun left right differ same => differ (compareIdentity_eq_eq.1 same))
    refine List.pairwise_map.2 (increasing.imp fun {left right} below same => ?_)
    rw [compareIdentity_eq_eq.2 same] at below
    cases below
  · intro nodup
    exact (List.pairwise_map.1 nodup).isChain

theorem firstCollision?_eq_some {first second : Configuration} {members : List Configuration}
    (found : firstCollision? members = some (first, second)) :
    [first, second] <:+: members ∧ first.identity = second.identity := by
  fun_induction firstCollision? members with
  | case1 former latter rest same =>
      cases found
      exact ⟨⟨[], rest, rfl⟩, same⟩
  | case2 former latter rest _ ih =>
      obtain ⟨neighbours, same⟩ := ih found
      exact ⟨List.infix_cons neighbours, same⟩
  | case3 => cases found

/-- Whatever is found in contradiction is the first obstacle. -/
theorem reports_of_conflict? {first : Configuration} {rest : List Configuration}
    (spelled : sorted configurations = first :: rest) {conflict : Conflict}
    (found : conflict? first (first :: rest) = some conflict) :
    ∃ obstacle : Obstacle, obstacle.StopsFirst configurations ∧
      Reports file configurations obstacle (.configurationConflict file conflict) := by
  have perm : (first :: rest).Perm configurations := spelled ▸ perm_sorted configurations
  have isFirst : first ∈ configurations := perm.mem_iff.1 List.mem_cons_self
  unfold conflict? at found
  split at found
  · rename_i other differs
    cases found
    refine ⟨.projectNames, ?_, .projectNames isFirst
      (perm.mem_iff.1 (List.mem_of_find?_eq_some differs)) ?_⟩
    · intro agree
      rw [find?_differing_eq_none_iff.2 (agree.of_perm perm.symm)] at differs
      cases differs
    · have differ := List.find?_some differs
      exact (bne_iff_ne.1 differ).symm
  · rename_i sameName
    have names := (find?_differing_eq_none_iff.1 sameName).of_perm perm
    split at found
    · rename_i other differs
      cases found
      refine ⟨.projectGuids, ⟨names, ?_⟩, .projectGuids isFirst
        (perm.mem_iff.1 (List.mem_of_find?_eq_some differs)) ?_⟩
      · intro agree
        rw [find?_differing_eq_none_iff.2 (agree.of_perm perm.symm)] at differs
        cases differs
      · have differ := List.find?_some differs
        exact (bne_iff_ne.1 differ).symm
    · rename_i sameGuid
      have guids := (find?_differing_eq_none_iff.1 sameGuid).of_perm perm
      obtain ⟨⟨former, latter⟩, collide, rfl⟩ := Option.map_eq_some_iff.1 found
      rw [← spelled] at collide
      obtain ⟨neighbours, same⟩ := firstCollision?_eq_some collide
      refine ⟨.identities, ⟨names, guids, ?_⟩, .identities neighbours same⟩
      intro nodup
      rw [firstCollision?_sorted_eq_none_iff.2 nodup] at collide
      cases collide

/-- Refused configurations meet an obstacle, and the first one is reported. -/
theorem reports_of_sortAndValidate (refused : sortAndValidate file configurations = .error error) :
    ∃ obstacle : Obstacle, obstacle.StopsFirst configurations ∧
      Reports file configurations obstacle error := by
  unfold sortAndValidate at refused
  split at refused
  · rename_i none
    cases refused
    have perm := perm_sorted configurations
    rw [none] at perm
    exact ⟨.missing, perm.nil_eq.symm, .missing⟩
  · rename_i first rest spelled
    split at refused
    · rename_i conflict found
      cases refused
      exact reports_of_conflict? spelled found
    · cases refused

/-- Accepted configurations meet none. -/
theorem belongTogether_of_sortAndValidate
    (isAccepted : sortAndValidate file configurations = .ok accepted) :
    BelongTogether configurations := by
  have perm := perm_sorted configurations
  unfold sortAndValidate at isAccepted
  split at isAccepted
  · cases isAccepted
  · rename_i first rest spelled
    rw [spelled] at perm
    split at isAccepted
    · cases isAccepted
    · rename_i noConflict
      unfold conflict? at noConflict
      split at noConflict
      · cases noConflict
      · rename_i sameName
        split at noConflict
        · cases noConflict
        · rename_i sameGuid
          rw [Option.map_eq_none_iff, ← spelled] at noConflict
          refine
            { nonempty := ?_
              names := (find?_differing_eq_none_iff.1 sameName).of_perm perm
              guids := (find?_differing_eq_none_iff.1 sameGuid).of_perm perm
              apart := firstCollision?_sorted_eq_none_iff.1 noConflict }
          rintro rfl
          exact List.cons_ne_nil _ _ perm.eq_nil

/-- Configurations are accepted when they belong together, and only then. -/
theorem exists_sortAndValidate_iff :
    (∃ accepted, sortAndValidate file configurations = .ok accepted) ↔
      BelongTogether configurations := by
  constructor
  · rintro ⟨accepted, isAccepted⟩
    exact belongTogether_of_sortAndValidate isAccepted
  · intro together
    cases result : sortAndValidate file configurations with
    | ok accepted => exact ⟨accepted, rfl⟩
    | error error =>
        obtain ⟨obstacle, stops, _⟩ := reports_of_sortAndValidate result
        exact absurd stops (together.not_stopsFirst obstacle)

/-- Configurations that belong together are accepted in strict order of their identities. -/
theorem sortAndValidate_eq_ok_iff : sortAndValidate file configurations = .ok accepted ↔
    BelongTogether configurations ∧ accepted.Perm configurations ∧
      accepted.Pairwise fun left right => compareIdentity left right = .lt := by
  constructor
  · intro isAccepted
    obtain ⟨isSorted, increasing⟩ := increasing_of_sortAndValidate isAccepted
    refine ⟨belongTogether_of_sortAndValidate isAccepted, ?_, increasing⟩
    rw [isSorted]
    exact perm_sorted configurations
  · rintro ⟨together, perm, increasing⟩
    obtain ⟨found, isFound⟩ := exists_sortAndValidate_iff.2 together
    rw [isFound, (increasing_of_sortAndValidate isFound).1]
    exact congrArg Except.ok (Sorting.mergeSort_eq_of_increasing perm increasing)

/-- The obstacle that is reported is the first one. -/
theorem exists_reports_iff (obstacle : Obstacle) :
    (∃ error, sortAndValidate file configurations = .error error ∧
      Reports file configurations obstacle error) ↔ obstacle.StopsFirst configurations := by
  constructor
  · rintro ⟨error, refused, reports⟩
    obtain ⟨first, stops, reportsFirst⟩ := reports_of_sortAndValidate refused
    rwa [reports.unique reportsFirst]
  · intro stops
    cases result : sortAndValidate file configurations with
    | ok accepted =>
        exact absurd stops ((belongTogether_of_sortAndValidate result).not_stopsFirst obstacle)
    | error error =>
        obtain ⟨first, stopsFirst, reports⟩ := reports_of_sortAndValidate result
        rw [stops.unique stopsFirst]
        exact ⟨error, rfl, reports⟩

end Validation

/-! ## Validation as a whole -/

/-- Three configurations of one project. -/
def variants : List Configuration :=
  [.new "App" "Release" "x64", .new "App" "Debug" "x64", .new "App" "Debug" "x86"]

theorem belongTogether_variants : BelongTogether variants where
  nonempty := by decide
  names := by unfold Agree; decide
  guids := by
    have same : ∀ configuration ∈ variants,
        configuration.projectGuid = (Path.mk "App").projectGuid := by
      intro configuration member
      simp only [variants, List.mem_cons, List.not_mem_nil, or_false] at member
      rcases member with rfl | rfl | rfl <;> rfl
    exact fun left isLeft right isRight => (same left isLeft).trans (same right isRight).symm
  apart := by decide

end ProjectFiles.Configuration
