import Mathlib.Data.List.Nodup
import ProjectFiles.Format.SolutionFile
import ProjectFiles.Proofs.Error
import ProjectFiles.Proofs.Path.Key
import ProjectFiles.Proofs.SortedMap
import ProjectFiles.Proofs.Sorting

/-!
# Configurations and projects of a solution

The configurations of a solution are put in the strict order of their names and
platforms.  The projects that they include are told apart by their identifiers: of
those with one identifier the first stands for all of them, and they have to agree on
their file.  So which solutions are accepted does not depend on the order of what a
configuration includes.
-/

namespace ProjectFiles.Format.SolutionFile

/-! ## Configurations in order -/

instance : Std.TransCmp compareConfigurations :=
  inferInstanceAs (Std.TransCmp (compareLex (compareOn SolutionConfiguration.name)
    (compareOn SolutionConfiguration.platform)))

theorem compareConfigurations_eq_eq {left right : SolutionConfiguration} :
    compareConfigurations left right = .eq ↔
      left.name = right.name ∧ left.platform = right.platform :=
  Sorting.compareOn_pair_eq_eq

/-- No section is found twice where neighbours have different ones. -/
theorem repeatedSection?_eq_none_iff {configurations : List SolutionConfiguration} :
    repeatedSection? configurations = none ↔
      configurations.IsChain fun left right => left.sectionName ≠ right.sectionName := by
  fun_induction repeatedSection? configurations with
  | case1 first second rest same => simp [same]
  | case2 first second rest differ ih => rw [ih, List.isChain_cons_cons, and_iff_right differ]
  | case3 configurations short =>
      refine iff_of_true rfl ?_
      match configurations with
      | [] => exact .nil
      | [configuration] => exact .singleton configuration
      | first :: second :: rest => exact absurd rfl (short first second rest)

/-- The configurations of a solution by name and platform. -/
def inOrder (solution : Solution) : List SolutionConfiguration :=
  solution.configurations.mergeSort fun left right => (compareConfigurations left right).isLE

variable {solution : Solution} {sorted : List SolutionConfiguration}

theorem perm_inOrder (solution : Solution) : (inOrder solution).Perm solution.configurations :=
  List.mergeSort_perm _ _

theorem sortedConfigurations_eq (nonempty : solution.configurations ≠ []) :
    sortedConfigurations solution =
      match repeatedSection? (inOrder solution) with
      | some name => .error (.configurationConflict solution.file (.sectionTwice name))
      | none => .ok (inOrder solution) := by
  unfold sortedConfigurations
  split
  · rename_i isEmpty
    exact absurd isEmpty nonempty
  · rfl

theorem sortedConfigurations_eq_ok_iff :
    sortedConfigurations solution = .ok sorted ↔
      solution.configurations ≠ [] ∧ inOrder solution = sorted ∧
        repeatedSection? sorted = none := by
  by_cases isEmpty : solution.configurations = []
  · simp [sortedConfigurations, isEmpty]
  rw [sortedConfigurations_eq isEmpty, and_iff_right isEmpty]
  split
  · rename_i name repeated
    refine iff_of_false nofun ?_
    rintro ⟨rfl, unrepeated⟩
    rw [repeated] at unrepeated
    cases unrepeated
  · rename_i unrepeated
    rw [Except.ok.injEq]
    exact ⟨fun same => ⟨same, same ▸ unrepeated⟩, And.left⟩

/-- Configurations in strict order are accepted when neighbours have different sections. -/
theorem sortedConfigurations_eq_ok_of_increasing (nonempty : solution.configurations ≠ [])
    (perm : sorted.Perm solution.configurations)
    (increasing : sorted.Pairwise fun left right => compareConfigurations left right = .lt)
    (unrepeated : repeatedSection? sorted = none) : sortedConfigurations solution = .ok sorted :=
  sortedConfigurations_eq_ok_iff.2
    ⟨nonempty, Sorting.mergeSort_eq_of_increasing perm increasing, unrepeated⟩

theorem perm_of_sortedConfigurations (isSorted : sortedConfigurations solution = .ok sorted) :
    sorted.Perm solution.configurations := by
  obtain ⟨_, rfl, _⟩ := sortedConfigurations_eq_ok_iff.1 isSorted
  exact perm_inOrder solution

/-- Configurations differ in name or platform where neighbours have different sections. -/
theorem increasing_inOrder
    (apart : (inOrder solution).IsChain fun left right => left.sectionName ≠ right.sectionName) :
    (inOrder solution).Pairwise fun left right => compareConfigurations left right = .lt := by
  refine Sorting.increasing_of_neighbours (Sorting.pairwise_mergeSort_isLE _) ?_
  refine apart.imp fun left right differ same => differ ?_
  obtain ⟨sameName, samePlatform⟩ := compareConfigurations_eq_eq.1 same
  rw [SolutionConfiguration.sectionName, sameName, samePlatform]
  rfl

theorem increasing_of_sortedConfigurations
    (isSorted : sortedConfigurations solution = .ok sorted) :
    sorted.Pairwise fun left right => compareConfigurations left right = .lt := by
  obtain ⟨_, rfl, unrepeated⟩ := sortedConfigurations_eq_ok_iff.1 isSorted
  exact increasing_inOrder (repeatedSection?_eq_none_iff.1 unrepeated)

/-! ## Included projects -/

/-- What configurations include, one after the other. -/
def references (configurations : List SolutionConfiguration) : List ProjectReference :=
  configurations.flatMap fun configuration => configuration.projects.map (·.project)

/-- Whether two references belong together in a solution: those with one identifier
have one file, and those with one output file have one identifier. -/
def Agree (left right : ProjectReference) : Prop :=
  (left.guid = right.guid → left.projectFile.components = right.projectFile.components) ∧
    (left.projectFile.absolute.components = right.projectFile.absolute.components →
      left.guid = right.guid)

instance (left right : ProjectReference) : Decidable (Agree left right) :=
  inferInstanceAs (Decidable ((_ → _) ∧ (_ → _)))

theorem Agree.refl (reference : ProjectReference) : Agree reference reference :=
  ⟨fun _ => rfl, fun _ => rfl⟩

instance : Std.Symm Agree where
  symm _ _ agree := ⟨fun same => (agree.1 same.symm).symm, fun same => (agree.2 same.symm).symm⟩

namespace Seen

variable {seen : Seen} {seenReferences : List ProjectReference}

/-- Whether references have been seen in this order: under an identifier and under a
file stands the first of them. -/
structure Holds (seen : Seen) (seenReferences : List ProjectReference) : Prop where
  projects : ∀ guid, seen.projects.get? guid =
    seenReferences.find? fun reference => reference.guid = guid
  guids : ∀ file : Path, seen.guids.get? file =
    (seenReferences.find? fun reference =>
      file.components = reference.projectFile.absolute.components).map (·.guid)

theorem Holds.empty : empty.Holds [] :=
  ⟨fun _ => rfl, fun _ => rfl⟩

/-- A reference is the last of those that have been seen. -/
theorem Holds.add (holds : seen.Holds seenReferences) (reference : ProjectReference) :
    (seen.add reference).Holds (seenReferences ++ [reference]) := by
  constructor
  · intro guid
    rw [List.find?_append, ← holds.projects]
    unfold Seen.add SortedMap.contains
    dsimp only
    by_cases same : reference.guid = guid
    · subst same
      cases found : seen.projects.get? reference.guid <;>
        simp [found, SortedMap.get?_insert]
    · have other : compare guid reference.guid ≠ .eq := fun equal =>
        same (Std.LawfulEqOrd.eq_of_compare equal).symm
      split <;> simp [same, SortedMap.get?_insert, other]
  · intro file
    rw [List.find?_append, Option.map_or, ← holds.guids]
    unfold Seen.add SortedMap.contains
    dsimp only
    by_cases same : file.components = reference.projectFile.absolute.components
    · rw [SortedMap.get?_congr seen.guids (Path.compare_eq_iff.2 same)]
      cases found : seen.guids.get? reference.projectFile.absolute with
      | none =>
          simp [same, SortedMap.get?_insert, Path.compare_eq_iff.2 same]
      | some guid =>
          simp [found, SortedMap.get?_congr seen.guids (Path.compare_eq_iff.2 same)]
    · have other : compare file reference.projectFile.absolute ≠ .eq := fun equal =>
        same (Path.compare_eq_iff.1 equal)
      split <;> simp [same, SortedMap.get?_insert, other]

theorem conflict?_eq_none_iff {reference : ProjectReference} :
    seen.conflict? reference = none ↔
      (∀ guid, seen.guids.get? reference.projectFile.absolute = some guid →
        guid = reference.guid) ∧
      ∀ existing, seen.projects.get? reference.guid = some existing →
        existing.projectFile.components = reference.projectFile.components := by
  have shared : conflict?.sharedGuid? seen reference = none ↔
      ∀ existing, seen.projects.get? reference.guid = some existing →
        existing.projectFile.components = reference.projectFile.components := by
    unfold conflict?.sharedGuid?
    cases seen.projects.get? reference.guid with
    | none => simp
    | some existing => simp [Path.same_iff]
  unfold conflict?
  cases seen.guids.get? reference.projectFile.absolute with
  | none => simp [shared]
  | some guid => by_cases same : guid = reference.guid <;> simp [same, shared]

/-- What holds of all members of a kind or of none holds of the first when it holds of
all. -/
theorem forall_find?_iff {α : Type} {members : List α} {kind : α → Bool} {holds : α → Prop}
    (alike : ∀ first ∈ members, ∀ other ∈ members,
      kind first = true → kind other = true → holds first → holds other) :
    (∀ first, members.find? kind = some first → holds first) ↔
      ∀ other ∈ members, kind other = true → holds other := by
  constructor
  · intro ofFirst other isOther isKind
    obtain ⟨first, isFirst⟩ : ∃ first, members.find? kind = some first :=
      Option.isSome_iff_exists.1 (List.find?_isSome.2 ⟨other, isOther, isKind⟩)
    exact alike first (List.mem_of_find?_eq_some isFirst) other isOther
      (List.find?_some isFirst) isKind (ofFirst first isFirst)
  · intro ofAll first isFirst
    exact ofAll first (List.mem_of_find?_eq_some isFirst) (List.find?_some isFirst)

/-- Where the references seen belong together, a further one is accepted just when it
belongs to all of them. -/
theorem Holds.conflict?_eq_none_iff (holds : seen.Holds seenReferences)
    (agree : seenReferences.Pairwise Agree) {reference : ProjectReference} :
    seen.conflict? reference = none ↔ ∀ other ∈ seenReferences, Agree other reference := by
  have agreeAll := agree.forall_of_forall fun other _ => Agree.refl other
  rw [Seen.conflict?_eq_none_iff, holds.projects, holds.guids]
  simp only [Option.map_eq_some_iff, forall_exists_index, and_imp, forall_apply_eq_imp_iff₂]
  rw [forall_find?_iff, forall_find?_iff]
  · simp only [decide_eq_true_eq]
    constructor
    · rintro ⟨sameGuid, sameFile⟩ other isSeen
      exact ⟨sameFile other isSeen, fun equal => sameGuid other isSeen equal.symm⟩
    · intro agrees
      exact ⟨fun other isSeen equal => (agrees other isSeen).2 equal.symm,
        fun other isSeen => (agrees other isSeen).1⟩
  · simp only [decide_eq_true_eq]
    intro first isFirst other isOther firstGuid otherGuid sameFile
    exact ((agreeAll isOther isFirst).1 (otherGuid.trans firstGuid.symm)).trans sameFile
  · simp only [decide_eq_true_eq]
    intro first isFirst other isOther firstFile otherFile sameGuid
    exact ((agreeAll isOther isFirst).2 (otherFile.symm.trans firstFile)).trans sameGuid

/-- References are seen one after the other. -/
theorem Holds.foldl_add (holds : seen.Holds seenReferences) (further : List ProjectReference) :
    (further.foldl Seen.add seen).Holds (seenReferences ++ further) := by
  induction further generalizing seen seenReferences with
  | nil => rwa [List.append_nil]
  | cons reference rest ih =>
      rw [List.foldl_cons, List.append_cons]
      exact ih (holds.add reference)

/-- The projects of a configuration are accepted when they are different and belong to
what has been seen and to each other. -/
theorem Holds.addIncluded_eq_ok_iff (holds : seen.Holds seenReferences)
    (agree : seenReferences.Pairwise Agree) {solution : Solution} {name : String}
    {included : List Guid} {entries : List IncludedProject} {final : Seen} :
    seen.addIncluded solution name included entries = .ok final ↔
      ((entries.map fun entry => entry.project.guid).Nodup ∧
        ∀ entry ∈ entries, entry.project.guid ∉ included) ∧
      (seenReferences ++ entries.map (·.project)).Pairwise Agree ∧
      final = (entries.map (·.project)).foldl Seen.add seen := by
  induction entries generalizing seen seenReferences included with
  | nil => simp [addIncluded, agree, eq_comm]
  | cons entry rest ih =>
      unfold addIncluded
      dsimp only
      by_cases again : entry.project.guid ∈ included
      · simp [again]
      rw [if_neg (by simpa using again)]
      cases conflict : seen.conflict? entry.project with
      | some _ =>
          have contradicts : ¬ ∀ other ∈ seenReferences, Agree other entry.project := by
            rw [← holds.conflict?_eq_none_iff agree, conflict]
            exact nofun
          refine iff_of_false nofun fun accepted => contradicts fun other isSeen => ?_
          exact (List.pairwise_append.1 accepted.2.1).2.2 other isSeen _ List.mem_cons_self
      | none =>
          have agrees := (holds.conflict?_eq_none_iff agree).1 conflict
          have agreeNext : (seenReferences ++ [entry.project]).Pairwise Agree :=
            List.pairwise_append.2 ⟨agree, List.pairwise_singleton _ _,
              fun other isSeen last isLast => List.mem_singleton.1 isLast ▸ agrees other isSeen⟩
          dsimp only
          rw [ih (holds.add entry.project) agreeNext, List.forall_mem_cons]
          simp only [List.map_cons, List.nodup_cons, List.foldl_cons, List.append_assoc,
            List.cons_append, List.nil_append, List.mem_cons, not_or]
          refine and_congr_left fun _ => ?_
          have unlike : entry.project.guid ∉ rest.map (fun entry => entry.project.guid) ↔
              ∀ other ∈ rest, other.project.guid ≠ entry.project.guid := by simp
          rw [unlike]
          constructor
          · rintro ⟨nodup, others⟩
            exact ⟨⟨fun other isOther => (others other isOther).1, nodup⟩, again,
              fun other isOther => (others other isOther).2⟩
          · rintro ⟨⟨unlike, nodup⟩, _, others⟩
            exact ⟨nodup, fun other isOther => ⟨unlike other isOther, others other isOther⟩⟩

/-- Configurations are accepted when each includes different projects and all that they
include belongs together. -/
theorem Holds.addConfigurations_eq_ok_iff (holds : seen.Holds seenReferences)
    (agree : seenReferences.Pairwise Agree) {solution : Solution}
    {configurations : List SolutionConfiguration} {final : Seen} :
    seen.addConfigurations solution configurations = .ok final ↔
      (∀ configuration ∈ configurations,
        (configuration.projects.map fun entry => entry.project.guid).Nodup) ∧
      (seenReferences ++ references configurations).Pairwise Agree ∧
      final = (references configurations).foldl Seen.add seen := by
  unfold addConfigurations
  induction configurations generalizing seen seenReferences with
  | nil => simp [references, agree, eq_comm, pure, Except.pure]
  | cons configuration rest ih =>
      have spelled : references (configuration :: rest) =
          configuration.projects.map (·.project) ++ references rest := rfl
      rw [List.foldlM_cons, spelled, ← List.append_assoc, List.foldl_append,
        List.forall_mem_cons]
      constructor
      · intro accepted
        obtain ⟨next, isNext, others⟩ := ok_of_bind_eq_ok accepted
        obtain ⟨⟨nodup, _⟩, agreeNext, rfl⟩ := (holds.addIncluded_eq_ok_iff agree).1 isNext
        obtain ⟨nodups, agreeAll, isFinal⟩ := (ih (holds.foldl_add _) agreeNext).1 others
        exact ⟨⟨nodup, nodups⟩, agreeAll, isFinal⟩
      · rintro ⟨⟨nodup, nodups⟩, agreeAll, isFinal⟩
        have agreeNext := (List.pairwise_append.1 agreeAll).1
        rw [(holds.addIncluded_eq_ok_iff agree).2
          ⟨⟨nodup, fun _ _ => List.not_mem_nil⟩, agreeNext, rfl⟩, bind_ok]
        exact (ih (holds.foldl_add _) agreeNext).2 ⟨nodups, agreeAll, isFinal⟩

theorem Holds.guid_of_mem (holds : seen.Holds seenReferences) {guid : Guid}
    {reference : ProjectReference} (member : (guid, reference) ∈ seen.projects.entries) :
    seenReferences.find? (fun other => other.guid = guid) = some reference ∧
      reference.guid = guid := by
  have found := SortedMap.get?_of_mem member
  rw [holds.projects] at found
  exact ⟨found, by simpa using List.find?_some found⟩

/-- The projects are the first references of their identifiers. -/
theorem Holds.mem_values_iff (holds : seen.Holds seenReferences) {reference : ProjectReference} :
    reference ∈ seen.projects.values ↔
      seenReferences.find? (fun other => other.guid = reference.guid) = some reference := by
  constructor
  · intro member
    obtain ⟨⟨guid, _⟩, isEntry, rfl⟩ := List.mem_map.1 member
    obtain ⟨found, rfl⟩ := holds.guid_of_mem isEntry
    exact found
  · intro found
    rw [← holds.projects] at found
    obtain ⟨entry, isEntry, rfl⟩ := Option.map_eq_some_iff.1 found
    exact List.mem_map_of_mem (List.mem_of_find?_eq_some isEntry)

theorem Holds.nodup_guids (holds : seen.Holds seenReferences) :
    (seen.projects.values.map (·.guid)).Nodup := by
  have areKeys : seen.projects.values.map (·.guid) = seen.projects.keys := by
    unfold SortedMap.values SortedMap.keys
    rw [List.map_map]
    exact List.map_congr_left fun entry member => (holds.guid_of_mem member).2
  rw [areKeys]
  exact seen.projects.nodup_keys

end Seen

/-! ## Distinct projects -/

/-- Whether configurations include different projects each, and projects that belong
together in all. -/
structure AreCompatible (configurations : List SolutionConfiguration) : Prop where
  once : ∀ configuration ∈ configurations,
    (configuration.projects.map fun entry => entry.project.guid).Nodup
  agree : (references configurations).Pairwise Agree

instance : Std.TransCmp compareProjects :=
  inferInstanceAs (Std.TransCmp (compareLex (compareOn ProjectReference.projectName)
    (compareOn ProjectReference.guid)))

theorem compareProjects_eq_eq {left right : ProjectReference} :
    compareProjects left right = .eq ↔
      left.projectName = right.projectName ∧ left.guid = right.guid :=
  Sorting.compareOn_pair_eq_eq

/-- The projects of a solution are the first references of their identifiers, in strict
order. -/
theorem distinctProjects_eq_ok_iff {solution : Solution}
    {configurations : List SolutionConfiguration} {projects : List ProjectReference} :
    distinctProjects solution configurations = .ok projects ↔
      AreCompatible configurations ∧
      (projects.Pairwise fun left right => compareProjects left right = .lt) ∧
      ∀ project, project ∈ projects ↔
        (references configurations).find? (fun other => other.guid = project.guid) =
          some project := by
  have accepts (final : Seen) : Seen.empty.addConfigurations solution configurations = .ok final ↔
      _ := Seen.Holds.empty.addConfigurations_eq_ok_iff .nil
  have holds := Seen.Holds.empty.foldl_add (references configurations)
  rw [List.nil_append] at holds
  generalize seenAll : (references configurations).foldl Seen.add Seen.empty = seen
    at accepts holds
  have nodup := holds.nodup_guids
  have increasing : (seen.projects.values.mergeSort fun left right =>
      (compareProjects left right).isLE).Pairwise fun left right =>
        compareProjects left right = .lt := by
    refine Sorting.increasing_mergeSort (.of_map _ nodup) fun left isLeft right isRight equal => ?_
    exact List.inj_on_of_nodup_map nodup isLeft isRight (compareProjects_eq_eq.1 equal).2
  have isFirst : ∀ project, project ∈ (seen.projects.values.mergeSort fun left right =>
      (compareProjects left right).isLE) ↔
        (references configurations).find? (fun other => other.guid = project.guid) =
          some project := fun project => List.mem_mergeSort.trans holds.mem_values_iff
  unfold distinctProjects
  constructor
  · intro accepted
    obtain ⟨final, isFinal, isSorted⟩ := ok_of_bind_eq_ok accepted
    obtain ⟨once, agree, rfl⟩ := (accepts final).1 isFinal
    cases isSorted
    exact ⟨⟨once, agree⟩, increasing, isFirst⟩
  · rintro ⟨⟨once, agree⟩, isIncreasing, areFirst⟩
    rw [(accepts seen).2 ⟨once, agree, rfl⟩, bind_ok]
    refine congrArg Except.ok (Sorting.eq_of_increasing increasing isIncreasing fun project => ?_)
    rw [isFirst, areFirst]

end ProjectFiles.Format.SolutionFile
