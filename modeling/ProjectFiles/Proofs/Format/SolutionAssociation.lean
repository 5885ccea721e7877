import ProjectFiles.Proofs.Format.SolutionText

/-!
# Projects and identifiers of a solution

The included project files of a solution and their identifiers have to correspond one to
one.  A solution in which they do not is refused.  In any other, every included identifier
has one project, the first that is included under it, and no two projects are one output.
-/

namespace ProjectFiles.Format.SolutionFile

variable {solution : Solution} {configurations : List SolutionConfiguration}

/-! ## Refusals -/

/-- The projects of a configuration are refused with a conflict only. -/
theorem addIncluded_eq_error {name : String} {seen : Seen} {included : List Guid}
    {entries : List IncludedProject} {error : GenerationError}
    (refused : seen.addIncluded solution name included entries = .error error) :
    ∃ conflict, error = .configurationConflict solution.file conflict := by
  induction entries generalizing seen included with
  | nil => cases refused
  | cons entry rest ih =>
      unfold Seen.addIncluded at refused
      dsimp only at refused
      split at refused
      · cases refused
        exact ⟨_, rfl⟩
      · split at refused
        · cases refused
          exact ⟨_, rfl⟩
        · exact ih refused

theorem addConfigurations_eq_error {seen : Seen} {error : GenerationError}
    (refused : seen.addConfigurations solution configurations = .error error) :
    ∃ conflict, error = .configurationConflict solution.file conflict := by
  unfold Seen.addConfigurations at refused
  induction configurations generalizing seen with
  | nil => cases refused
  | cons configuration rest ih =>
      rw [List.foldlM_cons] at refused
      cases first :
          seen.addIncluded solution configuration.sectionName [] configuration.projects with
      | error cause =>
          rw [first] at refused
          cases refused
          exact addIncluded_eq_error first
      | ok next =>
          rw [first, bind_ok] at refused
          exact ih refused

/-- Projects are listed or there is a conflict. -/
theorem distinctProjects_eq_error {error : GenerationError}
    (refused : distinctProjects solution configurations = .error error) :
    ∃ conflict, error = .configurationConflict solution.file conflict := by
  unfold distinctProjects at refused
  cases seen : Seen.empty.addConfigurations solution configurations with
  | error cause =>
      rw [seen] at refused
      cases refused
      exact addConfigurations_eq_error seen
  | ok final =>
      rw [seen, bind_ok] at refused
      cases refused

/-! ## One project for each identifier -/

/-- Whether no configuration includes an identifier twice, and among all included projects
those of one output have one identifier and those of one identifier have one file. -/
structure IsOneToOne (configurations : List SolutionConfiguration) : Prop where
  once : ∀ configuration ∈ configurations,
    (configuration.projects.map fun entry => entry.project.guid).Nodup
  guid_eq : ∀ left ∈ references configurations, ∀ right ∈ references configurations,
    left.projectFile.sameOutput right.projectFile = true → left.guid = right.guid
  components_eq : ∀ left ∈ references configurations, ∀ right ∈ references configurations,
    left.guid = right.guid → left.projectFile.components = right.projectFile.components

/-- Whether projects are the first ones of all included identifiers, in the order of their
names and identifiers, and each has an output of its own. -/
structure Associates (configurations : List SolutionConfiguration)
    (projects : List ProjectReference) : Prop where
  nodup_guids : (projects.map (·.guid)).Nodup
  mem_guids_iff : ∀ guid, guid ∈ projects.map (·.guid) ↔
    guid ∈ (references configurations).map (·.guid)
  first : ∀ project ∈ projects,
    (references configurations).find? (fun other => other.guid = project.guid) = some project
  increasing : projects.Pairwise fun left right => compareProjects left right = .lt
  guid_eq : ∀ left ∈ projects, ∀ right ∈ projects,
    left.projectFile.sameOutput right.projectFile = true → left.guid = right.guid

theorem mem_references_iff {reference : ProjectReference} :
    reference ∈ references configurations ↔
      ∃ configuration ∈ configurations, reference ∈ configuration.projects.map (·.project) :=
  List.mem_flatMap

/-- The order of configurations does not matter. -/
theorem IsOneToOne.of_perm {others : List SolutionConfiguration}
    (oneToOne : IsOneToOne configurations) (perm : others.Perm configurations) :
    IsOneToOne others := by
  have included : ∀ reference ∈ references others, reference ∈ references configurations := by
    intro reference isIncluded
    obtain ⟨configuration, isMember, isProject⟩ := mem_references_iff.1 isIncluded
    exact mem_references_iff.2 ⟨configuration, perm.mem_iff.1 isMember, isProject⟩
  constructor
  · intro configuration isMember
    exact oneToOne.once configuration (perm.mem_iff.1 isMember)
  · intro left isLeft right isRight
    exact oneToOne.guid_eq left (included left isLeft) right (included right isRight)
  · intro left isLeft right isRight
    exact oneToOne.components_eq left (included left isLeft) right (included right isRight)

/-- Each project is compared with the first ones only, which stand for all. -/
theorem areCompatible_iff : AreCompatible configurations ↔ IsOneToOne configurations := by
  constructor
  · intro compatible
    have agree : ∀ {left right}, left ∈ references configurations →
        right ∈ references configurations → Agree left right :=
      fun isLeft isRight =>
        compatible.agree.forall_of_forall (fun other _ => Agree.refl other) isLeft isRight
    constructor
    · exact compatible.once
    · intro left isLeft right isRight same
      exact (agree isLeft isRight).2 (Path.sameOutput_iff.1 same)
    · intro left isLeft right isRight same
      exact (agree isLeft isRight).1 same
  · intro oneToOne
    refine ⟨oneToOne.once, List.pairwise_of_forall_mem_list fun left isLeft right isRight => ?_⟩
    constructor
    · exact oneToOne.components_eq left isLeft right isRight
    · intro same
      exact oneToOne.guid_eq left isLeft right isRight (Path.sameOutput_iff.2 same)

theorem exists_distinctProjects (compatible : AreCompatible configurations) :
    ∃ projects, distinctProjects solution configurations = .ok projects := by
  have accepted : Seen.empty.addConfigurations solution configurations = .ok _ :=
    (Seen.Holds.empty.addConfigurations_eq_ok_iff .nil).2 ⟨compatible.once, compatible.agree, rfl⟩
  unfold distinctProjects
  rw [accepted, bind_ok]
  exact ⟨_, rfl⟩

/-- What is listed are the first projects of all identifiers. -/
theorem associates_of_distinctProjects {projects : List ProjectReference}
    (listed : distinctProjects solution configurations = .ok projects) :
    Associates configurations projects := by
  obtain ⟨compatible, increasing, areFirst⟩ := distinctProjects_eq_ok_iff.1 listed
  have isFirst : ∀ project ∈ projects, (references configurations).find?
      (fun other => other.guid = project.guid) = some project :=
    fun project isListed => (areFirst project).1 isListed
  have isIncluded : ∀ project ∈ projects, project ∈ references configurations :=
    fun project isListed => List.mem_of_find?_eq_some (isFirst project isListed)
  have injective : ∀ left ∈ projects, ∀ right ∈ projects, left.guid = right.guid →
      left = right := by
    intro left isLeft right isRight same
    have firstLeft := isFirst left isLeft
    rw [same, isFirst right isRight] at firstLeft
    exact (Option.some.inj firstLeft).symm
  constructor
  · exact (Sorting.nodup_of_increasing increasing).map_on injective
  · intro guid
    constructor
    · intro isListed
      obtain ⟨project, isProject, rfl⟩ := List.mem_map.1 isListed
      exact List.mem_map_of_mem (isIncluded project isProject)
    · intro isAny
      obtain ⟨reference, isReference, rfl⟩ := List.mem_map.1 isAny
      obtain ⟨first, found⟩ : ∃ first, (references configurations).find?
          (fun other => other.guid = reference.guid) = some first :=
        Option.isSome_iff_exists.1 (List.find?_isSome.2 ⟨reference, isReference, by simp⟩)
      have same : first.guid = reference.guid := by simpa using List.find?_some found
      rw [← same] at found ⊢
      exact List.mem_map_of_mem ((areFirst first).2 found)
  · exact isFirst
  · exact increasing
  · intro left isLeft right isRight
    exact (areCompatible_iff.1 compatible).guid_eq left (isIncluded left isLeft)
      right (isIncluded right isRight)

/-- The projects of a solution are listed just when they and their identifiers correspond
one to one, and then every identifier has the first project that is included under it.  Any
other solution has a conflict. -/
theorem distinctProjects_decides
    (isSorted : sortedConfigurations solution = .ok configurations) :
    ((∃ projects, distinctProjects solution configurations = .ok projects) ↔
      IsOneToOne solution.configurations) ∧
    (¬ IsOneToOne solution.configurations → ∃ conflict,
      distinctProjects solution configurations =
        .error (.configurationConflict solution.file conflict)) ∧
    ∀ projects, distinctProjects solution configurations = .ok projects →
      Associates configurations projects := by
  have perm := perm_of_sortedConfigurations isSorted
  have onlyOneToOne : ∀ projects, distinctProjects solution configurations = .ok projects →
      IsOneToOne solution.configurations := by
    intro projects listed
    exact (areCompatible_iff.1 (distinctProjects_eq_ok_iff.1 listed).1).of_perm perm.symm
  have listedOrRefused : (∃ projects, distinctProjects solution configurations = .ok projects) ∨
      ∃ conflict, distinctProjects solution configurations =
        .error (.configurationConflict solution.file conflict) := by
    cases outcome : distinctProjects solution configurations with
    | ok projects => exact .inl ⟨projects, rfl⟩
    | error error =>
        obtain ⟨conflict, rfl⟩ := distinctProjects_eq_error outcome
        exact .inr ⟨conflict, rfl⟩
  refine ⟨⟨?_, ?_⟩, ?_, fun projects => associates_of_distinctProjects⟩
  · rintro ⟨projects, listed⟩
    exact onlyOneToOne projects listed
  · intro oneToOne
    exact exists_distinctProjects (areCompatible_iff.2 (oneToOne.of_perm perm))
  · intro unlike
    refine listedOrRefused.resolve_left ?_
    rintro ⟨projects, listed⟩
    exact unlike (onlyOneToOne projects listed)

/-- The game with a further configuration, which includes the core under another spelling
of its file and another identifier. -/
def gameWithTwin : Solution :=
  let twin : ProjectReference := ⟨"core", ⟨"/w/core/./core.vcxproj"⟩, ⟨3⟩, .lib, "core", false⟩
  { game with
    configurations :=
      game.configurations.reverse ++ [⟨"Test", "x64", [⟨twin, "Test", "x64", true⟩]⟩] }

/-- The projects of the game are listed; with the twin there is a conflict. -/
theorem distinctProjects_decides_game :
    (∃ projects, sortedConfigurations game = .ok game.configurations.reverse ∧
      distinctProjects game game.configurations.reverse = .ok projects ∧
      Associates game.configurations.reverse projects) ∧
    ∃ conflict, sortedConfigurations gameWithTwin = .ok gameWithTwin.configurations ∧
      distinctProjects gameWithTwin gameWithTwin.configurations =
        .error (.configurationConflict gameWithTwin.file conflict) := by
  have isSorted : sortedConfigurations game = .ok game.configurations.reverse :=
    sortedConfigurations_eq_ok_of_increasing (by decide) (List.reverse_perm _)
      (by decide +kernel) (by decide +kernel)
  have isSortedWithTwin : sortedConfigurations gameWithTwin = .ok gameWithTwin.configurations :=
    sortedConfigurations_eq_ok_of_increasing (by decide) (.refl _) (by decide +kernel)
      (by decide +kernel)
  have oneToOne : IsOneToOne game.configurations :=
    ⟨by decide, by decide +kernel, by decide +kernel⟩
  have unlike : ¬ IsOneToOne gameWithTwin.configurations := by
    intro oneToOne
    have same := oneToOne.guid_eq
    revert same
    decide +kernel
  obtain ⟨listed_iff, _, associates⟩ := distinctProjects_decides isSorted
  obtain ⟨projects, listed⟩ := listed_iff.2 oneToOne
  obtain ⟨conflict, refused⟩ := (distinctProjects_decides isSortedWithTwin).2.1 unlike
  exact ⟨⟨projects, isSorted, listed, associates projects listed⟩,
    conflict, isSortedWithTwin, refused⟩

end ProjectFiles.Format.SolutionFile
