import Mathlib.Data.List.Count
import ProjectFiles.Proofs.Format.SolutionText

/-!
# Sections of a solution file

Every configuration of a solution has a section, which is named by its name and its
platform with a bar between them.  Sections are compared where configurations stand next
to each other by name and platform.  That finds every section that occurs twice as long
as configurations of one section have one name, so whenever no name has a bar; otherwise
configurations of one section may have another between them, and are then rendered.
-/

namespace ProjectFiles.Format.SolutionFile

open Text

variable {solution : Solution}

/-- A section that neighbours have in common occurs twice. -/
theorem one_lt_count_of_repeatedSection? {configurations : List SolutionConfiguration}
    {name : String} (repeated : repeatedSection? configurations = some name) :
    1 < (configurations.map (·.sectionName)).count name := by
  fun_induction repeatedSection? configurations with
  | case1 first second rest same =>
      obtain rfl := Option.some.inj repeated
      simp [← same]
  | case2 first second rest differ ih =>
      have inRest := ih repeated
      have further := List.count_le_count_cons (a := name) (b := first.sectionName)
        (l := (second :: rest).map (·.sectionName))
      exact Nat.lt_of_lt_of_le inRest further
  | case3 => cases repeated

/-- A section of two neighbours is reported. -/
theorem exists_reported_of_neighbours (settings : Settings)
    (neighbours : ¬ (inOrder solution).IsChain fun left right =>
      left.sectionName ≠ right.sectionName) :
    ∃ name, 1 < (solution.configurations.map (·.sectionName)).count name ∧
      render solution settings =
        .error (.configurationConflict solution.file (.sectionTwice name)) := by
  rw [← repeatedSection?_eq_none_iff] at neighbours
  obtain ⟨name, repeated⟩ := Option.ne_none_iff_exists'.1 neighbours
  have twice := one_lt_count_of_repeatedSection? repeated
  rw [((perm_inOrder solution).map _).count_eq] at twice
  have nonempty : solution.configurations ≠ [] := by
    intro isEmpty
    simp [isEmpty] at twice
  refine ⟨name, twice, ?_⟩
  unfold render
  rw [sortedConfigurations_eq nonempty, repeated]
  rfl

/-- Configurations of one section that have one name have one platform, too. -/
theorem platform_eq_of_sectionName_eq {left right : SolutionConfiguration}
    (sameSection : left.sectionName = right.sectionName) (sameName : left.name = right.name) :
    left.platform = right.platform := by
  unfold SolutionConfiguration.sectionName at sameSection
  rw [sameName] at sameSection
  simpa [← String.toList_inj] using sameSection

/-- Without bars in names a section tells the name. -/
theorem name_eq_of_sectionName_eq {left right : SolutionConfiguration}
    (barless : '|' ∉ left.name.toList) (alsoBarless : '|' ∉ right.name.toList)
    (same : left.sectionName = right.sectionName) : left.name = right.name := by
  unfold SolutionConfiguration.sectionName at same
  have spelled : left.name.toList ++ '|' :: left.platform.toList =
      right.name.toList ++ '|' :: right.platform.toList := by
    simpa [← String.toList_inj] using same
  exact String.toList_inj.1 (append_cons_inj barless alsoBarless spelled).1

/-- Different configurations have different sections where neighbours do and where
configurations of one section have one name. -/
theorem nodup_sections (apart : (inOrder solution).IsChain fun left right =>
      left.sectionName ≠ right.sectionName)
    (alike : ∀ left ∈ solution.configurations, ∀ right ∈ solution.configurations,
      left.sectionName = right.sectionName → left.name = right.name) :
    (solution.configurations.map (·.sectionName)).Nodup := by
  have perm := perm_inOrder solution
  rw [← (perm.map _).nodup_iff]
  have increasing := increasing_inOrder apart
  refine (Sorting.nodup_of_increasing increasing).map_on ?_
  intro left isLeft right isRight same
  have sameName := alike left (perm.mem_iff.1 isLeft) right (perm.mem_iff.1 isRight) same
  exact Sorting.eq_of_compare_eq increasing left isLeft right isRight
    (compareConfigurations_eq_eq.2 ⟨sameName, platform_eq_of_sectionName_eq same sameName⟩)

/-- Whether a section that occurs twice keeps a solution from being rendered. -/
def IsReported (solution : Solution) (settings : Settings) : Prop :=
  ∃ name, 1 < (solution.configurations.map (·.sectionName)).count name ∧
    render solution settings =
      .error (.configurationConflict solution.file (.sectionTwice name))

/-- A section that two neighbours by name and platform have in common is reported, so
configurations that are rendered differ in name or platform.  Every section that occurs
twice is reported where configurations of one section have one name. -/
theorem sections_of_render (solution : Solution) (settings : Settings) :
    ((¬ (inOrder solution).IsChain fun left right => left.sectionName ≠ right.sectionName) →
      IsReported solution settings) ∧
    (∀ text, render solution settings = .ok text →
      (solution.configurations.map fun configuration =>
        (configuration.name, configuration.platform)).Nodup) ∧
    ((∀ left ∈ solution.configurations, ∀ right ∈ solution.configurations,
        left.sectionName = right.sectionName → left.name = right.name) →
      ¬ (solution.configurations.map (·.sectionName)).Nodup → IsReported solution settings) := by
  refine ⟨exists_reported_of_neighbours settings, fun text rendered => ?_,
    fun alike repeated => exists_reported_of_neighbours settings fun apart =>
      repeated (nodup_sections apart alike)⟩
  obtain ⟨configurations, _, isSorted, _, _⟩ := exists_of_render_eq_ok rendered
  have increasing := increasing_of_sortedConfigurations isSorted
  rw [← ((perm_of_sortedConfigurations isSorted).map _).nodup_iff]
  refine (Sorting.nodup_of_increasing increasing).map_on ?_
  intro left isLeft right isRight same
  exact Sorting.eq_of_compare_eq increasing left isLeft right isRight
    (compareConfigurations_eq_eq.2 (Prod.mk.inj same))

/-- A solution with two configurations of one name and platform. -/
def repeatedDebug : Solution :=
  ⟨"game", ⟨"/w/game.sln"⟩, [⟨"Debug", "x64", []⟩, ⟨"Release", "x64", []⟩, ⟨"Debug", "x64", []⟩]⟩

theorem sections_of_render_repeatedDebug : IsReported repeatedDebug {} := by
  have barless : ∀ configuration ∈ repeatedDebug.configurations,
      '|' ∉ configuration.name.toList := by decide
  exact (sections_of_render repeatedDebug {}).2.2
    (fun left isLeft right isRight =>
      name_eq_of_sectionName_eq (barless left isLeft) (barless right isRight)) (by decide)

/-- A solution in which two configurations of one section have another between them. -/
def rivals : Solution :=
  ⟨"game", ⟨"/w/game.sln"⟩,
    [⟨"Debug", "x64|CI", []⟩, ⟨"Debug", "x86", []⟩, ⟨"Debug|x64", "CI", []⟩]⟩

/-- Such a solution is rendered, though a section occurs twice in it. -/
theorem render_rivals :
    (∃ text, render rivals {} = .ok text) ∧
      ¬ (rivals.configurations.map (·.sectionName)).Nodup := by
  have isSorted : sortedConfigurations rivals = .ok rivals.configurations :=
    sortedConfigurations_eq_ok_of_increasing (by decide) (.refl _) (by decide +kernel)
      (by decide +kernel)
  have isDistinct : distinctProjects rivals rivals.configurations = .ok [] :=
    distinctProjects_eq_ok_iff.2
      ⟨⟨by decide, by decide⟩, .nil, fun project => by simp [references, rivals]⟩
  have avoids : ∀ text ∈ rivals.texts, Avoids separators text :=
    Avoids.of_all_isFixed (List.Subset.refl _) (by decide +kernel)
  exact ⟨⟨_, render_eq_printed (List.Subset.refl _) (by decide) avoids isSorted isDistinct
    (by decide) {}⟩, by decide +kernel⟩

end ProjectFiles.Format.SolutionFile
