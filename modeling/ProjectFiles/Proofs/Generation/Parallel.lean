import Mathlib.Data.List.Basic
import ProjectFiles.Proofs.Generation.Completion
import ProjectFiles.Proofs.Generation.Interleaving

/-!
# Parallel generation

Committers that are done have come to the same in whatever order they have taken
their steps.  Generating the projects one after the other is one such order, so it
does not matter which one a run follows.
-/

namespace ProjectFiles

open Relation Store PendingOutput Builder

/-! ## Reports -/

/-- The failure of a committer. -/
def Committer.failure? (committer : Committer) : Option ProjectFailure :=
  match committer.activity with
  | .stopped failure => some failure
  | _ => none

theorem Committer.failure?_eq_some {committer : Committer} {failure : ProjectFailure} :
    committer.failure? = some failure ↔ committer.activity = .stopped failure := by
  unfold failure?
  cases committer.activity <;> simp

theorem Committer.report_of_failure?_eq_none {committer : Committer}
    (unstopped : committer.failure? = none) (before : GenerationReport) :
    committer.report before =
      { before with
        output := before.output.merge committer.output
        warnings := before.warnings ++ committer.warnings } := by
  cases activity : committer.activity with
  | stopped failure =>
      rw [failure?_eq_some.2 activity] at unstopped
      cases unstopped
  | _ => simp [report, activity]

/-- The failure of a project that cannot be rendered. -/
def Builder.failure? (builder : Builder) (project : Project) : Option ProjectFailure :=
  match builder.renderProject project with
  | .error failure => some failure
  | .ok _ => none

theorem Builder.failure?_eq_some {builder : Builder} {project : Project}
    {failure : ProjectFailure} :
    builder.failure? project = some failure ↔ builder.renderProject project = .error failure := by
  unfold failure?
  cases builder.renderProject project <;> simp

/-- Committers that have failed add nothing but their failures to a report. -/
theorem foldl_report {committers : List Committer}
    (nothing : ∀ committer ∈ committers, ∀ failure, committer.activity = .stopped failure →
      committer.output = .empty) (before : GenerationReport) :
    (committers.foldl Committer.report before).output.generated =
        before.output.generated ++ committers.flatMap (·.output.generated) ∧
      (committers.foldl Committer.report before).output.skipped =
        before.output.skipped ++ committers.flatMap (·.output.skipped) ∧
      (committers.foldl Committer.report before).failures =
        before.failures ++ committers.filterMap Committer.failure? := by
  induction committers generalizing before with
  | nil => simp
  | cons committer rest ih =>
      obtain ⟨generated, skipped, failures⟩ :=
        ih (fun other member => nothing other (List.mem_cons_of_mem _ member))
          (committer.report before)
      rw [List.foldl_cons, generated, skipped, failures]
      cases stopped : committer.failure? with
      | some failure =>
          have activity := Committer.failure?_eq_some.1 stopped
          have noOutput := nothing committer List.mem_cons_self failure activity
          simp [Committer.report, activity, noOutput, stopped, GenerationReport.addFailure,
            GenerationOutput.empty]
      | none =>
          have reports := Committer.report_of_failure?_eq_none stopped before
          simp [reports, stopped, GenerationOutput.merge]

namespace Coherent

variable {settings : Settings} {start : Store} {projects : List Project}
variable {final : Workspace × List Committer}

/-- The report on committers lists their outputs and the projects that could not be
rendered. -/
theorem report_merged (coherent : Coherent (Builder.new settings) start projects final) :
    (merged final).2.output.generated = final.2.flatMap (·.output.generated) ∧
      (merged final).2.output.skipped = final.2.flatMap (·.output.skipped) ∧
      (merged final).2.failures = projects.filterMap (Builder.new settings).failure? := by
  have nothing : ∀ committer ∈ final.2, ∀ failure, committer.activity = .stopped failure →
      committer.output = .empty := by
    intro committer member
    obtain ⟨done, tracks⟩ := coherent.tracks committer member
    exact tracks.output_of_stopped
  obtain ⟨generated, skipped, failures⟩ := foldl_report nothing .empty
  refine ⟨generated, skipped, failures.trans ?_⟩
  have same : ∀ committer ∈ final.2,
      committer.failure? = (Builder.new settings).failure? committer.project := by
    intro committer member
    obtain ⟨done, tracks⟩ := coherent.tracks committer member
    apply Option.ext
    intro failure
    rw [Committer.failure?_eq_some, Builder.failure?_eq_some]
    exact tracks.stopped_iff failure
  rw [← coherent.projects_eq, List.filterMap_map]
  exact List.filterMap_congr same

end Coherent

/-! ## Outcomes -/

namespace Builder

/-- Whether removing what a run has left behind takes a file away. -/
def Removes (state : Workspace × GenerationReport) (path : Path) : Prop :=
  state.1.store.file? path ≠ none ∧ (removeStale state).1.store.file? path = none

/-- Whether two runs leave the same files behind, remove the same files, and report
the same failures and outputs, the outputs in any order. -/
structure SameOutcome (left right : Workspace × GenerationReport) : Prop where
  file?_eq : ∀ path,
    (removeStale left).1.store.file? path = (removeStale right).1.store.file? path
  removes_iff : ∀ path, Removes left path ↔ Removes right path
  failures_eq : left.2.failures = right.2.failures
  generated_perm : (left.2.output.generated.map Path.components).Perm
    (right.2.output.generated.map Path.components)
  skipped_perm : (left.2.output.skipped.map Path.components).Perm
    (right.2.output.skipped.map Path.components)

end Builder

namespace Store

/-- Deleting the same files leaves the same files. -/
theorem file?_deleteAll_congr {left right : Store} {paths others : List Path}
    (files : ∀ path, left.file? path = right.file? path) (locked : left.locked = right.locked)
    (named : ∀ components,
      components ∈ paths.map Path.components ↔ components ∈ others.map Path.components)
    (probe : Path) :
    (left.deleteAll paths).1.file? probe = (right.deleteAll others).1.file? probe := by
  have deletable_iff : left.Deletable probe ↔ right.Deletable probe := by
    unfold Deletable
    rw [files, locked]
  have names := named probe.components
  simp only [List.mem_map] at names
  by_cases deletable : left.Deletable probe
  · by_cases named : ∃ path ∈ paths, path.components = probe.components
    · obtain ⟨path, member, same⟩ := named
      obtain ⟨other, otherMember, otherSame⟩ := names.1 ⟨path, member, same⟩
      rw [file?_deleteAll_of_deletable member same deletable,
        file?_deleteAll_of_deletable otherMember otherSame (deletable_iff.1 deletable)]
    · have otherUnnamed := mt names.2 named
      rw [file?_deleteAll_of_spared (.inl fun path member same => named ⟨path, member, same⟩),
        file?_deleteAll_of_spared
          (.inl fun path member same => otherUnnamed ⟨path, member, same⟩), files]
  · rw [file?_deleteAll_of_spared (.inr deletable),
      file?_deleteAll_of_spared (.inr (mt deletable_iff.2 deletable)), files]

end Store

namespace Coherent

variable {settings : Settings} {start : Store} {projects : List Project}
variable {first second : Workspace × List Committer}

/-- Committers that are done leave the same files behind. -/
theorem file?_eq (agree : Agree ((Builder.new settings).renderedOutputs projects))
    (coherent : Coherent (Builder.new settings) start projects first)
    (allDone : ∀ committer ∈ first.2, committer.IsDone)
    (otherCoherent : Coherent (Builder.new settings) start projects second)
    (otherDone : ∀ committer ∈ second.2, committer.IsDone) (path : Path) :
    first.1.store.file? path = second.1.store.file? path := by
  by_cases written : ∃ other contents,
      Writes ((Builder.new settings).renderedOutputs projects) other contents ∧
        other.components = path.components
  · obtain ⟨other, contents, writes, same⟩ := written
    rw [← first.1.store.file?_congr same, ← second.1.store.file?_congr same]
    have here := coherent.file?_of_writes allDone agree writes
    have there := otherCoherent.file?_of_writes otherDone agree writes
    rcases here with ⟨stored, kept, _⟩ | ⟨differs, found, _⟩
    · rcases there with ⟨_, alsoKept, _⟩ | ⟨differs, _⟩
      · rw [kept, alsoKept]
      · exact absurd stored differs
    · rcases there with ⟨stored, _⟩ | ⟨_, alsoFound, _⟩
      · exact absurd stored differs
      · rw [found, alsoFound]
  · have unwritten : ∀ other contents,
        Writes ((Builder.new settings).renderedOutputs projects) other contents →
        other.components ≠ path.components :=
      fun other contents writes same => written ⟨other, contents, writes, same⟩
    rw [coherent.file?_of_unwritten allDone unwritten,
      otherCoherent.file?_of_unwritten otherDone unwritten]

/-- No output is generated twice, nor skipped twice. -/
theorem nodup_components (coherent : Coherent (Builder.new settings) start projects first) :
    ((first.2.flatMap (·.output.generated)).map Path.components).Nodup ∧
      ((first.2.flatMap (·.output.skipped)).map Path.components).Nodup := by
  have nodup : ∀ paths : List Path, paths.Sublist (footprints first.2) →
      (paths.map Path.components).Nodup := by
    intro paths sublist
    apply List.pairwise_map.2
    exact (coherent.distinct.sublist sublist).imp Path.components_ne_of_apart
  have listed : ∀ committer ∈ first.2, committer.output.listed.Sublist committer.footprint := by
    intro committer _
    exact (List.sublist_append_right _ _).trans (List.sublist_append_left _ _)
  constructor
  · apply nodup
    apply List.Sublist.flatMap_right
    intro committer member
    exact (List.sublist_append_left _ _).trans (listed committer member)
  · apply nodup
    apply List.Sublist.flatMap_right
    intro committer member
    exact (List.sublist_append_right _ _).trans (listed committer member)

/-- Committers that are done ask for the same removals. -/
theorem staleLists_iff (coherent : Coherent (Builder.new settings) start projects first)
    (allDone : ∀ committer ∈ first.2, committer.IsDone)
    (otherCoherent : Coherent (Builder.new settings) start projects second)
    (otherDone : ∀ committer ∈ second.2, committer.IsDone) (components : List Path.Component) :
    components ∈ (staleLists (merged first)).map Path.components ↔
      components ∈ (staleLists (merged second)).map Path.components := by
  unfold staleLists GenerationReport.isSuccess
  rw [coherent.report_merged.2.2, otherCoherent.report_merged.2.2]
  split
  · exact (coherent.mem_takeUnclaimed_iff allDone components).trans
      (otherCoherent.mem_takeUnclaimed_iff otherDone components).symm
  · exact Iff.rfl

/-- Committers that are done have come to the same. -/
theorem sameOutcome (agree : Agree ((Builder.new settings).renderedOutputs projects))
    (coherent : Coherent (Builder.new settings) start projects first)
    (allDone : ∀ committer ∈ first.2, committer.IsDone)
    (otherCoherent : Coherent (Builder.new settings) start projects second)
    (otherDone : ∀ committer ∈ second.2, committer.IsDone) :
    SameOutcome (merged first) (merged second) := by
  obtain ⟨generated, skipped, failures⟩ := coherent.report_merged
  obtain ⟨otherGenerated, otherSkipped, otherFailures⟩ := otherCoherent.report_merged
  have files := coherent.file?_eq agree allDone otherCoherent otherDone
  have locked := coherent.locked_eq.trans otherCoherent.locked_eq.symm
  have left : ∀ path, (removeStale (merged first)).1.store.file? path =
      (removeStale (merged second)).1.store.file? path := by
    intro path
    rw [store_removeStale, store_removeStale]
    apply file?_deleteAll_congr files locked
    exact coherent.staleLists_iff allDone otherCoherent otherDone
  constructor
  · exact left
  · intro path
    unfold Removes
    rw [left path, show (merged first).1.store.file? path = _ from files path]
    rfl
  · rw [failures, otherFailures]
  · rw [generated, otherGenerated]
    apply (List.perm_ext_iff_of_nodup coherent.nodup_components.1
      otherCoherent.nodup_components.1).2
    intro components
    rw [coherent.mem_generated_iff allDone agree, otherCoherent.mem_generated_iff otherDone agree]
  · rw [skipped, otherSkipped]
    apply (List.perm_ext_iff_of_nodup coherent.nodup_components.2
      otherCoherent.nodup_components.2).2
    intro components
    rw [coherent.mem_skipped_iff allDone agree, otherCoherent.mem_skipped_iff otherDone agree]

/-- Project files are reported in the order of their projects. -/
theorem reported_ordered (coherent : Coherent (Builder.new settings) start projects first) :
    (projectFilesOf (merged first).2.output.generated).Sublist
        (projects.flatMap Project.projectFiles) ∧
      (projectFilesOf (merged first).2.output.skipped).Sublist
        (projects.flatMap Project.projectFiles) := by
  have inOrder : ∀ committer ∈ first.2,
      (projectFilesOf committer.output.generated).Sublist
          committer.project.projectFiles ∧
        (projectFilesOf committer.output.skipped).Sublist
          committer.project.projectFiles := by
    intro committer member
    obtain ⟨done, tracks⟩ := coherent.tracks committer member
    have files := filterMap_pendings_sublist settings committer.project
    rw [tracks.pendings_eq, List.filterMap_append] at files
    have behind := (List.sublist_append_left _ _).trans files
    constructor
    · exact (((List.sublist_append_left _ _).filter _).trans tracks.generated_ordered).trans behind
    · exact (((List.sublist_append_left _ _).filter _).trans tracks.skipped_ordered).trans behind
  obtain ⟨generated, skipped, _⟩ := coherent.report_merged
  rw [generated, skipped, ← coherent.projects_eq, List.flatMap_map]
  unfold projectFilesOf
  rw [List.filter_flatMap, List.filter_flatMap]
  constructor
  · exact .flatMap_right _ fun committer member => (inOrder committer member).1
  · exact .flatMap_right _ fun committer member => (inOrder committer member).2

end Coherent

namespace Builder

/-- A project of one file renders one package list at most, and none without
packages. -/
theorem shared_minimal {settings : Settings} {name : String} {file : Path}
    {packages : List PackageReference} {path : Path} {contents : String}
    (member : .shared path contents ∈
      (Builder.new settings).pendings (.minimal name file packages)) :
    packages ≠ [] ∧ ∀ other written,
      .shared other written ∈ (Builder.new settings).pendings (.minimal name file packages) →
      path = other ∧ contents = written := by
  have groups : (Project.minimal name file packages).configurationsByFile =
      [(file, (Project.minimal name file packages).configurations)] := rfl
  unfold pendings renderProject at member ⊢
  simp only [groups, renderFiles] at member ⊢
  cases rendered : (Builder.new settings).renderFile (.minimal name file packages) file
      (Project.minimal name file packages).configurations with
  | error error => simp [rendered] at member
  | ok first =>
      simp only [rendered, Except.map, List.append_nil] at member ⊢
      obtain ⟨_, _, alone | ⟨_, _, stale | ⟨someReferences, list, shared⟩⟩⟩ :=
        renderFile_new_eq_ok rendered
      · simp [alone] at member
      · simp [stale] at member
      · rw [shared] at member ⊢
        constructor
        · simpa [Project.minimal] using someReferences
        · simp at member
          simp [member]

/-- In whatever order the committers of projects take their steps, they come to the
same as generating the projects one after the other, when read-only files may be
overwritten. -/
theorem interleaving_eq_sequential (settings : Settings) (clock : Timestamp) (store : Store)
    (projects : List Project) (final : Workspace × List Committer)
    (overwrites : settings.overwriteReadOnly = true)
    (distinct : Distinct (projects.flatMap Project.projectFiles))
    (shares : (Builder.new settings).SharesAgree projects)
    (completes : Committer.Completes settings.overwriteReadOnly
      (⟨store, .new clock⟩, projects.map (Builder.new settings).committer) final) :
    SameOutcome (merged final) ((Builder.new settings).afterProjects clock store projects) ∧
      (projectFilesOf (merged final).2.output.generated).Sublist
        (projects.flatMap Project.projectFiles) ∧
      (projectFilesOf (merged final).2.output.skipped).Sublist
        (projects.flatMap Project.projectFiles) := by
  rw [overwrites] at completes
  obtain ⟨sequential, inOrder, spelled⟩ :=
    (Builder.new settings).completes_afterProjects clock store projects
  have permitted : (Builder.new settings).settings.overwriteReadOnly = true := overwrites
  rw [permitted] at inOrder
  have agree := shares.agree distinct
  have coherent := Coherent.of_completes clock distinct completes.1
  have otherCoherent := Coherent.of_completes clock distinct inOrder.1
  have allDone : ∀ committer ∈ final.2, committer.IsDone :=
    fun committer member => Committer.step?_eq_none_iff.1 (completes.2 committer member)
  have otherDone : ∀ committer ∈ sequential.2, committer.IsDone :=
    fun committer member => Committer.step?_eq_none_iff.1 (inOrder.2 committer member)
  rw [← spelled]
  exact ⟨coherent.sameOutcome agree allDone otherCoherent otherDone, coherent.reported_ordered⟩

/-- A project with packages and a sibling without any, in another order than theirs. -/
theorem interleaving_eq_sequential_siblings :
    ∃ final,
      Committer.Completes true
        (⟨.empty, .new ⟨0, 0⟩⟩,
          [.minimal "App" ⟨"out/App.csproj"⟩ [⟨"Json", "13.0.1"⟩],
            .minimal "Tool" ⟨"out/Tool.csproj"⟩ []].map (Builder.new {}).committer) final ∧
      SameOutcome (merged final)
        ((Builder.new {}).afterProjects ⟨0, 0⟩ .empty
          [.minimal "App" ⟨"out/App.csproj"⟩ [⟨"Json", "13.0.1"⟩],
            .minimal "Tool" ⟨"out/Tool.csproj"⟩ []]) := by
  obtain ⟨final, completes⟩ := (Builder.new {}).completes_second_first
    ⟨.empty, .new ⟨0, 0⟩⟩ (.minimal "App" ⟨"out/App.csproj"⟩ [⟨"Json", "13.0.1"⟩])
    (.minimal "Tool" ⟨"out/Tool.csproj"⟩ [])
  have outcome := interleaving_eq_sequential {} ⟨0, 0⟩ .empty
    [.minimal "App" ⟨"out/App.csproj"⟩ [⟨"Json", "13.0.1"⟩],
      .minimal "Tool" ⟨"out/Tool.csproj"⟩ []] final rfl
    (by decide +kernel)
    (by
      intro path contents isShared other written otherShared _
      simp only [renderedOutputs, List.flatMap_cons, List.flatMap_nil, List.append_nil,
        List.mem_append]
        at isShared otherShared
      rcases isShared with ofApp | ofTool
      · rcases otherShared with otherOfApp | ofTool
        · obtain ⟨rfl, rfl⟩ := (shared_minimal ofApp).2 other written otherOfApp
          exact ⟨rfl, rfl⟩
        · exact absurd rfl (shared_minimal ofTool).1
      · exact absurd rfl (shared_minimal ofTool).1)
    completes
  exact ⟨final, completes, outcome.1⟩

end Builder

end ProjectFiles
