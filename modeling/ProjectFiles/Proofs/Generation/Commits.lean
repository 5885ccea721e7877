import ProjectFiles.Proofs.Generation.Settled

/-!
# The commits of a clean run

When no project of a run has failed, its projects come to one sequence of commits,
of all their outputs in order.  A shared output is then what the first project has
made of it that produces it, and every removal that a project asks for is noted.
-/

namespace ProjectFiles

open Store PendingOutput

/-! ## Sequences of commits -/

/-- Where a commit ends does not depend on what has been recorded before. -/
theorem PendingOutput.CommitStep.of_output {overwriteReadOnly : Bool} {before after : Workspace}
    {pending : PendingOutput} {output recorded : GenerationOutput}
    {result : Except GenerationError Unit}
    (step : CommitStep overwriteReadOnly before output pending after recorded result)
    (other : GenerationOutput) :
    ∃ total, CommitStep overwriteReadOnly before other pending after total result := by
  cases step with
  | deferred path => exact ⟨other, .deferred path⟩
  | handled claimed => exact ⟨other, .handled claimed⟩
  | written attempt step => exact ⟨_, .written attempt step⟩
  | failed attempt step => exact ⟨_, .failed attempt step⟩

/-- A commit claims nothing but a shared output. -/
theorem PendingOutput.CommitStep.isClaimed_cases {overwriteReadOnly : Bool}
    {before after : Workspace} {pending : PendingOutput} {output recorded : GenerationOutput}
    {result : Except GenerationError Unit}
    (step : CommitStep overwriteReadOnly before output pending after recorded result) {probe : Path}
    (claimed : after.session.isClaimed probe = true) :
    before.session.isClaimed probe = true ∨
      ∃ path contents, pending = .shared path contents ∧ path.sameOutput probe = true := by
  cases step with
  | deferred | handled => exact .inl claimed
  | failed attempt =>
      rw [isClaimed_rejected attempt] at claimed
      exact .inl claimed
  | written attempt =>
      rw [isClaimed_accepted attempt, Bool.or_eq_true, Bool.and_eq_true] at claimed
      rcases claimed with ⟨isShared, same⟩ | earlier
      · cases pending with
        | file | staleShared => cases isShared
        | shared path contents =>
            obtain ⟨_, rfl, rfl⟩ := attempt?_shared_eq_some.1 attempt
            rw [Path.sameOutput_comm] at same
            exact .inr ⟨path, contents, rfl, same⟩
      · exact .inl earlier

namespace Builder

namespace CommitRun

variable {overwriteReadOnly : Bool} {before middle after : Workspace}
variable {output recorded total : GenerationOutput} {former latter : List PendingOutput}

theorem of_output
    (run : CommitRun overwriteReadOnly before output former after recorded none)
    (other : GenerationOutput) :
    ∃ total, CommitRun overwriteReadOnly before other former after total none := by
  generalize refused : (none : Option (Path × GenerationError)) = refusal at run
  induction run generalizing other with
  | done => exact ⟨other, .done⟩
  | next step _ ih =>
      obtain ⟨noted, again⟩ := step.of_output other
      obtain ⟨total, rest⟩ := ih noted refused
      exact ⟨total, .next again rest⟩
  | stopped => cases refused

theorem append
    (first : CommitRun overwriteReadOnly before output former middle recorded none)
    (second : CommitRun overwriteReadOnly middle recorded latter after total none) :
    CommitRun overwriteReadOnly before output (former ++ latter) after total none := by
  generalize refused : (none : Option (Path × GenerationError)) = refusal at first
  induction first with
  | done => exact second
  | next step _ ih => exact .next step (ih second refused)
  | stopped => cases refused

/-- A sequence of commits can be cut anywhere. -/
theorem split
    (run : CommitRun overwriteReadOnly before output (former ++ latter) after total none) :
    ∃ middle recorded, CommitRun overwriteReadOnly before output former middle recorded none ∧
      CommitRun overwriteReadOnly middle recorded latter after total none := by
  induction former generalizing before output with
  | nil => exact ⟨before, output, .done, run⟩
  | cons pending rest ih =>
      cases run with
      | next step run =>
          obtain ⟨middle, recorded, first, second⟩ := ih run
          exact ⟨middle, recorded, .next step first, second⟩

/-- Commits claim nothing but the shared outputs among them. -/
theorem isClaimed_cases
    (run : CommitRun overwriteReadOnly before output former after total none) {probe : Path}
    (claimed : after.session.isClaimed probe = true) :
    before.session.isClaimed probe = true ∨
      ∃ path contents, .shared path contents ∈ former ∧ path.sameOutput probe = true := by
  generalize refused : (none : Option (Path × GenerationError)) = refusal at run
  induction run with
  | done => exact .inl claimed
  | next step _ ih =>
      rcases ih claimed refused with earlier | ⟨path, contents, inRest, same⟩
      · rcases step.isClaimed_cases earlier with older | ⟨path, contents, rfl, same⟩
        · exact .inl older
        · exact .inr ⟨path, contents, List.mem_cons_self, same⟩
      · exact .inr ⟨path, contents, List.mem_cons_of_mem _ inRest, same⟩
  | stopped => cases refused

theorem stale_of_stale
    (run : CommitRun overwriteReadOnly before output former after total none) {probe : Path}
    (stale : before.session.stale.contains probe = true) :
    after.session.stale.contains probe = true := by
  generalize refused : (none : Option (Path × GenerationError)) = refusal at run
  induction run with
  | done => exact stale
  | next step _ ih =>
      refine ih ?_ refused
      cases step with
      | deferred => rw [Session.deferStale, SortedMap.contains_insert, stale, Bool.or_true]
      | handled => exact stale
      | written attempt => rwa [stale_accepted attempt]
  | stopped => cases refused

/-- Every removal that is asked for is noted. -/
theorem stale_of_deferred
    (run : CommitRun overwriteReadOnly before output former after total none) {path : Path}
    (member : .staleShared path ∈ former) :
    after.session.stale.contains path.absolute = true := by
  obtain ⟨earlier, later, rfl⟩ := List.append_of_mem member
  obtain ⟨middle, recorded, _, second⟩ := run.split
  cases second with
  | next step rest =>
      refine rest.stale_of_stale ?_
      cases step with
      | deferred =>
          rw [Session.deferStale, SortedMap.contains_insert]
          simp
      | written attempt => cases attempt

theorem listed_of_listed
    (run : CommitRun overwriteReadOnly before output former after total none) {path : Path}
    (listed : path ∈ output.listed) : path ∈ total.listed := by
  generalize refused : (none : Option (Path × GenerationError)) = refusal at run
  induction run with
  | done => exact listed
  | next step _ ih =>
      refine ih ?_ refused
      cases step with
      | deferred | handled => exact listed
      | written => exact GenerationOutput.mem_listed_record.2 (.inr listed)
  | stopped => cases refused

/-- Every file that is written or found as it should be is reported. -/
theorem listed_of_file
    (run : CommitRun overwriteReadOnly before output former after total none) {path : Path}
    {contents : String} (member : .file path contents ∈ former) : path ∈ total.listed := by
  obtain ⟨earlier, later, rfl⟩ := List.append_of_mem member
  obtain ⟨middle, recorded, _, second⟩ := run.split
  cases second with
  | next step rest =>
      refine rest.listed_of_listed ?_
      cases step with
      | written attempt =>
          obtain ⟨rfl, _⟩ := Prod.mk.inj (Option.some.inj attempt)
          exact GenerationOutput.mem_listed_record.2 (.inl rfl)

/-- Commits stop only where read-only files are not to be overwritten. -/
theorem overwriteReadOnly_eq_false {refused : Path × GenerationError}
    (run : CommitRun overwriteReadOnly before output former after total (some refused)) :
    overwriteReadOnly = false := by
  generalize stops : some refused = refusal at run
  induction run with
  | done => cases stops
  | next _ _ ih => exact ih stops
  | stopped step =>
      cases step with
      | failed _ step => exact step.of_error.2.1.1

/-- What an output is written with stays until its own project file is written again. -/
theorem contents?_of_attempt {pending : PendingOutput} {path : Path} {contents : String}
    (run : CommitRun overwriteReadOnly before output (pending :: latter) after total none)
    (belong : ∀ other ∈ pending :: latter, ∃ project, other.BelongsTo project)
    (attempt : pending.attempt? before.session = some (path, contents))
    (apart : ∀ file ∈ pending.filePath?, ∀ other ∈ latter.filterMap filePath?,
      file.sameOutput other = false) :
    after.session.produced path = true ∧ after.store.contents? path = some contents := by
  obtain ⟨⟨project, belongs⟩, belongRest⟩ := List.forall_mem_cons.1 belong
  cases run with
  | @next _ next _ _ _ _ _ _ _ step rest =>
      have written : next.store.contents? path = some contents := by
        cases step with
        | deferred => cases attempt
        | handled claimed => simp [attempt?, claimed] at attempt
        | written own step =>
            obtain ⟨rfl, rfl⟩ := Prod.mk.inj (Option.some.inj (attempt.symm.trans own))
            exact step.contents?_of_ok
      have settled : next.Settled overwriteReadOnly (latter.filterMap filePath? ++ []) path :=
        Workspace.settled_of_attempt step belongs attempt (by simpa using apart)
      obtain ⟨kept, last⟩ := rest.settled belongRest settled
      refine ⟨last.produced, ?_⟩
      rw [← written]
      unfold contents?
      rw [kept]

/-- Who is the first to produce a shared output decides what it is. -/
theorem contents?_of_first {path : Path} {contents : String}
    (run : CommitRun overwriteReadOnly before output (former ++ .shared path contents :: latter)
      after total none)
    (belong : ∀ pending ∈ former ++ .shared path contents :: latter,
      ∃ project, pending.BelongsTo project)
    (unclaimed : before.session.isClaimed path = false)
    (isFirst : ∀ other text, .shared other text ∈ former → other.sameOutput path = false) :
    after.session.produced path = true ∧ after.store.contents? path = some contents := by
  obtain ⟨middle, recorded, first, second⟩ := run.split
  have free : middle.session.isClaimed path = false := by
    rw [Bool.eq_false_iff]
    intro claimed
    rcases first.isClaimed_cases claimed with earlier | ⟨other, text, inFormer, same⟩
    · rw [unclaimed] at earlier
      cases earlier
    · rw [isFirst other text inFormer] at same
      cases same
  exact second.contents?_of_attempt
    (fun pending member => belong pending (List.mem_append_right _ member))
    (attempt?_shared_eq_some.2 ⟨free, rfl, rfl⟩) (by simp [filePath?])

/-- Who is the last to write a project file decides what it is. -/
theorem contents?_of_last {path : Path} {contents : String}
    (run : CommitRun overwriteReadOnly before output (former ++ .file path contents :: latter)
      after total none)
    (belong : ∀ pending ∈ former ++ .file path contents :: latter,
      ∃ project, pending.BelongsTo project)
    (isLast : ∀ other ∈ latter.filterMap filePath?, path.sameOutput other = false) :
    after.session.produced path = true ∧ after.store.contents? path = some contents := by
  obtain ⟨middle, recorded, _, second⟩ := run.split
  exact second.contents?_of_attempt
    (fun pending member => belong pending (List.mem_append_right _ member)) rfl
    (by simpa [filePath?] using isLast)

end CommitRun

/-! ## Clean runs -/

variable {builder : Builder} {state : Workspace × GenerationReport} {projects : List Project}

/-- Where no project has failed, all of them have been rendered. -/
theorem commitRun_of_clean
    (clean : (projects.foldl builder.generateProject state).2.failures = []) :
    (∀ project ∈ projects, ∃ rendered, builder.renderProject project = .ok rendered) ∧
      ∃ total, CommitRun builder.settings.overwriteReadOnly state.1 .empty
        (builder.renderedOutputs projects)
        (projects.foldl builder.generateProject state).1 total none := by
  induction projects generalizing state with
  | nil => exact ⟨by simp, .empty, .done⟩
  | cons project rest ih =>
      have cleanBefore : (builder.generateProject state project).2.failures = [] := by
        have grows := (builder.advance_foldl_generateProject
          (builder.generateProject state project) rest).failures
        rw [List.foldl_cons] at clean
        rw [clean] at grows
        exact List.prefix_nil.1 grows
      obtain ⟨rendersRest, restTotal, restRun⟩ := ih clean
      have step := builder.generateProject_step project state
      generalize generated : builder.generateProject state project = next
        at step cleanBefore restRun
      cases step with
      | unrendered => simp [GenerationReport.addFailure] at cleanBefore
      | stopped => simp [GenerationReport.addFailure] at cleanBefore
      | @finished rendered final recorded renders run =>
          obtain ⟨total, again⟩ := restRun.of_output recorded
          have ownOutputs : builder.pendings project = rendered.pending := by
            rw [pendings, renders]
          refine ⟨List.forall_mem_cons.2 ⟨⟨rendered, renders⟩, rendersRest⟩, total, ?_⟩
          rw [renderedOutputs, List.flatMap_cons, ownOutputs, List.foldl_cons, generated]
          exact run.append again

/-- Whether a run has ended and nothing has failed in it. -/
def IsClean (builder : Builder) (clock : Timestamp) (store : Store) (projects : List Project)
    (solutions : List Solution) : Prop :=
  ∃ report, (builder.generate clock store projects solutions).2 = .ok report ∧
    report.failures = []

/-- No project fails in a clean run. -/
theorem IsClean.failures_eq_nil {settings : Settings} {clock : Timestamp} {store : Store}
    {solutions : List Solution}
    (clean : (Builder.new settings).IsClean clock store projects solutions) :
    ((Builder.new settings).afterProjects clock store projects).2.failures = [] := by
  obtain ⟨report, reported, noFailures⟩ := clean
  rw [generate_eq] at reported
  obtain ⟨cleanup, rfl⟩ := (cleanUp_step (.new settings) _).report_of_ok reported
  by_contra failed
  exact failures_afterSolutions_ne_nil failed noFailures

end Builder

end ProjectFiles
