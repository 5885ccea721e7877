import ProjectFiles.Proofs.Generation.Committer
import ProjectFiles.Proofs.Generation.Run

/-!
# Interleavings

Generating the projects one after the other is one way to interleave their
committers: the first is run until it is done, then the next one.
-/

namespace ProjectFiles

open Relation

namespace Committer

/-- What is left of a workspace and a committer when an output has been committed. -/
def settleOutput (committer : Committer) (rest : List PendingOutput) (path : Path) :
    Workspace × GenerationOutput × Except GenerationError Unit → Workspace × Committer
  | (final, recorded, .ok ()) =>
      (final, { committer with pending := rest, activity := .idle, output := recorded })
  | (final, recorded, .error error) =>
      (final,
        { committer with
          pending := rest
          activity := .stopped ⟨committer.project.name, some path, error⟩
          output := recorded })

section Commit

variable (overwriteReadOnly : Bool) (workspace : Workspace) (committer : Committer)
  (rest : List PendingOutput)

theorem runs_commit_file (path : Path) (contents : String) :
    Runs overwriteReadOnly
      (workspace, { committer with pending := .file path contents :: rest, activity := .idle })
      (committer.settleOutput rest path
        ((PendingOutput.file path contents).commit overwriteReadOnly workspace
          committer.output)) := by
  have taken : Moves overwriteReadOnly
      (workspace, { committer with pending := .file path contents :: rest, activity := .idle })
      (workspace,
        { committer with pending := rest, activity := .recording ⟨path, contents, false⟩ }) :=
    rfl
  apply ReflTransGen.head taken
  have written := runs_write overwriteReadOnly workspace { committer with pending := rest }
    ⟨path, contents, false⟩
  simp only [PendingOutput.commit, Workspace.writeInto]
  cases ended : workspace.write overwriteReadOnly path contents with
  | mk final result =>
      simp only [ended] at written
      cases result with
      | ok outcome => exact written
      | error error => exact written

/-- A shared output that is claimed already is passed over. -/
theorem runs_commit_claimed {path : Path} {contents : String}
    (claimed : workspace.session.isClaimed path = true) :
    Runs overwriteReadOnly
      (workspace, { committer with pending := .shared path contents :: rest, activity := .idle })
      (committer.settleOutput rest path
        ((PendingOutput.shared path contents).commit overwriteReadOnly workspace
          committer.output)) := by
  have handled := PendingOutput.claim_of_claimed claimed
  simp only [PendingOutput.commit, Workspace.writeShared, handled]
  apply ReflTransGen.single
  simp only [Moves, step?, takeUp, handled]
  rfl

/-- Any other shared output is claimed and written. -/
theorem runs_commit_unclaimed {path : Path} {contents : String}
    (unclaimed : workspace.session.isClaimed path = false) :
    Runs overwriteReadOnly
      (workspace, { committer with pending := .shared path contents :: rest, activity := .idle })
      (committer.settleOutput rest path
        ((PendingOutput.shared path contents).commit overwriteReadOnly workspace
          committer.output)) := by
  have fresh := PendingOutput.claim_of_unclaimed unclaimed
  have taken : Moves overwriteReadOnly
      (workspace, { committer with pending := .shared path contents :: rest, activity := .idle })
      (⟨workspace.store, (workspace.session.claim path).1⟩,
        { committer with pending := rest, activity := .recording ⟨path, contents, true⟩ }) := by
    simp [Moves, step?, takeUp, fresh]
  apply ReflTransGen.head taken
  have written := runs_write overwriteReadOnly
    ⟨workspace.store, (workspace.session.claim path).1⟩
    { committer with pending := rest } ⟨path, contents, true⟩
  simp only [PendingOutput.commit, Workspace.writeShared, fresh, Workspace.produceClaimed,
    Workspace.writeInto]
  cases ended : Workspace.write overwriteReadOnly
      ⟨workspace.store, (workspace.session.claim path).1⟩ path contents with
  | mk final result =>
      simp only [ended] at written
      cases result with
      | ok outcome => exact written
      | error error =>
          -- the claim is given back in a step of its own
          apply ReflTransGen.tail written
          rfl

/-- Taking up an output and working on it comes to the same as the whole
commit. -/
theorem runs_commit (output : PendingOutput) :
    Runs overwriteReadOnly
      (workspace, { committer with pending := output :: rest, activity := .idle })
      (committer.settleOutput rest output.path
        (output.commit overwriteReadOnly workspace committer.output)) := by
  cases output with
  | staleShared path =>
      apply ReflTransGen.single
      rfl
  | file path contents => exact runs_commit_file overwriteReadOnly workspace committer rest _ _
  | shared path contents =>
      cases claimed : workspace.session.isClaimed path with
      | true => exact runs_commit_claimed overwriteReadOnly workspace committer rest claimed
      | false => exact runs_commit_unclaimed overwriteReadOnly workspace committer rest claimed

end Commit

/-- Committing all outputs of a project is a run of its committer. -/
theorem runs_commitAll (builder : Builder) (workspace : Workspace) (committer : Committer)
    (pendings : List PendingOutput) :
    ∃ done : Committer,
      Runs builder.settings.overwriteReadOnly
        (workspace, { committer with pending := pendings, activity := .idle })
        ((builder.commitAll committer.project workspace committer.output pendings).1, done) ∧
      done.IsDone ∧
      ∀ before, done.report before =
        match (builder.commitAll committer.project workspace committer.output pendings).2 with
        | .ok output =>
            { before with
              output := before.output.merge output
              warnings := before.warnings ++ committer.warnings }
        | .error failure => before.addFailure failure := by
  induction pendings generalizing workspace committer with
  | nil =>
      refine ⟨{ committer with pending := [], activity := .idle }, .refl, .inl ⟨rfl, rfl⟩, ?_⟩
      intro before
      rfl
  | cons output rest ih =>
      have first := runs_commit builder.settings.overwriteReadOnly workspace committer rest output
      unfold Builder.commitAll
      cases committed : output.commit builder.settings.overwriteReadOnly workspace
          committer.output with
      | mk next recordedAndResult =>
          obtain ⟨recorded, result⟩ := recordedAndResult
          simp only [committed] at first
          cases result with
          | ok _ =>
              obtain ⟨done, run, isDone, reports⟩ := ih next { committer with output := recorded }
              exact ⟨done, first.trans run, isDone, reports⟩
          | error error => exact ⟨_, first, .inr ⟨_, rfl⟩, fun _ => rfl⟩

/-- Generating a project is a run of its committer. -/
theorem runs_generateProject (builder : Builder) (state : Workspace × GenerationReport)
    (project : Project) :
    ∃ done : Committer,
      Runs builder.settings.overwriteReadOnly (state.1, builder.committer project)
        ((builder.generateProject state project).1, done) ∧
      done.IsDone ∧ done.report state.2 = (builder.generateProject state project).2 := by
  obtain ⟨workspace, before⟩ := state
  unfold Builder.committer Builder.generateProject
  cases builder.renderProject project with
  | error failure => exact ⟨_, .refl, .inr ⟨failure, rfl⟩, rfl⟩
  | ok rendered =>
      obtain ⟨done, run, isDone, reports⟩ := runs_commitAll builder workspace
        ⟨project, rendered.warnings, rendered.pending, .idle, .empty⟩ rendered.pending
      have reported := reports before
      cases committed : builder.commitAll project workspace .empty rendered.pending with
      | mk final result =>
          simp only [committed] at run reported ⊢
          cases result with
          | ok output => exact ⟨done, run, isDone, reported⟩
          | error failure => exact ⟨done, run, isDone, reported⟩

/-- A run of one committer is a run of all of them in which the others rest. -/
theorem Runs.lift {overwriteReadOnly : Bool} {start final : Workspace × Committer}
    (run : Runs overwriteReadOnly start final) (before after : List Committer) :
    ReflTransGen (Step overwriteReadOnly) (start.1, before ++ start.2 :: after)
      (final.1, before ++ final.2 :: after) := by
  induction run with
  | refl => exact .refl
  | tail _ moves ih => exact ih.tail (.mk before after moves)

end Committer

namespace Builder

/-- Generating projects in order is a complete interleaving of their
committers. -/
theorem completes_foldl_generateProject (builder : Builder) (projects : List Project)
    (state : Workspace × GenerationReport) (before : List Committer) :
    ∃ done : List Committer,
      ReflTransGen (Committer.Step builder.settings.overwriteReadOnly)
        (state.1, before ++ projects.map builder.committer)
        ((projects.foldl builder.generateProject state).1, before ++ done) ∧
      (∀ committer ∈ done, committer.IsDone) ∧
      done.foldl Committer.report state.2 =
        (projects.foldl builder.generateProject state).2 := by
  induction projects generalizing state before with
  | nil => exact ⟨[], .refl, by simp, rfl⟩
  | cons project rest ih =>
      obtain ⟨first, run, firstDone, reports⟩ :=
        Committer.runs_generateProject builder state project
      obtain ⟨others, runOthers, othersDone, reportsOthers⟩ :=
        ih (builder.generateProject state project) (before ++ [first])
      have lifted := run.lift before (rest.map builder.committer)
      simp only [List.append_assoc, List.singleton_append] at runOthers
      refine ⟨first :: others, lifted.trans runOthers, ?_, ?_⟩
      · simp only [List.forall_mem_cons]
        exact ⟨firstDone, othersDone⟩
      · rw [List.foldl_cons, reports, reportsOthers]
        rfl

/-- The projects of a run are generated by a complete interleaving. -/
theorem completes_afterProjects (builder : Builder) (clock : Timestamp) (store : Store)
    (projects : List Project) :
    ∃ final, Committer.Completes builder.settings.overwriteReadOnly
        (⟨store, .new clock⟩, projects.map builder.committer) final ∧
      merged final = builder.afterProjects clock store projects := by
  obtain ⟨done, run, allDone, reports⟩ :=
    builder.completes_foldl_generateProject projects (⟨store, .new clock⟩, .empty) []
  refine ⟨_, ⟨run, ?_⟩, Prod.ext rfl reports⟩
  intro committer member
  exact Committer.step?_eq_none_iff.2 (allDone committer member)

/-- The second of two committers may be run before the first. -/
theorem completes_second_first (builder : Builder) (workspace : Workspace)
    (first second : Project) :
    ∃ final, Committer.Completes builder.settings.overwriteReadOnly
      (workspace, [first, second].map builder.committer) final := by
  obtain ⟨later, runLater, laterDone, _⟩ :=
    Committer.runs_generateProject builder (workspace, .empty) second
  obtain ⟨earlier, runEarlier, earlierDone, _⟩ :=
    Committer.runs_generateProject builder
      (builder.generateProject (workspace, .empty) second) first
  have laterFirst := runLater.lift [builder.committer first] []
  refine ⟨_, laterFirst.trans (runEarlier.lift [] [later]), ?_⟩
  intro committer member
  apply Committer.step?_eq_none_iff.2
  simp only [List.nil_append, List.mem_cons, List.not_mem_nil, or_false] at member
  rcases member with rfl | rfl
  · exact earlierDone
  · exact laterDone

end Builder

end ProjectFiles
