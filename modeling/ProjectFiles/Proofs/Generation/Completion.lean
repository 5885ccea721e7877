import Mathlib.Data.List.Flatten
import ProjectFiles.Proofs.Generation.Coherence

/-!
# Committers that are done

What coherent committers leave behind when all of them are done can be told from
the store at the start and the rendered outputs alone.  Every output is written or
found as it should be, once, and the package lists that wait for removal are those
that nobody renders.
-/

namespace ProjectFiles

open Relation Store PendingOutput Builder

/-! ## Agreement -/

/-- Whether outputs that are the same have the same path and contents. -/
def Agree (outputs : List PendingOutput) : Prop :=
  ∀ path contents, Writes outputs path contents →
    ∀ other written, Writes outputs other written → path.sameOutput other = true →
      path.components = other.components ∧ contents = written

namespace Builder

/-- Whether shared outputs that are the same have the same path and contents. -/
def SharesAgree (builder : Builder) (projects : List Project) : Prop :=
  ∀ path contents, .shared path contents ∈ builder.renderedOutputs projects →
    ∀ other written, .shared other written ∈ builder.renderedOutputs projects →
      path.sameOutput other = true → path.components = other.components ∧ contents = written

/-- An output that is written is a project file or a package list. -/
theorem mem_of_writes {settings : Settings} {projects : List Project} {path : Path}
    {contents : String}
    (writes : Writes ((Builder.new settings).renderedOutputs projects) path contents) :
    (path.isPackageList = false ∧
        .file path contents ∈ (Builder.new settings).renderedOutputs projects) ∨
      (path.isPackageList = true ∧
        .shared path contents ∈ (Builder.new settings).renderedOutputs projects) := by
  obtain ⟨output, member, written⟩ := writes
  obtain ⟨project, _, rendered⟩ := List.mem_flatMap.1 member
  cases belongsTo_of_mem_pendings rendered with
  | file _ isOwn =>
      cases written
      exact .inl ⟨isOwn, member⟩
  | shared =>
      cases written
      exact .inr ⟨Path.isPackageList_packageList _, member⟩
  | staleShared => cases written

/-- Distinct project files and shared outputs that agree make all outputs agree. -/
theorem SharesAgree.agree {settings : Settings} {projects : List Project}
    (shares : (Builder.new settings).SharesAgree projects)
    (distinct : Distinct (projects.flatMap Project.projectFiles)) :
    Agree ((Builder.new settings).renderedOutputs projects) := by
  have files : Distinct
      (((Builder.new settings).renderedOutputs projects).filterMap filePath?) := by
    unfold renderedOutputs
    rw [List.filterMap_flatMap]
    exact distinct.sublist
      (.flatMap_right _ fun project _ => filterMap_pendings_sublist settings project)
  intro path contents writes other written otherWrites same
  have kind := Path.isPackageList_of_sameOutput same
  rcases mem_of_writes writes with ⟨isOwn, isFile⟩ | ⟨isList, isShared⟩
  · rcases mem_of_writes otherWrites with ⟨_, otherFile⟩ | ⟨otherList, _⟩
    · by_cases equal : PendingOutput.file path contents = .file other written
      · cases equal
        exact ⟨rfl, rfl⟩
      · have apart := files.apart_of_mem isFile otherFile equal path rfl other rfl
        rw [same] at apart
        cases apart
    · rw [isOwn, otherList] at kind
      cases kind
  · rcases mem_of_writes otherWrites with ⟨otherOwn, _⟩ | ⟨_, otherShared⟩
    · rw [isList, otherOwn] at kind
      cases kind
    · exact shares path contents isShared other written otherShared same

end Builder

/-! ## Committers that are done -/

namespace Coherent

variable {settings : Settings} {start : Store} {projects : List Project}
variable {final : Workspace × List Committer}
variable (coherent : Coherent (Builder.new settings) start projects final)
variable (allDone : ∀ committer ∈ final.2, committer.IsDone)

include coherent allDone

/-- A committer that is done has handled all outputs of its project and is not
writing. -/
theorem handled_of_done {committer : Committer} (member : committer ∈ final.2) :
    (∀ output ∈ (Builder.new settings).pendings committer.project,
      committer.Handled final.1.session output) ∧ committer.activity.job? = none := by
  obtain ⟨done, tracks⟩ := coherent.tracks committer member
  have pendings_eq := tracks.pendings_eq
  rcases allDone committer member with ⟨idle, nothing⟩ | ⟨failure, stopped⟩
  · rw [nothing, List.append_nil] at pendings_eq
    rw [pendings_eq]
    exact ⟨tracks.handled, by simp [idle, Activity.job?]⟩
  · have nothing : (Builder.new settings).pendings committer.project = [] := by
      unfold Builder.pendings
      rw [(tracks.stopped_iff failure).1 stopped]
    rw [nothing]
    exact ⟨by simp, by simp [stopped, Activity.job?]⟩

/-- Every rendered output has been handled. -/
theorem exists_handled {output : PendingOutput}
    (member : output ∈ (Builder.new settings).renderedOutputs projects) :
    ∃ committer ∈ final.2, committer.Handled final.1.session output := by
  obtain ⟨project, inProjects, rendered⟩ := List.mem_flatMap.1 member
  rw [← coherent.projects_eq] at inProjects
  obtain ⟨committer, inFinal, rfl⟩ := List.mem_map.1 inProjects
  exact ⟨committer, inFinal, (coherent.handled_of_done allDone inFinal).1 output rendered⟩

/-- Every output that is to be written is owned. -/
theorem exists_owned {path : Path} {contents : String}
    (writes : Writes ((Builder.new settings).renderedOutputs projects) path contents) :
    ∃ own ∈ ownedBy final.2, path.sameOutput own = true := by
  rcases mem_of_writes writes with ⟨_, isFile⟩ | ⟨_, isShared⟩
  · obtain ⟨committer, inFinal, owns⟩ := coherent.exists_handled allDone isFile
    exact ⟨path, mem_ownedBy inFinal owns, path.sameOutput_self⟩
  · obtain ⟨committer, inFinal, claimed⟩ := coherent.exists_handled allDone isShared
    obtain ⟨own, owned, _, same⟩ := (coherent.isClaimed_iff path).1 claimed
    exact ⟨own, owned, same⟩

/-- Everything that is owned has been generated or skipped. -/
theorem mem_listed_of_owned {own : Path} (owned : own ∈ ownedBy final.2) :
    (own ∈ final.2.flatMap (·.output.generated)) ∨ own ∈ final.2.flatMap (·.output.skipped) := by
  obtain ⟨committer, member, owns⟩ := List.mem_flatMap.1 owned
  have listed : own ∈ committer.output.listed := by
    simpa [Committer.owned, (coherent.handled_of_done allDone member).2] using owns
  rcases List.mem_append.1 listed with generated | skipped
  · exact .inl (List.mem_flatMap.2 ⟨committer, member, generated⟩)
  · exact .inr (List.mem_flatMap.2 ⟨committer, member, skipped⟩)

omit allDone in
theorem of_mem_generated {own : Path} (generated : own ∈ final.2.flatMap (·.output.generated)) :
    ∃ contents, Writes ((Builder.new settings).renderedOutputs projects) own contents ∧
      start.contents? own ≠ some contents ∧ final.1.store.file? own = some ⟨contents, false⟩ := by
  obtain ⟨committer, member, inOutput⟩ := List.mem_flatMap.1 generated
  exact (coherent.sound committer member).generated own inOutput

omit allDone in
theorem of_mem_skipped {own : Path} (skipped : own ∈ final.2.flatMap (·.output.skipped)) :
    ∃ contents, Writes ((Builder.new settings).renderedOutputs projects) own contents ∧
      start.contents? own = some contents ∧
      final.1.store.file? own = start.file? own := by
  obtain ⟨committer, member, inOutput⟩ := List.mem_flatMap.1 skipped
  exact (coherent.sound committer member).skipped own inOutput

/-- Everything that is owned is one of the outputs to be written. -/
theorem writes_of_owned {own : Path} (owned : own ∈ ownedBy final.2) :
    ∃ contents, Writes ((Builder.new settings).renderedOutputs projects) own contents := by
  rcases coherent.mem_listed_of_owned allDone owned with generated | skipped
  · obtain ⟨contents, writes, _⟩ := coherent.of_mem_generated generated
    exact ⟨contents, writes⟩
  · obtain ⟨contents, writes, _⟩ := coherent.of_mem_skipped skipped
    exact ⟨contents, writes⟩

/-- What a run leaves at a path that outputs are written to. -/
theorem file?_of_writes (agree : Agree ((Builder.new settings).renderedOutputs projects))
    {path : Path} {contents : String}
    (writes : Writes ((Builder.new settings).renderedOutputs projects) path contents) :
    (start.contents? path = some contents ∧ final.1.store.file? path = start.file? path ∧
        ∃ own ∈ final.2.flatMap (·.output.skipped), own.components = path.components) ∨
      (start.contents? path ≠ some contents ∧
        final.1.store.file? path = some ⟨contents, false⟩ ∧
        ∃ own ∈ final.2.flatMap (·.output.generated), own.components = path.components) := by
  obtain ⟨own, owned, same⟩ := coherent.exists_owned allDone writes
  rcases coherent.mem_listed_of_owned allDone owned with generated | skipped
  · obtain ⟨written, ownWrites, differs, found⟩ := coherent.of_mem_generated generated
    obtain ⟨spelled, rfl⟩ := agree path contents writes own written ownWrites same
    rw [start.contents?_congr spelled, final.1.store.file?_congr spelled]
    exact .inr ⟨differs, found, own, generated, spelled.symm⟩
  · obtain ⟨written, ownWrites, stored, kept⟩ := coherent.of_mem_skipped skipped
    obtain ⟨spelled, rfl⟩ := agree path contents writes own written ownWrites same
    rw [start.contents?_congr spelled, final.1.store.file?_congr spelled, start.file?_congr spelled]
    exact .inl ⟨stored, kept, own, skipped, spelled.symm⟩

/-- A run leaves everything else alone. -/
theorem file?_of_unwritten {path : Path}
    (unwritten : ∀ other contents,
      Writes ((Builder.new settings).renderedOutputs projects) other contents →
      other.components ≠ path.components) :
    final.1.store.file? path = start.file? path := by
  apply coherent.file?_of_unowned
  intro own owned
  obtain ⟨contents, writes⟩ := coherent.writes_of_owned allDone owned
  exact unwritten own contents writes

/-- The outputs generated are those that had other contents at the start. -/
theorem mem_generated_iff (agree : Agree ((Builder.new settings).renderedOutputs projects))
    (components : List Path.Component) :
    components ∈ (final.2.flatMap (·.output.generated)).map Path.components ↔
      ∃ path contents, Writes ((Builder.new settings).renderedOutputs projects) path contents ∧
        start.contents? path ≠ some contents ∧ path.components = components := by
  constructor
  · intro member
    obtain ⟨own, generated, spelled⟩ := List.mem_map.1 member
    obtain ⟨contents, writes, differs, _⟩ := coherent.of_mem_generated generated
    exact ⟨own, contents, writes, differs, spelled⟩
  · rintro ⟨path, contents, writes, differs, rfl⟩
    rcases coherent.file?_of_writes allDone agree writes with ⟨stored, _⟩ | ⟨_, _, generated⟩
    · exact absurd stored differs
    · exact List.mem_map.2 generated

/-- The outputs skipped are those that had their contents at the start. -/
theorem mem_skipped_iff (agree : Agree ((Builder.new settings).renderedOutputs projects))
    (components : List Path.Component) :
    components ∈ (final.2.flatMap (·.output.skipped)).map Path.components ↔
      ∃ path contents, Writes ((Builder.new settings).renderedOutputs projects) path contents ∧
        start.contents? path = some contents ∧ path.components = components := by
  constructor
  · intro member
    obtain ⟨own, skipped, spelled⟩ := List.mem_map.1 member
    obtain ⟨contents, writes, stored, _⟩ := coherent.of_mem_skipped skipped
    exact ⟨own, contents, writes, stored, spelled⟩
  · rintro ⟨path, contents, writes, stored, rfl⟩
    rcases coherent.file?_of_writes allDone agree writes with ⟨_, _, skipped⟩ | ⟨differs, _⟩
    · exact List.mem_map.2 skipped
    · exact absurd stored differs

/-- The package lists claimed are those that somebody renders. -/
theorem isClaimed_iff_rendered (probe : Path) : final.1.session.isClaimed probe = true ↔
    ∃ path contents, .shared path contents ∈ (Builder.new settings).renderedOutputs projects ∧
      probe.sameOutput path = true := by
  constructor
  · intro claimed
    obtain ⟨own, owned, isList, same⟩ := (coherent.isClaimed_iff probe).1 claimed
    obtain ⟨contents, writes⟩ := coherent.writes_of_owned allDone owned
    rcases mem_of_writes writes with ⟨isOwn, _⟩ | ⟨_, isShared⟩
    · rw [isOwn] at isList
      cases isList
    · exact ⟨own, contents, isShared, same⟩
  · rintro ⟨path, contents, isShared, same⟩
    obtain ⟨committer, _, claimed⟩ := coherent.exists_handled allDone isShared
    rw [final.1.session.isClaimed_congr same]
    exact claimed

/-- The package lists waiting for removal are those that nobody claims. -/
theorem mem_takeUnclaimed_iff (components : List Path.Component) :
    components ∈ final.1.session.takeUnclaimed.2.map Path.components ↔
      ∃ path : Path, .staleShared path ∈ (Builder.new settings).renderedOutputs projects ∧
        path.absolute.components = components ∧
        ∀ other contents,
          .shared other contents ∈ (Builder.new settings).renderedOutputs projects →
          path.sameOutput other = false := by
  constructor
  · intro member
    obtain ⟨key, taken, rfl⟩ := List.mem_map.1 member
    obtain ⟨stale, free⟩ := List.mem_filter.1 taken
    obtain ⟨path, isStale, rfl⟩ := coherent.stale_of_mem key stale
    refine ⟨path, isStale, rfl, ?_⟩
    intro other contents isShared
    cases same : path.sameOutput other with
    | false => rfl
    | true =>
        have claimed : final.1.session.isClaimed path = true :=
          (coherent.isClaimed_iff_rendered allDone path).2 ⟨other, contents, isShared, same⟩
        unfold Session.isClaimed at claimed
        simp [claimed] at free
  · rintro ⟨path, isStale, rfl, apart⟩
    obtain ⟨committer, _, stale⟩ := coherent.exists_handled allDone isStale
    have unclaimed : final.1.session.isClaimed path = false := by
      apply Bool.eq_false_iff.2
      intro claimed
      obtain ⟨other, contents, isShared, same⟩ :=
        (coherent.isClaimed_iff_rendered allDone path).1 claimed
      rw [apart other contents isShared] at same
      cases same
    obtain ⟨key, taken, same⟩ := Session.exists_mem_takeUnclaimed stale unclaimed
    exact List.mem_map.2 ⟨key, taken, same⟩

end Coherent

end ProjectFiles
