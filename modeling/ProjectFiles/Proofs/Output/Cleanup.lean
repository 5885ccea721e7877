import ProjectFiles.Proofs.Output.Commit
import ProjectFiles.Proofs.Output.Database

/-!
# Cleaning up

A cleanup deletes the files that the database records and that the session has not
produced, and stores the outputs of the session in their place.  It spares files that
are read-only or locked, and it goes for no others.  Deletions do not get into each
other's way, so what becomes of each file is settled by the store before all of them.
-/

namespace ProjectFiles

open Store

/-! ## Deletions side by side -/

namespace Store

/-- What becomes of a file that is to be deleted. -/
def deletion (store : Store) (path : Path) : DeleteOutcome :=
  match store.file? path with
  | none => .missing
  | some ⟨_, true⟩ => .readOnly
  | some ⟨_, false⟩ => if store.locked.contains path then .blocked else .deleted

/-- Whether a file is there that a deletion leaves alone. -/
def Spares (store : Store) (path : Path) : Prop :=
  ∃ file, store.file? path = some file ∧
    (file.readOnly = true ∨ store.locked.contains path = true)

theorem deletion_eq_deleted_iff {store : Store} {path : Path} :
    store.deletion path = .deleted ↔ store.Deletable path := by
  unfold deletion Deletable
  cases store.file? path with
  | none => simp
  | some file =>
      obtain ⟨contents, readOnly⟩ := file
      cases readOnly <;> cases store.locked.contains path <;> simp

theorem deletion_eq_readOnly_or_blocked_iff {store : Store} {path : Path} :
    store.deletion path = .readOnly ∨ store.deletion path = .blocked ↔ store.Spares path := by
  unfold deletion Spares
  cases store.file? path with
  | none => simp
  | some file =>
      obtain ⟨contents, readOnly⟩ := file
      cases readOnly <;> cases store.locked.contains path <;> simp

theorem DeleteStep.deletion_eq {store final : Store} {path : Path} {outcome : DeleteOutcome}
    (step : DeleteStep store path final outcome) : store.deletion path = outcome := by
  cases step with
  | missing absent => rw [deletion, absent]
  | readOnly found => rw [deletion, found]
  | blocked found locked => simp [deletion, found, locked]
  | deleted deletable => exact deletion_eq_deleted_iff.2 deletable

/-- A deletion has no part in what becomes of other files. -/
theorem DeleteStep.deletion_of_ne {store final : Store} {path probe : Path}
    {outcome : DeleteOutcome} (step : DeleteStep store path final outcome)
    (other : probe.components ≠ path.components) : final.deletion probe = store.deletion probe := by
  unfold deletion
  rw [step.locked_eq, step.file?_of_ne other]

/-- Different files are deleted as each would be by itself. -/
theorem deleteAll_snd {store : Store} {paths : List Path}
    (distinct : paths.Pairwise fun left right => compare left right = .lt) :
    (store.deleteAll paths).2 = paths.map fun path => (path, store.deletion path) := by
  induction paths generalizing store with
  | nil => rfl
  | cons path rest ih =>
      obtain ⟨below, distinctRest⟩ := List.pairwise_cons.1 distinct
      have step := store.deleteIfWritable_step path
      have outcomes : (store.deleteAll (path :: rest)).2 =
          (path, (store.deleteIfWritable path).2) ::
            ((store.deleteIfWritable path).1.deleteAll rest).2 := rfl
      rw [outcomes, ih distinctRest, List.map_cons, step.deletion_eq]
      congr 1
      apply List.map_congr_left
      intro other member
      have different : other.components ≠ path.components := by
        intro same
        have isBelow := below other member
        rw [Path.compare_eq_iff.2 same.symm] at isBelow
        cases isBelow
      rw [step.deletion_of_ne different]

/-- Writing to a file that is not read-only replaces it. -/
theorem replaced_of_writable {store : Store} {path : Path}
    (writable : ∀ old, store.file? path ≠ some ⟨old, true⟩) (contents : String) :
    ∃ final, store.write path contents = (final, .ok ()) ∧ store.Replaced path contents final := by
  refine ⟨_, write_of_writable writable contents, ?_⟩
  exact {
    file?_eq := fun probe => file?_withFile _ path probe ⟨contents, false⟩
    locked_eq := rfl
    writes_eq := rfl
    calls_eq := ⟨[], by simp, by simp [withFile]⟩ }

end Store

/-! ## Stale files -/

/-- The recorded files that a cleanup deletes. -/
def Workspace.staleFiles (workspace : Workspace) (database : Path) : List Path :=
  (OutputDatabase.load workspace.store database).2.staleFiles workspace.session

/-- The store when the recorded files have been deleted. -/
def Workspace.pruned (workspace : Workspace) (database : Path) : Store :=
  ((workspace.store.record .read database).deleteAll (workspace.staleFiles database)).1

namespace OutputDatabase

theorem load_fst (store : Store) (path : Path) : (load store path).1 = store.record .read path := by
  unfold load Store.read
  cases store.contents? path <;> rfl

/-- What is loaded depends on the contents of the database only. -/
theorem load_congr {path : Path} (left right : Store) (agree : left.file? path = right.file? path) :
    (load left path).2 = (load right path).2 := by
  have same : left.contents? path = right.contents? path := by
    unfold contents?
    rw [agree]
  unfold load Store.read
  rw [same]
  cases right.contents? path <;> rfl

theorem mem_staleFiles {database : OutputDatabase} {session : Session} {path : Path} :
    path ∈ database.staleFiles session ↔
      path ∈ database.files.keys ∧ session.produced path = false := by
  simp [staleFiles]

end OutputDatabase

namespace Workspace

variable {workspace : Workspace} {database : Path}

theorem writes_pruned : (workspace.pruned database).writes = workspace.store.writes :=
  writes_deleteAll _ _

theorem file?_of_file?_pruned {probe : Path} {file : StoredFile}
    (found : (workspace.pruned database).file? probe = some file) :
    workspace.store.file? probe = some file := by
  have recorded : (workspace.store.record .read database).file? probe = some file :=
    file?_of_file?_deleteAll found
  exact recorded

/-- Recorded outputs survive, as does whatever cannot be deleted. -/
theorem file?_pruned_of_produced {probe : Path}
    (spared : workspace.session.produced probe = true ∨ ¬ workspace.store.Deletable probe) :
    (workspace.pruned database).file? probe = workspace.store.file? probe := by
  apply file?_deleteAll_of_spared
  rcases spared with produced | undeletable
  · refine .inl fun path member same => ?_
    have unproduced := (OutputDatabase.mem_staleFiles.1 member).2
    rw [workspace.session.produced_congr (Path.sameOutput_of_components_eq same), produced]
      at unproduced
    cases unproduced
  · exact .inr undeletable

/-- The calls of a store that goes on after recorded files have been deleted:
only those are asked for, and each that has disappeared is. -/
theorem calls_of_pruned {final : Store} {tail : List StoreCall}
    (spelled : final.calls = (workspace.pruned database).calls ++ tail)
    (harmless : ∀ call ∈ tail, call.method ≠ .remove ∧
      (call.method = .write → call.path = database))
    (keeps : ∀ probe : Path, (workspace.pruned database).file? probe ≠ none →
      final.file? probe ≠ none) :
    ∃ calls, final.calls = workspace.store.calls ++ calls ∧
      (∀ call ∈ calls, call.method = .remove → call.path ∈ workspace.staleFiles database ∧
        ∃ contents, workspace.store.file? call.path = some ⟨contents, false⟩) ∧
      (∀ call ∈ calls, call.method = .write → call.path = database) ∧
      ∀ probe : Path, workspace.store.file? probe ≠ none → final.file? probe = none →
        workspace.store.Deletable probe ∧ ∃ call ∈ calls, call.method = .remove ∧
          call.path.components = probe.components := by
  obtain ⟨removals, calls, each, asked⟩ := calls_deleteAll
    (workspace.store.record .read database) (workspace.staleFiles database)
  change (workspace.pruned database).calls = _ at calls
  refine ⟨[⟨.read, database⟩] ++ removals ++ tail, by simp [spelled, calls], ?_, ?_, ?_⟩
  · intro call member isRemoval
    simp only [List.mem_append, List.mem_singleton] at member
    rcases member with (rfl | inRemovals) | inTail
    · cases isRemoval
    · exact (each call inRemovals).2
    · exact absurd isRemoval (harmless call inTail).1
  · intro call member isWrite
    simp only [List.mem_append, List.mem_singleton] at member
    rcases member with (rfl | inRemovals) | inTail
    · cases isWrite
    · rw [(each call inRemovals).1] at isWrite
      cases isWrite
    · exact (harmless call inTail).2 isWrite
  · intro probe present gone
    have pruned : (workspace.pruned database).file? probe = none :=
      Classical.byContradiction fun kept => keeps probe kept gone
    have recorded : (workspace.store.record .read database).file? probe ≠ none := present
    obtain ⟨deletable, path, member, same⟩ := deletable_of_gone recorded pruned
    obtain ⟨call, inRemovals, named⟩ := asked path member ((deletable_congr same).2 deletable)
    exact ⟨deletable, call, by simp [inRemovals], (each call inRemovals).1, named.trans same⟩

/-! ## A cleanup as a whole -/

/-- The report on the deletions of a cleanup. -/
def cleanupReport (workspace : Workspace) (database : Path) : CleanupReport :=
  .ofOutcomes
    ((workspace.store.record .read database).deleteAll (workspace.staleFiles database)).2

/-- A cleanup ends with the attempt to store the database. -/
theorem cleanup_eq {final : Store} {result : Except StoreFault Unit}
    (saved : (OutputDatabase.ofSession workspace.session).save (workspace.pruned database)
      database = (final, result)) :
    workspace.cleanup database = (⟨final, workspace.session⟩,
      (result.mapError .io).map fun _ => workspace.cleanupReport database) := by
  unfold pruned staleFiles at saved
  unfold cleanupReport staleFiles
  rw [← OutputDatabase.load_fst] at saved ⊢
  unfold cleanup
  simp only [saved]
  cases result <;> rfl

/-- A database that is not read-only is replaced. -/
theorem cleanup_of_writable
    (writable : ∀ old, (workspace.pruned database).file? database ≠ some ⟨old, true⟩) :
    ∃ final, workspace.cleanup database =
        (⟨final, workspace.session⟩, .ok (workspace.cleanupReport database)) ∧
      (workspace.pruned database).Replaced database
        (OutputDatabase.ofSession workspace.session).render final := by
  obtain ⟨final, written, replaced⟩ :=
    replaced_of_writable writable (OutputDatabase.ofSession workspace.session).render
  exact ⟨final, cleanup_eq written, replaced⟩

/-- A read-only database makes the cleanup fail when all else has been done. -/
theorem cleanup_of_readOnly {old : String}
    (found : (workspace.pruned database).file? database = some ⟨old, true⟩) :
    workspace.cleanup database =
      (⟨(workspace.pruned database).record .write database, workspace.session⟩,
        .error (.io (.readOnly database))) :=
  cleanup_eq (write_of_readOnly found _)

end Workspace

/-! ## Exactly the stale files -/

/-- The files that the database at a path records: none unless it is there, can be read
and is of the current version, which is 1. -/
def Store.recordedAt (store : Store) (database : Path) : List Path :=
  match ((store.contents? database).bind Json.Document.ofText?).bind
    OutputDatabase.ofDocument? with
  | some previous =>
      if previous.version = OutputDatabase.currentVersion then previous.files.keys else []
  | none => []

theorem OutputDatabase.keys_load (store : Store) (database : Path) :
    (load store database).2.files.keys = store.recordedAt database := by
  unfold load Store.read Store.recordedAt
  cases store.contents? database with
  | none => rfl
  | some text =>
      change (ofText text).files.keys = _
      rw [Option.bind_some, ofText]
      cases (Json.Document.ofText? text).bind ofDocument? with
      | none => rfl
      | some previous =>
          exact apply_ite (fun database : OutputDatabase => database.files.keys) _ _ _

/-- Whether a report lists the recorded files that a session has not produced: those
that can be deleted and those that are there and cannot. -/
structure CleanupReport.Lists (report : CleanupReport) (workspace : Workspace)
    (recorded : List Path) : Prop where
  mem_deleted_iff : ∀ path, path ∈ report.deleted ↔
    path ∈ recorded ∧ workspace.session.produced path = false ∧ workspace.store.Deletable path
  mem_kept_iff : ∀ path, path ∈ report.kept ↔
    path ∈ recorded ∧ workspace.session.produced path = false ∧ workspace.store.Spares path
  deleted_increasing : report.deleted.Pairwise fun left right => compare left right = .lt
  kept_increasing : report.kept.Pairwise fun left right => compare left right = .lt
  disjoint : ∀ path ∈ report.deleted, ∀ other ∈ report.kept,
    path.components ≠ other.components

/-- What a cleanup does to the files and what it answers. -/
structure Workspace.CleansUp (workspace : Workspace) (database : Path) (final : Workspace)
    (result : Except GenerationError CleanupReport) : Prop where
  /-- The files that disappear are the recorded ones that have not been produced and can
  be deleted. -/
  gone_iff : ∀ path, workspace.store.file? path ≠ none ∧ final.store.file? path = none ↔
    (∃ stale ∈ workspace.store.recordedAt database, stale.components = path.components ∧
      workspace.session.produced stale = false) ∧ workspace.store.Deletable path
  /-- What is there at the end was there before, but for the database. -/
  file?_eq : ∀ path, path.components ≠ database.components → final.store.file? path ≠ none →
    final.store.file? path = workspace.store.file? path
  /-- Unless the database is read-only, the outputs of the session take its place. -/
  of_writable : (∀ old, workspace.store.file? database ≠ some ⟨old, true⟩) →
    (∃ report, result = .ok report ∧
      report.Lists workspace (workspace.store.recordedAt database)) ∧
    (OutputDatabase.load final.store database).2.files = workspace.session.outputs
  of_readOnly : ∀ old, workspace.store.file? database = some ⟨old, true⟩ →
    result = .error (.io (.readOnly database)) ∧
      final.store.file? database = some ⟨old, true⟩

namespace Workspace

variable {workspace : Workspace} {database : Path}

theorem mem_staleFiles_iff {path : Path} : path ∈ workspace.staleFiles database ↔
    path ∈ workspace.store.recordedAt database ∧ workspace.session.produced path = false := by
  rw [staleFiles, OutputDatabase.mem_staleFiles, OutputDatabase.keys_load]

theorem increasing_staleFiles (workspace : Workspace) (database : Path) :
    (workspace.staleFiles database).Pairwise fun left right => compare left right = .lt :=
  (List.pairwise_map.2 (OutputDatabase.load workspace.store database).2.files.increasing).filter _

/-- The report sorts the stale files by what becomes of each by itself. -/
theorem cleanupReport_eq (workspace : Workspace) (database : Path) :
    workspace.cleanupReport database =
      ⟨(workspace.staleFiles database).filter fun path =>
          workspace.store.deletion path = .deleted,
        (workspace.staleFiles database).filter fun path =>
          workspace.store.deletion path = .readOnly ||
            workspace.store.deletion path = .blocked⟩ := by
  have alone : (workspace.store.record .read database).deletion = workspace.store.deletion := rfl
  rw [cleanupReport, deleteAll_snd (workspace.increasing_staleFiles database), alone,
    CleanupReport.ofOutcomes, List.filter_map, List.filter_map, List.map_map, List.map_map]
  congr 1
  · exact List.map_id _
  · exact List.map_id _

theorem lists_cleanupReport (workspace : Workspace) (database : Path) :
    (workspace.cleanupReport database).Lists workspace
      (workspace.store.recordedAt database) := by
  have increasing := workspace.increasing_staleFiles database
  rw [cleanupReport_eq]
  constructor
  · intro path
    rw [List.mem_filter, mem_staleFiles_iff, decide_eq_true_iff, deletion_eq_deleted_iff,
      and_assoc]
  · intro path
    rw [List.mem_filter, mem_staleFiles_iff, Bool.or_eq_true, decide_eq_true_iff,
      decide_eq_true_iff, deletion_eq_readOnly_or_blocked_iff, and_assoc]
  · exact increasing.filter _
  · exact increasing.filter _
  · intro path isDeleted other isKept same
    have deletable := (List.mem_filter.1 isDeleted).2
    have spared := (List.mem_filter.1 isKept).2
    rw [decide_eq_true_iff, deletion_eq_deleted_iff, deletable_congr same,
      ← deletion_eq_deleted_iff] at deletable
    rw [deletable] at spared
    cases spared

/-- Pruning takes away just the stale files that can be deleted. -/
theorem gone_pruned_iff {path : Path} :
    workspace.store.file? path ≠ none ∧ (workspace.pruned database).file? path = none ↔
      (∃ stale ∈ workspace.store.recordedAt database, stale.components = path.components ∧
        workspace.session.produced stale = false) ∧ workspace.store.Deletable path := by
  constructor
  · rintro ⟨present, gone⟩
    have recorded : (workspace.store.record .read database).file? path ≠ none := present
    obtain ⟨deletable, stale, member, same⟩ := deletable_of_gone recorded gone
    obtain ⟨isRecorded, unproduced⟩ := mem_staleFiles_iff.1 member
    exact ⟨⟨stale, isRecorded, same, unproduced⟩, deletable⟩
  · rintro ⟨⟨stale, isRecorded, same, unproduced⟩, deletable⟩
    have member := mem_staleFiles_iff.2 ⟨isRecorded, unproduced⟩
    obtain ⟨contents, found⟩ := deletable.2
    exact ⟨by simp [found], file?_deleteAll_of_deletable member same deletable⟩

/-- A file that is not recorded is not touched. -/
theorem file?_pruned_of_unrecorded {path : Path}
    (apart : ∀ stale ∈ workspace.store.recordedAt database,
      stale.components ≠ path.components) :
    (workspace.pruned database).file? path = workspace.store.file? path :=
  file?_deleteAll_of_spared (.inl fun stale member =>
    apart stale (mem_staleFiles_iff.1 member).1)

/-- What pruning leaves is as it was. -/
theorem file?_pruned_of_present {path : Path}
    (present : (workspace.pruned database).file? path ≠ none) :
    (workspace.pruned database).file? path = workspace.store.file? path := by
  obtain ⟨file, found⟩ := Option.ne_none_iff_exists'.1 present
  rw [found, file?_of_file?_pruned found]

section

variable (apart : ∀ path ∈ workspace.store.recordedAt database,
  path.components ≠ database.components)

include apart

/-- Where the database is there at the end and all else is as pruning leaves it, just the
stale files have disappeared that can be deleted. -/
theorem gone_iff_of_elsewhere {final : Store}
    (elsewhere : ∀ path : Path, path.components ≠ database.components →
      final.file? path = (workspace.pruned database).file? path)
    (present : final.file? database ≠ none) (path : Path) :
    workspace.store.file? path ≠ none ∧ final.file? path = none ↔
      (∃ stale ∈ workspace.store.recordedAt database, stale.components = path.components ∧
        workspace.session.produced stale = false) ∧ workspace.store.Deletable path := by
  by_cases isDatabase : path.components = database.components
  · constructor
    · rintro ⟨_, gone⟩
      exact absurd (final.file?_congr isDatabase ▸ gone) present
    · rintro ⟨⟨stale, isRecorded, same, _⟩, _⟩
      exact absurd (same.trans isDatabase) (apart stale isRecorded)
  · rw [elsewhere path isDatabase, gone_pruned_iff]

theorem cleansUp_of_readOnly {old : String}
    (found : workspace.store.file? database = some ⟨old, true⟩) :
    workspace.CleansUp database (workspace.cleanup database).1
      (workspace.cleanup database).2 := by
  have kept : (workspace.pruned database).file? database = some ⟨old, true⟩ :=
    (file?_pruned_of_unrecorded apart).trans found
  rw [cleanup_of_readOnly kept]
  constructor
  · apply gone_iff_of_elsewhere apart
    · exact fun _ _ => rfl
    · rw [file?_record, kept]
      exact Option.some_ne_none _
  · exact fun path _ => file?_pruned_of_present
  · exact fun writable => absurd found (writable old)
  · intro other isOther
    exact ⟨rfl, (file?_pruned_of_unrecorded apart).trans isOther⟩

theorem cleansUp_of_writable
    (roundTrips : OutputDatabase.ofText (OutputDatabase.ofSession workspace.session).render =
      .ofSession workspace.session)
    (writable : ∀ old, workspace.store.file? database ≠ some ⟨old, true⟩) :
    workspace.CleansUp database (workspace.cleanup database).1
      (workspace.cleanup database).2 := by
  obtain ⟨final, cleaned, replaced⟩ :=
    cleanup_of_writable ((file?_pruned_of_unrecorded apart).symm ▸ writable)
  have elsewhere : ∀ path : Path, path.components ≠ database.components →
      final.file? path = (workspace.pruned database).file? path := by
    intro path other
    rw [replaced.file?_eq, if_neg other]
  have stored : final.file? database =
      some ⟨(OutputDatabase.ofSession workspace.session).render, false⟩ := by
    rw [replaced.file?_eq, if_pos rfl]
  rw [cleaned]
  constructor
  · apply gone_iff_of_elsewhere apart elsewhere
    rw [stored]
    exact Option.some_ne_none _
  · intro path other present
    rw [elsewhere path other] at present ⊢
    exact file?_pruned_of_present present
  · intro _
    refine ⟨⟨_, rfl, workspace.lists_cleanupReport database⟩, ?_⟩
    rw [OutputDatabase.load_snd_of_contents (contents?_eq_some_iff.2 ⟨false, stored⟩),
      roundTrips]
    rfl
  · exact fun old found => absurd found (writable old)

end

/-- The outputs of an earlier run. -/
def earlierOutputs : OutputDatabase where
  version := OutputDatabase.currentVersion
  files := .ofList
    [(⟨"/w/App.csproj"⟩, ⟨0, 0⟩), (⟨"/w/held.sln"⟩, ⟨0, 0⟩), (⟨"/w/missing.sln"⟩, ⟨0, 0⟩),
      (⟨"/w/old.sln"⟩, ⟨0, 0⟩), (⟨"/w/pinned.sln"⟩, ⟨0, 0⟩)]

/-- A later run has produced the first of these outputs again. -/
def untidy : Workspace where
  store :=
    ((((Store.empty.lock ⟨"/w/held.sln"⟩).withFile ⟨"/w/held.sln"⟩ ⟨"", false⟩).withFile
      ⟨"/w/old.sln"⟩ ⟨"", false⟩).withFile ⟨"/w/pinned.sln"⟩ ⟨"", true⟩).withFile
        ⟨"/w/outputs.json"⟩ ⟨earlierOutputs.render, false⟩
  session := (Session.new ⟨0, 0⟩).recordOutput ⟨"/w/./App.csproj"⟩

theorem areClocks_of_zero {entries : List (Path × Timestamp)}
    (zero : ∀ entry ∈ entries, entry.2 = ⟨0, 0⟩) : ∀ entry ∈ entries, entry.2.IsClock := by
  intro entry member
  rw [zero entry member]
  exact ⟨by decide, .inl (by decide)⟩

theorem recordedAt_untidy :
    untidy.store.recordedAt ⟨"/w/outputs.json"⟩ = earlierOutputs.files.keys := by
  have areClocks : ∀ entry ∈ earlierOutputs.files.entries, entry.2.IsClock :=
    areClocks_of_zero (by decide +kernel)
  have stored : untidy.store.file? ⟨"/w/outputs.json"⟩ = some ⟨earlierOutputs.render, false⟩ := by
    rw [untidy, file?_withFile, if_pos rfl]
  rw [← OutputDatabase.keys_load,
    OutputDatabase.load_snd_of_contents (contents?_eq_some_iff.2 ⟨false, stored⟩),
    OutputDatabase.ofText_render rfl areClocks]

end Workspace

end ProjectFiles
