import ProjectFiles.Output.Store
import ProjectFiles.Proofs.Path.Key
import ProjectFiles.Proofs.SortedMap

/-!
# Files of a store

What the calls on a store do to the file at a path.  A store is looked at
through `Store.file?`, which takes all spellings of a path for one file, and
through the calls that it remembers.  Deleting is the only call that takes a
file away, and it spares files that are read-only or locked.
-/

namespace ProjectFiles

namespace Store

/-! ## The file at a path -/

theorem file?_congr (store : Store) {left right : Path}
    (equal : left.components = right.components) : store.file? left = store.file? right :=
  store.files.get?_congr (Path.compare_eq_iff.2 equal)

theorem contents?_congr (store : Store) {left right : Path}
    (equal : left.components = right.components) :
    store.contents? left = store.contents? right := by
  unfold contents?
  rw [store.file?_congr equal]

theorem contains_locked_congr (store : Store) {left right : Path}
    (equal : left.components = right.components) :
    store.locked.contains left = store.locked.contains right := by
  unfold SortedMap.contains
  rw [store.locked.get?_congr (Path.compare_eq_iff.2 equal)]

@[simp]
theorem file?_record (store : Store) (method : StoreMethod) (path probe : Path) :
    (store.record method path).file? probe = store.file? probe := rfl

@[simp]
theorem calls_record (store : Store) (method : StoreMethod) (path : Path) :
    (store.record method path).calls = store.calls ++ [⟨method, path⟩] := rfl

theorem file?_withFile (store : Store) (path probe : Path) (file : StoredFile) :
    (store.withFile path file).file? probe =
      if probe.components = path.components then some file else store.file? probe := by
  unfold file? withFile
  rw [SortedMap.get?_insert]
  simp only [Path.compare_eq_iff]

theorem contents?_eq_some_iff {store : Store} {path : Path} {contents : String} :
    store.contents? path = some contents ↔
      ∃ readOnly, store.file? path = some ⟨contents, readOnly⟩ := by
  unfold contents?
  cases found : store.file? path with
  | none => simp
  | some file =>
      cases file
      simp

/-! ## Calls since a point of time -/

/-- The calls that a store remembers beyond those of an earlier store. -/
def callsSince (after before : Store) : List StoreCall :=
  after.calls.drop before.calls.length

theorem callsSince_eq {before after : Store} {calls : List StoreCall}
    (spelled : after.calls = before.calls ++ calls) : after.callsSince before = calls := by
  unfold callsSince
  rw [spelled, List.drop_left]

/-! ## Replacing a file -/

/-- `final` is `store` after new contents have been written to a path, with the
calls that led there: the file has been read and made writable as needed, and
written once. -/
structure Replaced (store : Store) (path : Path) (contents : String) (final : Store) : Prop where
  file?_eq : ∀ probe : Path, final.file? probe =
    if probe.components = path.components then some ⟨contents, false⟩ else store.file? probe
  locked_eq : final.locked = store.locked
  writes_eq : final.writes = store.writes + 1
  calls_eq : ∃ preparation : List StoreCall,
    (∀ call ∈ preparation, call.method = .read ∨ call.method = .setReadOnly) ∧
      final.calls = store.calls ++ preparation ++ [⟨.write, path⟩]

/-- A file that is not read-only can be written. -/
theorem write_of_writable {store : Store} {path : Path}
    (writable : ∀ old, store.file? path ≠ some ⟨old, true⟩) (contents : String) :
    store.write path contents =
      ({ (store.record .write path).withFile path ⟨contents, false⟩ with
          writes := store.writes + 1 }, .ok ()) := by
  unfold write
  cases found : store.file? path with
  | none => rfl
  | some file =>
      obtain ⟨old, readOnly⟩ := file
      cases readOnly with
      | false => rfl
      | true => exact absurd found (writable old)

theorem write_of_readOnly {store : Store} {path : Path} {old : String}
    (isReadOnly : store.file? path = some ⟨old, true⟩) (contents : String) :
    store.write path contents = (store.record .write path, .error (.readOnly path)) := by
  simp [write, isReadOnly]

/-! ## Deleting files -/

/-- Whether a file is there that a deletion takes away. -/
def Deletable (store : Store) (path : Path) : Prop :=
  store.locked.contains path = false ∧ ∃ contents, store.file? path = some ⟨contents, false⟩

theorem deletable_congr {store : Store} {left right : Path}
    (equal : left.components = right.components) :
    store.Deletable left ↔ store.Deletable right := by
  unfold Deletable
  rw [store.contains_locked_congr equal, store.file?_congr equal]

/-- What one deletion does: a file that is missing or read-only is not touched,
a locked one is asked for in vain, and any other is gone. -/
inductive DeleteStep (store : Store) (path : Path) : Store → DeleteOutcome → Prop where
  | missing (absent : store.file? path = none) : DeleteStep store path store .missing
  | readOnly {contents : String} (found : store.file? path = some ⟨contents, true⟩) :
      DeleteStep store path store .readOnly
  | blocked {contents : String} (found : store.file? path = some ⟨contents, false⟩)
      (locked : store.locked.contains path = true) :
      DeleteStep store path (store.record .remove path) .blocked
  | deleted (deletable : store.Deletable path) :
      DeleteStep store path
        { store.record .remove path with files := store.files.erase path } .deleted

theorem deleteIfWritable_step (store : Store) (path : Path) :
    DeleteStep store path (store.deleteIfWritable path).1 (store.deleteIfWritable path).2 := by
  unfold deleteIfWritable
  cases found : store.file? path with
  | none => exact .missing found
  | some file =>
      obtain ⟨contents, readOnly⟩ := file
      cases readOnly with
      | true => exact .readOnly found
      | false =>
          have present : store.fileExists path = true := by
            unfold fileExists SortedMap.contains
            rw [show store.files.get? path = store.file? path from rfl, found]
            rfl
          cases locked : store.locked.contains path with
          | true =>
              simp only [remove, locked, if_true]
              exact .blocked found locked
          | false =>
              simp only [remove, locked, present, if_true, Bool.false_eq_true, if_false]
              exact .deleted ⟨locked, contents, found⟩

namespace DeleteStep

variable {store final : Store} {path : Path} {outcome : DeleteOutcome}

theorem locked_eq (step : DeleteStep store path final outcome) : final.locked = store.locked := by
  cases step <;> rfl

theorem writes_eq (step : DeleteStep store path final outcome) : final.writes = store.writes := by
  cases step <;> rfl

/-- Every file but the one at the path is left alone. -/
theorem file?_of_ne (step : DeleteStep store path final outcome) {probe : Path}
    (other : probe.components ≠ path.components) : final.file? probe = store.file? probe := by
  cases step with
  | missing | readOnly | blocked => rfl
  | deleted =>
      change (store.files.erase path).get? probe = _
      rw [SortedMap.get?_erase, if_neg (mt Path.compare_eq_iff.1 other)]
      rfl

/-- The file at the path goes exactly when it can be deleted. -/
theorem file?_self (step : DeleteStep store path final outcome) :
    (store.Deletable path ∧ final.file? path = none) ∨
      (¬ store.Deletable path ∧ final.file? path = store.file? path) := by
  cases step with
  | missing absent => exact .inr ⟨fun ⟨_, _, found⟩ => by simp [absent] at found, rfl⟩
  | readOnly found => exact .inr ⟨fun ⟨_, _, writable⟩ => by simp [found] at writable, rfl⟩
  | blocked found locked => exact .inr ⟨fun ⟨unlocked, _⟩ => by simp [locked] at unlocked, rfl⟩
  | deleted deletable =>
      refine .inl ⟨deletable, ?_⟩
      change (store.files.erase path).get? path = none
      rw [SortedMap.get?_erase, if_pos (Path.compare_eq_iff.2 rfl)]

/-- A file that is there afterwards was there before. -/
theorem file?_of_some (step : DeleteStep store path final outcome) {probe : Path}
    {file : StoredFile} (found : final.file? probe = some file) :
    store.file? probe = some file := by
  by_cases same : probe.components = path.components
  · rw [final.file?_congr same] at found
    rw [store.file?_congr same]
    rcases step.file?_self with ⟨_, gone⟩ | ⟨_, kept⟩
    · simp [gone] at found
    · exact kept ▸ found
  · rwa [step.file?_of_ne same] at found

/-- The only call is a removal, and only of a file that is there and writable.  A file
that can be deleted is asked for. -/
theorem exists_calls (step : DeleteStep store path final outcome) :
    ∃ removals : List StoreCall, final.calls = store.calls ++ removals ∧
      (∀ call ∈ removals, call = ⟨.remove, path⟩ ∧
        ∃ contents, store.file? path = some ⟨contents, false⟩) ∧
      (store.Deletable path → ⟨.remove, path⟩ ∈ removals) := by
  cases step with
  | missing absent => exact ⟨[], by simp, by simp, by simp [Deletable, absent]⟩
  | readOnly found => exact ⟨[], by simp, by simp, by simp [Deletable, found]⟩
  | blocked found => exact ⟨[⟨.remove, path⟩], rfl, by simp [found], by simp⟩
  | deleted deletable =>
      obtain ⟨contents, found⟩ := deletable.2
      exact ⟨[⟨.remove, path⟩], rfl, by simp [found], by simp⟩

theorem deletable_iff_of_ne (step : DeleteStep store path final outcome) {probe : Path}
    (other : probe.components ≠ path.components) :
    final.Deletable probe ↔ store.Deletable probe := by
  unfold Deletable
  rw [step.locked_eq, step.file?_of_ne other]

end DeleteStep

theorem deleteAll_cons (store : Store) (path : Path) (rest : List Path) :
    (store.deleteAll (path :: rest)).1 = ((store.deleteIfWritable path).1.deleteAll rest).1 := rfl

theorem locked_deleteAll (store : Store) (paths : List Path) :
    (store.deleteAll paths).1.locked = store.locked := by
  induction paths generalizing store with
  | nil => rfl
  | cons path rest ih => rw [deleteAll_cons, ih, (store.deleteIfWritable_step path).locked_eq]

theorem writes_deleteAll (store : Store) (paths : List Path) :
    (store.deleteAll paths).1.writes = store.writes := by
  induction paths generalizing store with
  | nil => rfl
  | cons path rest ih => rw [deleteAll_cons, ih, (store.deleteIfWritable_step path).writes_eq]

theorem file?_of_file?_deleteAll {store : Store} {paths : List Path} {probe : Path}
    {file : StoredFile} (found : (store.deleteAll paths).1.file? probe = some file) :
    store.file? probe = some file := by
  induction paths generalizing store with
  | nil => exact found
  | cons path rest ih => exact (store.deleteIfWritable_step path).file?_of_some (ih found)

/-- Files that are not named, or that cannot be deleted, stay. -/
theorem file?_deleteAll_of_spared {store : Store} {paths : List Path} {probe : Path}
    (spared : (∀ path ∈ paths, path.components ≠ probe.components) ∨ ¬ store.Deletable probe) :
    (store.deleteAll paths).1.file? probe = store.file? probe := by
  induction paths generalizing store with
  | nil => rfl
  | cons path rest ih =>
      have step := store.deleteIfWritable_step path
      rw [deleteAll_cons]
      by_cases same : path.components = probe.components
      · have undeletable : ¬ store.Deletable probe := by
          rcases spared with unnamed | undeletable
          · exact absurd same (unnamed path List.mem_cons_self)
          · exact undeletable
        have kept : (store.deleteIfWritable path).1.file? probe = store.file? probe := by
          rcases step.file?_self with ⟨deletable, _⟩ | ⟨_, kept⟩
          · exact absurd ((deletable_congr same).1 deletable) undeletable
          · rw [← file?_congr _ same, ← file?_congr _ same, kept]
        have still : ¬ (store.deleteIfWritable path).1.Deletable probe := by
          unfold Deletable
          rw [step.locked_eq, kept]
          exact undeletable
        rw [ih (.inr still), kept]
      · have other : probe.components ≠ path.components := fun equal => same equal.symm
        rw [ih, step.file?_of_ne other]
        rcases spared with unnamed | undeletable
        · exact .inl fun path' member => unnamed path' (List.mem_cons_of_mem _ member)
        · exact .inr (mt (step.deletable_iff_of_ne other).1 undeletable)

/-- Files that are named and can be deleted are gone. -/
theorem file?_deleteAll_of_deletable {store : Store} {paths : List Path} {path probe : Path}
    (member : path ∈ paths) (same : path.components = probe.components)
    (deletable : store.Deletable probe) : (store.deleteAll paths).1.file? probe = none := by
  induction paths generalizing store with
  | nil => cases member
  | cons first rest ih =>
      have step := store.deleteIfWritable_step first
      rw [deleteAll_cons]
      by_cases isFirst : first.components = probe.components
      · have gone : (store.deleteIfWritable first).1.file? probe = none := by
          rcases step.file?_self with ⟨_, gone⟩ | ⟨undeletable, _⟩
          · rw [← file?_congr _ isFirst, gone]
          · exact absurd ((deletable_congr isFirst).2 deletable) undeletable
        cases found : (deleteAll (store.deleteIfWritable first).1 rest).1.file? probe with
        | none => rfl
        | some file => simp [file?_of_file?_deleteAll found] at gone
      · have inRest : path ∈ rest := by
          rcases List.mem_cons.1 member with rfl | inRest
          · exact absurd same isFirst
          · exact inRest
        have other : probe.components ≠ first.components := fun equal => isFirst equal.symm
        exact ih inRest ((step.deletable_iff_of_ne other).2 deletable)

/-- Deleting makes no calls but removals.  Each is of a named file that is there
and writable, and every named file that can be deleted is asked for. -/
theorem calls_deleteAll (store : Store) (paths : List Path) :
    ∃ removals : List StoreCall, (store.deleteAll paths).1.calls = store.calls ++ removals ∧
      (∀ call ∈ removals, call.method = .remove ∧ call.path ∈ paths ∧
        ∃ contents, store.file? call.path = some ⟨contents, false⟩) ∧
      ∀ path ∈ paths, store.Deletable path →
        ∃ call ∈ removals, call.path.components = path.components := by
  induction paths generalizing store with
  | nil => exact ⟨[], by simp [deleteAll], by simp, by simp⟩
  | cons path rest ih =>
      have step := store.deleteIfWritable_step path
      obtain ⟨own, ownCalls, ownEach, ownAsked⟩ := step.exists_calls
      obtain ⟨removals, calls, each, asked⟩ := ih (store.deleteIfWritable path).1
      refine ⟨own ++ removals, ?_, ?_, ?_⟩
      · rw [deleteAll_cons, calls, ownCalls, List.append_assoc]
      · intro call member
        rcases List.mem_append.1 member with isOwn | behind
        · obtain ⟨rfl, found⟩ := ownEach call isOwn
          exact ⟨rfl, List.mem_cons_self, found⟩
        · obtain ⟨isRemoval, named, contents, found⟩ := each call behind
          exact ⟨isRemoval, List.mem_cons_of_mem _ named, contents, step.file?_of_some found⟩
      · intro other member deletable
        by_cases same : other.components = path.components
        · have isAsked := ownAsked ((deletable_congr same).1 deletable)
          exact ⟨⟨.remove, path⟩, List.mem_append_left _ isAsked, same.symm⟩
        · have inRest : other ∈ rest :=
            List.mem_of_ne_of_mem (fun equal => same (congrArg Path.components equal)) member
          obtain ⟨call, found, names⟩ :=
            asked other inRest ((step.deletable_iff_of_ne same).2 deletable)
          exact ⟨call, List.mem_append_right _ found, names⟩

/-- A file that deleting takes away could be deleted and was named. -/
theorem deletable_of_gone {store : Store} {paths : List Path} {probe : Path}
    (before : store.file? probe ≠ none) (after : (store.deleteAll paths).1.file? probe = none) :
    store.Deletable probe ∧ ∃ path ∈ paths, path.components = probe.components := by
  by_cases deletable : store.Deletable probe
  · refine ⟨deletable, ?_⟩
    apply Classical.byContradiction
    intro unnamed
    have spared : (store.deleteAll paths).1.file? probe = store.file? probe :=
      file?_deleteAll_of_spared (.inl fun path member same => unnamed ⟨path, member, same⟩)
    exact before (spared ▸ after)
  · exact absurd (file?_deleteAll_of_spared (.inr deletable) ▸ after) before

end Store

end ProjectFiles
