import ProjectFiles.Output.Writer
import ProjectFiles.Proofs.Output.Files

/-!
# Writing an output

A write ends in one of three ways, which only the file at the path decides: the
file holds the contents already, it refuses them, or it is replaced.  Committing
a pending output is either such a write or a note in the session.  The theorems
here are the cases of both, from which every property of a run is derived.
-/

namespace ProjectFiles

namespace Store

/-- Whether the file at a path is protected from other contents. -/
def Refuses (store : Store) (overwriteReadOnly : Bool) (path : Path) (contents : String) : Prop :=
  overwriteReadOnly = false ∧ ∃ old, store.file? path = some ⟨old, true⟩ ∧ old ≠ contents

/-- The error of a write to a protected file. -/
def refusal (path : Path) : GenerationError :=
  .filesystemConflict path "file is read-only and its content changed"

/-- What a write does to a store. -/
inductive WriteStep (overwriteReadOnly : Bool) (store : Store) (path : Path) (contents : String) :
    Store → Except GenerationError WriteOutcome → Prop where
  | skipped (holds : store.contents? path = some contents) :
      WriteStep overwriteReadOnly store path contents (store.record .read path) (.ok .skipped)
  | refused (refuses : store.Refuses overwriteReadOnly path contents) :
      WriteStep overwriteReadOnly store path contents (store.record .read path)
        (.error (refusal path))
  | generated {final : Store} (differs : store.contents? path ≠ some contents)
      (accepts : ¬ store.Refuses overwriteReadOnly path contents)
      (replaced : store.Replaced path contents final) :
      WriteStep overwriteReadOnly store path contents final (.ok .generated)

/-- A write that nothing protects replaces the file. -/
theorem replaced_write {store : Store} {path : Path}
    (writable : ∀ old, store.file? path ≠ some ⟨old, true⟩) (contents : String) :
    ∃ final, (store.record .read path).write path contents = (final, .ok ()) ∧
      store.Replaced path contents final := by
  have stillWritable : ∀ old, (store.record .read path).file? path ≠ some ⟨old, true⟩ := writable
  refine ⟨_, write_of_writable stillWritable contents, ?_⟩
  exact {
    file?_eq := fun probe => file?_withFile _ path probe ⟨contents, false⟩
    locked_eq := rfl
    writes_eq := rfl
    calls_eq := ⟨[⟨.read, path⟩], by simp, by simp [withFile]⟩ }

/-- A read-only file is replaced once it has been made writable. -/
theorem replaced_write_of_readOnly {store : Store} {path : Path} {old : String}
    (isReadOnly : store.file? path = some ⟨old, true⟩) (contents : String) :
    ∃ writable final,
      (store.record .read path).setReadOnly path false = (writable, .ok ()) ∧
        writable.write path contents = (final, .ok ()) ∧ store.Replaced path contents final := by
  have madeWritable : (store.record .read path).setReadOnly path false =
      (((store.record .read path).record .setReadOnly path).withFile path ⟨old, false⟩,
        .ok ()) := by
    simp [setReadOnly, isReadOnly]
  refine ⟨_, _, madeWritable, write_of_writable ?_ contents, ?_⟩
  · intro other
    rw [file?_withFile, if_pos rfl]
    simp
  · exact {
      file?_eq := fun probe => by
        change ((Store.withFile _ path _).withFile path _).file? probe = _
        rw [file?_withFile, file?_withFile]
        split <;> rfl
      locked_eq := rfl
      writes_eq := rfl
      calls_eq := ⟨[⟨.read, path⟩, ⟨.setReadOnly, path⟩], by simp, by simp [withFile]⟩ }

end Store

namespace Workspace

open Store

/-- Every write is one of the three steps, and it records the output. -/
theorem write_step (overwriteReadOnly : Bool) (workspace : Workspace) (path : Path)
    (contents : String) :
    ∃ final result, workspace.write overwriteReadOnly path contents =
        (⟨final, workspace.session.recordOutput path⟩, result) ∧
      WriteStep overwriteReadOnly workspace.store path contents final result := by
  cases found : workspace.store.file? path with
  | none =>
      have writable : ∀ old, workspace.store.file? path ≠ some ⟨old, true⟩ := by simp [found]
      obtain ⟨final, written, replaced⟩ := replaced_write writable contents
      refine ⟨final, .ok .generated, ?_, .generated ?_ ?_ replaced⟩
      · simp [write, Store.read, contents?, found, written]
      · simp [contents?, found]
      · simp [Refuses, found]
  | some file =>
      obtain ⟨old, readOnly⟩ := file
      have stored : workspace.store.contents? path = some old := by simp [contents?, found]
      by_cases same : old = contents
      · subst same
        exact ⟨_, _, by simp [write, Store.read, stored], .skipped stored⟩
      · have differs : workspace.store.contents? path ≠ some contents := by simp [stored, same]
        cases readOnly with
        | false =>
            have writable : ∀ old, workspace.store.file? path ≠ some ⟨old, true⟩ := by simp [found]
            obtain ⟨final, written, replaced⟩ := replaced_write writable contents
            refine ⟨final, .ok .generated, ?_, .generated differs ?_ replaced⟩
            · simp [write, Store.read, stored, same, isReadOnly, found, written]
            · simp [Refuses, found]
        | true =>
            cases overwriteReadOnly with
            | true =>
                obtain ⟨writable, final, madeWritable, written, replaced⟩ :=
                  replaced_write_of_readOnly found contents
                refine ⟨final, .ok .generated, ?_, .generated differs ?_ replaced⟩
                · simp [write, Store.read, stored, same, isReadOnly, found, madeWritable, written]
                · simp [Refuses]
            | false =>
                refine ⟨_, _, ?_, .refused ⟨rfl, old, found, same⟩⟩
                simp [write, Store.read, stored, same, isReadOnly, found, refusal]

end Workspace

/-! ## What a write keeps -/

namespace Store.WriteStep

variable {overwriteReadOnly : Bool} {store final : Store} {path : Path} {contents : String}
variable {result : Except GenerationError WriteOutcome}

theorem locked_eq (step : WriteStep overwriteReadOnly store path contents final result) :
    final.locked = store.locked := by
  cases step with
  | skipped | refused => rfl
  | generated _ _ replaced => exact replaced.locked_eq

/-- Every file but the one at the path is left alone. -/
theorem file?_of_ne (step : WriteStep overwriteReadOnly store path contents final result)
    {probe : Path} (other : probe.components ≠ path.components) :
    final.file? probe = store.file? probe := by
  cases step with
  | skipped | refused => rfl
  | generated _ _ replaced => rw [replaced.file?_eq, if_neg other]

/-- The file at the path is left alone or replaced. -/
theorem file?_cases (step : WriteStep overwriteReadOnly store path contents final result)
    (probe : Path) :
    final.file? probe = store.file? probe ∨ final.file? probe = some ⟨contents, false⟩ := by
  cases step with
  | skipped | refused => exact .inl rfl
  | generated _ _ replaced =>
      rw [replaced.file?_eq]
      split
      · exact .inr rfl
      · exact .inl rfl

theorem file?_ne_none (step : WriteStep overwriteReadOnly store path contents final result)
    {probe : Path} (present : store.file? probe ≠ none) : final.file? probe ≠ none := by
  rcases step.file?_cases probe with kept | replaced
  · rwa [kept]
  · simp [replaced]

/-- A write that succeeds leaves its contents behind. -/
theorem contents?_of_ok {outcome : WriteOutcome}
    (step : WriteStep overwriteReadOnly store path contents final (.ok outcome)) :
    final.contents? path = some contents := by
  cases step with
  | skipped holds => exact holds
  | generated _ _ replaced => simp [contents?, replaced.file?_eq]

theorem file?_ne_none_of_ok {outcome : WriteOutcome}
    (step : WriteStep overwriteReadOnly store path contents final (.ok outcome)) :
    final.file? path ≠ none := by
  obtain ⟨readOnly, found⟩ := contents?_eq_some_iff.1 step.contents?_of_ok
  simp [found]

/-- A write fails only at a protected file, which it leaves alone. -/
theorem of_error {error : GenerationError}
    (step : WriteStep overwriteReadOnly store path contents final (.error error)) :
    error = refusal path ∧ store.Refuses overwriteReadOnly path contents ∧
      final = store.record .read path := by
  cases step with
  | refused refuses => exact ⟨rfl, refuses, rfl⟩

/-- Without permission to overwrite, read-only files stay as they are. -/
theorem file?_of_readOnly (step : WriteStep false store path contents final result)
    {probe : Path} {old : String} (found : store.file? probe = some ⟨old, true⟩) :
    final.file? probe = some ⟨old, true⟩ := by
  cases step with
  | skipped | refused => exact found
  | generated differs accepts replaced =>
      by_cases same : probe.components = path.components
      · rw [store.file?_congr same] at found
        have changed : old ≠ contents := by
          intro equal
          exact differs (by simp [contents?, found, equal])
        exact absurd ⟨rfl, old, found, changed⟩ accepts
      · rw [replaced.file?_eq, if_neg same, found]

/-- A file that holds the contents is skipped. -/
theorem of_holds (step : WriteStep overwriteReadOnly store path contents final result)
    (holds : store.contents? path = some contents) :
    final = store.record .read path ∧ result = .ok .skipped := by
  cases step with
  | skipped => exact ⟨rfl, rfl⟩
  | refused refuses =>
      obtain ⟨_, old, found, differs⟩ := refuses
      simp [contents?, found, differs] at holds
  | generated differs => exact absurd holds differs

/-- A file that refuses the contents makes the write fail. -/
theorem of_refuses (step : WriteStep overwriteReadOnly store path contents final result)
    (refuses : store.Refuses overwriteReadOnly path contents) :
    final = store.record .read path ∧ result = .error (refusal path) := by
  cases step with
  | skipped holds =>
      obtain ⟨_, old, found, differs⟩ := refuses
      simp [contents?, found, differs] at holds
  | refused => exact ⟨rfl, rfl⟩
  | generated _ accepts => exact absurd refuses accepts

/-- What a write does depends on the file at its path only. -/
theorem result_congr {other otherFinal : Store} {otherResult : Except GenerationError WriteOutcome}
    (step : WriteStep overwriteReadOnly store path contents final result)
    (otherStep : WriteStep overwriteReadOnly other path contents otherFinal otherResult)
    (agree : store.file? path = other.file? path) :
    result = otherResult ∧ final.file? path = otherFinal.file? path := by
  cases step with
  | skipped holds =>
      have otherHolds : other.contents? path = some contents := by
        simpa [contents?, agree] using holds
      obtain ⟨rfl, rfl⟩ := otherStep.of_holds otherHolds
      exact ⟨rfl, agree⟩
  | refused refuses =>
      have otherRefuses : other.Refuses overwriteReadOnly path contents := by
        simpa [Refuses, agree] using refuses
      obtain ⟨rfl, rfl⟩ := otherStep.of_refuses otherRefuses
      exact ⟨rfl, agree⟩
  | generated differs accepts replaced =>
      cases otherStep with
      | skipped holds => exact absurd (by simpa [contents?, agree] using holds) differs
      | refused refuses => exact absurd (by simpa [Refuses, agree] using refuses) accepts
      | generated _ _ otherReplaced =>
          exact ⟨rfl, by rw [replaced.file?_eq, otherReplaced.file?_eq, if_pos rfl, if_pos rfl]⟩

/-- A write removes nothing and writes to its own path only. -/
theorem calls_eq (step : WriteStep overwriteReadOnly store path contents final result) :
    ∃ calls, final.calls = store.calls ++ calls ∧
      ∀ call ∈ calls, call.method ≠ .remove ∧ (call.method = .write → call.path = path) := by
  cases step with
  | skipped | refused => exact ⟨[⟨.read, path⟩], rfl, by simp⟩
  | generated _ _ replaced =>
      obtain ⟨preparation, harmless, calls⟩ := replaced.calls_eq
      refine ⟨preparation ++ [⟨.write, path⟩], by rw [calls, List.append_assoc], ?_⟩
      intro call member
      rcases List.mem_append.1 member with prepares | writes
      · rcases harmless call prepares with isRead | isSetReadOnly
        · simp [isRead]
        · simp [isSetReadOnly]
      · rw [List.mem_singleton.1 writes]
        simp

end Store.WriteStep

end ProjectFiles
