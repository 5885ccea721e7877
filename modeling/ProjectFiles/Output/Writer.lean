import ProjectFiles.Decimal
import ProjectFiles.Output.Session

/-!
# Writing outputs

An output is compared with what is stored and written only when it differs, so
that an unchanged file is not touched.  An output that several callers share is
written by the first of them that claims it.
-/

namespace ProjectFiles

/-- What happened to an output. -/
inductive WriteOutcome where
  /-- New or changed contents were written. -/
  | generated
  /-- The stored contents were the same already. -/
  | skipped
  deriving DecidableEq, Repr

/-- What happened to a shared output. -/
inductive SharedOutcome where
  | written (outcome : WriteOutcome)
  /-- Another caller has claimed the output. -/
  | alreadyHandled
  deriving DecidableEq, Repr

/-- The outputs of a pass, in the order in which they were produced. -/
structure GenerationOutput where
  generated : List Path
  skipped : List Path
  deriving DecidableEq, Repr

namespace GenerationOutput

/-- No outputs. -/
def empty : GenerationOutput := ⟨[], []⟩

/-- Add an output. -/
def record (output : GenerationOutput) (path : Path) : WriteOutcome → GenerationOutput
  | .generated => { output with generated := output.generated ++ [path] }
  | .skipped => { output with skipped := output.skipped ++ [path] }

/-- Add the outputs of another pass. -/
def merge (output other : GenerationOutput) : GenerationOutput :=
  ⟨output.generated ++ other.generated, output.skipped ++ other.skipped⟩

/-- Whether some output has changed. -/
def hasChanged (output : GenerationOutput) : Bool :=
  !output.generated.isEmpty

/-- The number of outputs. -/
def size (output : GenerationOutput) : Nat :=
  output.generated.length + output.skipped.length

/-- Whether there are no outputs. -/
def isEmpty (output : GenerationOutput) : Bool :=
  output.size == 0

/-- A number of outputs, at least two characters wide. -/
def countText (count : Nat) : String :=
  Decimal.blankPadded 2 (Decimal.ofNat count)

/-- The outputs as a summary counts them. -/
def display (output : GenerationOutput) : String :=
  "Generated: " ++ countText output.generated.length ++ " Skipped: " ++
    countText output.skipped.length

end GenerationOutput

/-- A store and the session that writes to it. -/
structure Workspace where
  store : Store
  session : Session

namespace Workspace

/-- Write contents to a path unless the file holds them already.  Without
`overwriteReadOnly` a read-only file with other contents is an error; with it the
file is made writable first. -/
def write (overwriteReadOnly : Bool) (workspace : Workspace) (path : Path) (contents : String) :
    Workspace × Except GenerationError WriteOutcome :=
  let session := workspace.session.recordOutput path
  let (store, existing) := workspace.store.read path
  let finish (store : Store) : Workspace × Except GenerationError WriteOutcome :=
    match store.write path contents with
    | (final, .ok ()) => (⟨final, session⟩, .ok .generated)
    | (final, .error fault) => (⟨final, session⟩, .error (.io fault))
  match existing with
  | none => finish store
  | some stored =>
      if stored = contents then
        (⟨store, session⟩, .ok .skipped)
      else
        match store.isReadOnly path with
        | .error fault => (⟨store, session⟩, .error (.io fault))
        | .ok false => finish store
        | .ok true =>
            if overwriteReadOnly then
              match store.setReadOnly path false with
              | (writable, .ok ()) => finish writable
              | (same, .error fault) => (⟨same, session⟩, .error (.io fault))
            else
              (⟨store, session⟩,
                .error (.filesystemConflict path "file is read-only and its content changed"))

/-- Write contents to a path and record the outcome in `output`. -/
def writeInto (overwriteReadOnly : Bool) (workspace : Workspace) (path : Path) (contents : String)
    (output : GenerationOutput) :
    Workspace × GenerationOutput × Except GenerationError WriteOutcome :=
  match workspace.write overwriteReadOnly path contents with
  | (final, .ok outcome) => (final, output.record path outcome, .ok outcome)
  | (final, .error error) => (final, output, .error error)

/-- Claim a path for its caller. -/
def claim (workspace : Workspace) (path : Path) : Workspace × Bool :=
  let (session, claimed) := workspace.session.claim path
  (⟨workspace.store, session⟩, claimed)

/-- Give a claim back. -/
def release (workspace : Workspace) (path : Path) : Workspace :=
  ⟨workspace.store, workspace.session.release path⟩

/-- Render a claimed output and write it.  When either fails the claim is given
back. -/
def produceClaimed (overwriteReadOnly : Bool) (workspace : Workspace) (path : Path)
    (render : Unit → Except GenerationError String) (output : GenerationOutput) :
    Workspace × GenerationOutput × Except GenerationError SharedOutcome :=
  match render () with
  | .error error => (workspace.release path, output, .error error)
  | .ok contents =>
      match workspace.writeInto overwriteReadOnly path contents output with
      | (final, recorded, .ok outcome) => (final, recorded, .ok (.written outcome))
      | (final, recorded, .error error) => (final.release path, recorded, .error error)

/-- Produce a shared output unless another caller has claimed it.  `render` is
evaluated only for the caller that holds the claim. -/
def writeShared (overwriteReadOnly : Bool) (workspace : Workspace) (path : Path)
    (render : Unit → Except GenerationError String) (output : GenerationOutput) :
    Workspace × GenerationOutput × Except GenerationError SharedOutcome :=
  match workspace.claim path with
  | (claimed, true) => claimed.produceClaimed overwriteReadOnly path render output
  | (unchanged, false) => (unchanged, output, .ok .alreadyHandled)

/-- Remove the shared outputs that are waiting for removal and that nobody
claims.  Every caller has to be done by then. -/
def removeUnclaimed (workspace : Workspace) :
    Workspace × List (Path × Store.DeleteOutcome) :=
  let (session, paths) := workspace.session.takeUnclaimed
  let (store, outcomes) := workspace.store.deleteAll paths
  (⟨store, session⟩, outcomes)

end Workspace

/-- An output that has been rendered and is not yet written. -/
inductive PendingOutput where
  /-- A file that belongs to one project. -/
  | file (path : Path) (contents : String)
  /-- A file that several projects may produce. -/
  | shared (path : Path) (contents : String)
  /-- A shared file that a project does not produce any more. -/
  | staleShared (path : Path)
  deriving DecidableEq, Repr

namespace PendingOutput

/-- The path of an output. -/
def path : PendingOutput → Path
  | file path _ | shared path _ | staleShared path => path

/-- Write an output and record the outcome. -/
def commit (overwriteReadOnly : Bool) (pending : PendingOutput) (workspace : Workspace)
    (output : GenerationOutput) : Workspace × GenerationOutput × Except GenerationError Unit :=
  match pending with
  | file path contents =>
      match workspace.writeInto overwriteReadOnly path contents output with
      | (final, recorded, result) => (final, recorded, result.map fun _ => ())
  | shared path contents =>
      match workspace.writeShared overwriteReadOnly path (fun _ => .ok contents) output with
      | (final, recorded, result) => (final, recorded, result.map fun _ => ())
  | staleShared path =>
      (⟨workspace.store, workspace.session.deferStale path⟩, output, .ok ())

end PendingOutput

end ProjectFiles
