import ProjectFiles.Json.Document
import ProjectFiles.Json.Printer
import ProjectFiles.Output.Writer

/-!
# The database of outputs

The outputs of a run are stored in a small JSON file.  The next run removes the
files that were recorded there and that it does not produce, unless they are
protected.  A database that is missing, that cannot be read, or that is of
another version counts as empty.
-/

namespace ProjectFiles

/-- The outputs recorded by a run. -/
structure OutputDatabase where
  version : Nat
  files : SortedMap Path Timestamp
  deriving DecidableEq

namespace OutputDatabase

open Json (Document)

/-- The version of the databases written here. -/
def currentVersion : Nat := 1

/-- The database that stands for one that is not there. -/
def empty : OutputDatabase := ⟨0, .empty⟩

/-- The outputs of a session. -/
def ofSession (session : Session) : OutputDatabase :=
  ⟨currentVersion, session.outputs⟩

/-- Write a database as text. -/
def render (database : OutputDatabase) : String :=
  let entry (file : Path × Timestamp) : String × Json := (file.1.text, .text file.2.display)
  Json.pretty <| .object
    [("version", .integer database.version), ("files", .object (database.files.entries.map entry))]

/-! ## Reading -/

/-- Read a version: an unsigned 32-bit number without point and exponent. -/
def version? : Document → Option Nat
  | .number literal =>
      match literal.value? with
      | some (.integer n) => if 0 ≤ n ∧ n < 4294967296 then some n.toNat else none
      | _ => none
  | _ => none

/-- Read one recorded file. -/
def file? (member : Option String × Document) : Option (Path × Timestamp) :=
  match member with
  | (some path, .text (some time)) => (Timestamp.ofText? time).map fun time => (⟨path⟩, time)
  | _ => none

/-- Read the recorded files. -/
def files? : Document → Option (SortedMap Path Timestamp)
  | .object members => (members.mapM file?).map SortedMap.ofList
  | _ => none

/-- The only member of a name. -/
def member? (name : String) (members : List (Option String × Document)) : Option Document :=
  match members.filter fun member => member.1 == some name with
  | [(_, document)] => some document
  | _ => none

/-- Read a database: an object in which `version` and `files` occur once each, or
an array of both.  Other members do not matter as long as they have a name. -/
def ofDocument? : Document → Option OutputDatabase
  | .object members => do
      if members.any fun member => member.1.isNone then none
      else
        let version ← (member? "version" members).bind version?
        let files ← (member? "files" members).bind files?
        some ⟨version, files⟩
  | .array [version, files] => do
      let version ← version? version
      let files ← files? files
      some ⟨version, files⟩
  | _ => none

/-- Read a database of the current version. -/
def ofText (text : String) : OutputDatabase :=
  match (Document.ofText? text).bind ofDocument? with
  | some database => if database.version = currentVersion then database else empty
  | none => empty

/-! ## Loading, saving and cleaning up -/

/-- Load the database at a path. -/
def load (store : Store) (path : Path) : Store × OutputDatabase :=
  match store.read path with
  | (next, some text) => (next, ofText text)
  | (next, none) => (next, empty)

/-- Store the database at a path. -/
def save (database : OutputDatabase) (store : Store) (path : Path) :
    Store × Except StoreFault Unit :=
  store.write path database.render

/-- The recorded files that a session has not produced, in order. -/
def staleFiles (database : OutputDatabase) (session : Session) : List Path :=
  database.files.keys.filter fun path => !session.produced path

end OutputDatabase

/-- What a cleanup has done. -/
structure CleanupReport where
  deleted : List Path
  /-- The stale files that could not be deleted. -/
  kept : List Path
  deriving DecidableEq, Repr

namespace CleanupReport

/-- The report on deleted files; files that were missing do not count. -/
def ofOutcomes (outcomes : List (Path × Store.DeleteOutcome)) : CleanupReport where
  deleted := (outcomes.filter fun outcome => outcome.2 = .deleted).map (·.1)
  kept := (outcomes.filter fun outcome => outcome.2 = .readOnly || outcome.2 = .blocked).map (·.1)

end CleanupReport

namespace Workspace

/-- Remove the files that the database of an earlier run records and that the
session has not produced, and store the outputs of the session in their place. -/
def cleanup (workspace : Workspace) (database : Path) :
    Workspace × Except GenerationError CleanupReport :=
  let (store, previous) := OutputDatabase.load workspace.store database
  let (store, outcomes) := store.deleteAll (previous.staleFiles workspace.session)
  match (OutputDatabase.ofSession workspace.session).save store database with
  | (final, .ok ()) => (⟨final, workspace.session⟩, .ok (.ofOutcomes outcomes))
  | (final, .error fault) => (⟨final, workspace.session⟩, .error (.io fault))

end Workspace

end ProjectFiles
