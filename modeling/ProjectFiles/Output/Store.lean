import ProjectFiles.Error
import ProjectFiles.SortedMap

/-!
# A store of files

A `Store` holds files under their paths and remembers every call made on it.  A
file may be read-only, which protects its contents, and a path may be locked,
which protects its file from removal.  All spellings of a path mean one file;
the file keeps the spelling that it was created under.
-/

namespace ProjectFiles

/-- A file of a store. -/
structure StoredFile where
  contents : String
  readOnly : Bool
  deriving DecidableEq, Repr

/-- The calls that a store remembers. -/
inductive StoreMethod where
  | read
  | write
  | setReadOnly
  | remove
  deriving DecidableEq, Repr

/-- A call made on a store. -/
structure StoreCall where
  method : StoreMethod
  path : Path
  deriving DecidableEq, Repr

/-- Files under their paths. -/
structure Store where
  files : SortedMap Path StoredFile
  /-- The paths whose files cannot be removed. -/
  locked : SortedSet Path
  /-- The number of files written. -/
  writes : Nat
  /-- The calls so far, oldest first. -/
  calls : List StoreCall

namespace Store

/-- The store without files. -/
def empty : Store := ⟨.empty, .empty, 0, []⟩

instance : Inhabited Store := ⟨empty⟩

/-! ## Preparing a store -/

/-- Put a file into a store, whatever is there. -/
def withFile (store : Store) (path : Path) (file : StoredFile) : Store :=
  { store with files := store.files.insert path file }

/-- Protect a path's file from removal. -/
def lock (store : Store) (path : Path) : Store :=
  { store with locked := store.locked.insert path () }

/-! ## Looking at a store -/

/-- The file at a path. -/
def file? (store : Store) (path : Path) : Option StoredFile :=
  store.files.get? path

/-- The contents of the file at a path. -/
def contents? (store : Store) (path : Path) : Option String :=
  (store.file? path).map (·.contents)

/-- Whether there is a file at a path. -/
def fileExists (store : Store) (path : Path) : Bool :=
  store.files.contains path

/-- Whether the file at a path is read-only. -/
def isReadOnly (store : Store) (path : Path) : Except StoreFault Bool :=
  match store.file? path with
  | some file => .ok file.readOnly
  | none => .error (.missing path)

/-- Whether a method has been called. -/
def wasCalled (store : Store) (method : StoreMethod) : Bool :=
  store.calls.any fun call => call.method == method

/-! ## Calls -/

/-- Remember a call. -/
def record (store : Store) (method : StoreMethod) (path : Path) : Store :=
  { store with calls := store.calls ++ [⟨method, path⟩] }

/-- Read the file at a path, if there is one. -/
def read (store : Store) (path : Path) : Store × Option String :=
  (store.record .read path, store.contents? path)

/-- Write a file.  The file is writable afterwards; one that is read-only is left
alone. -/
def write (store : Store) (path : Path) (contents : String) : Store × Except StoreFault Unit :=
  let called := store.record .write path
  match store.file? path with
  | some ⟨_, true⟩ => (called, .error (.readOnly path))
  | _ => ({ called.withFile path ⟨contents, false⟩ with writes := store.writes + 1 }, .ok ())

/-- Protect a file or make it writable. -/
def setReadOnly (store : Store) (path : Path) (readOnly : Bool) : Store × Except StoreFault Unit :=
  let called := store.record .setReadOnly path
  match store.file? path with
  | some file => (called.withFile path { file with readOnly := readOnly }, .ok ())
  | none => (called, .error (.missing path))

/-- Remove a file. -/
def remove (store : Store) (path : Path) : Store × Except StoreFault Unit :=
  let called := store.record .remove path
  if store.locked.contains path then
    (called, .error (.locked path))
  else if store.fileExists path then
    ({ called with files := called.files.erase path }, .ok ())
  else
    (called, .error (.missing path))

/-- What became of a file that was to be deleted. -/
inductive DeleteOutcome where
  | deleted
  | missing
  /-- The file is read-only. -/
  | readOnly
  /-- The file could not be removed. -/
  | blocked
  deriving DecidableEq, Repr

/-- Delete a file unless it is read-only. -/
def deleteIfWritable (store : Store) (path : Path) : Store × DeleteOutcome :=
  match store.file? path with
  | none => (store, .missing)
  | some ⟨_, true⟩ => (store, .readOnly)
  | some ⟨_, false⟩ =>
      match store.remove path with
      | (final, .ok ()) => (final, .deleted)
      | (final, .error _) => (final, .blocked)

/-- Delete files one after the other. -/
def deleteAll (store : Store) : List Path → Store × List (Path × DeleteOutcome)
  | [] => (store, [])
  | path :: rest =>
      let (next, outcome) := store.deleteIfWritable path
      let (final, outcomes) := deleteAll next rest
      (final, (path, outcome) :: outcomes)

end Store

end ProjectFiles
