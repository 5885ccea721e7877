import ProjectFiles.Output.Database
import ProjectFiles.Proofs.Json.Reading
import ProjectFiles.Proofs.SortedMap
import ProjectFiles.Proofs.Timestamp

/-!
# Reading databases back

A database of the current version is read back from its text, spellings and times
included.
-/

namespace ProjectFiles

open Json Json.Document

/-! ## The text of a database -/

theorem number?_one {rest : List Char} (ends : EndsValue rest) :
    number? ('1' :: rest) = some (⟨false, ['1'], none, none⟩, rest) := by
  cases rest with
  | nil => rfl
  | cons c rest =>
      rcases ends c rfl with rfl | rfl
      · rfl
      · rfl

namespace OutputDatabase

/-- The current version as it is written. -/
def versionDocument : Document :=
  .number ⟨false, ['1'], none, none⟩

theorem version?_versionDocument : version? versionDocument = some currentVersion := by
  decide

theorem prettyAt_version (depth : Nat) :
    (prettyAt depth (.integer currentVersion)).toList = ['1'] := by
  rw [prettyAt]
  show (String.ofList (Decimal.digits 1)).toList = ['1']
  rw [String.toList_ofList, Decimal.digits, if_pos (by decide)]
  rfl

theorem isReadAs_version (depth : Nat) :
    IsReadAs depth (.integer currentVersion) versionDocument where
  skipBlanks_eq := by
    intro rest
    rw [prettyAt_version]
    exact skipBlanks_cons (c := '1') (by decide) rest
  value?_eq := by
    intro fuel rest enough ends
    obtain ⟨fuel, rfl⟩ := Nat.exists_eq_add_of_lt enough
    have read := number?_one ends
    rw [prettyAt_version]
    simp [value?, read, versionDocument]

/-- A recorded file as it is written. -/
def fileMember (entry : Path × Timestamp) : Option String × Document :=
  (some entry.1.text, .text (some entry.2.display))

theorem file?_fileMember {entry : Path × Timestamp} (isClock : entry.2.IsClock) :
    file? (fileMember entry) = some entry := by
  rw [fileMember, file?, Timestamp.ofText?_display isClock]
  rfl

theorem mapM_file?_fileMember {entries : List (Path × Timestamp)}
    (areClocks : ∀ entry ∈ entries, entry.2.IsClock) :
    (entries.map fileMember).mapM file? = some entries := by
  induction entries with
  | nil => rfl
  | cons entry entries ih =>
      rw [List.map_cons, List.mapM_cons, file?_fileMember (areClocks entry List.mem_cons_self),
        ih fun other member => areClocks other (List.mem_cons_of_mem _ member)]
      rfl

/-- The members of the object that a database is written as. -/
def members (database : OutputDatabase) : List (Option String × Document) :=
  [(some "version", versionDocument),
    (some "files", .object (database.files.entries.map fileMember))]

theorem areReadAs_files (depth : Nat) (entries : List (Path × Timestamp)) :
    List.Forall₂ (IsReadAsMember depth)
      (entries.map fun entry => (entry.1.text, .text entry.2.display))
      (entries.map fileMember) := by
  induction entries with
  | nil => exact .nil
  | cons entry entries ih => exact .cons ⟨rfl, isReadAs_text depth entry.2.display⟩ ih

/-- A written database is an object of its version and its files. -/
theorem ofText?_render {database : OutputDatabase} (current : database.version = currentVersion) :
    Document.ofText? database.render = some (.object database.members) := by
  obtain ⟨version, files⟩ := database
  obtain rfl : version = currentVersion := current
  have filesRead := isReadAs_object (areReadAs_files 2 files.entries)
  exact ofText?_pretty
    (isReadAs_object (.cons ⟨rfl, isReadAs_version 1⟩ (.cons ⟨rfl, filesRead⟩ .nil)))

theorem ofDocument?_members {database : OutputDatabase}
    (current : database.version = currentVersion)
    (areClocks : ∀ entry ∈ database.files.entries, entry.2.IsClock) :
    ofDocument? (.object database.members) = some database := by
  have files : files? (.object (database.files.entries.map fileMember)) = some database.files := by
    rw [files?, mapM_file?_fileMember areClocks, Option.map_some, SortedMap.ofList_entries]
  have version : member? "version" database.members = some versionDocument := rfl
  have isFiles : member? "files" database.members =
      some (.object (database.files.entries.map fileMember)) := rfl
  have named : (database.members.any fun member => member.1.isNone) = false := rfl
  rw [ofDocument?, named, version, isFiles, Option.bind_some, version?_versionDocument,
    Option.bind_some, files, ← current]
  rfl

/-- A database of the current version is read back from its text. -/
theorem ofText_render {database : OutputDatabase} (current : database.version = currentVersion)
    (areClocks : ∀ entry ∈ database.files.entries, entry.2.IsClock) :
    ofText database.render = database := by
  rw [ofText, ofText?_render current, Option.bind_some, ofDocument?_members current areClocks]
  exact if_pos current

theorem load_snd_of_contents {store : Store} {path : Path} {text : String}
    (found : store.contents? path = some text) : (load store path).2 = ofText text := by
  have read : store.read path = (store.record .read path, some text) := by
    rw [Store.read, found]
  rw [load, read]

/-- A database that is not there counts as empty. -/
theorem load_snd_of_absent {store : Store} {path : Path} (absent : store.file? path = none) :
    (load store path).2 = empty := by
  have read : store.read path = (store.record .read path, none) := by
    rw [Store.read, Store.contents?, absent]
    rfl
  rw [load, read]

end OutputDatabase

end ProjectFiles
