import ProjectFiles.Json.Record
import ProjectFiles.Proofs.Error
import ProjectFiles.Proofs.SortedMap

/-!
# Reading records back

A form of a type in JSON is faithful when every value is read back from what is
written for it.  Lists, values that may be missing and maps of texts are as faithful as
their members, and a record is read back part by part.
-/

namespace ProjectFiles.Json

variable {α : Type} {write : α → Json} {read : Json → Option α}

/-- Whether every value is read back from what is written for it. -/
def ReadsBack (write : α → Json) (read : Json → Option α) : Prop :=
  ∀ value, read (write value) = some value

theorem readsBack_text : ReadsBack .text text? :=
  fun _ => rfl

theorem readsBack_bool : ReadsBack .bool bool? :=
  fun _ => rfl

theorem ReadsBack.list (readsBack : ReadsBack write read) :
    ReadsBack (ofList write) (list? read) := by
  intro values
  unfold ofList list?
  dsimp only
  induction values with
  | nil => rfl
  | cons value rest ih =>
      rw [List.map_cons, List.mapM_cons, readsBack value, ih]
      rfl

/-- What is never written as `null` can be told from what is missing. -/
theorem ReadsBack.nullable (readsBack : ReadsBack write read)
    (present : ∀ value, write value ≠ .null) : ReadsBack (ofNullable write) (nullable? read) := by
  intro value
  cases value with
  | none => rfl
  | some value =>
      unfold ofNullable nullable?
      dsimp only
      split
      · rename_i isNull
        exact absurd isNull (present value)
      · rw [readsBack value]
        rfl

theorem readsBack_textMap : ReadsBack ofTextMap textMap? := by
  intro map
  have entries : ∀ entries : List (String × String),
      (entries.map fun entry => (entry.1, Json.text entry.2)).mapM textField? = some entries := by
    intro entries
    induction entries with
    | nil => rfl
    | cons entry rest ih =>
        rw [List.map_cons, List.mapM_cons, ih]
        rfl
  unfold ofTextMap textMap?
  dsimp only
  rw [entries, Option.map_some, SortedMap.ofList_entries]

namespace Record

variable {record : Record} {position : Nat} {name : String} {json : Json} {value : α}

theorem required_eq_some (part : record.part? position name = some json)
    (isRead : read json = some value) : record.required position name read = some value := by
  rw [required, part, Option.bind_some, isRead]

theorem defaulting_eq_some {default : α} (part : record.part? position name = some json)
    (isRead : read json = some value) :
    record.defaulting position name read default = some value := by
  rw [defaulting, part]
  exact isRead

theorem optional_eq_some {value : Option α} (part : record.part? position name = some json)
    (isRead : nullable? read json = some value) :
    record.optional position name read = some value := by
  unfold Record.optional
  rw [part]
  exact isRead

end Record

/-! ## Forms that stay as they are -/

/-- Whether a type keeps its values when they are written and read, and its forms when
they are read and written: what is written for a value is read as the value, and
whatever form of a value is read, what is written for it is a form of the same value
that is written again. -/
def RoundTrips (write : α → Json) (read : Json → Option α) : Prop :=
  (∀ value, read (write value) = some value) ∧
    ∀ json value, read json = some value →
      read (write value) = some value ∧ (read (write value)).map write = some (write value)

theorem ReadsBack.roundTrips (readsBack : ReadsBack write read) : RoundTrips write read := by
  refine ⟨readsBack, fun json value _ => ⟨readsBack value, ?_⟩⟩
  rw [readsBack value, Option.map_some]

end ProjectFiles.Json
