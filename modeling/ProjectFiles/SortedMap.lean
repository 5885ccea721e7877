/-!
# Maps kept in key order

A `SortedMap` is a list of entries whose keys increase strictly.  The order is
part of the type, so every traversal of a map is in key order and no key occurs
twice.

Two keys that compare as equal may still be different values, such as two
spellings of one path.  Writing to such a key changes the value and keeps the
key that was stored first.
-/

namespace ProjectFiles

universe u v w

/-- Entries in strictly increasing key order. -/
structure SortedMap (κ : Type u) (β : Type v) [Ord κ] where
  /-- The entries, smallest key first. -/
  entries : List (κ × β)
  /-- Keys increase strictly from entry to entry. -/
  increasing : entries.Pairwise fun left right => compare left.1 right.1 = .lt

namespace SortedMap

variable {κ : Type u} {β : Type v} {γ : Type w}

/-- Write `value` at `key` in an ordered list of entries. -/
def insertEntry [Ord κ] (key : κ) (value : β) : List (κ × β) → List (κ × β)
  | [] => [(key, value)]
  | (stored, old) :: rest =>
      match compare key stored with
      | .lt => (key, value) :: (stored, old) :: rest
      | .eq => (stored, value) :: rest
      | .gt => (stored, old) :: insertEntry key value rest

/-- Every entry after an insertion is an old entry, the new one, or the new
value under a stored key that compares as equal. -/
theorem mem_insertEntry [Ord κ] {key : κ} {value : β} {entries : List (κ × β)}
    {entry : κ × β} (found : entry ∈ insertEntry key value entries) :
    entry = (key, value) ∨ entry ∈ entries ∨
      ∃ old, (entry.1, old) ∈ entries ∧ compare key entry.1 = .eq := by
  induction entries with
  | nil => simp [insertEntry] at found; exact .inl found
  | cons head rest ih =>
      obtain ⟨stored, old⟩ := head
      unfold insertEntry at found
      split at found
      · rcases List.mem_cons.1 found with rfl | inOld
        · exact .inl rfl
        · exact .inr (.inl inOld)
      · rename_i same
        rcases List.mem_cons.1 found with rfl | inRest
        · exact .inr (.inr ⟨old, List.mem_cons_self, same⟩)
        · exact .inr (.inl (List.mem_cons_of_mem _ inRest))
      · rcases List.mem_cons.1 found with rfl | inRest
        · exact .inr (.inl List.mem_cons_self)
        · rcases ih inRest with isNew | inOld | ⟨value', inOld, same⟩
          · exact .inl isNew
          · exact .inr (.inl (List.mem_cons_of_mem _ inOld))
          · exact .inr (.inr ⟨value', List.mem_cons_of_mem _ inOld, same⟩)

/-- Insertion keeps the keys strictly increasing. -/
theorem increasing_insertEntry [Ord κ] [Std.TransOrd κ] (key : κ) (value : β)
    {entries : List (κ × β)}
    (ordered : entries.Pairwise fun left right => compare left.1 right.1 = .lt) :
    (insertEntry key value entries).Pairwise
      fun left right => compare left.1 right.1 = .lt := by
  induction entries with
  | nil => simp [insertEntry]
  | cons head rest ih =>
      obtain ⟨stored, old⟩ := head
      have headBelow := (List.pairwise_cons.1 ordered).1
      have restOrdered := (List.pairwise_cons.1 ordered).2
      unfold insertEntry
      split
      · rename_i below
        refine List.pairwise_cons.2 ⟨?_, ordered⟩
        intro entry inOld
        rcases List.mem_cons.1 inOld with rfl | inRest
        · exact below
        · exact Std.TransCmp.lt_trans below (headBelow entry inRest)
      · exact List.pairwise_cons.2 ⟨headBelow, restOrdered⟩
      · rename_i above
        have storedBelow : compare stored key = .lt := Std.OrientedCmp.lt_of_gt above
        refine List.pairwise_cons.2 ⟨?_, ih restOrdered⟩
        intro entry found
        rcases mem_insertEntry found with rfl | inRest | ⟨value', inRest, _⟩
        · exact storedBelow
        · exact headBelow entry inRest
        · exact headBelow (entry.1, value') inRest

/-- The map without entries. -/
def empty [Ord κ] : SortedMap κ β where
  entries := []
  increasing := .nil

instance [Ord κ] : Inhabited (SortedMap κ β) := ⟨empty⟩

/-- Write `value` at `key`; a stored key that compares as equal is kept. -/
def insert [Ord κ] [Std.TransOrd κ] (map : SortedMap κ β) (key : κ) (value : β) :
    SortedMap κ β where
  entries := insertEntry key value map.entries
  increasing := increasing_insertEntry key value map.increasing

/-- The entry stored at `key`, with the stored spelling of the key. -/
def entry? [Ord κ] (map : SortedMap κ β) (key : κ) : Option (κ × β) :=
  map.entries.find? fun entry => compare key entry.1 == .eq

/-- The value stored at `key`. -/
def get? [Ord κ] (map : SortedMap κ β) (key : κ) : Option β :=
  (map.entry? key).map (·.2)

/-- Whether some value is stored at `key`. -/
def contains [Ord κ] (map : SortedMap κ β) (key : κ) : Bool :=
  (map.get? key).isSome

/-- Remove what is stored at `key`. -/
def erase [Ord κ] (map : SortedMap κ β) (key : κ) : SortedMap κ β where
  entries := map.entries.filter fun entry => compare key entry.1 != .eq
  increasing := map.increasing.filter _

/-- The keys in increasing order. -/
def keys [Ord κ] (map : SortedMap κ β) : List κ :=
  map.entries.map (·.1)

/-- The values in the order of their keys. -/
def values [Ord κ] (map : SortedMap κ β) : List β :=
  map.entries.map (·.2)

/-- The number of entries. -/
def size [Ord κ] (map : SortedMap κ β) : Nat :=
  map.entries.length

/-- Whether the map has no entry. -/
def isEmpty [Ord κ] (map : SortedMap κ β) : Bool :=
  map.entries.isEmpty

/-- Insert the entries of a list from left to right. -/
def insertAll [Ord κ] [Std.TransOrd κ] (map : SortedMap κ β) (entries : List (κ × β)) :
    SortedMap κ β :=
  entries.foldl (fun current entry => current.insert entry.1 entry.2) map

/-- The map of a list of entries, where the last value of a key wins. -/
def ofList [Ord κ] [Std.TransOrd κ] (entries : List (κ × β)) : SortedMap κ β :=
  empty.insertAll entries

/-- Two maps with the same entries are equal. -/
@[ext]
theorem ext [Ord κ] {left right : SortedMap κ β} (same : left.entries = right.entries) :
    left = right := by
  cases left
  cases right
  cases same
  rfl

instance [Ord κ] [DecidableEq κ] [DecidableEq β] : DecidableEq (SortedMap κ β) :=
  fun left right => decidable_of_iff (left.entries = right.entries)
    ⟨SortedMap.ext, congrArg SortedMap.entries⟩

@[simp]
theorem entries_empty [Ord κ] : (empty : SortedMap κ β).entries = [] := rfl

@[simp]
theorem entries_insert [Ord κ] [Std.TransOrd κ] (map : SortedMap κ β) (key : κ) (value : β) :
    (map.insert key value).entries = insertEntry key value map.entries := rfl

@[simp]
theorem get?_empty [Ord κ] (key : κ) : (empty : SortedMap κ β).get? key = none := rfl

/-- A key that compares as equal to the written key reads the written value;
every other key reads what it read before. -/
theorem get?_insert [Ord κ] [Std.TransOrd κ] (map : SortedMap κ β) (key probe : κ) (value : β) :
    (map.insert key value).get? probe =
      if compare probe key = .eq then some value else map.get? probe := by
  simp only [get?, entry?, entries_insert]
  induction map.entries with
  | nil =>
      by_cases same : compare probe key = .eq <;> simp [insertEntry, same]
  | cons head rest ih =>
      obtain ⟨stored, old⟩ := head
      unfold insertEntry
      split
      · rename_i below
        by_cases same : compare probe key = .eq <;> simp [same]
      · rename_i equal
        have agree : compare probe key = compare probe stored :=
          Std.TransCmp.congr_right equal
        by_cases same : compare probe key = .eq
        · simp [same, agree ▸ same]
        · have other : ¬compare probe stored = .eq := agree ▸ same
          simp [same, other]
      · rename_i above
        by_cases atStored : compare probe stored = .eq
        · have differs : ¬compare probe key = .eq := by
            intro same
            have : compare key stored = .eq :=
              Std.TransCmp.eq_trans (Std.OrientedCmp.eq_symm same) atStored
            simp [this] at above
          simp [atStored, differs]
        · simpa [atStored] using ih

/-- Removing a key forgets every key that compares as equal to it. -/
theorem get?_erase [Ord κ] [Std.TransOrd κ] (map : SortedMap κ β) (key probe : κ) :
    (map.erase key).get? probe =
      if compare probe key = .eq then none else map.get? probe := by
  simp only [get?, entry?, erase]
  induction map.entries with
  | nil => simp
  | cons head rest ih =>
      obtain ⟨stored, old⟩ := head
      by_cases removed : compare key stored = .eq
      · have agree : compare probe key = compare probe stored :=
          Std.TransCmp.congr_right removed
        by_cases same : compare probe key = .eq
        · simp [removed, same] at ih ⊢
          simpa using ih
        · have other : ¬compare probe stored = .eq := agree ▸ same
          simp [removed, same, other] at ih ⊢
          exact ih
      · by_cases atStored : compare probe stored = .eq
        · have differs : ¬compare probe key = .eq := by
            intro same
            exact removed
              (Std.TransCmp.eq_trans (Std.OrientedCmp.eq_symm same) atStored)
          simp [removed, atStored, differs]
        · by_cases same : compare probe key = .eq <;>
            simp [removed, atStored, same] at ih ⊢ <;> exact ih

end SortedMap

/-- A set kept in order: a sorted map that stores nothing at its keys. -/
abbrev SortedSet (κ : Type u) [Ord κ] := SortedMap κ Unit

/-- The set of the members of a list; of equal members the first is kept. -/
def SortedSet.ofList {κ : Type u} [Ord κ] [Std.TransOrd κ] (members : List κ) : SortedSet κ :=
  SortedMap.ofList (members.map fun member => (member, ()))

end ProjectFiles
