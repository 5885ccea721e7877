import Mathlib.Data.List.Induction
import ProjectFiles.SortedMap

/-!
# Reading sorted maps

What the keys and the values of a map are after an insertion, and how its entries
are found.  Where only equal keys compare as equal, an entry is found under its own
key and under no other.
-/

namespace ProjectFiles

universe u v

namespace SortedMap

variable {κ : Type u} {β : Type v} [Ord κ]

/-- The map with all values replaced. -/
def mapValues {γ : Type v} (map : SortedMap κ β) (replace : β → γ) : SortedMap κ γ where
  entries := map.entries.map fun entry => (entry.1, replace entry.2)
  increasing := List.pairwise_map.2 map.increasing

theorem get?_mapValues {γ : Type v} (map : SortedMap κ β) (replace : β → γ) (key : κ) :
    (map.mapValues replace).get? key = (map.get? key).map replace := by
  unfold get? entry? mapValues
  rw [List.find?_map, Option.map_map, Option.map_map]
  rfl

theorem contains_iff_mem_keys {map : SortedMap κ β} {probe : κ} :
    map.contains probe = true ↔ ∃ key ∈ map.keys, compare probe key = .eq := by
  simp [contains, get?, entry?, keys]

/-- Where a key is inserted depends on the other keys only. -/
theorem map_fst_insertEntry_congr {γ : Type v} {key : κ} {value : β} {other : γ}
    {left : List (κ × β)} {right : List (κ × γ)} (same : left.map (·.1) = right.map (·.1)) :
    (insertEntry key value left).map (·.1) = (insertEntry key other right).map (·.1) := by
  induction left generalizing right with
  | nil =>
      rw [List.map_eq_nil_iff.1 same.symm]
      rfl
  | cons head rest ih =>
      obtain ⟨_, old⟩ := head
      obtain ⟨⟨stored, _⟩, others, rfl, rfl, sameRest⟩ := List.map_eq_cons_iff.1 same.symm
      rw [insertEntry, insertEntry]
      cases compare key stored with
      | lt | eq => simp [sameRest]
      | gt => simp [ih sameRest.symm]

section

variable [Std.TransOrd κ]

/-- Keys that compare as equal read the same value. -/
theorem get?_congr (map : SortedMap κ β) {left right : κ} (equal : compare left right = .eq) :
    map.get? left = map.get? right := by
  unfold get? entry?
  have agree : (fun entry : κ × β => compare left entry.1 == .eq) =
      fun entry => compare right entry.1 == .eq := by
    funext entry
    rw [Std.TransCmp.congr_left equal]
  rw [agree]

/-- No two keys compare as equal to one key. -/
theorem countP_keys (map : SortedMap κ β) (probe : κ) :
    (map.keys.countP fun key => compare probe key = .eq) = (map.contains probe).toNat := by
  have counted : ∀ keys : List κ, keys.Pairwise (fun left right => compare left right = .lt) →
      (keys.countP fun key => compare probe key = .eq) =
        (keys.any fun key => compare probe key = .eq).toNat := by
    intro keys
    induction keys with
    | nil => exact fun _ => rfl
    | cons first rest ih =>
        intro increasing
        obtain ⟨below, increasingRest⟩ := List.pairwise_cons.1 increasing
        by_cases equal : compare probe first = .eq
        · have others : ∀ key ∈ rest, compare probe key ≠ .eq := by
            intro key member same
            have above := below key member
            rw [← Std.TransCmp.congr_left equal, same] at above
            cases above
          rw [List.countP_cons_of_pos (by simpa using equal),
            List.countP_eq_zero.2 (by simpa using others)]
          simp [equal]
        · rw [List.countP_cons_of_neg (by simpa using equal), ih increasingRest]
          simp [equal]
  rw [counted map.keys (List.pairwise_map.2 map.increasing)]
  congr 1
  rw [Bool.eq_iff_iff, contains_iff_mem_keys, List.any_eq_true]
  simp

theorem contains_insert (map : SortedMap κ β) (key probe : κ) (value : β) :
    (map.insert key value).contains probe =
      (decide (compare probe key = .eq) || map.contains probe) := by
  unfold contains
  rw [get?_insert]
  by_cases same : compare probe key = .eq <;> simp [same]

theorem contains_erase (map : SortedMap κ β) (key probe : κ) :
    (map.erase key).contains probe =
      (!decide (compare probe key = .eq) && map.contains probe) := by
  unfold contains
  rw [get?_erase]
  by_cases same : compare probe key = .eq <;> simp [same]

theorem mem_keys_insert {map : SortedMap κ β} {key probe : κ} {value : β}
    (member : probe ∈ (map.insert key value).keys) : probe = key ∨ probe ∈ map.keys := by
  obtain ⟨entry, inserted, rfl⟩ := List.mem_map.1 member
  rcases mem_insertEntry inserted with rfl | older | ⟨_, older, _⟩
  · exact .inl rfl
  · exact .inr (List.mem_map_of_mem older)
  · exact .inr (List.mem_map.2 ⟨_, older, rfl⟩)

theorem keys_insert_congr {γ : Type v} {left : SortedMap κ β} {right : SortedMap κ γ}
    (same : left.keys = right.keys) (key : κ) (value : β) (other : γ) :
    (left.insert key value).keys = (right.insert key other).keys :=
  map_fst_insertEntry_congr same

theorem mem_values_insert {map : SortedMap κ β} {key : κ} {written value : β}
    (member : value ∈ (map.insert key written).values) : value = written ∨ value ∈ map.values := by
  have inEntries : ∀ entries : List (κ × β),
      value ∈ (insertEntry key written entries).map (·.2) →
      value = written ∨ value ∈ entries.map (·.2) := by
    intro entries
    induction entries with
    | nil => simp [insertEntry]
    | cons head rest ih =>
        obtain ⟨stored, old⟩ := head
        unfold insertEntry
        split
        · simp
        · simp only [List.map_cons, List.mem_cons]
          exact Or.imp_right .inr
        · simp only [List.map_cons, List.mem_cons]
          rintro (rfl | inRest)
          · exact .inr (.inl rfl)
          · exact (ih inRest).imp_right .inr
  exact inEntries map.entries member

/-- A key above all others is inserted behind them. -/
theorem insertEntry_of_above {key : κ} {value : β} {entries : List (κ × β)}
    (above : ∀ entry ∈ entries, compare entry.1 key = .lt) :
    insertEntry key value entries = entries ++ [(key, value)] := by
  induction entries with
  | nil => rfl
  | cons head rest ih =>
      have isAbove : compare key head.1 = .gt :=
        Std.OrientedCmp.gt_of_lt (above head List.mem_cons_self)
      rw [insertEntry, isAbove, ih fun entry member => above entry (List.mem_cons_of_mem _ member)]
      rfl

/-- A map is that of its entries. -/
theorem ofList_entries (map : SortedMap κ β) : ofList map.entries = map := by
  have inserted : ∀ (latter former : List (κ × β)) (current : SortedMap κ β),
      current.entries = former →
      (former ++ latter).Pairwise (fun left right => compare left.1 right.1 = .lt) →
      (current.insertAll latter).entries = former ++ latter := by
    intro latter
    induction latter with
    | nil =>
        intro former current same _
        rw [List.append_nil]
        exact same
    | cons entry latter ih =>
        intro former current same increasing
        have above := (List.pairwise_append.1 increasing).2.2
        have inserts : (current.insert entry.1 entry.2).entries = former ++ [entry] := by
          rw [entries_insert, same]
          exact insertEntry_of_above fun earlier member =>
            above earlier member entry List.mem_cons_self
        rw [List.append_cons] at increasing ⊢
        exact ih _ _ inserts increasing
  exact SortedMap.ext (inserted map.entries [] .empty rfl map.increasing)

end

/-! ## Keys that are equal when they compare as equal -/

section

variable [Std.LawfulEqOrd κ]

theorem mem_keys_iff {map : SortedMap κ β} {probe : κ} :
    probe ∈ map.keys ↔ map.contains probe = true := by
  rw [contains_iff_mem_keys]
  constructor
  · exact fun member => ⟨probe, member, Std.ReflCmp.compare_self⟩
  · rintro ⟨key, member, equal⟩
    rwa [Std.LawfulEqOrd.eq_of_compare equal]

theorem nodup_keys (map : SortedMap κ β) : map.keys.Nodup := by
  refine List.pairwise_map.2 (map.increasing.imp fun {left right} below equal => ?_)
  have self : compare left.1 left.1 = .eq := Std.ReflCmp.compare_self
  rw [← equal, self] at below
  cases below

/-- An entry is found under its key. -/
theorem get?_of_mem {map : SortedMap κ β} {key : κ} {value : β}
    (member : (key, value) ∈ map.entries) : map.get? key = some value := by
  have found : ∀ entries : List (κ × β), (entries.map (·.1)).Nodup → (key, value) ∈ entries →
      (entries.find? fun entry => compare key entry.1 == .eq) = some (key, value) := by
    intro entries
    induction entries with
    | nil => exact fun _ member => nomatch member
    | cons first rest ih =>
        intro nodup member
        rw [List.map_cons, List.nodup_cons] at nodup
        rcases List.mem_cons.1 member with rfl | inRest
        · simp
        · have other : compare key first.1 ≠ .eq := by
            intro equal
            apply nodup.1
            rw [← Std.LawfulEqOrd.eq_of_compare equal]
            exact List.mem_map_of_mem inRest
          rw [List.find?_cons_of_neg (by simpa using other)]
          exact ih nodup.2 inRest
  rw [get?, entry?, found map.entries map.nodup_keys member]
  rfl

end

end SortedMap

namespace SortedSet

variable {κ : Type u} [Ord κ] [Std.TransOrd κ]

theorem ofList_concat (members : List κ) (member : κ) :
    ofList (members ++ [member]) = (ofList members).insert member () := by
  simp [ofList, SortedMap.ofList, SortedMap.insertAll]

theorem contains_ofList (members : List κ) (probe : κ) :
    (ofList members).contains probe = members.any fun member => compare probe member = .eq := by
  induction members using List.reverseRecOn with
  | nil => rfl
  | append_singleton members member ih =>
      rw [ofList_concat, SortedMap.contains_insert, ih, List.any_append, List.any_cons,
        List.any_nil, Bool.or_false, Bool.or_comm]

/-- The keys of a set are members as the list spells them. -/
theorem mem_of_mem_keys_ofList {members : List κ} {key : κ} (isKey : key ∈ (ofList members).keys) :
    key ∈ members := by
  induction members using List.reverseRecOn with
  | nil => cases isKey
  | append_singleton members member ih =>
      rw [ofList_concat] at isKey
      rcases SortedMap.mem_keys_insert isKey with rfl | older
      · simp
      · exact List.mem_append_left _ (ih older)

/-- The set of a list has the members of the list. -/
theorem mem_keys_ofList [Std.LawfulEqOrd κ] {members : List κ} {member : κ} :
    member ∈ (ofList members).keys ↔ member ∈ members := by
  rw [SortedMap.mem_keys_iff, contains_ofList]
  simp

end SortedSet

end ProjectFiles
