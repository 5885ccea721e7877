import Mathlib
import ProjectFiles.Guid

/-!
# Reading identifiers back

Hexadecimal digits that are wide enough for a number write the number.  The hyphens of
an identifier cut its digits into their five groups again, so an identifier is read
back from its text.
-/

namespace ProjectFiles

namespace Hex

theorem digitValue?_digitChar {digit : Nat} (small : digit < 16) :
    digitValue? (digitChar digit) = some digit := by
  have ofSmall : ∀ digit < 16, digitValue? (digitChar digit) = some digit := by decide
  exact ofSmall digit small

theorem length_digits (count n : Nat) : (digits count n).length = count := by
  induction count generalizing n with
  | zero => rfl
  | succ count ih => rw [digits, List.length_append, ih, List.length_singleton]

theorem value?_digits {count n : Nat} (small : n < 16 ^ count) :
    value? (digits count n) = some n := by
  induction count generalizing n with
  | zero =>
      obtain rfl : n = 0 := Nat.lt_one_iff.1 small
      rfl
  | succ count ih =>
      have smaller : n / 16 < 16 ^ count := by
        rw [Nat.pow_succ] at small
        omega
      have last : digitValue? (digitChar (n % 16)) = some (n % 16) :=
        digitValue?_digitChar (Nat.mod_lt n (by decide))
      have whole : n / 16 * 16 + n % 16 = n := by omega
      have former := ih smaller
      unfold value? at former ⊢
      rw [digits, List.foldlM_append, former]
      simp [last, whole]

theorem hyphen_notMem_digits (count n : Nat) : '-' ∉ digits count n := by
  have ofSmall : ∀ digit < 16, '-' ≠ digitChar digit := by decide
  induction count generalizing n with
  | zero => exact List.not_mem_nil
  | succ count ih =>
      rw [digits, List.mem_append, not_or, List.mem_singleton]
      exact ⟨ih _, ofSmall _ (Nat.mod_lt n (by decide))⟩

end Hex

namespace Guid

variable {digits : List Char}

/-- The five groups of 32 digits. -/
def groups (digits : List Char) : List (List Char) :=
  [digits.take 8, (digits.drop 8).take 4, (digits.drop 12).take 4, (digits.drop 16).take 4,
    digits.drop 20]

theorem grouped_eq_intercalate (digits : List Char) :
    grouped digits = List.intercalate ['-'] (groups digits) := by
  simp [grouped, groups, List.intercalate]

/-- The hyphens cut the digits into their groups. -/
theorem splitOn_grouped (hyphenless : '-' ∉ digits) :
    List.splitOn '-' (grouped digits) = groups digits := by
  rw [grouped_eq_intercalate]
  refine List.splitOn_intercalate '-' ?_ (List.cons_ne_nil _ _)
  intro group isGroup inGroup
  apply hyphenless
  simp only [groups, List.mem_cons, List.not_mem_nil, or_false] at isGroup
  rcases isGroup with rfl | rfl | rfl | rfl | rfl
  · exact List.mem_of_mem_take inGroup
  · exact List.mem_of_mem_drop (List.mem_of_mem_take inGroup)
  · exact List.mem_of_mem_drop (List.mem_of_mem_take inGroup)
  · exact List.mem_of_mem_drop (List.mem_of_mem_take inGroup)
  · exact List.mem_of_mem_drop inGroup

theorem flatten_groups (digits : List Char) :
    digits.take 8 ++ (digits.drop 8).take 4 ++ (digits.drop 12).take 4 ++
      (digits.drop 16).take 4 ++ digits.drop 20 = digits := by
  have third : (digits.drop 16).take 4 ++ digits.drop 20 = digits.drop 16 := by
    rw [show 20 = 16 + 4 from rfl, ← List.drop_drop, List.take_append_drop]
  have second : (digits.drop 12).take 4 ++ digits.drop 16 = digits.drop 12 := by
    rw [show 16 = 12 + 4 from rfl, ← List.drop_drop, List.take_append_drop]
  have first : (digits.drop 8).take 4 ++ digits.drop 12 = digits.drop 8 := by
    rw [show 12 = 8 + 4 from rfl, ← List.drop_drop, List.take_append_drop]
  rw [List.append_assoc, third, List.append_assoc, second, List.append_assoc, first,
    List.take_append_drop]

theorem ofDigits?_digits (guid : Guid) :
    ofDigits? (Hex.digits 32 guid.value.toNat) = some guid := by
  have small : guid.value.toNat < 16 ^ 32 := guid.value.isLt
  rw [ofDigits?, if_pos (Hex.length_digits _ _), Hex.value?_digits small, Option.map_some,
    BitVec.ofNat_toNat, BitVec.setWidth_eq]

theorem ofGroups?_grouped (guid : Guid) :
    ofGroups? (grouped (Hex.digits 32 guid.value.toNat)) = some guid := by
  have wide := Hex.length_digits 32 guid.value.toNat
  unfold ofGroups?
  rw [splitOn_grouped (Hex.hyphen_notMem_digits _ _)]
  simp only [groups]
  rw [if_pos (by simp [wide]), flatten_groups]
  exact ofDigits?_digits guid

/-- An identifier is read back from its text with hyphens. -/
theorem ofText?_hyphenated (guid : Guid) : ofText? guid.hyphenated = some guid := by
  have long : (grouped (Hex.digits 32 guid.value.toNat)).length = 36 := by
    simp [grouped, Hex.length_digits]
  unfold ofText? hyphenated
  rw [String.toList_ofList]
  dsimp only
  rw [long, if_neg (by decide), if_neg (by simp), if_neg (by simp)]
  exact ofGroups?_grouped guid

end Guid

end ProjectFiles
