import Mathlib.Data.List.Basic
import ProjectFiles.Text.Lowercase

/-!
# Lower-casing and the case of ASCII letters

Texts that differ in the case of ASCII letters only have the same lower-case form: a letter and
its capital are both cased, and where words end depends on nothing else.  For ASCII texts the
lower-case form tells nothing more than that.
-/

namespace ProjectFiles.Text

variable {left right text : String} {before characters : List Char}

/-! ## Texts that differ in case -/

theorem sameIgnoringAsciiCase_iff : sameIgnoringAsciiCase left right = true ↔
    left.toList.map Char.toLower = right.toList.map Char.toLower :=
  beq_iff_eq

theorem sameIgnoringAsciiCase_comm (left right : String) :
    sameIgnoringAsciiCase left right = sameIgnoringAsciiCase right left := by
  rw [Bool.eq_iff_iff, sameIgnoringAsciiCase_iff, sameIgnoringAsciiCase_iff, eq_comm]

/-- Only the capitals among the ASCII letters change. -/
theorem toLower_cases (c : Char) :
    c.toLower = c ∨ ∃ code ∈ List.range' 65 26, c = Char.ofNat code := by
  unfold Char.toLower
  split
  · rename_i isCapital
    refine .inr ⟨c.toNat, List.mem_range'_1.2 ⟨?_, ?_⟩, (Char.ofNat_toNat c).symm⟩
    · exact UInt32.le_iff_toNat_le.1 isCapital.1
    · exact Nat.lt_succ_of_le (UInt32.le_iff_toNat_le.1 isCapital.2)
  · exact .inl rfl

/-- What is the same for the capitals and their letters is the same for all characters. -/
theorem apply_toLower {α : Type} (read : Char → α)
    (capitals : ∀ code ∈ List.range' 65 26, read (Char.ofNat code).toLower = read (Char.ofNat code))
    (c : Char) : read c.toLower = read c := by
  rcases toLower_cases c with isKept | ⟨code, isCapital, rfl⟩
  · rw [isKept]
  · exact capitals code isCapital

theorem isCased_toLower (c : Char) : isCased c.toLower = isCased c :=
  apply_toLower isCased (by decide +kernel) c

theorem isCaseIgnorable_toLower (c : Char) : isCaseIgnorable c.toLower = isCaseIgnorable c :=
  apply_toLower isCaseIgnorable (by decide +kernel) c

theorem lowerChar_toLower (c : Char) : lowerChar c.toLower = lowerChar c :=
  apply_toLower lowerChar (by decide +kernel) c

theorem toLower_eq_sigma_iff (c : Char) : c.toLower = 'Σ' ↔ c = 'Σ' := by
  have same := apply_toLower (fun c => decide (c = 'Σ')) (by decide +kernel) c
  simpa using same

theorem startsCased_map_toLower (context : List Char) :
    startsCased (context.map Char.toLower) = startsCased context := by
  induction context with
  | nil => rfl
  | cons c rest ih =>
      unfold startsCased at ih ⊢
      rw [List.map_cons, List.dropWhile_cons, List.dropWhile_cons, isCaseIgnorable_toLower]
      cases isCaseIgnorable c with
      | true => exact ih
      | false => exact isCased_toLower c

theorem lowerAfter_map_toLower (before characters : List Char) :
    lowerAfter (before.map Char.toLower) (characters.map Char.toLower) =
      lowerAfter before characters := by
  induction characters generalizing before with
  | nil => rfl
  | cons c rest ih =>
      have later := ih (c :: before)
      rw [List.map_cons] at later
      rw [List.map_cons, lowerAfter, lowerAfter, later, startsCased_map_toLower,
        startsCased_map_toLower, lowerChar_toLower]
      simp only [toLower_eq_sigma_iff]

/-- Texts that differ in the case of ASCII letters have the same lower-case form. -/
theorem lowercase_eq_of_same (same : sameIgnoringAsciiCase left right = true) :
    lowercase left = lowercase right := by
  have lowered (text : String) :
      lowercase text = String.ofList (lowerAfter [] (text.toList.map Char.toLower)) :=
    congrArg String.ofList (lowerAfter_map_toLower [] text.toList).symm
  rw [lowered left, lowered right, sameIgnoringAsciiCase_iff.1 same]

/-! ## ASCII texts -/

/-- Whether a text is all ASCII. -/
def IsAscii (text : String) : Prop :=
  ∀ c ∈ text.toList, c.toNat < 0x80

instance (text : String) : Decidable (IsAscii text) :=
  List.decidableBAll (fun c : Char => c.toNat < 0x80) text.toList

theorem lowerAfter_of_ascii (ascii : ∀ c ∈ characters, c.toNat < 0x80) :
    lowerAfter before characters = characters.map Char.toLower := by
  induction characters generalizing before with
  | nil => rfl
  | cons c rest ih =>
      rw [List.forall_mem_cons] at ascii
      have notSigma : c ≠ 'Σ' := by
        rintro rfl
        exact absurd ascii.1 (by decide)
      rw [lowerAfter, ih ascii.2]
      simp only [notSigma, if_false, lowerChar_of_ascii ascii.1]
      rfl

/-- ASCII texts with the same lower-case form differ in case only. -/
theorem same_of_lowercase_eq (ascii : IsAscii left) (alsoAscii : IsAscii right)
    (equal : lowercase left = lowercase right) : sameIgnoringAsciiCase left right = true := by
  unfold lowercase at equal
  rw [lowerAfter_of_ascii ascii, lowerAfter_of_ascii alsoAscii] at equal
  exact sameIgnoringAsciiCase_iff.2 (String.ofList_injective equal)

end ProjectFiles.Text
