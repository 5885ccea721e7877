import Mathlib
import ProjectFiles.Decimal

/-!
# Reading numbers back

The digits of a number, behind any number of zeros, write the number.
-/

namespace ProjectFiles.Decimal

theorem isDigit_digitChar (n : Nat) : isDigit (digitChar n) = true := by
  have ofSmall : ∀ digit < 10, isDigit (Char.ofNat ('0'.toNat + digit)) = true := by decide
  exact ofSmall (n % 10) (Nat.mod_lt n (by decide))

theorem digitValue_digitChar (n : Nat) : digitValue (digitChar n) = n % 10 := by
  have ofSmall : ∀ digit < 10, digitValue (Char.ofNat ('0'.toNat + digit)) = digit := by decide
  exact ofSmall (n % 10) (Nat.mod_lt n (by decide))

theorem isDigit_of_mem_digits {n : Nat} {c : Char} (member : c ∈ digits n) : isDigit c = true := by
  induction n using digits.induct with
  | case1 n small =>
      rw [digits, if_pos small, List.mem_singleton] at member
      rw [member]
      exact isDigit_digitChar n
  | case2 n large ih =>
      rw [digits, if_neg large] at member
      rcases List.mem_append.1 member with earlier | isLast
      · exact ih earlier
      · rw [List.mem_singleton.1 isLast]
        exact isDigit_digitChar n

theorem valueFrom_append (start : Nat) (former latter : List Char) :
    valueFrom start (former ++ latter) = valueFrom (valueFrom start former) latter :=
  List.foldl_append

theorem value_digits (n : Nat) : value (digits n) = n := by
  induction n using digits.induct with
  | case1 n small =>
      rw [digits, if_pos small, value, valueFrom, List.foldl_cons, List.foldl_nil,
        digitValue_digitChar]
      omega
  | case2 n large ih =>
      rw [value] at ih
      rw [digits, if_neg large, value, valueFrom_append, ih, valueFrom, List.foldl_cons,
        List.foldl_nil, digitValue_digitChar]
      omega

theorem digits_ne_nil (n : Nat) : digits n ≠ [] := by
  rw [digits]
  split <;> simp

/-- A number below a power of ten has no more digits than the exponent says. -/
theorem length_digits_le {n width : Nat} (small : n < 10 ^ (width + 1)) :
    (digits n).length ≤ width + 1 := by
  induction width generalizing n with
  | zero =>
      rw [digits, if_pos (by simpa using small)]
      exact Nat.le_refl 1
  | succ width ih =>
      rw [digits]
      split
      · simp
      · have smaller : n / 10 < 10 ^ (width + 1) := by
          rw [Nat.pow_succ] at small
          omega
        rw [List.length_append, List.length_singleton]
        exact Nat.succ_le_succ (ih smaller)

/-! ## Numbers of a fixed width -/

/-- The characters of a number behind enough zeros. -/
def padded (width n : Nat) : List Char :=
  List.replicate (width - (digits n).length) '0' ++ digits n

theorem toList_zeroPadded (width n : Nat) :
    (zeroPadded width (ofNat n)).toList = padded width n := by
  simp [zeroPadded, ofNat, padded]

theorem isDigit_of_mem_padded {width n : Nat} {c : Char} (member : c ∈ padded width n) :
    isDigit c = true := by
  rcases List.mem_append.1 member with isZero | isOwn
  · rw [List.eq_of_mem_replicate isZero]
    decide
  · exact isDigit_of_mem_digits isOwn

theorem padded_ne_nil (width n : Nat) : padded width n ≠ [] := by
  simp [padded, digits_ne_nil]

theorem value_padded (width n : Nat) : value (padded width n) = n := by
  have zeros : ∀ count, valueFrom 0 (List.replicate count '0') = 0 := by
    intro count
    induction count with
    | zero => rfl
    | succ count ih => exact ih
  rw [padded, value, valueFrom_append, zeros]
  exact value_digits n

theorem length_padded {width n : Nat} (small : n < 10 ^ (width + 1)) :
    (padded (width + 1) n).length = width + 1 := by
  have bounded := length_digits_le small
  rw [padded, List.length_append, List.length_replicate]
  omega

end ProjectFiles.Decimal
