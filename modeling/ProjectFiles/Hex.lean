/-!
# Hexadecimal digits

Digits are written in lower case and read in either case.
-/

namespace ProjectFiles.Hex

/-- The character of a digit. -/
def digitChar (digit : Nat) : Char :=
  if digit < 10 then Char.ofNat ('0'.toNat + digit) else Char.ofNat ('a'.toNat + (digit - 10))

/-- The value of a digit character. -/
def digitValue? (c : Char) : Option Nat :=
  if '0' ≤ c ∧ c ≤ '9' then some (c.toNat - '0'.toNat)
  else if 'a' ≤ c ∧ c ≤ 'f' then some (c.toNat - 'a'.toNat + 10)
  else if 'A' ≤ c ∧ c ≤ 'F' then some (c.toNat - 'A'.toNat + 10)
  else none

/-- The last `count` digits of a number, most significant first. -/
def digits : Nat → Nat → List Char
  | 0, _ => []
  | count + 1, n => digits count (n / 16) ++ [digitChar (n % 16)]

/-- The number that a run of digits writes. -/
def value? (digits : List Char) : Option Nat :=
  digits.foldlM (fun total c => (digitValue? c).map fun digit => total * 16 + digit) 0

end ProjectFiles.Hex
