/-!
# Decimal digits

Natural numbers and integers written in base ten, without leading zeros, and
digit texts read back.
-/

namespace ProjectFiles.Decimal

/-- The character of a digit. -/
def digitChar (digit : Nat) : Char :=
  Char.ofNat ('0'.toNat + digit % 10)

/-- The decimal digits of a number, most significant first. -/
def digits (n : Nat) : List Char :=
  if n < 10 then
    [digitChar n]
  else
    digits (n / 10) ++ [digitChar n]
termination_by n

/-- A natural number in base ten. -/
def ofNat (n : Nat) : String :=
  String.ofList (digits n)

/-- An integer in base ten, with a minus sign when it is negative. -/
def ofInt : Int → String
  | .ofNat n => ofNat n
  | .negSucc n => "-" ++ ofNat (n + 1)

/-- Write `text` behind enough zeros to make it `width` characters wide. -/
def zeroPadded (width : Nat) (text : String) : String :=
  String.ofList (List.replicate (width - text.length) '0') ++ text

/-- Write `text` behind enough blanks to make it `width` characters wide. -/
def blankPadded (width : Nat) (text : String) : String :=
  String.ofList (List.replicate (width - text.length) ' ') ++ text

/-- Whether a character is one of the ten ASCII digits. -/
def isDigit (c : Char) : Bool :=
  '0' ≤ c && c ≤ '9'

/-- The value of a digit character. -/
def digitValue (c : Char) : Nat :=
  c.toNat - '0'.toNat

/-- The number that a run of digits writes, put after the digits of `start`. -/
def valueFrom (start : Nat) (digits : List Char) : Nat :=
  digits.foldl (fun total c => total * 10 + digitValue c) start

/-- The number that a run of digits writes. -/
def value (digits : List Char) : Nat :=
  valueFrom 0 digits

end ProjectFiles.Decimal
