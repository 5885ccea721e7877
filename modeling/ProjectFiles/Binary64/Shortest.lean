import ProjectFiles.Binary64.Basic
import ProjectFiles.Decimal

/-!
# The shortest decimal of a floating-point number

Every finite number other than zero stands for an interval of reals, those that
round to it.  Its shortest decimal is the point of the coarsest decimal grid
that has a point in the interval; of two such points it is the one nearer to
the number.  Only how an exact tie between them is settled is left to the
format that prints the number.
-/

namespace ProjectFiles.Binary64

/-- How a number halfway between two decimals of equal length is written. -/
inductive DecimalTie where
  /-- The larger of the two decimals. -/
  | up
  /-- The decimal whose last digit is even. -/
  | even
  deriving DecidableEq, Repr

/-- The decimal `digits · 10 ^ exponent`. -/
structure ShortDecimal where
  digits : Nat
  exponent : Int
  deriving DecidableEq, Repr

/-- The interval of a finite number on the grid of multiples of
`10 ^ exponent`: its lower end, the number, its upper end, and the unit that
all three count. -/
def gridInterval (x : Binary64) (exponent : Int) : Nat × Nat × Nat × Nat :=
  let factor := Nat.pow 2 (x.scale - 2).toNat * Nat.pow 10 (-exponent).toNat
  let unit := Nat.pow 2 (2 - x.scale).toNat * Nat.pow 10 exponent.toNat
  let below := if x.fraction = 0 ∧ x.exponentField > 1 then 1 else 2
  ((4 * x.significand - below) * factor, 4 * x.significand * factor,
    (4 * x.significand + 2) * factor, unit)

/-- The grid point next to a finite number that rounds to it, if there is one. -/
def gridPoint (tie : DecimalTie) (x : Binary64) (exponent : Int) : Option Nat :=
  match gridInterval x exponent with
  | (low, middle, high, unit) =>
      let point := middle / unit
      let even := x.significand % 2 == 0
      let lowerIn := low < point * unit || (even && low == point * unit)
      let upperIn := (point + 1) * unit < high || (even && (point + 1) * unit == high)
      if lowerIn && upperIn then
        let fromLower := middle - point * unit
        let fromUpper := (point + 1) * unit - middle
        if fromLower < fromUpper then some point
        else if fromUpper < fromLower then some (point + 1)
        else match tie with
          | .up => some (point + 1)
          | .even => some (if point % 2 = 0 then point else point + 1)
      else if lowerIn then some point
      else if upperIn then some (point + 1)
      else none

/-- Search `grids` grids for a point that rounds to the number, from the grid
of `10 ^ exponent` to finer ones. -/
def searchGrids (tie : DecimalTie) (x : Binary64) : Nat → Int → Option ShortDecimal
  | 0, _ => none
  | grids + 1, exponent =>
      match gridPoint tie x exponent with
      | some digits => some ⟨digits, exponent⟩
      | none => searchGrids tie x grids (exponent - 1)

/-- The exponent of a grid coarser than a finite number. -/
def coarseExponent (x : Binary64) : Int :=
  ((Nat.log2 x.significand : Int) + x.scale + 1) * 30103 / 100000 + 1

/-- The shortest decimal that rounds to a finite number other than zero.  A
decimal of 17 digits always does, so the search ends within 24 grids. -/
def shortest (tie : DecimalTie) (x : Binary64) : ShortDecimal :=
  (searchGrids tie x 24 x.coarseExponent).getD ⟨0, 0⟩

/-- The digits of a decimal and the position of its point: the value is
`0.d₁d₂…dₙ · 10 ^ point`. -/
def ShortDecimal.layout (decimal : ShortDecimal) : List Char × Int :=
  let digits := Decimal.digits decimal.digits
  (digits, digits.length + decimal.exponent)

/-- Digits written positionally, where `whole` follows a number without a
fraction. -/
def positional (whole : String) (digits : List Char) (point : Int) : String :=
  if point ≤ 0 then
    "0." ++ String.ofList (List.replicate (-point).toNat '0' ++ digits)
  else if digits.length ≤ point.toNat then
    String.ofList (digits ++ List.replicate (point.toNat - digits.length) '0') ++ whole
  else
    String.ofList (digits.take point.toNat) ++ "." ++ String.ofList (digits.drop point.toNat)

/-- The text of a number that never uses an exponent: a whole number has no
fraction, and a tie between two decimals goes up. -/
def plainText (x : Binary64) : String :=
  if x.isNaN then
    "NaN"
  else
    let sign := if x.isNegative then "-" else ""
    if x.isInfinite then sign ++ "inf"
    else if x.isZero then sign ++ "0"
    else
      let (digits, point) := (x.shortest .up).layout
      sign ++ positional "" digits point

/-- Digits with one of them before the point, and an exponent with its sign. -/
def scientific (digits : List Char) (point : Int) : String :=
  let exponent := (if point < 1 then "e" else "e+") ++ Decimal.ofInt (point - 1)
  match digits with
  | [] => ""
  | [single] => String.ofList [single] ++ exponent
  | first :: rest => String.ofList [first] ++ "." ++ String.ofList rest ++ exponent

/-- The text of a finite number that always shows that it is not an integer:
positional from `10 ^ -5` up to `10 ^ 16`, where a whole number ends in `.0`,
and with an exponent outside.  A tie between two decimals goes to the even
digit. -/
def markedText (x : Binary64) : String :=
  let sign := if x.isNegative then "-" else ""
  if x.isZero then
    sign ++ "0.0"
  else
    let (digits, point) := (x.shortest .even).layout
    if -5 < point ∧ point ≤ 16 then
      sign ++ positional ".0" digits point
    else
      sign ++ scientific digits point

end ProjectFiles.Binary64
