import ProjectFiles.Json.Basic
import ProjectFiles.Binary64.Reading

/-!
# Numbers of JSON texts

An integer that fits a 64-bit word is read exactly; `-0` is the negative zero.
Every other number is read as a floating-point number in two steps: as many
leading digits as fit an unsigned 64-bit word are kept, and the word is then
scaled by a power of ten.  Both steps round on their own, so a number with many
digits need not become the floating-point number nearest to it.
-/

namespace ProjectFiles.Json

open Decimal

/-- A number as it is written. -/
structure NumberLiteral where
  negative : Bool
  /-- The digits before the point, at least one. -/
  whole : List Char
  /-- The digits after the point, when there is one. -/
  fraction : Option (List Char)
  /-- The exponent, when there is one. -/
  exponent : Option Int
  deriving Repr

namespace NumberLiteral

/-- The largest unsigned 64-bit word. -/
def wordMax : Nat := 18446744073709551615

/-- Put digits after those of a word as long as the result fits a word.  The
answer is the word and the digits that are left over. -/
def takeDigits (word : Nat) : List Char → Nat × List Char
  | [] => (word, [])
  | c :: rest =>
      let next := word * 10 + digitValue c
      if next ≤ wordMax then takeDigits next rest else (word, c :: rest)

/-- The floating-point number nearest to a power of ten up to `10 ^ 308`. -/
def powerOfTen (exponent : Nat) : Binary64 :=
  Binary64.ofRatio false (Nat.pow 10 exponent) 1

/-- Divide by `10 ^ 308` until the remaining exponent is within reach; three
divisions leave nothing of any word. -/
def divideDown : Nat → Binary64 → Nat → Binary64
  | 0, x, _ => x
  | steps + 1, x, exponent =>
      if exponent ≤ 308 then x.divMagnitude (powerOfTen exponent)
      else if x.isZero then x
      else divideDown steps (x.divMagnitude (powerOfTen 308)) (exponent - 308)

/-- A word times a power of ten, or nothing when that is too large. -/
def scaleWord (word : Nat) (exponent : Int) : Option Binary64 :=
  let x := Binary64.ofNat word
  if exponent < 0 then
    some (divideDown 5 x (-exponent).toNat)
  else if exponent ≤ 308 then
    let product := x.mulMagnitude (powerOfTen exponent.toNat)
    if product.isInfinite then none else some product
  else if x.isZero then some x
  else none

/-- The leading digits that fit a word and the power of ten that they count. -/
def wordAndExponent (literal : NumberLiteral) : Nat × Int :=
  let (word, dropped) := takeDigits 0 literal.whole
  let fraction := literal.fraction.getD []
  let (fullWord, droppedFraction) := takeDigits word fraction
  (fullWord, (dropped.length : Int) - ((fraction.length - droppedFraction.length : Nat) : Int))

/-- The value of a number that has a point or an exponent or does not fit a
word. -/
def float? (literal : NumberLiteral) : Option Json :=
  let (word, exponent) := literal.wordAndExponent
  (scaleWord word (exponent + literal.exponent.getD 0)).map fun magnitude =>
    .float (if literal.negative then magnitude.neg else magnitude)

/-- The value of a number, or nothing when it is too large for every kind of
number. -/
def value? (literal : NumberLiteral) : Option Json :=
  if literal.fraction.isSome || literal.exponent.isSome then
    literal.float?
  else
    let n := value literal.whole
    if literal.negative then
      if n = 0 then some (.float (Binary64.zero true))
      else if n ≤ 9223372036854775808 then some (.integer (-n))
      else literal.float?
    else if n ≤ wordMax then some (.integer n)
    else literal.float?

end NumberLiteral

end ProjectFiles.Json
