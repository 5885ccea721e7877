/-!
# Binary floating-point numbers of 64 bits

A `Binary64` is the bit pattern of a number in the 64-bit binary interchange
format.  A finite number is `significand · 2 ^ scale`.  Numbers are built from
exact ratios of natural numbers, rounded to the nearest number and, halfway
between two numbers, to the one with an even significand.
-/

namespace ProjectFiles

/-- A 64-bit binary floating-point number, given by its bit pattern. -/
structure Binary64 where
  /-- Sign, eleven exponent bits and 52 fraction bits, from the top. -/
  bits : UInt64
  deriving DecidableEq, Repr, Inhabited

namespace Binary64

/-- Whether the sign bit is set. -/
def isNegative (x : Binary64) : Bool :=
  x.bits.toNat ≥ Nat.pow 2 63

/-- The biased exponent, from 0 to 2047. -/
def exponentField (x : Binary64) : Nat :=
  x.bits.toNat / Nat.pow 2 52 % Nat.pow 2 11

/-- The 52 fraction bits. -/
def fraction (x : Binary64) : Nat :=
  x.bits.toNat % Nat.pow 2 52

/-- Whether the number is not a number. -/
def isNaN (x : Binary64) : Bool :=
  x.exponentField == 2047 && x.fraction != 0

/-- Whether the number is one of the two infinities. -/
def isInfinite (x : Binary64) : Bool :=
  x.exponentField == 2047 && x.fraction == 0

/-- Whether the number is one of the two zeros. -/
def isZero (x : Binary64) : Bool :=
  x.exponentField == 0 && x.fraction == 0

/-- The significand of a finite number, with the implicit leading bit. -/
def significand (x : Binary64) : Nat :=
  if x.exponentField = 0 then x.fraction else Nat.pow 2 52 + x.fraction

/-- The power of two that the significand of a finite number counts. -/
def scale (x : Binary64) : Int :=
  if x.exponentField = 0 then -1074 else (x.exponentField : Int) - 1075

/-- Numeric equality: the two zeros are equal and a NaN differs from itself. -/
def equal (x y : Binary64) : Bool :=
  !x.isNaN && !y.isNaN && ((x.isZero && y.isZero) || x == y)

/-- Give a number a sign. -/
def withSign (negative : Bool) (magnitude : Nat) : Binary64 :=
  ⟨UInt64.ofNat (if negative then Nat.pow 2 63 + magnitude else magnitude)⟩

/-- The zero of a sign. -/
def zero (negative : Bool) : Binary64 :=
  withSign negative 0

/-- The infinity of a sign. -/
def infinity (negative : Bool) : Binary64 :=
  withSign negative (2047 * Nat.pow 2 52)

/-- The quiet NaN. -/
def nan : Binary64 :=
  withSign false (2047 * Nat.pow 2 52 + Nat.pow 2 51)

/-- The quotient rounded to the nearest natural number, a half to the even one. -/
def roundHalfEven (num den : Nat) : Nat :=
  let quotient := num / den
  let twice := 2 * (num % den)
  if twice < den then quotient
  else if twice > den then quotient + 1
  else if quotient % 2 = 0 then quotient else quotient + 1

/-- The ratio `num / (den · 2 ^ scale)` as a numerator and a denominator. -/
def scaledBy (num den : Nat) (scale : Int) : Nat × Nat :=
  (num * Nat.pow 2 (-scale).toNat, den * Nat.pow 2 scale.toNat)

/-- The power of two whose multiples carry a positive ratio with 53 significant
bits, or the smallest power there is. -/
def scaleOfRatio (num den : Nat) : Int :=
  let guess : Int := (Nat.log2 num : Int) - (Nat.log2 den : Int) - 53
  let scaled := scaledBy num den guess
  max (-1074) (if scaled.1 < Nat.pow 2 53 * scaled.2 then guess else guess + 1)

/-- The number nearest to `num / den`. -/
def ofRatio (negative : Bool) (num den : Nat) : Binary64 :=
  if num = 0 then
    zero negative
  else
    let scale := scaleOfRatio num den
    let scaled := scaledBy num den scale
    let rounded := roundHalfEven scaled.1 scaled.2
    if rounded < Nat.pow 2 52 then
      withSign negative rounded
    else
      let magnitude := (scale + 1075).toNat * Nat.pow 2 52 + (rounded - Nat.pow 2 52)
      if magnitude < 2047 * Nat.pow 2 52 then withSign negative magnitude else infinity negative

/-- The number nearest to `digits · 10 ^ exponent`.  Exponents far outside the
range of the format are answered without computing the power: as
`digits < 10 ^ (log2 digits / 3 + 1)`, the value is below `10 ^ (reach + 1)`. -/
def ofDecimal (negative : Bool) (digits : Nat) (exponent : Int) : Binary64 :=
  if digits = 0 then
    zero negative
  else
    let reach := exponent + (Nat.log2 digits : Int) / 3
    if exponent > 400 then
      infinity negative
    else if reach < -400 then
      zero negative
    else if exponent ≥ 0 then
      ofRatio negative (digits * Nat.pow 10 exponent.toNat) 1
    else
      ofRatio negative digits (Nat.pow 10 (-exponent).toNat)

/-- The number nearest to a natural number. -/
def ofNat (n : Nat) : Binary64 :=
  ofRatio false n 1

/-- The magnitude of a finite number as a ratio. -/
def ratio (x : Binary64) : Nat × Nat :=
  (x.significand * Nat.pow 2 x.scale.toNat, Nat.pow 2 (-x.scale).toNat)

/-- The product of the magnitudes of two finite numbers, rounded once. -/
def mulMagnitude (x y : Binary64) : Binary64 :=
  ofRatio false (x.ratio.1 * y.ratio.1) (x.ratio.2 * y.ratio.2)

/-- The quotient of the magnitudes of two finite numbers, rounded once.  The
divisor is not zero. -/
def divMagnitude (x y : Binary64) : Binary64 :=
  ofRatio false (x.ratio.1 * y.ratio.2) (x.ratio.2 * y.ratio.1)

/-- The opposite of a number. -/
def neg (x : Binary64) : Binary64 :=
  ⟨x.bits ^^^ 0x8000000000000000⟩

end Binary64

end ProjectFiles
