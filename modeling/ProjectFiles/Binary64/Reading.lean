import ProjectFiles.Binary64.Basic
import ProjectFiles.Decimal

/-!
# Floating-point numbers from text

A number is an optional sign and either a decimal, or one of the words `inf`,
`infinity` and `nan` in any case.  A decimal has digits before or after an
optional point and may end in an exponent; it is rounded to the nearest number.
-/

namespace ProjectFiles.Binary64

open Decimal

/-- Cut an optional sign off a text; `true` stands for a minus sign. -/
def splitSign : List Char → Bool × List Char
  | '-' :: rest => (true, rest)
  | '+' :: rest => (false, rest)
  | text => (false, text)

/-- The number that the digits of an exponent write.  As soon as it is 65536 or
more, the digits behind are left out. -/
def exponentSize (digits : List Char) : Nat :=
  digits.foldl (fun size c => if size < 65536 then size * 10 + digitValue c else size) 0

/-- Read an exponent mark with its digits, or nothing. -/
def exponent? : List Char → Option Int
  | [] => some 0
  | mark :: rest =>
      if mark = 'e' ∨ mark = 'E' then
        let (negative, digits) := splitSign rest
        if digits.isEmpty || !digits.all isDigit then none
        else
          let size : Int := exponentSize digits
          some (if negative then -size else size)
      else
        none

/-- Read an unsigned decimal: digits, a point among them, and an exponent. -/
def decimal? (negative : Bool) (text : List Char) : Option Binary64 :=
  let whole := text.takeWhile isDigit
  let afterWhole := text.dropWhile isDigit
  let (fraction, tail) :=
    match afterWhole with
    | '.' :: rest => (rest.takeWhile isDigit, rest.dropWhile isDigit)
    | rest => ([], rest)
  if whole.isEmpty && fraction.isEmpty then
    none
  else
    (exponent? tail).map fun exponent =>
      ofDecimal negative (value (whole ++ fraction)) (exponent - fraction.length)

/-- Read a number. -/
def ofText? (text : String) : Option Binary64 :=
  let (negative, rest) := splitSign text.toList
  let word := rest.map Char.toLower
  if word = "inf".toList ∨ word = "infinity".toList then some (infinity negative)
  else if word = "nan".toList then some nan
  else decimal? negative rest

end ProjectFiles.Binary64
