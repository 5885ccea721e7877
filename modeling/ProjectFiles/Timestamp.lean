import ProjectFiles.Decimal
import ProjectFiles.Text.Blank

/-!
# Points in time

A `Timestamp` counts seconds of Coordinated Universal Time from the start of
1970.  It is written as a date, a time of day and `Z`.  Reading is laxer: fields
need not have all their digits, blanks may stand between them, and any offset
from Universal Time is taken off.
-/

namespace ProjectFiles

/-- A point in time.  A leap second is the second before it with a thousand
million nanoseconds more. -/
structure Timestamp where
  seconds : Int
  nanoseconds : Nat
  deriving DecidableEq, Repr, Inhabited

namespace Timestamp

open Decimal

/-! ## The calendar -/

/-- Whether a year has 366 days. -/
def isLeapYear (year : Int) : Bool :=
  year % 4 = 0 && (year % 100 != 0 || year % 400 = 0)

/-- The number of days of a month. -/
def daysOfMonth (year : Int) (month : Nat) : Nat :=
  if month = 2 then (if isLeapYear year then 29 else 28)
  else if month = 4 ∨ month = 6 ∨ month = 9 ∨ month = 11 then 30
  else 31

/-- The days from the start of 1970 to a date.  Years are counted from March, so
that the day of a leap year comes last. -/
def daysOfDate (year : Int) (month day : Nat) : Int :=
  let shifted : Int := if month ≤ 2 then year - 1 else year
  let era := shifted / 400
  let yearOfEra := shifted % 400
  let monthFromMarch : Int := ((month : Int) + 9) % 12
  let dayOfYear := (153 * monthFromMarch + 2) / 5 + day - 1
  let dayOfEra := yearOfEra * 365 + yearOfEra / 4 - yearOfEra / 100 + dayOfYear
  era * 146097 + dayOfEra - 719468

/-- The year, month and day that lie a number of days after the start of 1970. -/
def dateOfDays (days : Int) : Int × Nat × Nat :=
  let shifted := days + 719468
  let era := shifted / 146097
  let dayOfEra := shifted % 146097
  let yearOfEra := (dayOfEra - dayOfEra / 1460 + dayOfEra / 36524 - dayOfEra / 146096) / 365
  let dayOfYear := dayOfEra - (365 * yearOfEra + yearOfEra / 4 - yearOfEra / 100)
  let monthFromMarch := (5 * dayOfYear + 2) / 153
  let day := dayOfYear - (153 * monthFromMarch + 2) / 5 + 1
  let month := if monthFromMarch < 10 then monthFromMarch + 3 else monthFromMarch - 9
  let year := yearOfEra + era * 400 + if month ≤ 2 then 1 else 0
  (year, month.toNat, day.toNat)

/-- The years that a date may lie in. -/
def isYear (year : Int) : Bool :=
  -262143 ≤ year && year ≤ 262142

/-! ## Writing -/

/-- A year with four digits, or with a sign when it needs more or is negative. -/
def yearText (year : Int) : String :=
  if 0 ≤ year ∧ year ≤ 9999 then
    zeroPadded 4 (ofInt year)
  else
    (if year < 0 then "-" else "+") ++ zeroPadded 4 (ofNat year.natAbs)

/-- A fraction of a second with the fewest of 0, 3, 6 and 9 digits that are
exact. -/
def fractionText (nanoseconds : Nat) : String :=
  if nanoseconds = 0 then ""
  else if nanoseconds % 1000000 = 0 then "." ++ zeroPadded 3 (ofNat (nanoseconds / 1000000))
  else if nanoseconds % 1000 = 0 then "." ++ zeroPadded 6 (ofNat (nanoseconds / 1000))
  else "." ++ zeroPadded 9 (ofNat nanoseconds)

/-- A point in time as text. -/
def display (time : Timestamp) : String :=
  let (year, month, day) := dateOfDays (time.seconds / 86400)
  let ofDay := (time.seconds % 86400).toNat
  let two (n : Nat) : String := zeroPadded 2 (ofNat n)
  yearText year ++ "-" ++ two month ++ "-" ++ two day ++ "T" ++ two (ofDay / 3600) ++ ":" ++
    two (ofDay / 60 % 60) ++ ":" ++ two (ofDay % 60 + time.nanoseconds / 1000000000) ++
    fractionText (time.nanoseconds % 1000000000) ++ "Z"

/-! ## Reading -/

/-- Read at least one and at most `width` digits. -/
def digits? (width : Nat) (text : List Char) : Option (Nat × List Char) :=
  let run := (text.take width).takeWhile isDigit
  if run.isEmpty then none else some (value run, text.drop run.length)

/-- Read a field of up to two digits behind blanks. -/
def field? (text : List Char) : Option (Nat × List Char) :=
  digits? 2 (Text.trimStart text)

/-- Read a mark behind blanks. -/
def mark? (mark : Char) (text : List Char) : Option (List Char) :=
  match Text.trimStart text with
  | [] => none
  | c :: rest => if c = mark then some rest else none

/-- Read a year: up to four digits, or a sign and any number of digits. -/
def year? (text : List Char) : Option (Int × List Char) :=
  match Text.trimStart text with
  | '-' :: rest => (digits? rest.length rest).map fun (n, rest) => (-(n : Int), rest)
  | '+' :: rest => (digits? rest.length rest).map fun (n, rest) => ((n : Int), rest)
  | rest => (digits? 4 rest).map fun (n, rest) => ((n : Int), rest)

/-- Read a fraction of a second, if there is one.  Digits behind the ninth do not
count. -/
def fraction? (text : List Char) : Option (Nat × List Char) :=
  match text with
  | '.' :: rest =>
      let run := rest.takeWhile isDigit
      if run.isEmpty then none
      else
        let counted := run.take 9
        some (value counted * Nat.pow 10 (9 - counted.length), rest.dropWhile isDigit)
  | _ => some (0, text)

/-- Read two digits that have no blanks before them. -/
def twoDigits? : List Char → Option (Nat × List Char)
  | a :: b :: rest => if isDigit a && isDigit b then some (value [a, b], rest) else none
  | _ => none

/-- Read the seconds by which a clock is ahead of Universal Time. -/
def offset? (text : List Char) : Option (Int × List Char) :=
  if (text.take 3).map Char.toLower = ['u', 't', 'c'] then
    some (0, text.drop 3)
  else
    match text with
    | [] => none
    | sign :: rest =>
        if sign = 'Z' ∨ sign = 'z' then
          some (0, rest)
        else if sign = '+' ∨ sign = '-' ∨ sign = '−' then do
          let (hours, rest) ← twoDigits? rest
          let (minutes, rest) ← twoDigits? (rest.dropWhile fun c => c = ':' || Text.isBlank c)
          let size : Int := hours * 3600 + minutes * 60
          if minutes < 60 ∧ hours < 24 then
            some (if sign = '+' then size else -size, rest)
          else
            none
        else
          none

/-- The point in time of a date, a time of day and an offset. -/
def ofFields? (year : Int) (month day hour minute second nanoseconds : Nat) (offset : Int) :
    Option Timestamp :=
  if isYear year ∧ 1 ≤ month ∧ month ≤ 12 ∧ 1 ≤ day ∧ day ≤ daysOfMonth year month ∧
      hour < 24 ∧ minute < 60 ∧ second ≤ 60 then
    let ofDay : Int := hour * 3600 + minute * 60 + min second 59
    let seconds := daysOfDate year month day * 86400 + ofDay - offset
    if isYear (dateOfDays (seconds / 86400)).1 then
      some ⟨seconds, nanoseconds + if second = 60 then 1000000000 else 0⟩
    else none
  else none

/-- Read a point in time. -/
def ofText? (text : String) : Option Timestamp := do
  let (year, rest) ← year? text.toList
  let rest ← mark? '-' rest
  let (month, rest) ← field? rest
  let rest ← mark? '-' rest
  let (day, rest) ← field? rest
  let rest ←
    match rest with
    | c :: rest => if c = 'T' ∨ c = 't' ∨ c = ' ' then some rest else none
    | [] => none
  let (hour, rest) ← field? rest
  let rest ← mark? ':' rest
  let (minute, rest) ← field? rest
  let rest ← mark? ':' rest
  let (second, rest) ← field? rest
  let (nanoseconds, rest) ← fraction? rest
  let (offset, rest) ← offset? (Text.trimStart rest)
  if (Text.trimStart rest).isEmpty then
    ofFields? year month day hour minute second nanoseconds offset
  else
    none

end Timestamp

end ProjectFiles
