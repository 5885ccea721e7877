import Mathlib.Order.Monotone.Basic
import ProjectFiles.Timestamp

/-!
# The calendar

Eras of 400 years have 146097 days each.  Within an era the years begin in March, so
that the day of a leap year is the last of its year.  The year of a day is found by a
division that takes the leap days off beforehand; the division grows with the day, so
it is right on every day of a year when it is right on the first and on the last one.
-/

namespace ProjectFiles.Timestamp

/-! ## Years of an era -/

/-- The day of an era that a year of the era begins on. -/
def yearStart (year : Nat) : Nat :=
  365 * year + year / 4 - year / 100 + year / 400

/-- The days of an era up to a day, without leap days. -/
def plainDays (day : Nat) : Nat :=
  day - day / 1460 + day / 36524 - day / 146096

theorem plainDays_le_succ (day : Nat) : plainDays day ≤ plainDays (day + 1) := by
  unfold plainDays
  omega

theorem plainDays_mono : Monotone plainDays :=
  monotone_nat_of_le_succ plainDays_le_succ

/-- The division finds the year on its first and on its last day. -/
theorem plainDays_div_of_bounds : ∀ year < 400,
    365 * year ≤ plainDays (yearStart year) ∧
      plainDays (yearStart (year + 1) - 1) < 365 * (year + 1) := by
  decide +kernel

theorem plainDays_div {year day : Nat} (isYear : year < 400) (starts : yearStart year ≤ day)
    (ends : day < yearStart (year + 1)) : plainDays day / 365 = year := by
  obtain ⟨first, last⟩ := plainDays_div_of_bounds year isYear
  have fromStart := plainDays_mono starts
  have toEnd := plainDays_mono (Nat.le_sub_one_of_lt ends)
  omega

/-- Every day of an era is one of some year. -/
theorem exists_year {day years : Nat} (within : day < yearStart years) :
    ∃ year < years, yearStart year ≤ day ∧ day < yearStart (year + 1) := by
  induction years with
  | zero => exact absurd within (Nat.not_lt_zero day)
  | succ years ih =>
      by_cases earlier : day < yearStart years
      · obtain ⟨year, isEarlier, found⟩ := ih earlier
        exact ⟨year, Nat.lt_succ_of_lt isEarlier, found⟩
      · exact ⟨years, Nat.lt_succ_self years, Nat.le_of_not_lt earlier, within⟩

theorem isLeapYear_add_era (year era : Int) : isLeapYear (year + era * 400) = isLeapYear year := by
  have mod4 : (year + era * 400) % 4 = year % 4 := by omega
  have mod100 : (year + era * 400) % 100 = year % 100 := by omega
  have mod400 : (year + era * 400) % 400 = year % 400 := by omega
  unfold isLeapYear
  rw [mod4, mod100, mod400]

/-- A year has 366 days when the calendar year that it ends in is a leap year. -/
theorem yearStart_succ : ∀ year < 400,
    yearStart (year + 1) =
      yearStart year + if isLeapYear ((year + 1 : Nat) : Int) then 366 else 365 := by
  decide +kernel

theorem dayOfYear_lt {year dayOfYear : Nat} (isYear : year < 400)
    (within : yearStart year + dayOfYear < yearStart (year + 1)) : dayOfYear < 366 := by
  have length := yearStart_succ year isYear
  split at length <;> omega

/-! ## Months of a year -/

/-- The month and the day of a day of a year, when the first month is March. -/
def monthAndDay (dayOfYear : Nat) : Nat × Nat :=
  let month := (5 * dayOfYear + 2) / 153
  (if month < 10 then month + 3 else month - 9, dayOfYear - (153 * month + 2) / 5 + 1)

/-- Every day of a year has a month and is one of its days, in February up to the
29th. -/
theorem monthAndDay_spec : ∀ dayOfYear < 366,
    let date := monthAndDay dayOfYear
    1 ≤ date.1 ∧ date.1 ≤ 12 ∧ 1 ≤ date.2 ∧
      (date.1 ≠ 2 → date.2 ≤ daysOfMonth 0 date.1) ∧
      (date.1 = 2 → date.2 ≤ 29 ∧ (date.2 = 29 → dayOfYear = 365)) ∧
      (153 * ((date.1 + 9) % 12) + 2) / 5 + date.2 = dayOfYear + 1 := by
  decide +kernel

/-! ## Dates -/

theorem daysOfMonth_le (year : Int) (month : Nat) : daysOfMonth year month ≤ 31 := by
  unfold daysOfMonth
  split <;> split <;> omega

/-- Whether a month and a day are a date of a year. -/
structure IsDate (year : Int) (month day : Nat) : Prop where
  month_pos : 1 ≤ month
  month_le : month ≤ 12
  day_pos : 1 ≤ day
  day_le : day ≤ daysOfMonth year month

/-- The date of a day, in terms of its era, the year of the era and the day of the
year. -/
theorem dateOfDays_eq {era : Int} {year dayOfYear : Nat} (isYear : year < 400)
    (within : yearStart year + dayOfYear < yearStart (year + 1)) :
    dateOfDays (era * 146097 + (yearStart year + dayOfYear : Nat) - 719468) =
      (year + era * 400 + if (monthAndDay dayOfYear).1 ≤ 2 then 1 else 0,
        monthAndDay dayOfYear) := by
  have bounded : yearStart (year + 1) ≤ 146097 := by
    unfold yearStart
    omega
  have found := plainDays_div isYear (Nat.le_add_right _ _) within
  generalize total : yearStart year + dayOfYear = day at *
  have eraEq : (era * 146097 + (day : Int) - 719468 + 719468) / 146097 = era := by omega
  have dayEq : (era * 146097 + (day : Int) - 719468 + 719468) % 146097 = day := by omega
  have plain : (day : Int) - day / 1460 + day / 36524 - day / 146096 = (plainDays day : Nat) := by
    unfold plainDays
    omega
  have yearEq : ((day : Int) - day / 1460 + day / 36524 - day / 146096) / 365 = year := by
    rw [plain]
    omega
  have rest : (day : Int) - (365 * year + year / 4 - year / 100) = dayOfYear := by
    unfold yearStart at total
    omega
  have month : (5 * (dayOfYear : Int) + 2) / 153 = ((5 * dayOfYear + 2) / 153 : Nat) := by omega
  unfold dateOfDays monthAndDay
  simp only [eraEq, dayEq, yearEq, rest, month]
  have early : (153 * ((5 * dayOfYear + 2) / 153) + 2) / 5 ≤ dayOfYear := by omega
  generalize (5 * dayOfYear + 2) / 153 = fromMarch at *
  have monthEq : (if (fromMarch : Int) < 10 then (fromMarch : Int) + 3 else fromMarch - 9) =
      ((if fromMarch < 10 then fromMarch + 3 else fromMarch - 9 : Nat) : Int) := by
    split <;> split <;> omega
  refine Prod.ext ?_ (Prod.ext ?_ ?_)
  · have january : ((if (fromMarch : Int) < 10 then (fromMarch : Int) + 3 else fromMarch - 9) ≤ 2) =
        ((if fromMarch < 10 then fromMarch + 3 else fromMarch - 9) ≤ 2) := by
      rw [monthEq]
      exact propext Int.ofNat_le
    simp only [january]
  · simp only [monthEq, Int.toNat_natCast]
  · dsimp only
    omega

/-- The month and the day of a day of a year are a date of the calendar year they
lie in. -/
theorem monthAndDay_le_daysOfMonth {era : Int} {year dayOfYear : Nat} (isYear : year < 400)
    (within : yearStart year + dayOfYear < yearStart (year + 1)) :
    (monthAndDay dayOfYear).2 ≤
      daysOfMonth (year + era * 400 + if (monthAndDay dayOfYear).1 ≤ 2 then 1 else 0)
        (monthAndDay dayOfYear).1 := by
  have length := yearStart_succ year isYear
  obtain ⟨_, _, _, other, february, _⟩ :=
    monthAndDay_spec dayOfYear (dayOfYear_lt isYear within)
  generalize monthAndDay dayOfYear = date at *
  obtain ⟨month, day⟩ := date
  dsimp only at *
  by_cases isFebruary : month = 2
  · obtain ⟨dayLe, isLast⟩ := february isFebruary
    rw [isFebruary, if_pos (by decide), daysOfMonth, if_pos rfl]
    split
    · exact dayLe
    · -- A common year ends before the day that would be the 29th.
      rename_i common
      have notLeap : isLeapYear ((year + 1 : Nat) : Int) = false := by
        rw [Bool.not_eq_true] at common
        rw [← isLeapYear_add_era _ era, ← common]
        congr 1
        omega
      rw [notLeap, if_neg (by decide)] at length
      have notLast : day ≠ 29 := fun last => by
        have lastDay := isLast last
        omega
      omega
  · have dayLe := other isFebruary
    rwa [daysOfMonth, if_neg isFebruary] at dayLe ⊢

/-- The way back from a month and a day to the day of the year, in terms of the era and
of the year of the era. -/
theorem daysOfDate_eq {era : Int} {year dayOfYear month day : Nat} (isYear : year < 400)
    (back : (153 * ((month + 9) % 12) + 2) / 5 + day = dayOfYear + 1) :
    daysOfDate (year + era * 400 + if month ≤ 2 then 1 else 0) month day =
      era * 146097 + (yearStart year + dayOfYear : Nat) - 719468 := by
  have shifted : (if month ≤ 2 then ((year : Int) + era * 400 + if month ≤ 2 then 1 else 0) - 1
      else (year : Int) + era * 400 + if month ≤ 2 then 1 else 0) = year + era * 400 := by
    split <;> omega
  have eraEq : ((year : Int) + era * 400) / 400 = era := by omega
  have yearEq : ((year : Int) + era * 400) % 400 = year := by omega
  have months : (153 * (((month : Int) + 9) % 12) + 2) / 5 =
      ((153 * ((month + 9) % 12) + 2) / 5 : Nat) := by
    push_cast
    rfl
  unfold daysOfDate
  simp only [shifted, eraEq, yearEq, months]
  generalize (153 * ((month + 9) % 12) + 2) / 5 = fromMarch at back
  have noCentury : year / 400 = 0 := Nat.div_eq_of_lt isYear
  unfold yearStart
  omega

/-- Every day lies in an era, in a year of it, and is a day of that year. -/
theorem exists_era (days : Int) : ∃ era : Int, ∃ year < 400, ∃ dayOfYear,
    yearStart year + dayOfYear < yearStart (year + 1) ∧
      days = era * 146097 + (yearStart year + dayOfYear : Nat) - 719468 := by
  have inEra : ((days + 719468) % 146097).toNat < yearStart 400 := by
    have last : yearStart 400 = 146097 := by decide
    omega
  obtain ⟨year, isYear, starts, ends⟩ := exists_year inEra
  obtain ⟨dayOfYear, isDay⟩ := Nat.exists_eq_add_of_le starts
  refine ⟨(days + 719468) / 146097, year, isYear, dayOfYear, isDay ▸ ends, ?_⟩
  omega

/-- Every day is that of its date. -/
theorem dateOfDays_spec (days : Int) :
    IsDate (dateOfDays days).1 (dateOfDays days).2.1 (dateOfDays days).2.2 ∧
      daysOfDate (dateOfDays days).1 (dateOfDays days).2.1 (dateOfDays days).2.2 = days := by
  obtain ⟨era, year, isYear, dayOfYear, within, rfl⟩ := exists_era days
  obtain ⟨monthPos, monthLe, dayPos, _, _, back⟩ :=
    monthAndDay_spec dayOfYear (dayOfYear_lt isYear within)
  rw [dateOfDays_eq isYear within]
  exact ⟨⟨monthPos, monthLe, dayPos, monthAndDay_le_daysOfMonth isYear within⟩,
    daysOfDate_eq isYear back⟩

end ProjectFiles.Timestamp
