import ProjectFiles.Proofs.Calendar
import ProjectFiles.Proofs.Error
import ProjectFiles.Proofs.Text.Digits

/-!
# Reading points in time back

The written form of a point in time is read as that point.
-/

namespace ProjectFiles.Timestamp

open Decimal

/-- Whether a point in time is one that a clock shows: its year can be written, and
only the last second of a minute has more than a thousand million nanoseconds. -/
structure IsClock (time : Timestamp) : Prop where
  isYear_date : isYear (dateOfDays (time.seconds / 86400)).1 = true
  nanoseconds_lt : time.nanoseconds < 1000000000 ∨
    time.nanoseconds < 2000000000 ∧ time.seconds % 60 = 59

/-! ## Fields -/

theorem isBlank_of_isDigit {c : Char} (isDigit : isDigit c = true) : Text.isBlank c = false := by
  simp only [Decimal.isDigit, Bool.and_eq_true, decide_eq_true_eq, Char.le_def] at isDigit
  have above : 48 ≤ c.toNat := UInt32.le_iff_toNat_le.1 isDigit.1
  have below : c.toNat ≤ 57 := UInt32.le_iff_toNat_le.1 isDigit.2
  simp only [Text.isBlank]
  grind

theorem trimStart_append {run : List Char} (rest : List Char)
    (allDigits : ∀ c ∈ run, isDigit c = true) (nonempty : run ≠ []) :
    Text.trimStart (run ++ rest) = run ++ rest := by
  cases run with
  | nil => exact absurd rfl nonempty
  | cons c run =>
      rw [Text.trimStart, List.cons_append, List.dropWhile_cons_of_neg]
      simp [isBlank_of_isDigit (allDigits c List.mem_cons_self)]

/-- A run of digits is read up to where it stops or where it has the width. -/
theorem digits?_append {width : Nat} {run rest : List Char}
    (allDigits : ∀ c ∈ run, isDigit c = true) (nonempty : run ≠ []) (fits : run.length ≤ width)
    (stops : (rest.take (width - run.length)).takeWhile isDigit = []) :
    digits? width (run ++ rest) = some (value run, rest) := by
  have taken : ((run ++ rest).take width).takeWhile isDigit = run := by
    rw [List.take_append, List.take_of_length_le fits, List.takeWhile_append_of_pos allDigits,
      stops, List.append_nil]
  rw [digits?, taken, if_neg (by simpa using nonempty), List.drop_left]

theorem takeWhile_take_cons {c : Char} (notDigit : isDigit c = false) (rest : List Char)
    (count : Nat) : ((c :: rest).take count).takeWhile isDigit = [] := by
  cases count with
  | zero => rfl
  | succ count => rw [List.take_succ_cons, List.takeWhile_cons_of_neg (by simp [notDigit])]

theorem field?_padded {n : Nat} (small : n < 100) (rest : List Char) :
    field? (padded 2 n ++ rest) = some (n, rest) := by
  have allDigits : ∀ c ∈ padded 2 n, isDigit c = true := fun _ => isDigit_of_mem_padded
  have width : (padded 2 n).length = 2 := length_padded small
  rw [field?, trimStart_append rest allDigits (padded_ne_nil 2 n),
    digits?_append allDigits (padded_ne_nil 2 n) (Nat.le_of_eq width) (by rw [width]; rfl),
    value_padded]

theorem mark?_cons {mark : Char} (notBlank : Text.isBlank mark = false) (rest : List Char) :
    mark? mark (mark :: rest) = some rest := by
  rw [mark?, Text.trimStart, List.dropWhile_cons_of_neg (by simp [notBlank])]
  exact if_pos rfl

/-! ## Years -/

theorem year?_of_isDigit {c : Char} (isDigit : isDigit c = true) (rest : List Char) :
    year? (c :: rest) = (digits? 4 (c :: rest)).map fun (n, rest) => ((n : Int), rest) := by
  rw [year?, Text.trimStart, List.dropWhile_cons_of_neg (by simp [isBlank_of_isDigit isDigit])]
  split
  · rename_i equal
    rw [(List.cons.inj equal).1] at isDigit
    exact absurd isDigit (by decide)
  · rename_i equal
    rw [(List.cons.inj equal).1] at isDigit
    exact absurd isDigit (by decide)
  · rfl

theorem year?_minus (rest : List Char) : year? ('-' :: rest) =
    (digits? rest.length rest).map fun (n, rest) => (-(n : Int), rest) := rfl

theorem year?_plus (rest : List Char) : year? ('+' :: rest) =
    (digits? rest.length rest).map fun (n, rest) => ((n : Int), rest) := rfl

theorem year?_yearText (year : Int) (rest : List Char) :
    year? ((yearText year).toList ++ '-' :: rest) = some (year, '-' :: rest) := by
  have read (width n : Nat) (fits : (padded 4 n).length ≤ width) :
      digits? width (padded 4 n ++ '-' :: rest) = some (n, '-' :: rest) := by
    rw [digits?_append (fun _ => isDigit_of_mem_padded) (padded_ne_nil 4 n) fits
      (takeWhile_take_cons (by decide) rest _), value_padded]
  unfold yearText
  split
  · rename_i plain
    obtain ⟨n, rfl⟩ := Int.eq_ofNat_of_zero_le plain.1
    have readPlain := read 4 n (Nat.le_of_eq (length_padded (by omega)))
    have written : (zeroPadded 4 (ofInt n)).toList = padded 4 n := toList_zeroPadded 4 n
    rw [written]
    cases spelled : padded 4 n with
    | nil => exact absurd spelled (padded_ne_nil 4 n)
    | cons c others =>
        rw [spelled] at readPlain
        have isDigit : isDigit c = true :=
          isDigit_of_mem_padded (spelled ▸ List.mem_cons_self : c ∈ padded 4 n)
        rw [List.cons_append, year?_of_isDigit isDigit, ← List.cons_append, readPlain]
        rfl
  · have readSize := read (padded 4 year.natAbs ++ '-' :: rest).length year.natAbs (by simp)
    split
    · have spelled : ("-" ++ zeroPadded 4 (ofNat year.natAbs)).toList ++ '-' :: rest =
          '-' :: (padded 4 year.natAbs ++ '-' :: rest) := by
        simp [toList_zeroPadded]
      have negated : -(year.natAbs : Int) = year := by omega
      rw [spelled, year?_minus, readSize, Option.map_some]
      exact congrArg (fun year => some (year, _)) negated
    · have spelled : ("+" ++ zeroPadded 4 (ofNat year.natAbs)).toList ++ '-' :: rest =
          '+' :: (padded 4 year.natAbs ++ '-' :: rest) := by
        simp [toList_zeroPadded]
      have same : (year.natAbs : Int) = year := by omega
      rw [spelled, year?_plus, readSize, Option.map_some]
      exact congrArg (fun year => some (year, _)) same

/-! ## Fractions of a second -/

theorem fraction?_padded {width n : Nat} (small : n < 10 ^ (width + 1)) (short : width + 1 ≤ 9)
    {mark : Char} (notDigit : isDigit mark = false) (rest : List Char) :
    fraction? ('.' :: (padded (width + 1) n ++ mark :: rest)) =
      some (n * 10 ^ (9 - (width + 1)), mark :: rest) := by
  have allDigits : ∀ c ∈ padded (width + 1) n, isDigit c = true := fun _ => isDigit_of_mem_padded
  have length := length_padded small
  have run : (padded (width + 1) n ++ mark :: rest).takeWhile isDigit = padded (width + 1) n := by
    rw [List.takeWhile_append_of_pos allDigits, List.takeWhile_cons_of_neg (by simp [notDigit]),
      List.append_nil]
  have behind : (padded (width + 1) n ++ mark :: rest).dropWhile isDigit = mark :: rest := by
    rw [List.dropWhile_append_of_pos allDigits, List.dropWhile_cons_of_neg (by simp [notDigit])]
  simp only [fraction?, run, behind]
  rw [if_neg (by simpa using padded_ne_nil (width + 1) n),
    List.take_of_length_le (length.le.trans short), value_padded, length]
  rfl

theorem fraction?_fractionText {nanoseconds : Nat} (small : nanoseconds < 1000000000)
    (rest : List Char) :
    fraction? ((fractionText nanoseconds).toList ++ 'Z' :: rest) =
      some (nanoseconds, 'Z' :: rest) := by
  have read (width n : Nat) (short : width + 1 ≤ 9) (isSmall : n < 10 ^ (width + 1))
      (whole : n * 10 ^ (9 - (width + 1)) = nanoseconds) :
      fraction? (("." ++ zeroPadded (width + 1) (ofNat n)).toList ++ 'Z' :: rest) =
        some (nanoseconds, 'Z' :: rest) := by
    have spelled : ("." ++ zeroPadded (width + 1) (ofNat n)).toList ++ 'Z' :: rest =
        '.' :: (padded (width + 1) n ++ 'Z' :: rest) := by
      simp [toList_zeroPadded]
    rw [spelled, fraction?_padded isSmall short (by decide), whole]
  unfold fractionText
  split
  · rename_i isZero
    rw [isZero]
    rfl
  split
  · exact read 2 (nanoseconds / 1000000) (by decide) (by omega) (by omega)
  split
  · exact read 5 (nanoseconds / 1000) (by decide) (by omega) (by omega)
  · exact read 8 nanoseconds (by decide) (by omega) (by omega)

/-! ## Points in time -/

/-- The fields that a point in time is written with are those of the point. -/
theorem ofFields?_spec {time : Timestamp} (isClock : time.IsClock) :
    let date := dateOfDays (time.seconds / 86400)
    let ofDay := (time.seconds % 86400).toNat
    ofFields? date.1 date.2.1 date.2.2 (ofDay / 3600) (ofDay / 60 % 60)
      (ofDay % 60 + time.nanoseconds / 1000000000) (time.nanoseconds % 1000000000) 0 =
      some time := by
  obtain ⟨isYear, leap⟩ := isClock
  obtain ⟨⟨monthPos, monthLe, dayPos, dayLe⟩, isDay⟩ := dateOfDays_spec (time.seconds / 86400)
  intro date ofDay
  have hour : ofDay / 3600 < 24 := by omega
  have minute : ofDay / 60 % 60 < 60 := by omega
  have second : ofDay % 60 + time.nanoseconds / 1000000000 ≤ 60 := by omega
  have seconds : daysOfDate date.1 date.2.1 date.2.2 * 86400 +
      (((ofDay / 3600 : Nat) : Int) * 3600 + ((ofDay / 60 % 60 : Nat) : Int) * 60 +
        ((min (ofDay % 60 + time.nanoseconds / 1000000000) 59 : Nat) : Int)) - 0 =
      time.seconds := by
    rw [isDay]
    omega
  have nanoseconds : time.nanoseconds % 1000000000 +
      (if ofDay % 60 + time.nanoseconds / 1000000000 = 60 then 1000000000 else 0) =
      time.nanoseconds := by
    split <;> omega
  unfold ofFields?
  rw [if_pos ⟨isYear, monthPos, monthLe, dayPos, dayLe, hour, minute, second⟩]
  simp only [seconds, nanoseconds]
  rw [if_pos isYear]

/-- The fields of a text that is written like a point in time are read one by one. -/
theorem ofText?_of_fields {text : String} {year : Int}
    {month day hour minute second nanoseconds : Nat}
    (monthLt : month < 100) (dayLt : day < 100) (hourLt : hour < 100) (minuteLt : minute < 100)
    (secondLt : second < 100) (nanosecondsLt : nanoseconds < 1000000000)
    (written : text.toList = (yearText year).toList ++ '-' :: (padded 2 month ++
      '-' :: (padded 2 day ++ 'T' :: (padded 2 hour ++ ':' :: (padded 2 minute ++
        ':' :: (padded 2 second ++ ((fractionText nanoseconds).toList ++ ['Z']))))))) :
    ofText? text = ofFields? year month day hour minute second nanoseconds 0 := by
  have dash (rest : List Char) : mark? '-' ('-' :: rest) = some rest := mark?_cons (by decide) rest
  have colon (rest : List Char) : mark? ':' (':' :: rest) = some rest := mark?_cons (by decide) rest
  have zone : offset? (Text.trimStart ['Z']) = some (0, []) := by decide
  unfold ofText?
  rw [written]
  refine (bind_of_eq_some (year?_yearText year _)).trans ?_
  refine (bind_of_eq_some (dash _)).trans ?_
  refine (bind_of_eq_some (field?_padded monthLt _)).trans ?_
  refine (bind_of_eq_some (dash _)).trans ?_
  refine (bind_of_eq_some (field?_padded dayLt _)).trans ?_
  refine (if_pos (.inl rfl)).trans ?_
  refine (bind_of_eq_some (field?_padded hourLt _)).trans ?_
  refine (bind_of_eq_some (colon _)).trans ?_
  refine (bind_of_eq_some (field?_padded minuteLt _)).trans ?_
  refine (bind_of_eq_some (colon _)).trans ?_
  refine (bind_of_eq_some (field?_padded secondLt _)).trans ?_
  refine (bind_of_eq_some (fraction?_fractionText nanosecondsLt _)).trans ?_
  refine (bind_of_eq_some zone).trans ?_
  exact if_pos rfl

/-- What a clock shows is read back from its text. -/
theorem ofText?_display {time : Timestamp} (isClock : time.IsClock) :
    ofText? time.display = some time := by
  obtain ⟨⟨_, monthLe, _, dayLe⟩, _⟩ := dateOfDays_spec (time.seconds / 86400)
  have leap := isClock.nanoseconds_lt
  have dayLt := dayLe.trans (daysOfMonth_le _ _)
  rw [← ofFields?_spec isClock]
  apply ofText?_of_fields
  case written => simp [display, toList_zeroPadded]
  all_goals omega

end ProjectFiles.Timestamp
