import Mathlib.Data.List.Forall2
import ProjectFiles.Json.Document
import ProjectFiles.Json.Printer

/-!
# Reading written JSON

A text between quotation marks is read back, and an object with an item on every
line is read when all its items are.  What is read of a value does not depend on
what stands behind it, as long as it is a comma, a new line or nothing.
-/

namespace ProjectFiles.Json.Document

open Decimal

/-! ## Strings -/

/-- The two hexadecimal digits of a control character are read as its number. -/
theorem hexValue_control : ∀ n < 0x20,
    Hex.value? ['0', '0', Hex.digitChar (n / 16), Hex.digitChar (n % 16)] = some n := by
  decide

theorem stringRest?_control (fuel : Nat) {c : Char} (isControl : c.toNat < 0x20)
    (rest : List Char) :
    stringRest? (fuel + 1) ('\\' :: 'u' :: '0' :: '0' :: Hex.digitChar (c.toNat / 16) ::
      Hex.digitChar (c.toNat % 16) :: rest) = (stringRest? fuel rest).map (consText c) := by
  have unit := hexValue_control c.toNat isControl
  have notHigh : ¬(0xD800 ≤ c.toNat ∧ c.toNat ≤ 0xDBFF) := by omega
  have notLow : ¬(0xDC00 ≤ c.toNat ∧ c.toNat ≤ 0xDFFF) := by omega
  simp [stringRest?, hexUnit?, unit, notHigh, notLow]

theorem stringRest?_short (fuel : Nat) {escape c : Char} (isEscape : shortEscape? escape = some c)
    (rest : List Char) :
    stringRest? (fuel + 1) ('\\' :: escape :: rest) =
      (stringRest? fuel rest).map (consText c) := by
  have notUnit : escape ≠ 'u' := by
    rintro rfl
    have noEscape : shortEscape? 'u' = none := by decide
    rw [noEscape] at isEscape
    cases isEscape
  simp [stringRest?, isEscape]

theorem stringRest?_plain (fuel : Nat) {c : Char} (notQuote : c ≠ '"') (notBackslash : c ≠ '\\')
    (notControl : ¬c.toNat < 0x20) (rest : List Char) :
    stringRest? (fuel + 1) (c :: rest) = (stringRest? fuel rest).map (consText c) := by
  simp [stringRest?, notQuote, notBackslash, notControl]

/-- A character is written as an escape of one letter, as one of its number, or as
itself. -/
theorem escapeChar_cases (c : Char) :
    (∃ escape, shortEscape? escape = some c ∧ escapeChar c = ['\\', escape]) ∨
      (c.toNat < 0x20 ∧ escapeChar c =
        ['\\', 'u', '0', '0', Hex.digitChar (c.toNat / 16), Hex.digitChar (c.toNat % 16)]) ∨
      (c ≠ '"' ∧ c ≠ '\\' ∧ ¬c.toNat < 0x20 ∧ escapeChar c = [c]) := by
  unfold escapeChar
  iterate 7
    split
    · subst c
      refine .inl ⟨_, ?_, rfl⟩
      rfl
  split
  · rename_i isControl
    exact .inr (.inl ⟨isControl, rfl⟩)
  · rename_i notQuote notBackslash _ _ _ _ _ notControl
    exact .inr (.inr ⟨notQuote, notBackslash, notControl, rfl⟩)

/-- Every character is read back from what it is written as in a string. -/
theorem stringRest?_escapeChar (fuel : Nat) (c : Char) (rest : List Char) :
    stringRest? (fuel + 1) (escapeChar c ++ rest) = (stringRest? fuel rest).map (consText c) := by
  rcases escapeChar_cases c with ⟨escape, isEscape, written⟩ | ⟨isControl, written⟩ |
    ⟨notQuote, notBackslash, notControl, written⟩
  · rw [written]
    exact stringRest?_short fuel isEscape rest
  · rw [written]
    exact stringRest?_control fuel isControl rest
  · rw [written]
    exact stringRest?_plain fuel notQuote notBackslash notControl rest

theorem stringRest?_escaped {text : List Char} {fuel : Nat} (enough : text.length < fuel)
    (rest : List Char) :
    stringRest? fuel (text.flatMap escapeChar ++ '"' :: rest) = some (some text, rest) := by
  induction text generalizing fuel with
  | nil =>
      obtain ⟨fuel, rfl⟩ := Nat.exists_eq_add_of_lt enough
      rfl
  | cons c text ih =>
      cases fuel with
      | zero => exact absurd enough (Nat.not_lt_zero _)
      | succ fuel =>
          rw [List.flatMap_cons, List.append_assoc, stringRest?_escapeChar,
            ih (Nat.lt_of_succ_lt_succ enough)]
          rfl

theorem escapeChar_ne_nil (c : Char) : escapeChar c ≠ [] := by
  unfold escapeChar
  grind

theorem length_le_flatMap_escapeChar (text : List Char) :
    text.length ≤ (text.flatMap escapeChar).length := by
  induction text with
  | nil => exact Nat.zero_le _
  | cons c text ih =>
      have pos := List.length_pos_iff.2 (escapeChar_ne_nil c)
      rw [List.flatMap_cons, List.length_append, List.length_cons]
      omega

theorem toList_quote (text : String) :
    (quote text).toList = '"' :: (text.toList.flatMap escapeChar ++ ['"']) := by
  simp [quote]

/-- A text is read back from between its quotation marks. -/
theorem string?_escaped (text : String) (rest : List Char) :
    string? (text.toList.flatMap escapeChar ++ '"' :: rest) = some (some text, rest) := by
  have longer := length_le_flatMap_escapeChar text.toList
  rw [string?, stringRest?_escaped (by rw [List.length_append]; omega)]
  simp

/-! ## Values -/

/-- Whether what stands behind a value cannot be a part of it. -/
def EndsValue (rest : List Char) : Prop :=
  ∀ c ∈ rest.head?, c = ',' ∨ c = '\n'

/-- A value at a depth is read as a document. -/
structure IsReadAs (depth : Nat) (value : Json) (document : Document) : Prop where
  skipBlanks_eq : ∀ rest, skipBlanks ((prettyAt depth value).toList ++ rest) =
    (prettyAt depth value).toList ++ rest
  value?_eq : ∀ fuel rest, (prettyAt depth value).toList.length < fuel → EndsValue rest →
    value? fuel ((prettyAt depth value).toList ++ rest) = some (document, rest)

theorem skipBlanks_cons {c : Char} (notBlank : isBlank c = false) (rest : List Char) :
    skipBlanks (c :: rest) = c :: rest :=
  List.dropWhile_cons_of_neg (by simp [notBlank])

theorem isReadAs_text (depth : Nat) (text : String) :
    IsReadAs depth (.text text) (.text (some text)) where
  skipBlanks_eq := by
    intro rest
    rw [prettyAt, toList_quote, List.cons_append]
    exact skipBlanks_cons (by decide) _
  value?_eq := by
    intro fuel rest enough _
    obtain ⟨fuel, rfl⟩ := Nat.exists_eq_add_of_lt enough
    have read := string?_escaped text rest
    rw [prettyAt, toList_quote, List.cons_append, List.append_assoc, value?]
    simp only [List.cons_append, List.nil_append, read, Option.map_some]

/-- A text that is one value is one document. -/
theorem ofText?_pretty {value : Json} {document : Document} (reads : IsReadAs 0 value document) :
    ofText? value.pretty = some document := by
  have starts := reads.skipBlanks_eq []
  have ends : EndsValue [] := fun _ member => nomatch member
  rw [List.append_nil] at starts
  have read := reads.value?_eq (2 * value.pretty.toList.length + 2) [] (by rw [pretty]; omega) ends
  rw [List.append_nil, ← pretty] at read
  rw [← pretty] at starts
  simp only [ofText?, starts, read, Option.bind_eq_bind, Option.bind_some]
  rfl

/-! ## Objects -/

theorem skipBlanks_newLine (depth : Nat) {c : Char} (notBlank : isBlank c = false)
    (rest : List Char) : skipBlanks ((newLine depth).toList ++ c :: rest) = c :: rest := by
  have spelled : (newLine depth).toList = '\n' :: List.replicate (2 * depth) ' ' := by
    simp [newLine]
  have blank : ∀ b ∈ (newLine depth).toList, isBlank b = true := by
    intro b member
    rcases List.mem_cons.1 (spelled ▸ member) with rfl | isSpace
    · decide
    · rw [List.eq_of_mem_replicate isSpace]
      decide
  rw [skipBlanks, List.dropWhile_append_of_pos blank]
  exact skipBlanks_cons notBlank rest

theorem endsValue_newLine (depth : Nat) (rest : List Char) :
    EndsValue ((newLine depth).toList ++ rest) := by
  intro c member
  simp [newLine] at member
  exact .inr member.symm

theorem endsValue_comma (rest : List Char) : EndsValue (',' :: rest) := by
  intro c member
  exact .inl (Option.some.inj member).symm

/-- A field is read as a member when its value is. -/
structure IsReadAsMember (depth : Nat) (field : String × Json)
    (member : Option String × Document) : Prop where
  name_eq : member.1 = some field.1
  value_read : IsReadAs depth field.2 member.2

/-- Read what stands behind a member: the end of its object, or the members that
follow. -/
def behindMember? (fuel : Nat) (member : Option String × Document) (rest : List Char) :
    Option (List (Option String × Document) × List Char) :=
  match skipBlanks rest with
  | '\x7d' :: rest => some ([member], rest)
  | ',' :: rest => do
      let (members, rest) ← members? fuel (skipBlanks rest)
      some (member :: members, rest)
  | _ => none

/-- A member is read up to what stands behind its value. -/
theorem members?_field {depth fuel : Nat} {field : String × Json}
    {member : Option String × Document} (reads : IsReadAsMember depth field member)
    (enough : (prettyAt depth field.2).toList.length < fuel) {rest : List Char}
    (ends : EndsValue rest) :
    members? (fuel + 1) ((quote field.1).toList ++ ':' :: ' ' ::
      ((prettyAt depth field.2).toList ++ rest)) = behindMember? fuel member rest := by
  obtain ⟨name, value⟩ := field
  obtain ⟨_, document⟩ := member
  obtain ⟨rfl, starts, valueReads⟩ := reads
  have nameReads := string?_escaped name (':' :: ' ' :: ((prettyAt depth value).toList ++ rest))
  have blank : skipBlanks (' ' :: ((prettyAt depth value).toList ++ rest)) =
      skipBlanks ((prettyAt depth value).toList ++ rest) :=
    List.dropWhile_cons_of_pos (by decide)
  have colon : skipBlanks (':' :: ' ' :: ((prettyAt depth value).toList ++ rest)) =
      ':' :: ' ' :: ((prettyAt depth value).toList ++ rest) :=
    skipBlanks_cons (by decide) _
  rw [toList_quote, List.cons_append, List.append_assoc, List.cons_append, List.nil_append,
    members?]
  simp only [nameReads, Option.bind_eq_bind, Option.bind_some, colon, blank, starts,
    valueReads fuel rest enough ends]
  rfl

theorem toList_prettyFields_cons (depth : Nat) (field second : String × Json)
    (fields : List (String × Json)) :
    (prettyFields depth (field :: second :: fields)).toList =
      (prettyFields depth [field]).toList ++
        ',' :: (prettyFields depth (second :: fields)).toList := by
  show (prettyFields depth [field] ++ "," ++ prettyFields depth (second :: fields)).toList = _
  simp

theorem toList_prettyFields_singleton (depth : Nat) (field : String × Json) :
    (prettyFields depth [field]).toList = (newLine depth).toList ++
      ((quote field.1).toList ++ ':' :: ' ' :: (prettyAt depth field.2).toList) := by
  simp [prettyFields]

theorem skipBlanks_prettyFields (depth : Nat) (field : String × Json) (rest : List Char) :
    skipBlanks ((prettyFields depth [field]).toList ++ rest) =
      (quote field.1).toList ++ ':' :: ' ' :: ((prettyAt depth field.2).toList ++ rest) := by
  simp only [toList_prettyFields_singleton, toList_quote, List.append_assoc, List.cons_append]
  exact skipBlanks_newLine depth (by decide) _

/-- The fields of an object are read up to its closing brace. -/
theorem members?_prettyFields {depth fuel : Nat} {fields : List (String × Json)}
    {members : List (Option String × Document)}
    (reads : List.Forall₂ (IsReadAsMember (depth + 1)) fields members) (nonempty : fields ≠ [])
    (enough : (prettyFields (depth + 1) fields).toList.length ≤ fuel) (rest : List Char) :
    members? fuel (skipBlanks ((prettyFields (depth + 1) fields).toList ++
      ((newLine depth).toList ++ '\x7d' :: rest))) = some (members, rest) := by
  induction reads generalizing fuel with
  | nil => exact absurd rfl nonempty
  | @cons field member fields members first others ih =>
      have longer : (prettyAt (depth + 1) field.2).toList.length + 2 ≤
          (prettyFields (depth + 1) [field]).toList.length := by
        rw [toList_prettyFields_singleton]
        simp only [List.length_append, List.length_cons]
        omega
      cases others with
      | nil =>
          obtain ⟨fuel, rfl⟩ : ∃ less, fuel = less + 1 := ⟨fuel - 1, by omega⟩
          rw [skipBlanks_prettyFields,
            members?_field first (by omega) (endsValue_newLine depth _), behindMember?,
            skipBlanks_newLine depth (by decide)]
          rfl
      | @cons second _ fields _ _ _ =>
          rw [toList_prettyFields_cons, List.length_append, List.length_cons] at enough
          obtain ⟨fuel, rfl⟩ : ∃ less, fuel = less + 1 := ⟨fuel - 1, by omega⟩
          have othersEnough :
              (prettyFields (depth + 1) (second :: fields)).toList.length ≤ fuel := by
            omega
          have othersRead := ih (List.cons_ne_nil _ _) othersEnough
          rw [toList_prettyFields_cons, List.append_assoc, List.cons_append,
            skipBlanks_prettyFields, members?_field first (by omega) (endsValue_comma _),
            behindMember?, skipBlanks_cons (by decide)]
          simp only [othersRead, Option.bind_eq_bind, Option.bind_some]

theorem toList_prettyAt_object (depth : Nat) (field : String × Json)
    (fields : List (String × Json)) :
    (prettyAt depth (.object (field :: fields))).toList =
      '\x7b' :: ((prettyFields (depth + 1) (field :: fields)).toList ++
        ((newLine depth).toList ++ ['\x7d'])) := by
  simp [prettyAt]

/-- An object is read when its fields are. -/
theorem isReadAs_object {depth : Nat} {fields : List (String × Json)}
    {members : List (Option String × Document)}
    (reads : List.Forall₂ (IsReadAsMember (depth + 1)) fields members) :
    IsReadAs depth (.object fields) (.object members) where
  skipBlanks_eq := by
    intro rest
    cases fields with
    | nil =>
        rw [prettyAt]
        exact skipBlanks_cons (c := '\x7b') (by decide) ('\x7d' :: rest)
    | cons field fields =>
        rw [toList_prettyAt_object]
        exact skipBlanks_cons (by decide) _
  value?_eq := by
    intro fuel rest enough _
    obtain ⟨fuel, rfl⟩ : ∃ less, fuel = less + 1 := ⟨fuel - 1, by omega⟩
    cases reads with
    | nil => simp [prettyAt, value?, skipBlanks_cons (c := '\x7d') (by decide)]
    | @cons field _ fields _ first others =>
        rw [toList_prettyAt_object, List.length_cons, List.length_append] at enough
        have fieldsEnough : (prettyFields (depth + 1) (field :: fields)).toList.length ≤ fuel := by
          omega
        have read := members?_prettyFields (.cons first others) (List.cons_ne_nil _ _)
          fieldsEnough rest
        rw [toList_prettyAt_object, List.cons_append, List.append_assoc, List.append_assoc, value?]
        split
        · rename_i closes
          rw [List.singleton_append] at closes
          rw [closes] at read
          cases fuel <;> simp [members?] at read
        · rw [List.singleton_append, read]
          rfl

end ProjectFiles.Json.Document
