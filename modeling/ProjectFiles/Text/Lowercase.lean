import ProjectFiles.Text.CaseTable

/-!
# Lower-casing of text

Full Unicode lower-casing.  Every character has a lower-case form of its own,
with two special cases: `İ` becomes `i` followed by a combining dot above, and
a capital sigma is written `ς` at the end of a word and `σ` elsewhere.

ASCII case folding, which touches the letters `A` to `Z` only, is the coarser
relation `sameIgnoringAsciiCase`.
-/

namespace ProjectFiles.Text

/-- Whether a code point lies in one of the ranges. -/
def inRanges (ranges : List (Nat × Nat)) (code : Nat) : Bool :=
  ranges.any fun range => range.1 ≤ code && code ≤ range.2

/-- Whether a character is a lower-case, upper-case or title-case letter. -/
def isCased (c : Char) : Bool :=
  inRanges CaseTable.casedRanges c.toNat

/-- Whether the end of a word is looked for beyond this character. -/
def isCaseIgnorable (c : Char) : Bool :=
  inRanges CaseTable.caseIgnorableRanges c.toNat

/-- The lower-case form of a character taken by itself. -/
def lowerChar (c : Char) : List Char :=
  if c.toNat < 0x80 then
    [c.toLower]
  else if c = 'İ' then
    ['i', '\u0307']
  else
    let member (run : Nat × Nat × Nat × Int) : Bool :=
      run.1 ≤ c.toNat && c.toNat ≤ run.2.1 && (c.toNat - run.1) % run.2.2.1 == 0
    match CaseTable.lowerRuns.find? member with
    | some run => [Char.ofNat (c.toNat + run.2.2.2).toNat]
    | none => [c]

/-- Whether the first character that is not skipped is a cased letter. -/
def startsCased (context : List Char) : Bool :=
  match context.dropWhile isCaseIgnorable with
  | [] => false
  | c :: _ => isCased c

/-- Lower-case the characters that follow `before`, which holds the characters
already passed, nearest first.  A capital sigma ends a word when a cased letter
comes before it and none comes after it. -/
def lowerAfter (before : List Char) : List Char → List Char
  | [] => []
  | c :: rest =>
      let lowered :=
        if c = 'Σ' then
          if startsCased before && !startsCased rest then ['ς'] else ['σ']
        else
          lowerChar c
      lowered ++ lowerAfter (c :: before) rest

/-- The lower-case form of a text. -/
def lowercase (text : String) : String :=
  String.ofList (lowerAfter [] text.toList)

/-- Whether two texts differ at most in the case of ASCII letters. -/
def sameIgnoringAsciiCase (left right : String) : Bool :=
  left.toList.map Char.toLower == right.toList.map Char.toLower

/-- Lower-casing stays inside ASCII for ASCII characters. -/
theorem lowerChar_of_ascii {c : Char} (ascii : c.toNat < 0x80) : lowerChar c = [c.toLower] := by
  simp [lowerChar, ascii]

end ProjectFiles.Text
