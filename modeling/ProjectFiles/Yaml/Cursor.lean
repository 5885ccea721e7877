/-!
# Places in YAML texts

A `Cursor` is a place in a text with its line and column, which YAML gives a
meaning to.  Line breaks are made uniform before reading, so a carriage return
never stands before a cursor.
-/

namespace ProjectFiles.Yaml

/-- Whether a character ends a line. -/
def isBreak (c : Char) : Bool :=
  c = '\n' || c = '\u2028' || c = '\u2029'

/-- Whether a character is a blank or a tab. -/
def isBlank (c : Char) : Bool :=
  c = ' ' || c = '\t'

/-- Turn every line break that is not a separator of its own into a newline. -/
def uniformBreaks : List Char → List Char
  | [] => []
  | '\x0d' :: '\n' :: rest => '\n' :: uniformBreaks rest
  | '\x0d' :: rest => '\n' :: uniformBreaks rest
  | '\u0085' :: rest => '\n' :: uniformBreaks rest
  | c :: rest => c :: uniformBreaks rest

/-- Whether a character may occur in a text at all. -/
def isPrintable (c : Char) : Bool :=
  c = '\t' || c = '\n' || c = '\x0d' || (0x20 ≤ c.toNat && c.toNat ≤ 0x7e) || c.toNat = 0x85 ||
    (0xa0 ≤ c.toNat && c.toNat ≤ 0xfffd) || 0x10000 ≤ c.toNat

/-- A place in a text. -/
structure Cursor where
  /-- The characters that follow. -/
  rest : List Char
  line : Nat
  column : Nat
  /-- The number of octets passed, as they are encoded in UTF-8. -/
  index : Nat

namespace Cursor

/-- Pass one character. -/
def next (cursor : Cursor) : Cursor :=
  match cursor.rest with
  | [] => cursor
  | c :: rest =>
      let index := cursor.index + c.utf8Size
      if isBreak c then ⟨rest, cursor.line + 1, 0, index⟩
      else ⟨rest, cursor.line, cursor.column + 1, index⟩

/-- Pass a number of characters. -/
def skip : Nat → Cursor → Cursor
  | 0, cursor => cursor
  | count + 1, cursor => skip count cursor.next

/-- The characters up to the first that fails a test, and the place of that
one. -/
def span (cursor : Cursor) (test : Char → Bool) : List Char × Cursor :=
  let run := cursor.rest.takeWhile test
  (run, cursor.skip run.length)

/-- The character at a distance. -/
def peek (cursor : Cursor) (distance : Nat) : Option Char :=
  cursor.rest[distance]?

/-- Whether a blank, a line break or the end stands at a distance. -/
def blankAt (cursor : Cursor) (distance : Nat) : Bool :=
  match cursor.peek distance with
  | none => true
  | some c => isBlank c || isBreak c

/-- Whether a line starts here that marks the start or the end of a document. -/
def atDocumentMark (cursor : Cursor) : Bool :=
  cursor.column = 0 &&
    (['-', '-', '-'].isPrefixOf cursor.rest || ['.', '.', '.'].isPrefixOf cursor.rest) &&
    cursor.blankAt 3

end Cursor

/-- Blanks and line breaks between two words. -/
structure Gap where
  /-- The blanks before the first line break. -/
  blanks : List Char
  /-- The first line break, if there is one. -/
  firstBreak : List Char
  /-- The line breaks behind the first. -/
  otherBreaks : List Char
  /-- Whether a line has ended. -/
  broken : Bool

namespace Gap

/-- What stands between two words whose gap is folded: a single newline becomes
a blank, and of several the first is dropped. -/
def folded (gap : Gap) : List Char :=
  if gap.broken then
    if gap.firstBreak = ['\n'] then
      if gap.otherBreaks.isEmpty then [' '] else gap.otherBreaks
    else
      gap.firstBreak ++ gap.otherBreaks
  else
    gap.blanks

/-- Pass blanks and line breaks.  A tab may not stand left of column `indent`
behind a line break. -/
def read? (indent : Nat) : Nat → Gap → Cursor → Option (Gap × Cursor)
  | 0, gap, cursor => some (gap, cursor)
  | fuel + 1, gap, cursor =>
      match cursor.rest with
      | [] => some (gap, cursor)
      | c :: _ =>
          if isBlank c then
            if gap.broken then
              if c = '\t' ∧ cursor.column < indent then none
              else read? indent fuel gap cursor.next
            else
              read? indent fuel { gap with blanks := gap.blanks ++ [c] } cursor.next
          else if isBreak c then
            if gap.broken then
              read? indent fuel { gap with otherBreaks := gap.otherBreaks ++ [c] } cursor.next
            else
              read? indent fuel ⟨[], [c], [], true⟩ cursor.next
          else
            some (gap, cursor)

end Gap

end ProjectFiles.Yaml
