import ProjectFiles.Hex
import ProjectFiles.Json.Number

/-!
# Reading JSON texts

A `Document` is a JSON text whose grammar has been checked and whose leaves have
not been judged: numbers stand as they are written, a string may hold escapes
that stand for no character, and an object keeps all its members in order.
`toValue?` judges the leaves and the depth; a reader that skips a part of a
document leaves that part unjudged.
-/

namespace ProjectFiles.Json

open Decimal

/-- A JSON text by its grammar alone.  A string is missing when one of its
escapes is half of a surrogate pair without the other half. -/
inductive Document where
  | null
  | bool (value : Bool)
  | number (literal : NumberLiteral)
  | text (contents : Option String)
  | array (items : List Document)
  | object (members : List (Option String × Document))

namespace Document

/-! ## Tokens -/

/-- Whether a character may stand between the tokens of a JSON text. -/
def isBlank (c : Char) : Bool :=
  c = ' ' || c = '\n' || c = '\t' || c = '\r'

/-- A text without its leading blanks. -/
def skipBlanks (source : List Char) : List Char :=
  source.dropWhile isBlank

/-- Read four hexadecimal digits. -/
def hexUnit? : List Char → Option (Nat × List Char)
  | a :: b :: c :: d :: rest => (Hex.value? [a, b, c, d]).map fun unit => (unit, rest)
  | _ => none

/-- The character of an escape of one letter. -/
def shortEscape? (c : Char) : Option Char :=
  if c = '"' then some '"'
  else if c = '\\' then some '\\'
  else if c = '/' then some '/'
  else if c = 'b' then some '\x08'
  else if c = 'f' then some '\x0c'
  else if c = 'n' then some '\n'
  else if c = 'r' then some '\r'
  else if c = 't' then some '\t'
  else none

/-- Put a character before the contents of a string. -/
def consText (c : Char) (result : Option (List Char) × List Char) :
    Option (List Char) × List Char :=
  (result.1.map (c :: ·), result.2)

/-- Read the rest of a string behind its opening quotation mark.  `fuel` bounds
the number of characters and escapes.  Contents are missing when a lone
surrogate occurs. -/
def stringRest? : Nat → List Char → Option (Option (List Char) × List Char)
  | 0, _ => none
  | _ + 1, [] => none
  | fuel + 1, c :: rest =>
      if c = '"' then some (some [], rest)
      else if c = '\\' then
        match rest with
        | 'u' :: digits => do
            let (unit, rest) ← hexUnit? digits
            if 0xD800 ≤ unit ∧ unit ≤ 0xDBFF then
              match rest with
              | '\\' :: 'u' :: digits =>
                  let (low, afterPair) ← hexUnit? digits
                  if 0xDC00 ≤ low ∧ low ≤ 0xDFFF then
                    let code := 0x10000 + (unit - 0xD800) * 0x400 + (low - 0xDC00)
                    (stringRest? fuel afterPair).map (consText (Char.ofNat code))
                  else
                    (stringRest? fuel rest).map fun result => (none, result.2)
              | _ => (stringRest? fuel rest).map fun result => (none, result.2)
            else if 0xDC00 ≤ unit ∧ unit ≤ 0xDFFF then
              (stringRest? fuel rest).map fun result => (none, result.2)
            else
              (stringRest? fuel rest).map (consText (Char.ofNat unit))
        | escape :: rest => do
            let character ← shortEscape? escape
            (stringRest? fuel rest).map (consText character)
        | [] => none
      else if c.toNat < 0x20 then none
      else (stringRest? fuel rest).map (consText c)

/-- Read the rest of a string and put its contents together. -/
def string? (source : List Char) : Option (Option String × List Char) :=
  (stringRest? (source.length + 1) source).map fun result =>
    (result.1.map String.ofList, result.2)

/-- Read the exponent of a number, if it has one. -/
def exponentPart? : List Char → Option (Option Int × List Char)
  | [] => some (none, [])
  | mark :: rest =>
      if mark = 'e' ∨ mark = 'E' then
        let (negative, digits) := Binary64.splitSign rest
        let size := digits.takeWhile isDigit
        if size.isEmpty then none
        else
          let magnitude : Int := value size
          some (some (if negative then -magnitude else magnitude), digits.dropWhile isDigit)
      else
        some (none, mark :: rest)

/-- Read the fraction of a number, if it has one. -/
def fractionPart? : List Char → Option (Option (List Char) × List Char)
  | '.' :: rest =>
      let digits := rest.takeWhile isDigit
      if digits.isEmpty then none else some (some digits, rest.dropWhile isDigit)
  | source => some (none, source)

/-- Read a number.  Its first digit is zero only when it is the only digit
before the point. -/
def number? (source : List Char) : Option (NumberLiteral × List Char) := do
  let (negative, unsigned) :=
    match source with
    | '-' :: rest => (true, rest)
    | _ => (false, source)
  let whole := unsigned.takeWhile isDigit
  if whole.isEmpty || (whole.head? == some '0' && whole.length > 1) then none
  else
    let (fraction, rest) ← fractionPart? (unsigned.dropWhile isDigit)
    let (exponent, rest) ← exponentPart? rest
    some (⟨negative, whole, fraction, exponent⟩, rest)

/-- Read a fixed word. -/
def word? (word : List Char) (document : Document) (source : List Char) :
    Option (Document × List Char) :=
  if word.isPrefixOf source then some (document, source.drop word.length) else none

/-! ## Values -/

mutual

/-- Read a value behind its leading blanks. -/
def value? : Nat → List Char → Option (Document × List Char)
  | 0, _ => none
  | fuel + 1, source =>
      match source with
      | [] => none
      | 'n' :: _ => word? "null".toList .null source
      | 't' :: _ => word? "true".toList (.bool true) source
      | 'f' :: _ => word? "false".toList (.bool false) source
      | '"' :: rest => (string? rest).map fun (contents, rest) => (.text contents, rest)
      | '[' :: rest =>
          match skipBlanks rest with
          | ']' :: rest => some (.array [], rest)
          | rest => (items? fuel rest).map fun (items, rest) => (.array items, rest)
      | '\x7b' :: rest =>
          match skipBlanks rest with
          | '\x7d' :: rest => some (.object [], rest)
          | rest => (members? fuel rest).map fun (members, rest) => (.object members, rest)
      | _ => (number? source).map fun (literal, rest) => (.number literal, rest)

/-- Read the items of an array up to its closing bracket. -/
def items? : Nat → List Char → Option (List Document × List Char)
  | 0, _ => none
  | fuel + 1, source => do
      let (item, rest) ← value? fuel source
      match skipBlanks rest with
      | ']' :: rest => some ([item], rest)
      | ',' :: rest =>
          let (items, rest) ← items? fuel (skipBlanks rest)
          some (item :: items, rest)
      | _ => none

/-- Read the members of an object up to its closing brace. -/
def members? : Nat → List Char → Option (List (Option String × Document) × List Char)
  | 0, _ => none
  | fuel + 1, source =>
      match source with
      | '"' :: rest => do
          let (name, rest) ← string? rest
          match skipBlanks rest with
          | ':' :: rest =>
              let (value, rest) ← value? fuel (skipBlanks rest)
              match skipBlanks rest with
              | '\x7d' :: rest => some ([(name, value)], rest)
              | ',' :: rest =>
                  let (members, rest) ← members? fuel (skipBlanks rest)
                  some ((name, value) :: members, rest)
              | _ => none
          | _ => none
      | _ => none

end

/-- Read a whole text as one document.  Every step of the reader passes a
character or enters a value, so twice the length is fuel enough. -/
def ofText? (source : String) : Option Document := do
  let characters := skipBlanks source.toList
  let (document, rest) ← value? (2 * characters.length + 2) characters
  if (skipBlanks rest).isEmpty then some document else none

/-! ## Judging the leaves -/

mutual

/-- The value of a document whose containers are nested less than `depth` deep
and whose leaves all have a value. -/
def toValue? (depth : Nat) : Document → Option Json
  | .null => some .null
  | .bool value => some (.bool value)
  | .number literal => literal.value?
  | .text contents => contents.map .text
  | .array items =>
      if depth ≤ 1 then none else (itemValues? (depth - 1) items).map .array
  | .object members =>
      if depth ≤ 1 then none else (memberValues? (depth - 1) members).map ofFields

/-- The values of a list of documents. -/
def itemValues? (depth : Nat) : List Document → Option (List Json)
  | [] => some []
  | item :: rest => do
      let value ← toValue? depth item
      let values ← itemValues? depth rest
      some (value :: values)

/-- The values of the members of an object. -/
def memberValues? (depth : Nat) :
    List (Option String × Document) → Option (List (String × Json))
  | [] => some []
  | (name, member) :: rest => do
      let name ← name
      let value ← toValue? depth member
      let values ← memberValues? depth rest
      some ((name, value) :: values)

end

end Document

/-- The number of containers that a text may not reach inside each other. -/
def depthLimit : Nat := 128

/-- Read a JSON text. -/
def ofText? (source : String) : Option Json := do
  let document ← Document.ofText? source
  document.toValue? depthLimit

end ProjectFiles.Json
