import ProjectFiles.Decimal
import ProjectFiles.Hex
import ProjectFiles.Yaml.Cursor

/-!
# Anchors, tags and directives of YAML texts

Anchors and tags stand before a node and directives before a document.  Each
reader starts behind the mark that announces what it reads, and gives nothing
when the text breaks a rule of the notation.
-/

namespace ProjectFiles.Yaml

/-- Whether a character may occur in the name of an anchor or a directive. -/
def isNameChar (c : Char) : Bool :=
  c.isAlphanum || c = '_' || c = '-'

/-! ## Anchors -/

/-- Whether the name of an anchor may end before a character. -/
def endsAnchor (c : Char) : Bool :=
  isBlank c || isBreak c || "?:,]\x7d%@\x60".contains c

/-- Read the name of an anchor. -/
def anchorName? (cursor : Cursor) : Option (String × Cursor) :=
  let (name, after) := cursor.span isNameChar
  if name.isEmpty || !(after.peek 0).all endsAnchor then none
  else some (String.ofList name, after)

/-! ## Tags -/

/-- A text in a tag.  Escaped octets need not stand for characters. -/
inductive TagText where
  | readable (text : String)
  | unreadable
  deriving DecidableEq, Repr

namespace TagText

/-- Put two texts together. -/
def append : TagText → TagText → TagText
  | .readable start, .readable rest => .readable (start ++ rest)
  | _, _ => .unreadable

/-- The text of characters, where `none` is what octets stand for that are no
character.  A zero character ends the text. -/
def ofChars (chars : List (Option Char)) : TagText :=
  match (chars.takeWhile (· ≠ some '\x00')).mapM id with
  | some text => .readable (String.ofList text)
  | none => .unreadable

end TagText

/-- The number of octets that a character takes, by its first octet. -/
def octetCount? (first : Nat) : Option Nat :=
  if first < 0x80 then some 1
  else if first < 0xc0 then none
  else if first < 0xe0 then some 2
  else if first < 0xf0 then some 3
  else if first < 0xf8 then some 4
  else none

/-- Read an octet that is written as a percent sign and two digits. -/
def escapedOctet? (cursor : Cursor) : Option (Nat × Cursor) :=
  match cursor.rest with
  | '%' :: first :: second :: _ =>
      (Hex.value? [first, second]).map fun octet => (octet, cursor.skip 3)
  | _ => none

/-- Read the octets of a character behind its first one. -/
def followingOctets? : Nat → Nat → Cursor → Option (Nat × Cursor)
  | 0, code, cursor => some (code, cursor)
  | count + 1, code, cursor => do
      let (octet, cursor) ← escapedOctet? cursor
      if octet / 0x40 = 2 then followingOctets? count (code * 0x40 + octet % 0x40) cursor
      else none

/-- The character of a code point that is encoded in a number of octets.  There
is none when fewer octets encode the code point as well. -/
def encodedChar? (count code : Nat) : Option Char :=
  if code.isValidChar ∧ (Char.ofNat code).utf8Size = count then some (Char.ofNat code) else none

/-- Read the octets of a character, which are escaped.  They may have the right
number and form and yet stand for no character. -/
def escapedChar? (cursor : Cursor) : Option (Option Char × Cursor) := do
  let (first, cursor) ← escapedOctet? cursor
  let count ← octetCount? first
  let high := if count = 1 then first else first % Nat.pow 2 (7 - count)
  let (code, cursor) ← followingOctets? (count - 1) high cursor
  some (encodedChar? count code, cursor)

/-- Whether a character may occur in a tag.  Only a tag in angle brackets may
hold marks of flow collections. -/
def isTagChar (bracketed : Bool) (c : Char) : Bool :=
  isNameChar c || ";/?:@&=+$.%!~*'()".contains c || (bracketed && ",[]".contains c)

/-- Read the characters of a tag. -/
def tagChars? (bracketed : Bool) : Nat → Cursor → Option (List (Option Char) × Cursor)
  | 0, cursor => some ([], cursor)
  | fuel + 1, cursor =>
      match cursor.rest with
      | [] => some ([], cursor)
      | c :: _ =>
          if c = '%' then do
            let (c, next) ← escapedChar? cursor
            let (text, final) ← tagChars? bracketed fuel next
            some (c :: text, final)
          else if isTagChar bracketed c then do
            let (text, final) ← tagChars? bracketed fuel cursor.next
            some (some c :: text, final)
          else
            some ([], cursor)

/-- Read the characters of a tag, of which there is at least one. -/
def tagText? (bracketed : Bool) (cursor : Cursor) : Option (TagText × Cursor) := do
  let (text, after) ← tagChars? bracketed (cursor.rest.length + 1) cursor
  if text.isEmpty then none else some (.ofChars text, after)

/-- Read the rest of a tag handle, which starts with an exclamation mark and may
end with one. -/
def tagHandle (cursor : Cursor) : List Char × Cursor :=
  let (name, after) := cursor.span isNameChar
  if after.peek 0 = some '!' then ('!' :: name ++ ['!'], after.next) else ('!' :: name, after)

/-- A tag is a text behind a handle, which a directive may give a meaning to.  An
empty handle stands for nothing. -/
structure Tag where
  handle : String
  suffix : TagText
  deriving DecidableEq, Repr

/-- Read a tag behind its exclamation mark. -/
def tagBody? (cursor : Cursor) : Option (Tag × Cursor) :=
  if cursor.peek 0 = some '<' then do
    let (suffix, after) ← tagText? true cursor.next
    if after.peek 0 = some '>' then some (⟨"", suffix⟩, after.next) else none
  else
    let (handle, afterHandle) := tagHandle cursor
    if handle.length > 1 ∧ handle.getLast? = some '!' then do
      let (suffix, after) ← tagText? false afterHandle
      some (⟨String.ofList handle, suffix⟩, after)
    else do
      let (suffix, after) ← tagChars? false (afterHandle.rest.length + 1) afterHandle
      let suffix := TagText.ofChars ((handle.drop 1).map some ++ suffix)
      if suffix = .readable "" then some (⟨"", .readable "!"⟩, after)
      else some (⟨"!", suffix⟩, after)

/-- Read a tag, which ends before a blank, a line break or the end, and in a flow
collection also before a comma. -/
def tag? (inFlow : Bool) (cursor : Cursor) : Option (Tag × Cursor) := do
  let (tag, after) ← tagBody? cursor
  if after.blankAt 0 || (inFlow && after.peek 0 = some ',') then some (tag, after) else none

/-! ## Directives -/

/-- What the lines before a document say. -/
inductive Directive where
  | version (major minor : Nat)
  | handle (name : String) (expansion : TagText)
  deriving DecidableEq, Repr

/-- Read a part of a version number, of at most nine digits. -/
def versionPart? (cursor : Cursor) : Option (Nat × Cursor) :=
  let (digits, after) := cursor.span Decimal.isDigit
  if digits.isEmpty || digits.length > 9 then none else some (Decimal.value digits, after)

/-- Read a version number. -/
def version? (cursor : Cursor) : Option (Directive × Cursor) := do
  let (major, cursor) ← versionPart? cursor
  if cursor.peek 0 = some '.' then
    let (minor, cursor) ← versionPart? cursor.next
    some (.version major minor, cursor)
  else none

/-- Read a tag handle and what it stands for. -/
def handleExpansion? (cursor : Cursor) : Option (Directive × Cursor) := do
  if cursor.peek 0 = some '!' then
    let (handle, afterHandle) := tagHandle cursor.next
    if handle.getLast? = some '!' && (afterHandle.peek 0).any isBlank then
      let (expansion, after) ← tagText? true (afterHandle.span isBlank).2
      if after.blankAt 0 then some (.handle (String.ofList handle) expansion, after) else none
    else none
  else none

/-- Read a directive behind its percent sign. -/
def directive? (cursor : Cursor) : Option (Directive × Cursor) := do
  let (name, afterName) := cursor.span isNameChar
  if !afterName.blankAt 0 then none
  else
    let (_, arguments) := afterName.span isBlank
    if name = "YAML".toList then version? arguments
    else if name = "TAG".toList then handleExpansion? arguments
    else none

end ProjectFiles.Yaml
