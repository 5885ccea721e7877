import ProjectFiles.Yaml.Property
import ProjectFiles.Yaml.Scalar

/-!
# Tokens of YAML texts

The indentation of a text becomes tokens of its own, which open and close block
collections.  A node turns out to be a key only when a colon follows it, so the
tokens that announce a key are put in before the node afterwards.
-/

namespace ProjectFiles.Yaml

/-- The tokens of a text. -/
inductive Token where
  | directive (directive : Directive)
  | documentStart
  | documentEnd
  | blockSequence
  | blockMapping
  | blockEnd
  | flowSequence
  | flowSequenceEnd
  | flowMapping
  | flowMappingEnd
  | blockEntry
  | flowEntry
  | key
  | value
  | reference (name : String)
  | anchor (name : String)
  | tag (tag : Tag)
  | scalar (style : ScalarStyle) (text : String)
  deriving DecidableEq, Repr

/-- A node that becomes a key when a colon follows it on its line. -/
structure PossibleKey where
  /-- The number of tokens before the node. -/
  position : Nat
  /-- Whether nothing but a key may stand where the node stands. -/
  required : Bool
  /-- Where the node starts. -/
  start : Cursor

namespace PossibleKey

/-- Whether a colon at a place makes the node a key: the node starts on the same
line, and at most 1024 octets before. -/
def reaches (key : PossibleKey) (cursor : Cursor) : Bool :=
  key.start.line = cursor.line && cursor.index ≤ key.start.index + 1024

end PossibleKey

/-- A text that has been read up to a place. -/
structure Scan where
  cursor : Cursor
  tokens : List Token
  /-- The columns of the open block collections, innermost first. -/
  blocks : List Nat
  /-- The possible key of each open flow collection, innermost first, and last
  the one outside all of them. -/
  keys : List (Option PossibleKey)
  /-- Whether a key may start here. -/
  keyAllowed : Bool

namespace Scan

/-- Nothing of a text has been read. -/
def start (text : List Char) : Scan where
  cursor := ⟨text, 0, 0, 0⟩
  tokens := []
  blocks := []
  keys := [none]
  keyAllowed := true

/-- Whether a flow collection is open. -/
def inFlow (scan : Scan) : Bool :=
  scan.keys.length > 1

/-- The column of the innermost block collection; −1 stands for none. -/
def indent (scan : Scan) : Int :=
  match scan.blocks with
  | [] => -1
  | column :: _ => column

/-- Put a token behind the others. -/
def push (scan : Scan) (token : Token) : Scan :=
  { scan with tokens := scan.tokens ++ [token] }

/-- Pass a mark of one character and put its token behind the others. -/
def pass (scan : Scan) (token : Token) : Scan :=
  { scan.push token with cursor := scan.cursor.next }

/-! ## Indentation -/

/-- Open a block collection before the token at a position, when it is indented
deeper than the one around it. -/
def openBlock (scan : Scan) (column position : Nat) (token : Token) : Scan :=
  if !scan.inFlow && scan.indent < column then
    { scan with
      blocks := column :: scan.blocks
      tokens := scan.tokens.take position ++ token :: scan.tokens.drop position }
  else
    scan

/-- Close the block collections whose columns satisfy a test. -/
def closeBlocks (scan : Scan) (test : Nat → Bool) : Scan :=
  if scan.inFlow then scan
  else
    { scan with
      blocks := scan.blocks.dropWhile test
      tokens := scan.tokens ++ (scan.blocks.takeWhile test).map fun _ => Token.blockEnd }

/-! ## Possible keys -/

/-- Give up the possible key of the innermost collection.  A node that had to be
a key may not be given up. -/
def dropKey? (scan : Scan) : Option Scan :=
  match scan.keys with
  | some key :: outer => if key.required then none else some { scan with keys := none :: outer }
  | _ => some scan

/-- Note that a node starts here. -/
def noteKey? (scan : Scan) : Option Scan :=
  if scan.keyAllowed then do
    let required := !scan.inFlow && scan.indent = scan.cursor.column
    let scan ← scan.dropKey?
    let key : PossibleKey := ⟨scan.tokens.length, required, scan.cursor⟩
    some { scan with keys := some key :: scan.keys.drop 1 }
  else
    some scan

/-- Allow or forbid a key here. -/
def allowKey (scan : Scan) (allowed : Bool) : Scan :=
  { scan with keyAllowed := allowed }

/-! ## Single tokens -/

/-- Pass blanks, comments and line breaks.  Tabs count as blanks only where they
cannot be taken for indentation.  A byte order mark may start a line and takes up
a column. -/
def passFiller : Nat → Scan → Scan
  | 0, scan => scan
  | fuel + 1, scan =>
      match scan.cursor.rest with
      | [] => scan
      | c :: _ =>
          if c = ' ' || (c = '\t' && (scan.inFlow || !scan.keyAllowed)) ||
              (c = '\ufeff' && scan.cursor.column = 0) then
            passFiller fuel { scan with cursor := scan.cursor.next }
          else if c = '#' then
            passFiller fuel { scan with cursor := (scan.cursor.span fun c => !isBreak c).2 }
          else if isBreak c then
            passFiller fuel
              { scan with
                cursor := scan.cursor.next
                keyAllowed := scan.keyAllowed || !scan.inFlow }
          else
            scan

/-- Leave all block collections before a line that is about a document. -/
def leaveDocument? (scan : Scan) : Option Scan :=
  (scan.closeBlocks fun _ => true).dropKey?.map fun scan => scan.allowKey false

/-- Read a directive. -/
def directive? (scan : Scan) : Option Scan := do
  let scan ← scan.leaveDocument?
  let (directive, cursor) ← Yaml.directive? scan.cursor.next
  let cursor ← restOfLine? cursor
  some { scan.push (.directive directive) with cursor := cursor }

/-- Read the mark of a document's start or end. -/
def documentMark? (scan : Scan) : Option Scan := do
  let token := if scan.cursor.peek 0 = some '-' then Token.documentStart else .documentEnd
  let scan ← scan.leaveDocument?
  some { scan.push token with cursor := scan.cursor.skip 3 }

/-- Read the start of a flow collection. -/
def openFlow? (scan : Scan) (token : Token) : Option Scan := do
  let scan ← scan.noteKey?
  some ({ scan with keys := none :: scan.keys }.allowKey true |>.pass token)

/-- Read the end of a flow collection. -/
def closeFlow? (scan : Scan) (token : Token) : Option Scan := do
  let scan ← scan.dropKey?
  let keys := if scan.inFlow then scan.keys.drop 1 else scan.keys
  some ({ scan with keys := keys }.allowKey false |>.pass token)

/-- Read the comma between the entries of a flow collection. -/
def flowEntry? (scan : Scan) : Option Scan :=
  scan.dropKey?.map fun scan => (scan.allowKey true).pass .flowEntry

/-- Read the mark of an entry of a block sequence. -/
def blockEntry? (scan : Scan) : Option Scan :=
  if scan.inFlow || scan.keyAllowed then
    (scan.openBlock scan.cursor.column scan.tokens.length .blockSequence).dropKey?.map fun scan =>
      (scan.allowKey true).pass .blockEntry
  else
    none

/-- Read the mark of a key. -/
def key? (scan : Scan) : Option Scan :=
  if scan.inFlow || scan.keyAllowed then
    (scan.openBlock scan.cursor.column scan.tokens.length .blockMapping).dropKey?.map fun scan =>
      (scan.allowKey !scan.inFlow).pass .key
  else
    none

/-- Read the colon before a value.  It belongs to the possible key, if that one
is near enough, and to an empty key otherwise. -/
def value? (scan : Scan) : Option Scan :=
  match scan.keys with
  | some key :: outer =>
      if key.reaches scan.cursor then
        let tokens := scan.tokens.take key.position ++ Token.key :: scan.tokens.drop key.position
        let scan := { scan with tokens := tokens, keys := none :: outer, keyAllowed := false }
        some ((scan.openBlock key.start.column key.position .blockMapping).pass .value)
      else if key.required then
        none
      else
        emptyKey? { scan with keys := none :: outer }
  | _ => emptyKey? scan
where
  /-- Read the colon behind an empty key. -/
  emptyKey? (scan : Scan) : Option Scan :=
    if scan.inFlow || scan.keyAllowed then
      let scan := scan.openBlock scan.cursor.column scan.tokens.length .blockMapping
      some ((scan.allowKey !scan.inFlow).pass .value)
    else
      none

/-- Read something that may be a key or stand before one. -/
def node? (scan : Scan) (read : Cursor → Option (Token × Cursor)) : Option Scan := do
  let scan ← scan.noteKey?
  let (token, cursor) ← read scan.cursor
  some { scan.push token with cursor := cursor, keyAllowed := false }

/-- Read a plain scalar.  A key may follow when its line has ended. -/
def plain? (scan : Scan) : Option Scan := do
  let scan ← scan.noteKey?
  let (text, broken, cursor) ←
    plainScalar? scan.inFlow (scan.indent + 1).toNat scan.cursor
  some
    { scan.push (.scalar .plain (String.ofList text)) with cursor := cursor, keyAllowed := broken }

/-- Read a quoted scalar. -/
def quoted? (scan : Scan) (single : Bool) : Option Scan :=
  scan.node? fun cursor =>
    (quotedScalar? single cursor).map fun (text, cursor) =>
      (.scalar .quoted (String.ofList text), cursor)

/-- Read a block scalar. -/
def block? (scan : Scan) (literal : Bool) : Option Scan := do
  let scan ← scan.dropKey?
  let (text, cursor) ← blockScalar? literal scan.indent scan.cursor
  let style := if literal then ScalarStyle.literal else .folded
  some { scan.push (.scalar style (String.ofList text)) with cursor := cursor, keyAllowed := true }

/-- Whether a plain scalar may start with the character before a cursor. -/
def startsPlain (inFlow : Bool) (c : Char) (cursor : Cursor) : Bool :=
  if "-?:,[]\x7b\x7d#&*!|>'\"%@\x60".contains c then
    (c = '-' && !(cursor.peek 0).any isBlank) ||
      (!inFlow && (c = '?' || c = ':') && !cursor.blankAt 0)
  else
    !(isBlank c || isBreak c)

/-- Read the next token, which starts with a given character. -/
def token? (scan : Scan) (c : Char) : Option Scan :=
  let next := scan.cursor.next
  let named (wrap : String → Token) (cursor : Cursor) : Option (Token × Cursor) :=
    (anchorName? cursor.next).map fun (name, cursor) => (wrap name, cursor)
  if scan.cursor.column = 0 && c = '%' then scan.directive?
  else if scan.cursor.atDocumentMark then scan.documentMark?
  else if c = '[' then scan.openFlow? .flowSequence
  else if c = '\x7b' then scan.openFlow? .flowMapping
  else if c = ']' then scan.closeFlow? .flowSequenceEnd
  else if c = '\x7d' then scan.closeFlow? .flowMappingEnd
  else if c = ',' then scan.flowEntry?
  else if c = '-' && next.blankAt 0 then scan.blockEntry?
  else if c = '?' && (scan.inFlow || next.blankAt 0) then scan.key?
  else if c = ':' && (scan.inFlow || next.blankAt 0) then scan.value?
  else if c = '*' then scan.node? (named .reference)
  else if c = '&' then scan.node? (named .anchor)
  else if c = '!' then
    scan.node? fun cursor =>
      (tag? scan.inFlow cursor.next).map fun (tag, cursor) => (.tag tag, cursor)
  else if (c = '|' || c = '>') && !scan.inFlow then scan.block? (c = '|')
  else if c = '\'' || c = '"' then scan.quoted? (c = '\'')
  else if startsPlain scan.inFlow c next then scan.plain?
  else none

/-- Read all tokens that follow. -/
def all? : Nat → Scan → Option (List Token)
  | 0, _ => none
  | fuel + 1, scan =>
      let scan := scan.passFiller (scan.cursor.rest.length + 1)
      match scan.cursor.rest with
      | [] => scan.leaveDocument?.map Scan.tokens
      | c :: _ =>
          ((scan.closeBlocks fun column => scan.cursor.column < column).token? c).bind (all? fuel)

end Scan

/-- Read the tokens of a text. -/
def tokens? (text : String) : Option (List Token) :=
  let chars := text.toList
  if chars.all isPrintable then
    Scan.all? (chars.length + 2) (Scan.start (uniformBreaks chars))
  else
    none

end ProjectFiles.Yaml
