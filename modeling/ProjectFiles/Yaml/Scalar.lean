import ProjectFiles.Hex
import ProjectFiles.Yaml.Cursor

/-!
# Scalars of YAML texts

Scalars are plain, quoted, or blocks of lines.  Plain and quoted scalars may go
over several lines, whose breaks are folded.  Reading gives nothing when the text
breaks a rule of the notation.
-/

namespace ProjectFiles.Yaml

/-- How a scalar is written. -/
inductive ScalarStyle where
  | plain
  | quoted
  | literal
  | folded
  deriving DecidableEq, Repr

/-! ## Plain scalars -/

/-- Whether a plain scalar ends before a character. -/
def endsPlain (inFlow : Bool) (cursor : Cursor) (c : Char) : Bool :=
  (c = ':' && cursor.blankAt 1) ||
    (inFlow && (c = ',' || c = '[' || c = ']' || c = '\x7b' || c = '\x7d'))

/-- Whether a colon stands where a flow collection does not allow it. -/
def isMisplacedColon (inFlow : Bool) (cursor : Cursor) (c : Char) : Bool :=
  inFlow && c = ':' &&
    match cursor.peek 1 with
    | some after =>
        after = ',' || after = '?' || after = '[' || after = ']' || after = '\x7b' ||
          after = '\x7d'
    | none => false

/-- Read one word of a plain scalar. -/
def plainWord? (inFlow : Bool) : Nat → Cursor → Option (List Char × Cursor)
  | 0, cursor => some ([], cursor)
  | fuel + 1, cursor =>
      match cursor.rest with
      | [] => some ([], cursor)
      | c :: _ =>
          if isBlank c || isBreak c then some ([], cursor)
          else if isMisplacedColon inFlow cursor c then none
          else if endsPlain inFlow cursor c then some ([], cursor)
          else (plainWord? inFlow fuel cursor.next).map fun (word, cursor) => (c :: word, cursor)

/-- Read the words of a plain scalar, `joint` before the first of them.  The
answer says also whether a line has ended behind the last word. -/
def plainWords? (inFlow : Bool) (indent : Nat) :
    Nat → List Char → Bool → Cursor → Option (List Char × Bool × Cursor)
  | 0, _, broken, cursor => some ([], broken, cursor)
  | fuel + 1, joint, broken, cursor =>
      if cursor.atDocumentMark || cursor.peek 0 = some '#' then
        some ([], broken, cursor)
      else do
        let (word, afterWord) ← plainWord? inFlow (cursor.rest.length + 1) cursor
        if word.isEmpty then
          some ([], broken, cursor)
        else
          let (gap, afterGap) ←
            Gap.read? indent (afterWord.rest.length + 1) ⟨[], [], [], false⟩ afterWord
          if afterGap.index = afterWord.index then
            some (joint ++ word, false, afterWord)
          else if !inFlow && afterGap.column < indent then
            some (joint ++ word, gap.broken, afterGap)
          else
            (plainWords? inFlow indent fuel gap.folded gap.broken afterGap).map
              fun (words, broken, cursor) => (joint ++ word ++ words, broken, cursor)

/-- Read a plain scalar.  Outside flow collections its lines are indented at
least to column `indent`. -/
def plainScalar? (inFlow : Bool) (indent : Nat) (cursor : Cursor) :
    Option (List Char × Bool × Cursor) :=
  plainWords? inFlow indent (cursor.rest.length + 1) [] false cursor

/-! ## Quoted scalars -/

/-- The character of an escape of one letter. -/
def shortEscape? (c : Char) : Option Char :=
  match c with
  | '0' => some '\x00'
  | 'a' => some '\x07'
  | 'b' => some '\x08'
  | 't' => some '\t'
  | '\t' => some '\t'
  | 'n' => some '\n'
  | 'v' => some '\x0b'
  | 'f' => some '\x0c'
  | 'r' => some '\x0d'
  | 'e' => some '\x1b'
  | ' ' => some ' '
  | '"' => some '"'
  | '/' => some '/'
  | '\\' => some '\\'
  | 'N' => some '\u0085'
  | '_' => some '\u00a0'
  | 'L' => some '\u2028'
  | 'P' => some '\u2029'
  | _ => none

/-- The number of digits of an escape that gives a code point. -/
def escapeDigits? (c : Char) : Option Nat :=
  if c = 'x' then some 2
  else if c = 'u' then some 4
  else if c = 'U' then some 8
  else none

/-- Read an escape behind its backslash. -/
def escape? (cursor : Cursor) : Option (Char × Cursor) := do
  let letter ← cursor.peek 0
  match escapeDigits? letter with
  | none => (shortEscape? letter).map fun c => (c, cursor.next)
  | some count =>
      let digits := (cursor.rest.drop 1).take count
      if digits.length = count then
        let code ← Hex.value? digits
        if code ≤ 0x10ffff ∧ ¬(0xd800 ≤ code ∧ code ≤ 0xdfff) then
          some (Char.ofNat code, cursor.skip (count + 1))
        else none
      else none

/-- Read the rest of a quoted scalar and its closing mark. -/
def quotedRest? (single : Bool) : Nat → Cursor → Option (List Char × Cursor)
  | 0, _ => none
  | fuel + 1, cursor =>
      let consing (c : Char) (next : Cursor) : Option (List Char × Cursor) :=
        (quotedRest? single fuel next).map fun (text, cursor) => (c :: text, cursor)
      let gapFrom (gap : Gap) (next : Cursor) : Option (List Char × Cursor) := do
        let (gap, next) ← Gap.read? 0 (next.rest.length + 1) gap next
        (quotedRest? single fuel next).map fun (text, cursor) => (gap.folded ++ text, cursor)
      if cursor.atDocumentMark then none
      else
        match cursor.rest with
        | [] => none
        | c :: _ =>
            if isBlank c || isBreak c then gapFrom ⟨[], [], [], false⟩ cursor
            else if single then
              if c = '\'' then
                if cursor.peek 1 = some '\'' then consing '\'' (cursor.skip 2)
                else some ([], cursor.next)
              else consing c cursor.next
            else if c = '"' then some ([], cursor.next)
            else if c = '\\' then
              match (cursor.peek 1).map isBreak with
              | some true => gapFrom ⟨[], [], [], true⟩ (cursor.skip 2)
              | _ => (escape? cursor.next).bind fun (c, next) => consing c next
            else consing c cursor.next

/-- Read a quoted scalar with its marks. -/
def quotedScalar? (single : Bool) (cursor : Cursor) : Option (List Char × Cursor) :=
  quotedRest? single (cursor.rest.length + 1) cursor.next

/-! ## Block scalars -/

/-- What becomes of the line breaks at the end of a block. -/
inductive Chomping where
  | strip
  | clip
  | keep
  deriving DecidableEq, Repr

/-- Read a chomping mark. -/
def chomping? (cursor : Cursor) : Option (Chomping × Cursor) :=
  match cursor.peek 0 with
  | some '+' => some (.keep, cursor.next)
  | some '-' => some (.strip, cursor.next)
  | _ => none

/-- Read an indentation mark; zero is not one. -/
def increment? (cursor : Cursor) : Option (Nat × Cursor) :=
  match cursor.peek 0 with
  | some c => if '1' ≤ c ∧ c ≤ '9' then some (c.toNat - '0'.toNat, cursor.next) else none
  | none => none

/-- Read the marks of a block in either order. -/
def blockMarks (cursor : Cursor) : Chomping × Option Nat × Cursor :=
  match chomping? cursor with
  | some (chomping, cursor) =>
      match increment? cursor with
      | some (increment, cursor) => (chomping, some increment, cursor)
      | none => (chomping, none, cursor)
  | none =>
      match increment? cursor with
      | some (increment, cursor) =>
          match chomping? cursor with
          | some (chomping, cursor) => (chomping, some increment, cursor)
          | none => (.clip, some increment, cursor)
      | none => (.clip, none, cursor)

/-- Read the rest of a line that may only hold a comment behind blanks. -/
def restOfLine? (cursor : Cursor) : Option Cursor :=
  let (_, cursor) := cursor.span isBlank
  let cursor := if cursor.peek 0 = some '#' then (cursor.span fun c => !isBreak c).2 else cursor
  match cursor.rest with
  | [] => some cursor
  | c :: _ => if isBreak c then some cursor.next else none

/-- Pass empty lines and the indentation of the first line that is not empty.
Without a known indentation all blanks count, and the deepest one is returned. -/
def blockBreaks? (indent : Option Nat) :
    Nat → Nat → List Char → Cursor → Option (List Char × Nat × Cursor)
  | 0, deepest, breaks, cursor => some (breaks, deepest, cursor)
  | fuel + 1, deepest, breaks, cursor =>
      let limit := (indent.map (· - cursor.column)).getD cursor.rest.length
      let count := ((cursor.rest.take limit).takeWhile (· = ' ')).length
      let cursor := cursor.skip count
      let deepest := max deepest cursor.column
      match cursor.rest with
      | [] => some (breaks, deepest, cursor)
      | c :: _ =>
          if c = '\t' && indent.all (cursor.column < ·) then none
          else if isBreak c then blockBreaks? indent fuel deepest (breaks ++ [c]) cursor.next
          else some (breaks, deepest, cursor)

/-- Read the lines of a block with a known indentation.  `before` is the line
break behind the line before, `breaks` are those of empty lines behind it, and
`blank` says whether that line starts with a blank. -/
def blockLines? (literal : Bool) (indent : Nat) :
    Nat → List Char → List Char → Bool → Cursor →
      Option (List Char × List Char × List Char × Cursor)
  | 0, before, breaks, _, cursor => some ([], before, breaks, cursor)
  | fuel + 1, before, breaks, blank, cursor =>
      match cursor.rest with
      | [] => some ([], before, breaks, cursor)
      | first :: _ =>
          if cursor.column = indent then do
            let folds := !literal && before = ['\n'] && !blank && !isBlank first
            let joint := if folds then (if breaks.isEmpty then [' '] else []) else before
            let (line, afterLine) := cursor.span fun c => !isBreak c
            let newBreak := (afterLine.rest.take 1)
            let (newBreaks, _, afterBreaks) ←
              blockBreaks? (some indent) (afterLine.rest.length + 1) 0 [] afterLine.next
            let (text, last, trailing, final) ←
              blockLines? literal indent fuel newBreak newBreaks (isBlank first) afterBreaks
            some (joint ++ breaks ++ line ++ text, last, trailing, final)
          else
            some ([], before, breaks, cursor)

/-- Read a block scalar with its mark.  `parent` is the indentation around it,
and −1 stands for none. -/
def blockScalar? (literal : Bool) (parent : Int) (cursor : Cursor) :
    Option (List Char × Cursor) := do
  let (chomping, increment, cursor) := blockMarks cursor.next
  let cursor ← restOfLine? cursor
  let known := increment.map fun increment => (max parent 0).toNat + increment
  let (breaks, deepest, cursor) ← blockBreaks? known (cursor.rest.length + 1) 0 [] cursor
  let indent := known.getD (max deepest (max 1 (parent + 1).toNat))
  let (text, last, trailing, cursor) ←
    blockLines? literal indent (cursor.rest.length + 1) [] breaks false cursor
  let tail :=
    match chomping with
    | .strip => []
    | .clip => last
    | .keep => last ++ trailing
  some (text ++ tail, cursor)

end ProjectFiles.Yaml
