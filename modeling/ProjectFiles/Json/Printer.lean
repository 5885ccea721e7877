import ProjectFiles.Hex
import ProjectFiles.Json.Basic

/-!
# Writing JSON

Two layouts of one value: `compact` has no blanks, and `pretty` puts every item
on a line of its own, two blanks deeper than its container.  In strings only
the quotation mark, the backslash and the control characters below U+0020 are
escaped.
-/

namespace ProjectFiles.Json

/-- A character inside a quoted string. -/
def escapeChar (c : Char) : List Char :=
  if c = '"' then ['\\', '"']
  else if c = '\\' then ['\\', '\\']
  else if c = '\n' then ['\\', 'n']
  else if c = '\r' then ['\\', 'r']
  else if c = '\t' then ['\\', 't']
  else if c = '\x08' then ['\\', 'b']
  else if c = '\x0c' then ['\\', 'f']
  else if c.toNat < 0x20 then
    ['\\', 'u', '0', '0', Hex.digitChar (c.toNat / 16), Hex.digitChar (c.toNat % 16)]
  else [c]

/-- A text between quotation marks. -/
def quote (text : String) : String :=
  "\"" ++ String.ofList (text.toList.flatMap escapeChar) ++ "\""

/-- The text of a floating-point number; JSON has none for NaN and infinity. -/
def floatText (x : Binary64) : String :=
  if x.isNaN || x.isInfinite then "null" else x.markedText

mutual

/-- A value without blanks. -/
def compact : Json → String
  | .null => "null"
  | .bool value => if value then "true" else "false"
  | .integer value => Decimal.ofInt value
  | .float value => floatText value
  | .text value => quote value
  | .array items => "[" ++ compactItems items ++ "]"
  | .object fields => "\x7b" ++ compactFields fields ++ "\x7d"

/-- The items of an array with commas between them. -/
def compactItems : List Json → String
  | [] => ""
  | [item] => compact item
  | item :: rest => compact item ++ "," ++ compactItems rest

/-- The fields of an object with commas between them. -/
def compactFields : List (String × Json) → String
  | [] => ""
  | [(name, value)] => quote name ++ ":" ++ compact value
  | (name, value) :: rest => quote name ++ ":" ++ compact value ++ "," ++ compactFields rest

end

/-- A new line at a depth of nesting. -/
def newLine (depth : Nat) : String :=
  "\n" ++ String.ofList (List.replicate (2 * depth) ' ')

mutual

/-- A value inside `depth` containers, with every item on a line of its own. -/
def prettyAt (depth : Nat) : Json → String
  | .array [] => "[]"
  | .array items => "[" ++ prettyItems (depth + 1) items ++ newLine depth ++ "]"
  | .object [] => "\x7b\x7d"
  | .object fields => "\x7b" ++ prettyFields (depth + 1) fields ++ newLine depth ++ "\x7d"
  | .null => "null"
  | .bool value => if value then "true" else "false"
  | .integer value => Decimal.ofInt value
  | .float value => floatText value
  | .text value => quote value

/-- The items of an array inside `depth` containers. -/
def prettyItems (depth : Nat) : List Json → String
  | [] => ""
  | [item] => newLine depth ++ prettyAt depth item
  | item :: rest => newLine depth ++ prettyAt depth item ++ "," ++ prettyItems depth rest

/-- The fields of an object inside `depth` containers. -/
def prettyFields (depth : Nat) : List (String × Json) → String
  | [] => ""
  | [(name, value)] => newLine depth ++ quote name ++ ": " ++ prettyAt depth value
  | (name, value) :: rest =>
      newLine depth ++ quote name ++ ": " ++ prettyAt depth value ++ "," ++
        prettyFields depth rest

end

/-- A value with every item on a line of its own. -/
def pretty (value : Json) : String :=
  prettyAt 0 value

end ProjectFiles.Json
