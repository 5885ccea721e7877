import ProjectFiles.Error
import ProjectFiles.Json.Basic

/-!
# Values of template parameters

A value is bound to the name of a placeholder or stored under the key of an
option.  Scalars and lists have a text; objects have fields that dotted paths
lead to.  The value `omit` has a marker for its text, and every line of output
that holds the marker is dropped.
-/

namespace ProjectFiles

/-- A value that can be bound to a placeholder. -/
inductive Value where
  | text (value : String)
  | integer (value : Int)
  | float (value : Binary64)
  | bool (value : Bool)
  | list (items : List Value)
  /-- Fields in the order of their names. -/
  | object (fields : List (String × Value))
  /-- Drop every line this value is written to. -/
  | omit
  deriving Inhabited

namespace Value

/-- The text that marks a line of output for removal. -/
def omitTag : String := "REMOVE_LINE_TAG"

/-- Whether the value is the omitted one. -/
def isOmit : Value → Bool
  | .omit => true
  | _ => false

/-- Follow field names into a value. -/
def lookup? : List String → Value → Option Value
  | [], value => some value
  | name :: rest, .object fields =>
      match (fields.find? fun field => field.1 == name).map (·.2) with
      | some field => lookup? rest field
      | none => none
  | _ :: _, _ => none

mutual

/-- The text of a value: list items are separated by semicolons, and neither an
object nor a list that holds one has a text. -/
def scalarText? : Value → Option String
  | .text value => some value
  | .integer value => some (Decimal.ofInt value)
  | .float value => some value.plainText
  | .bool value => some (if value then "true" else "false")
  | .omit => some omitTag
  | .list items => (itemTexts? items).map (";".intercalate ·)
  | .object _ => none

/-- The texts of list items. -/
def itemTexts? : List Value → Option (List String)
  | [] => some []
  | item :: rest =>
      match scalarText? item, itemTexts? rest with
      | some first, some others => some (first :: others)
      | _, _ => none

end

/-- The text that replaces a placeholder of the given path. -/
def render (value : Value) (path : String) : Except GenerationError String :=
  match value.scalarText? with
  | some rendered => .ok rendered
  | none => .error (.notScalar path)

/-- The text of a value in a message. -/
def display (value : Value) : String :=
  value.scalarText?.getD "<object>"

mutual

/-- Equality of values.  Floating-point numbers are compared as numbers, so a
NaN differs from itself. -/
def same : Value → Value → Bool
  | .text left, .text right => left == right
  | .integer left, .integer right => left == right
  | .float left, .float right => left.equal right
  | .bool left, .bool right => left == right
  | .list left, .list right => sameItems left right
  | .object left, .object right => sameFields left right
  | .omit, .omit => true
  | _, _ => false

/-- Equality of lists of values. -/
def sameItems : List Value → List Value → Bool
  | [], [] => true
  | left :: lefts, right :: rights => same left right && sameItems lefts rights
  | _, _ => false

/-- Equality of lists of fields. -/
def sameFields : List (String × Value) → List (String × Value) → Bool
  | [], [] => true
  | (leftName, left) :: lefts, (rightName, right) :: rights =>
      leftName == rightName && same left right && sameFields lefts rights
  | _, _ => false

end

/-- Whether an integer fits a signed 64-bit word. -/
def fitsWord (n : Int) : Bool :=
  -9223372036854775808 ≤ n && n ≤ 9223372036854775807

mutual

/-- The value of a JSON value: `null` is omitted, and an integer beyond the
signed 64-bit words becomes a floating-point number. -/
def ofJson : Json → Value
  | .null => .omit
  | .bool value => .bool value
  | .integer value =>
      if fitsWord value then .integer value else .float (Binary64.ofNat value.toNat)
  | .float value => .float value
  | .text value => .text value
  | .array items => .list (ofJsonItems items)
  | .object fields => .object (ofJsonFields fields)

/-- The values of array items. -/
def ofJsonItems : List Json → List Value
  | [] => []
  | item :: rest => ofJson item :: ofJsonItems rest

/-- The values of the fields of an object. -/
def ofJsonFields : List (String × Json) → List (String × Value)
  | [] => []
  | (name, value) :: rest => (name, ofJson value) :: ofJsonFields rest

end

/-- The value of a text that may be missing. -/
def ofText? : Option String → Value
  | some value => .text value
  | none => .omit

/-- The object of a list of fields, in the order of their names. -/
def ofFields (fields : List (String × Value)) : Value :=
  .object (SortedMap.ofList fields).entries

end Value

end ProjectFiles
