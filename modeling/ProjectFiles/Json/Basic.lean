import ProjectFiles.Binary64.Shortest
import ProjectFiles.SortedMap

/-!
# JSON values

Numbers are either integers that fit a signed or an unsigned 64-bit word, or
64-bit floating-point numbers; an integer and a floating-point number are never
equal.  The fields of an object stand in the order in which they are written.
-/

namespace ProjectFiles

/-- A JSON value. -/
inductive Json where
  | null
  | bool (value : Bool)
  | integer (value : Int)
  | float (value : Binary64)
  | text (value : String)
  | array (items : List Json)
  | object (fields : List (String × Json))
  deriving Inhabited

namespace Json

/-- The object of a list of fields: sorted by name, and the last value of a
name wins. -/
def ofFields (fields : List (String × Json)) : Json :=
  .object (SortedMap.ofList fields).entries

/-- The value of a field of an object. -/
def field? (name : String) : Json → Option Json
  | .object fields => (fields.find? fun field => field.1 == name).map (·.2)
  | _ => none

mutual

/-- Equality of values, where floating-point numbers are compared as numbers
and fields in order. -/
def same : Json → Json → Bool
  | .null, .null => true
  | .bool left, .bool right => left == right
  | .integer left, .integer right => left == right
  | .float left, .float right => left.equal right
  | .text left, .text right => left == right
  | .array left, .array right => sameItems left right
  | .object left, .object right => sameFields left right
  | _, _ => false

/-- Equality of lists of values. -/
def sameItems : List Json → List Json → Bool
  | [], [] => true
  | left :: lefts, right :: rights => same left right && sameItems lefts rights
  | _, _ => false

/-- Equality of lists of fields. -/
def sameFields : List (String × Json) → List (String × Json) → Bool
  | [], [] => true
  | (leftName, left) :: lefts, (rightName, right) :: rights =>
      leftName == rightName && same left right && sameFields lefts rights
  | _, _ => false

end

end Json

end ProjectFiles
