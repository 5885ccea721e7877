import ProjectFiles.Error
import ProjectFiles.Json.Printer

/-!
# Field-by-field differences of JSON values

Objects are compared field by field, at every depth that only objects lead to;
a field that is missing counts as `null`.  Everything else, lists included, is
compared as a whole.
-/

namespace ProjectFiles.Json

/-- The names that occur in either of two objects, in order and once each. -/
def unionNames (left right : List (String × Json)) : List String :=
  (SortedSet.ofList (left.map (·.1) ++ right.map (·.1))).keys

/-- The value of a field, where a missing field is `null`. -/
def fieldOrNull (name : String) (fields : List (String × Json)) : Json :=
  ((fields.find? fun field => field.1 == name).map (·.2)).getD .null

/-- The path of a field below a path. -/
def childPath (path name : String) : String :=
  if path.isEmpty then name else path ++ "." ++ name

/-- The number of containers inside each other along the fields of objects. -/
def objectDepth : Json → Nat
  | .object fields => depthOfFields fields + 1
  | _ => 0
where
  /-- The greatest depth among fields. -/
  depthOfFields : List (String × Json) → Nat
    | [] => 0
    | (_, value) :: rest => max (objectDepth value) (depthOfFields rest)

/-- The differences of two values down to a depth of nested objects. -/
def diffWithin : Nat → String → Json → Json → List FieldDifference
  | depth + 1, path, .object left, .object right =>
      (unionNames left right).flatMap fun name =>
        diffWithin depth (childPath path name) (fieldOrNull name left) (fieldOrNull name right)
  | _, path, left, right =>
      if left.same right then [] else [⟨path, left.compact, right.compact⟩]

/-- The differences of two values. -/
def diff (left right : Json) : List FieldDifference :=
  diffWithin (left.objectDepth + 1) "" left right

end ProjectFiles.Json
