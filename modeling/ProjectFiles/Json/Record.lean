import ProjectFiles.Json.Basic

/-!
# Records in JSON

A record is written as an object with one field per part.  It is read from such
an object, where unknown fields do not matter, or from an array of its parts in
the order of their declaration.  A part can be required, have a default, or be
optional; an optional part that is absent is written as `null`.
-/

namespace ProjectFiles.Json

/-! ## Plain values -/

/-- Read a text. -/
def text? : Json → Option String
  | .text value => some value
  | _ => none

/-- Read a truth value. -/
def bool? : Json → Option Bool
  | .bool value => some value
  | _ => none

/-- Read `null` as nothing and everything else as a value. -/
def nullable? {α : Type} (read : Json → Option α) : Json → Option (Option α)
  | .null => some none
  | other => (read other).map some

/-- Write nothing as `null`. -/
def ofNullable {α : Type} (write : α → Json) : Option α → Json
  | some value => write value
  | none => .null

/-- Read an array of values. -/
def list? {α : Type} (read : Json → Option α) : Json → Option (List α)
  | .array items => items.mapM read
  | _ => none

/-- Write a list as an array. -/
def ofList {α : Type} (write : α → Json) (values : List α) : Json :=
  .array (values.map write)

/-- Read one field of a map of texts. -/
def textField? (field : String × Json) : Option (String × String) :=
  (text? field.2).map fun value => (field.1, value)

/-- Read an object whose fields are texts. -/
def textMap? : Json → Option (SortedMap String String)
  | .object fields => (fields.mapM textField?).map SortedMap.ofList
  | _ => none

/-- Write a map of texts as an object. -/
def ofTextMap (map : SortedMap String String) : Json :=
  .object (map.entries.map fun entry => (entry.1, .text entry.2))

/-! ## Records -/

/-- The parts of a record, by name or by position. -/
inductive Record where
  | named (fields : List (String × Json))
  | positional (parts : List Json)

namespace Record

/-- Read the parts of a record of at most `arity` parts. -/
def ofJson? (arity : Nat) : Json → Option Record
  | .object fields => some (.named fields)
  | .array parts => if parts.length ≤ arity then some (.positional parts) else none
  | _ => none

/-- The part of a name and a position. -/
def part? (record : Record) (position : Nat) (name : String) : Option Json :=
  match record with
  | named fields => (fields.find? fun field => field.1 == name).map (·.2)
  | positional parts => parts[position]?

/-- Read a part that has to be there. -/
def required {α : Type} (record : Record) (position : Nat) (name : String)
    (read : Json → Option α) : Option α :=
  (record.part? position name).bind read

/-- Read a part that stands for `default` when it is not there. -/
def defaulting {α : Type} (record : Record) (position : Nat) (name : String)
    (read : Json → Option α) (default : α) : Option α :=
  match record.part? position name with
  | some json => read json
  | none => some default

/-- Read a part that may be `null`, and that need not be there when parts have
names. -/
def optional {α : Type} (record : Record) (position : Nat) (name : String)
    (read : Json → Option α) : Option (Option α) :=
  match record.part? position name, record with
  | some json, _ => nullable? read json
  | none, named _ => some none
  | none, positional _ => none

end Record

/-! ## Variants -/

/-- Read the name of a variant and, when it has one, its contents.  A variant
without contents is its name; any other is an object with the name as its only
field. -/
def variant? : Json → Option (String × Option Json)
  | .text name => some (name, none)
  | .object [(name, contents)] => some (name, some contents)
  | _ => none

/-- Whether the contents of a variant are those of a variant that has none. -/
def isEmptyVariant : Option Json → Bool
  | none => true
  | some .null => true
  | some _ => false

end ProjectFiles.Json
