import ProjectFiles.Model.Encoding
import ProjectFiles.Validation.FieldDiff

/-!
# Validation of the configurations of one file

The configurations of a project file agree on the project and differ in name or
platform.  Sorted by name and platform they have a canonical order.
-/

namespace ProjectFiles

namespace Configuration

/-- Sort configurations by name and platform; equal ones keep their order. -/
def sorted (configurations : List Configuration) : List Configuration :=
  configurations.mergeSort fun left right => (compareIdentity left right).isLE

/-- What two configurations of one identity have different. -/
def collision (first second : Configuration) : Conflict :=
  .sameIdentity first.projectName first.name first.platform (first.toJson.diff second.toJson)

/-- The first configuration of a sorted list that has the identity of the one
before it, with that one. -/
def firstCollision? : List Configuration → Option (Configuration × Configuration)
  | first :: second :: rest =>
      if first.identity = second.identity then some (first, second)
      else firstCollision? (second :: rest)
  | _ => none

/-- What contradicts itself in sorted configurations whose first is `first`:
project names before project identifiers, and both before equal identities. -/
def conflict? (first : Configuration) (sorted : List Configuration) : Option Conflict :=
  match sorted.find? fun other => other.projectName != first.projectName with
  | some other => some (.projectNames first.projectName other.projectName)
  | none =>
      match sorted.find? fun other => other.projectGuid != first.projectGuid with
      | some other => some (.projectGuids first.projectGuid other.projectGuid other.display)
      | none => (firstCollision? sorted).map fun pair => collision pair.1 pair.2

/-- Sort the configurations of a file, or say why they do not belong together. -/
def sortAndValidate (file : Path) (configurations : List Configuration) :
    Except GenerationError (List Configuration) :=
  match sorted configurations with
  | [] => .error (.invalidModel (.noConfigurations file))
  | first :: rest =>
      match conflict? first (first :: rest) with
      | some conflict => .error (.configurationConflict file conflict)
      | none => .ok (first :: rest)

end Configuration

end ProjectFiles
