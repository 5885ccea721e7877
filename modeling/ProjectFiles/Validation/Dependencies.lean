import ProjectFiles.Model.Configuration
import ProjectFiles.Model.Settings

/-!
# Dependencies of sibling configurations

The configurations of one file refer to other projects.  For the file as a whole
every project counts once, and configurations that disagree on the projects they
depend on are reported.
-/

namespace ProjectFiles

/-- What a validation has found. -/
structure ValidationResult where
  valid : Bool
  errors : List String
  warnings : List String
  deriving DecidableEq, Repr

namespace ValidationResult

/-- Nothing found. -/
def new : ValidationResult := ⟨true, [], []⟩

/-- The result that nothing has been validated for. -/
def unchecked : ValidationResult := ⟨false, [], []⟩

/-- Add an error; the result is no longer valid. -/
def addError (result : ValidationResult) (message : String) : ValidationResult :=
  { result with valid := false, errors := result.errors ++ [message] }

/-- Add a warning. -/
def addWarning (result : ValidationResult) (message : String) : ValidationResult :=
  { result with warnings := result.warnings ++ [message] }

/-- Add everything that another validation has found. -/
def merge (result other : ValidationResult) : ValidationResult where
  valid := result.valid && other.valid
  errors := result.errors ++ other.errors
  warnings := result.warnings ++ other.warnings

end ValidationResult

namespace ProjectReference

/-- Keep the first reference of every identity. -/
def distinct (references : List ProjectReference) : List ProjectReference :=
  references.foldl
    (fun seen reference =>
      if seen.any fun other => other.sameIdentity reference then seen else seen ++ [reference])
    []

end ProjectReference

namespace Configuration

/-- The projects that configurations refer to, in the order in which they are
first seen. -/
def consolidatedDependencies (configurations : List Configuration) : List ProjectReference :=
  ProjectReference.distinct (configurations.flatMap (·.dependencies))

/-- The identities of configurations as a message lists them. -/
def labels (configurations : List Configuration) : String :=
  ", ".intercalate (configurations.map label)

/-- The report on a project that only some configurations refer to. -/
def inconsistency? (configurations : List Configuration) (reference : ProjectReference) :
    Option String :=
  let having := configurations.filter fun configuration => configuration.refersTo reference
  let missing := configurations.filter fun configuration => !configuration.refersTo reference
  if missing.isEmpty then none
  else
    some (reference.projectName ++ " (" ++ reference.projectFile.text ++ ") is a dependency of " ++
      labels having ++ " but not of " ++ labels missing)

/-- The reports on all projects that only some configurations refer to. -/
def inconsistencies (configurations : List Configuration) : List String :=
  (consolidatedDependencies configurations).filterMap (inconsistency? configurations)

/-- Check that configurations refer to the same projects, with the severity that
the settings ask for. -/
def checkDependencyConsistency (project : String) (configurations : List Configuration)
    (check : DependencyCheck) : Except GenerationError ValidationResult :=
  if check = .ignore ∨ configurations.length < 2 then
    .ok .new
  else
    match inconsistencies configurations, check with
    | [], _ => .ok .new
    | findings, .error =>
        .error (.dependencyInconsistency project ("\n".intercalate findings))
    | findings, _ => .ok (findings.foldl ValidationResult.addWarning .new)

end Configuration

end ProjectFiles
