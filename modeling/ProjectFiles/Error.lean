import ProjectFiles.Guid
import ProjectFiles.Path.Basic

/-!
# Errors of generation

Every way in which generation can fail is a cause with the data that explain it.
`GenerationError.message` is the only place that words them.
-/

namespace ProjectFiles

/-- One field in which two values differ, with the two texts of the field. -/
structure FieldDifference where
  path : String
  left : String
  right : String
  deriving DecidableEq, Repr

/-- What contradicts itself in the configurations of one file. -/
inductive Conflict where
  /-- Two configurations name different projects. -/
  | projectNames (first other : String)
  /-- Two configurations carry different project identifiers. -/
  | projectGuids (first other : Guid) (configuration : String)
  /-- Two configurations have the same name and platform. -/
  | sameIdentity (project name platform : String) (differences : List FieldDifference)
  /-- An option of the whole project has several values. -/
  | optionValues (key : String) (values : List String)
  /-- Two configurations of a solution have the same section. -/
  | sectionTwice (name : String)
  /-- One section of a solution includes a project twice. -/
  | includedTwice (project name : String)
  /-- One project file comes with two identifiers. -/
  | twoGuids (file : Path) (first other : Guid)
  /-- One identifier comes with two project files. -/
  | sharedGuid (guid : Guid) (first other : Path)
  /-- Any other contradiction. -/
  | stated (message : String)
  deriving DecidableEq, Repr

/-- What is missing from a model or cannot be expressed. -/
inductive ModelFault where
  /-- No configuration belongs to the file. -/
  | noConfigurations (file : Path)
  /-- A project file of a solution has an extension of no project type. -/
  | unknownProjectType (extension : String) (file : Path)
  /-- No generator is registered for the extension. -/
  | noGenerator (extension : String) (file : Path)
  /-- The generator of the extension does not take this kind of project. -/
  | unsupportedKind (generator : String) (file : Path)
  /-- The project has no configurations. -/
  | emptyProject (project : String)
  /-- The solution has no configurations. -/
  | emptySolution (solution : String)
  /-- Any other fault. -/
  | stated (message : String)
  deriving DecidableEq, Repr

/-- What a store of files refuses to do. -/
inductive StoreFault where
  | readOnly (path : Path)
  | missing (path : Path)
  | locked (path : Path)
  /-- Any other fault. -/
  | stated (message : String)
  deriving DecidableEq, Repr

/-- Why generation failed. -/
inductive GenerationError where
  | configurationConflict (file : Path) (conflict : Conflict)
  | missingBinding (name template available : String)
  | duplicateBinding (name : String)
  | notScalar (path : String)
  | recursionLimit (template : String)
  | dependencyInconsistency (project details : String)
  | filesystemConflict (path : Path) (reason : String)
  | noOptionMatch (configuration axis : String)
  | optionKeyCollision (configuration key axis owner : String)
  | unsupportedDependency (configuration message : String)
  | invalidModel (fault : ModelFault)
  | io (fault : StoreFault)
  | json
  | yaml
  deriving DecidableEq, Repr

/-- The line that reports one differing field. -/
def FieldDifference.line (difference : FieldDifference) : String :=
  "\n- " ++ difference.path ++ ": " ++ difference.left ++ " and " ++ difference.right

/-- The wording of a conflict. -/
def Conflict.message : Conflict → String
  | projectNames first other =>
      "configurations of one project file must share a project name: " ++ first ++ " != " ++ other
  | projectGuids first other configuration =>
      "project GUID differs between configurations: " ++ first.hyphenated ++ " != " ++
        other.hyphenated ++ " (" ++ configuration ++ ")"
  | sameIdentity project name platform differences =>
      "project '" ++ project ++ "' contains distinct configurations with the same identity " ++
        name ++ "|" ++ platform ++
        if differences.isEmpty then
          "; the same configuration is declared twice"
        else
          ", add something to distinguish them. Differing fields:" ++
            String.join (differences.map FieldDifference.line)
  | optionValues key values =>
      "option '" ++ key ++ "' has conflicting values across configurations: " ++
        ", ".intercalate (values.map fun value => "\"" ++ value ++ "\"")
  | sectionTwice name => "solution configuration '" ++ name ++ "' is declared twice"
  | includedTwice project name =>
      "project " ++ project ++ " is included twice in solution configuration '" ++ name ++ "'"
  | twoGuids file first other =>
      file.text ++ " is listed under two GUIDs: " ++ first.braced ++ " and " ++ other.braced
  | sharedGuid guid first other =>
      "GUID " ++ guid.braced ++ " is shared by " ++ first.text ++ " and " ++ other.text
  | stated message => message

/-- The wording of a fault of the model. -/
def ModelFault.message : ModelFault → String
  | noConfigurations file => "no configurations for " ++ file.text
  | unknownProjectType extension file =>
      "unknown file extension '" ++ extension ++ "': unable to detect the project type of " ++
        file.text
  | noGenerator extension file => "no generator for '." ++ extension ++ "' files (" ++ file.text ++ ")"
  | unsupportedKind generator file => "generator " ++ generator ++ " cannot render " ++ file.text
  | emptyProject project => "project '" ++ project ++ "' has no configurations"
  | emptySolution solution => "solution '" ++ solution ++ "' has no configurations"
  | stated message => message

/-- The wording of a fault of the store. -/
def StoreFault.message : StoreFault → String
  | readOnly path => path.text ++ " is read-only"
  | missing path => path.text ++ " does not exist"
  | locked path => path.text ++ " is locked"
  | stated message => message

namespace GenerationError

/-- The wording of an error.  Texts that cannot be read are reported without
details. -/
def message : GenerationError → String
  | configurationConflict file conflict =>
      "Configuration conflict in " ++ file.text ++ ": " ++ conflict.message
  | missingBinding name template available =>
      "Cannot resolve parameter '" ++ name ++ "' in '" ++ template ++ "'\n" ++ available
  | duplicateBinding name =>
      "Parameter '" ++ name ++ "' is declared more than once in the same scope"
  | notScalar path => "Parameter path '" ++ path ++ "' does not resolve to a scalar value"
  | recursionLimit template => "Resolution of '" ++ template ++ "' did not converge"
  | dependencyInconsistency project details =>
      "Dependency inconsistency in project " ++ project ++ ":\n" ++ details
  | filesystemConflict path reason => "Cannot replace " ++ path.text ++ ": " ++ reason
  | noOptionMatch configuration axis =>
      "No option matched for axis '" ++ axis ++ "' in configuration " ++ configuration
  | optionKeyCollision configuration key axis owner =>
      "Option '" ++ key ++ "' of axis '" ++ axis ++ "' already set by axis '" ++ owner ++ "' in " ++
        configuration
  | unsupportedDependency configuration message =>
      "Unsupported dependency in configuration " ++ configuration ++ ": " ++ message
  | invalidModel fault => "Invalid project model: " ++ fault.message
  | io fault => "IO error: " ++ fault.message
  | json => "JSON error"
  | yaml => "YAML error"

/-- Whether the author of the model can mend the error, rather than its
environment. -/
def isAuthoring : GenerationError → Bool
  | configurationConflict .. | dependencyInconsistency .. | noOptionMatch ..
  | optionKeyCollision .. | unsupportedDependency .. | invalidModel .. => true
  | _ => false

end GenerationError

end ProjectFiles
