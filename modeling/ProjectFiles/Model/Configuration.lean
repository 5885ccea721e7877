import ProjectFiles.Path.Lexical
import ProjectFiles.Value

/-!
# Configurations of projects

A configuration is one build variant of a project: a name and a platform, the
file it is generated into, what it builds, and what it depends on.  It refers to
configurations of other projects through snapshots, never by ownership.
-/

namespace ProjectFiles

/-- The kind of binary that a configuration produces. -/
inductive OutputKind where
  | exe
  | lib
  | dll
  | utility
  | none
  | dotNetConsoleApp
  | dotNetWindowsApp
  | dotNetClassLibrary
  deriving DecidableEq, Repr, Inhabited

namespace OutputKind

/-- Whether the binary runs on .NET. -/
def isDotNet : OutputKind → Bool
  | dotNetConsoleApp | dotNetWindowsApp | dotNetClassLibrary => true
  | _ => false

/-- Whether the binary can be started. -/
def isExecutable : OutputKind → Bool
  | exe | dotNetConsoleApp | dotNetWindowsApp => true
  | _ => false

end OutputKind

/-- The target of a configuration, as named fragments such as an optimization or
a toolchain. -/
structure Target where
  fragments : SortedMap String String
  deriving DecidableEq

namespace Target

/-- The target without fragments. -/
def empty : Target := ⟨.empty⟩

/-- The value of a fragment. -/
def get? (target : Target) (fragment : String) : Option String :=
  target.fragments.get? fragment

/-- The values of all fragments, in the order of the fragments' names. -/
def display (target : Target) : String :=
  "_".intercalate target.fragments.values

end Target

/-- A snapshot by which one configuration refers to another project's. -/
structure ProjectReference where
  projectName : String
  /-- The file of the referenced project. -/
  projectFile : Path
  guid : Guid
  output : OutputKind
  targetFileName : String
  /-- An exported project describes prebuilt binaries and gets no reference in
  generated files. -/
  exported : Bool
  deriving DecidableEq, Repr

/-- Whether two references name one project: the same file with the same
identifier. -/
def ProjectReference.sameIdentity (left right : ProjectReference) : Bool :=
  left.projectFile.same right.projectFile && left.guid == right.guid

/-- A reference to a NuGet package. -/
structure PackageReference where
  name : String
  version : String
  deriving DecidableEq, Repr

/-- Order by name, then by version. -/
instance : Ord PackageReference :=
  ⟨compareLex (compareOn PackageReference.name) (compareOn PackageReference.version)⟩

instance : Std.TransOrd PackageReference :=
  inferInstanceAs (Std.TransCmp
    (compareLex (compareOn PackageReference.name) (compareOn PackageReference.version)))

/-- One build variant of a project. -/
structure Configuration where
  name : String
  platform : String
  target : Target
  projectName : String
  projectGuid : Guid
  /-- The file that is generated, extension included. -/
  projectFile : Path
  output : OutputKind
  targetPath : Path
  intermediatePath : Path
  targetFileName : String
  defines : List String
  /-- Direct dependencies in the order of their declaration. -/
  dependencies : List ProjectReference
  /-- The chosen value of every option axis that has one. -/
  settings : SortedMap String String
  nugetReferences : List PackageReference
  deriving DecidableEq

namespace Configuration

/-- A configuration with defaults for everything but its names. -/
def new (projectName name platform : String) : Configuration where
  name := name
  platform := platform
  target := .empty
  projectName := projectName
  projectGuid := (Path.mk projectName).projectGuid
  projectFile := ⟨projectName⟩
  output := .exe
  targetPath := ⟨"bin"⟩
  intermediatePath := ⟨"obj"⟩
  targetFileName := projectName
  defines := []
  dependencies := []
  settings := .empty
  nugetReferences := []

/-- Give the project an identifier of its own. -/
def withGuid (configuration : Configuration) (guid : Guid) : Configuration :=
  { configuration with projectGuid := guid }

/-- Set the generated file.  An identifier that comes from the previous file
follows the new one; any other is kept. -/
def withProjectFile (configuration : Configuration) (file : Path) : Configuration :=
  { configuration with
    projectFile := file
    projectGuid :=
      if configuration.projectGuid = configuration.projectFile.projectGuid then file.projectGuid
      else configuration.projectGuid }

/-- Add a preprocessor definition. -/
def withDefine (configuration : Configuration) (define : String) : Configuration :=
  { configuration with defines := configuration.defines ++ [define] }

/-- Choose a value on an option axis. -/
def withSetting (configuration : Configuration) (axis value : String) : Configuration :=
  { configuration with settings := configuration.settings.insert axis value }

/-- Add a package. -/
def withNuget (configuration : Configuration) (name version : String) : Configuration :=
  { configuration with nugetReferences := configuration.nugetReferences ++ [⟨name, version⟩] }

/-- The snapshot by which dependents refer to a configuration. -/
def asReference (configuration : Configuration) : ProjectReference where
  projectName := configuration.projectName
  projectFile := configuration.projectFile
  guid := configuration.projectGuid
  output := configuration.output
  targetFileName := configuration.targetFileName
  exported := false

/-- Whether a configuration has a dependency of the reference's identity. -/
def refersTo (configuration : Configuration) (reference : ProjectReference) : Bool :=
  configuration.dependencies.any fun dependency => dependency.sameIdentity reference

/-- Add a dependency, unless there is one of the same identity. -/
def dependsOn (configuration other : Configuration) : Configuration :=
  if configuration.refersTo other.asReference then configuration
  else { configuration with dependencies := configuration.dependencies ++ [other.asReference] }

/-- The name and the platform, which tell the configurations of one file apart. -/
def identity (configuration : Configuration) : String × String :=
  (configuration.name, configuration.platform)

/-- Order by name, then by platform. -/
def compareIdentity : Configuration → Configuration → Ordering :=
  compareLex (compareOn Configuration.name) (compareOn Configuration.platform)

/-- The identity as one text. -/
def label (configuration : Configuration) : String :=
  configuration.name ++ "|" ++ configuration.platform

/-- The configuration as messages name it. -/
def display (configuration : Configuration) : String :=
  configuration.label ++ " (" ++ configuration.projectName ++ ")"

/-- The value chosen on an axis. -/
def chosen? (configuration : Configuration) (axis : String) : Option String :=
  configuration.settings.get? axis

/-- The value chosen on an axis; without a choice it is omitted. -/
def settingOrOmit (configuration : Configuration) (axis : String) : Value :=
  Value.ofText? (configuration.chosen? axis)

/-- The directory of the generated file. -/
def projectDirectory (configuration : Configuration) : Path :=
  configuration.projectFile.directory

end Configuration

end ProjectFiles
