import ProjectFiles.Model.Configuration

/-!
# Projects and solutions

A project is a named group of configurations with its source files; its kind
decides what sort of file is generated.  A solution brings configurations of
several projects together under configurations of its own.
-/

namespace ProjectFiles

/-- Settings of an Android packaging project. -/
structure AndroidPackage where
  androidManifest : Path
  antBuildXml : Path
  antProjectProperties : Path
  /-- The directory that the ant build runs from. -/
  antBuildRoot : Path
  /-- The project whose dynamic library the activity loads first. -/
  appLibProject : Option String
  deriving DecidableEq, Repr

/-- Settings of a Python project. -/
structure PythonProject where
  searchPaths : List Path
  startupFile : Option Path
  interpreterId : Option Guid
  interpreterVersion : Option String
  deriving DecidableEq, Repr

/-- What kind of file a project is generated into. -/
inductive ProjectKind where
  | cpp
  | cSharp (rootNamespace : String)
  | python (settings : PythonProject)
  | androidPackage (package : AndroidPackage)
  deriving DecidableEq, Repr

/-- A named group of configurations. -/
structure Project where
  name : String
  kind : ProjectKind
  /-- The directory that source files are relative to. -/
  sourceRoot : Path
  sourceFiles : List Path
  configurations : List Configuration
  deriving DecidableEq

namespace Project

/-- Put a configuration behind the others of its file. -/
def addToGroup (configuration : Configuration) :
    List (Path × List Configuration) → List (Path × List Configuration)
  | [] => [(configuration.projectFile, [configuration])]
  | (file, members) :: rest =>
      if file.same configuration.projectFile then
        (file, members ++ [configuration]) :: rest
      else
        (file, members) :: addToGroup configuration rest

/-- The configurations of every generated file, in the order in which the files
are first seen. -/
def configurationsByFile (project : Project) : List (Path × List Configuration) :=
  project.configurations.foldl (fun groups configuration => addToGroup configuration groups) []

end Project

/-- A configuration of a project as a solution configuration includes it. -/
structure IncludedProject where
  project : ProjectReference
  configuration : String
  platform : String
  /-- Whether building the solution builds the project. -/
  build : Bool
  deriving DecidableEq, Repr

/-- A configuration of a solution. -/
structure SolutionConfiguration where
  name : String
  platform : String
  projects : List IncludedProject
  deriving DecidableEq, Repr

namespace SolutionConfiguration

/-- Include a configuration of a project, to be built with the solution. -/
def withProject (solution : SolutionConfiguration) (configuration : Configuration) :
    SolutionConfiguration :=
  { solution with
    projects := solution.projects ++
      [{ project := configuration.asReference
         configuration := configuration.name
         platform := configuration.platform
         build := true }] }

/-- The name of the configuration's sections in the solution file. -/
def sectionName (configuration : SolutionConfiguration) : String :=
  configuration.name ++ "|" ++ configuration.platform

end SolutionConfiguration

/-- Several projects under common configurations. -/
structure Solution where
  name : String
  /-- The file that is generated, extension included. -/
  file : Path
  configurations : List SolutionConfiguration
  deriving DecidableEq, Repr

end ProjectFiles
