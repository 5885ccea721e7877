import ProjectFiles.Generation.Generator

/-!
# Package lists

The C# projects of one directory share the file `packages.config`, which lists
the NuGet packages that they refer to.  The first project that has packages
writes it; a project without packages asks for its removal.
-/

namespace ProjectFiles.Format.PackageList

/-! ## Templates -/

/-- The start of a package list. -/
def listStart : String :=
  Text.unlines
    ["<?xml version=\"1.0\" encoding=\"utf-8\"?>",
      "<packages>"]

/-- One package of the list. -/
def packageItem : String :=
  "  <package id=\"[package.name]\" version=\"[package.version]\" targetFramework=\"[framework]\" />\n"

/-- The end of a package list. -/
def listEnd : String :=
  "</packages>\n"

/-! ## Packages -/

/-- The name of a package list. -/
def fileName : String := "packages.config"

/-- The package list beside a project file. -/
def path (context : GenerationContext) : Path :=
  context.directory.join ⟨fileName⟩

/-- The packages of all configurations by name and version, once each. -/
def packages (context : GenerationContext) : List PackageReference :=
  (SortedSet.ofList (context.configurations.flatMap (·.nugetReferences))).keys

/-- The folder of a framework inside a package: `net` and the digits of the
version. -/
def frameworkFolder (version : String) : String :=
  "net" ++ String.ofList (version.toList.filter Decimal.isDigit)

/-- Render a package list. -/
def render (context : GenerationContext) (packages : List PackageReference) (framework : String) :
    Except GenerationError String := do
  let (resolver, _) := context.resolver.declare "framework" (.text (frameworkFolder framework))
  let buffer := OutputBuffer.empty.writeVerbatim listStart
  let buffer ←
    packages.foldlM
      (fun buffer package =>
        buffer.writeIn resolver [("package", Value.ofJson package.toJson)] packageItem)
      buffer
  return (buffer.writeVerbatim listEnd).finalize

/-- The package list of a project, to be written or to be removed. -/
def pending (context : GenerationContext) (framework : String) :
    Except GenerationError PendingOutput :=
  match packages context with
  | [] => .ok (.staleShared (path context))
  | packages => (render context packages framework).map (.shared (path context))

end ProjectFiles.Format.PackageList
