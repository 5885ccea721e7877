import ProjectFiles.Generation.Context
import ProjectFiles.Output.Writer

/-!
# Generators of project files

A generator renders the project files of one extension.  It takes a context and
returns outputs that are not written yet.  A registry finds the generator of a
file by the file's extension, in any case.
-/

namespace ProjectFiles

/-- What renders the project files of an extension. -/
structure Generator where
  name : String
  /-- The extension of the files, without the point. -/
  extension : String
  /-- Whether a kind of project can be rendered. -/
  supports : ProjectKind → Bool
  /-- Render the outputs of a file, or say why that is not possible. -/
  generate : GenerationContext → Except GenerationError (List PendingOutput)

/-- Generators by extension, in lower case. -/
structure GeneratorRegistry where
  generators : SortedMap String Generator

namespace GeneratorRegistry

/-- The registry without generators. -/
def empty : GeneratorRegistry := ⟨.empty⟩

/-- Register a generator in place of an earlier one for its extension. -/
def register (registry : GeneratorRegistry) (generator : Generator) : GeneratorRegistry :=
  ⟨registry.generators.insert (Text.lowercase generator.extension) generator⟩

/-- The registry of a list of generators. -/
def ofList (generators : List Generator) : GeneratorRegistry :=
  generators.foldl register empty

/-- The generator of an extension. -/
def get? (registry : GeneratorRegistry) (extension : String) : Option Generator :=
  registry.generators.get? (Text.lowercase extension)

/-- The generator of a file, which has to support the project's kind. -/
def forFile (registry : GeneratorRegistry) (file : Path) (kind : ProjectKind) :
    Except GenerationError Generator :=
  match registry.get? file.extension with
  | none => .error (.invalidModel (.noGenerator file.extension file))
  | some generator =>
      if generator.supports kind then .ok generator
      else .error (.invalidModel (.unsupportedKind generator.name file))

/-- The registered extensions in order. -/
def extensions (registry : GeneratorRegistry) : List String :=
  registry.generators.keys

end GeneratorRegistry

end ProjectFiles
