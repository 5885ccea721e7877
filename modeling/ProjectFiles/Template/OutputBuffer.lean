import ProjectFiles.Template.Resolver
import ProjectFiles.Text.Lines

/-!
# Output under construction

An `OutputBuffer` collects resolved templates and plain texts.  When it is
finished, every line that holds the marker of an omitted value is dropped; the
lines that stay keep their own terminators.
-/

namespace ProjectFiles

/-- Text collected for one output. -/
structure OutputBuffer where
  /-- The text before tagged lines are dropped. -/
  text : String
  deriving DecidableEq, Repr, Inhabited

namespace OutputBuffer

/-- Drop every line that holds the omit marker. -/
def removeTaggedLines (text : String) : String :=
  let tag := Value.omitTag.toList
  if Text.occursIn tag text.toList then
    String.ofList ((Text.lines text.toList).filter fun line => !Text.occursIn tag line).flatten
  else
    text

/-- The buffer without text. -/
def empty : OutputBuffer := ⟨""⟩

/-- Resolve a template and put it behind the text. -/
def write (buffer : OutputBuffer) (resolver : Resolver) (template : String) :
    Except GenerationError OutputBuffer := do
  let resolved ← resolver.resolve template
  return ⟨buffer.text ++ resolved⟩

/-- Resolve a template inside a scope of its own and put it behind the text. -/
def writeIn (buffer : OutputBuffer) (resolver : Resolver) (assignments : List (String × Value))
    (template : String) : Except GenerationError OutputBuffer := do
  let (inner, _) ← resolver.declareAll assignments
  buffer.write inner template

/-- Put a text behind the text as it is. -/
def writeVerbatim (buffer : OutputBuffer) (text : String) : OutputBuffer :=
  ⟨buffer.text ++ text⟩

/-- Whether nothing has been written. -/
def isEmpty (buffer : OutputBuffer) : Bool :=
  buffer.text.isEmpty

/-- The text without its tagged lines. -/
def finalize (buffer : OutputBuffer) : String :=
  removeTaggedLines buffer.text

end OutputBuffer

end ProjectFiles
