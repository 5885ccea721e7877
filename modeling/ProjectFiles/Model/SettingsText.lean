import ProjectFiles.Model.Encoding
import ProjectFiles.Yaml.Node

/-!
# Settings in YAML

Settings are written as a mapping, of which every part can be left out.  Keys
without a meaning are ignored, and a key with one occurs once at most.
-/

namespace ProjectFiles

namespace Yaml

/-- The words for nothing. -/
def nullWords : List String :=
  ["~", "null", "Null", "NULL"]

/-- The tag of a type of scalars. -/
def typeTag (name : String) : TagText :=
  .readable ("tag:yaml.org,2002:" ++ name)

namespace Scalar

/-- Read a truth value.  It is plain, or a literal block with the tag for it. -/
def bool? (scalar : Scalar) : Option Bool :=
  if scalar.style = .plain ∨ (scalar.style = .literal ∧ scalar.tag = some (typeTag "bool")) then
    if ["true", "True", "TRUE"].contains scalar.text then some true
    else if ["false", "False", "FALSE"].contains scalar.text then some false
    else none
  else none

/-- Read a text or nothing, which is plain and either empty or a word for it. -/
def optionalText? (scalar : Scalar) : Option (Option String) :=
  if scalar.style ≠ .plain then some (some scalar.text)
  else
    match scalar.tag with
    | none =>
        some (if scalar.text.isEmpty || nullWords.contains scalar.text then none
          else some scalar.text)
    | some tag =>
        if tag = typeTag "null" then
          if nullWords.contains scalar.text then some none else none
        else some (some scalar.text)

/-- The name in a tag of one's own, which starts with an exclamation mark. -/
def ownTag? (scalar : Scalar) : Option String :=
  match scalar.tag with
  | some (.readable tag) =>
      match tag.toList with
      | '!' :: name => some (String.ofList name)
      | _ => none
  | _ => none

/-- Read the name of an alternative.  A tag of its own names one when nothing
follows it. -/
def alternative? (scalar : Scalar) : Option String :=
  match scalar.ownTag? with
  | some name =>
      if scalar.style = .plain && (scalar.text.isEmpty || nullWords.contains scalar.text) then
        some name
      else none
  | none => some scalar.text

end Scalar

/-- Read the entry of a mapping with a given key.  There is one at most, and its
value is a scalar. -/
def entry? {α : Type} (entries : List (String × Option Scalar)) (key : String)
    (read : Scalar → Option α) (default : α) : Option α :=
  match entries.filter fun entry => entry.1 == key with
  | [] => some default
  | [(_, value)] => value.bind read
  | _ => none

/-- Read the entries of a mapping whose keys are scalars, with the values that
are scalars.  A document without a node, or with an empty one, has none. -/
def Document.entries? (document : Document) : Option (List (String × Option Scalar)) :=
  match document.root with
  | none => some []
  | some (.mapping entries) =>
      entries.mapM fun (key, value) =>
        (document.scalar? key).map fun key => (key.text, document.scalar? value)
  | some node =>
      (document.scalar? node).bind fun scalar =>
        if scalar.style = .plain && scalar.text.isEmpty then some [] else none

end Yaml

/-- Read settings from a text. -/
def Settings.ofYaml? (text : String) : Option Settings := do
  let entries ← (← Yaml.Document.ofText? text).entries?
  let standard : Settings := {}
  let dependencyCheck ← Yaml.entry? entries "dependency_check"
    (fun scalar => scalar.alternative?.bind DependencyCheck.ofName?) standard.dependencyCheck
  let parallel ← Yaml.entry? entries "parallel" Yaml.Scalar.bool? standard.parallel
  let overwriteReadOnly ←
    Yaml.entry? entries "overwrite_read_only" Yaml.Scalar.bool? standard.overwriteReadOnly
  let cleanupDatabase ← Yaml.entry? entries "cleanup_database"
    (fun scalar => scalar.optionalText?.map (·.map Path.mk)) standard.cleanupDatabase
  let caseSensitivePlaceholders ← Yaml.entry? entries "case_sensitive_placeholders"
    Yaml.Scalar.bool? standard.caseSensitivePlaceholders
  some
    { dependencyCheck, parallel, overwriteReadOnly, cleanupDatabase, caseSensitivePlaceholders }

end ProjectFiles
