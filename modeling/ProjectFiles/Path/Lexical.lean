import ProjectFiles.Guid
import ProjectFiles.Path.Basic

/-!
# Lexical normal forms of paths

Three ways to bring different spellings of a path together without looking at
any file system.  `absolute` starts at the root and keeps `..`.  `normalized`
lets `..` cancel the name before it, and `relativeTo` leads from a directory to
a path along such forms.  `identifierName` cancels in the same way but also
takes the root for a step that `..` can undo.
-/

namespace ProjectFiles.Path

/-! ## Absolute paths -/

/-- The directory that relative paths start at. -/
def workingDirectory : Path := ⟨"/"⟩

/-- The path from the root on, without idle components.  Exactly two slashes at
the start and a slash at the end are kept, and the empty path is left alone. -/
def absolute (path : Path) : Path :=
  let characters := path.text.toList
  if characters.isEmpty then
    path
  else
    let names := path.components.filter fun component => component != .root && component != .here
    let start : Path :=
      if !path.hasRoot then workingDirectory
      else if ['/', '/'].isPrefixOf characters && !(['/', '/', '/'].isPrefixOf characters) then
        ⟨"//"⟩
      else ⟨"/"⟩
    let whole := names.foldl (fun path component => path.join ⟨component.text⟩) start
    if characters.getLast? == some '/' then whole.join ⟨""⟩ else whole

/-! ## Normal forms -/

/-- Put a component behind a normal form, which is held in reverse. -/
def pushNormal (reversed : List Component) (component : Component) : List Component :=
  match component, reversed with
  | .here, _ => reversed
  | .up, .name _ :: rest => rest
  | other, _ => other :: reversed

/-- The components of a path, where `..` has cancelled the names before it. -/
def normalized (path : Path) : List Component :=
  (path.components.foldl pushNormal []).reverse

/-- The number of components that two lists start with in common. -/
def commonLength : List Component → List Component → Nat
  | left :: lefts, right :: rights => if left = right then commonLength lefts rights + 1 else 0
  | _, _ => 0

/-- The way from the directory `start` to `path`.  Between a rooted and a
relative path there is none, and `path` is left as it is. -/
def relativeTo (start path : Path) : Path :=
  if start.hasRoot != path.hasRoot then
    path
  else
    let source := start.normalized
    let target := path.normalized
    let common := commonLength source target
    let way := List.replicate (source.length - common) .up ++ target.drop common
    let relative := ofComponents way
    if relative.text.isEmpty then ⟨"."⟩ else relative

/-! ## Names of identifiers -/

/-- Put a component behind the steps of a name, which are held in reverse.  The
root is the empty step. -/
def pushStep (reversed : List String) (component : Component) : List String :=
  match component with
  | .here => reversed
  | .root => "" :: reversed
  | .name text => text :: reversed
  | .up =>
      match reversed with
      | [] => [".."]
      | last :: rest => if last = ".." then ".." :: reversed else rest

/-- The text that the identifier of a project file is computed from. -/
def identifierName (path : Path) : String :=
  "/".intercalate (path.components.foldl pushStep []).reverse

/-- The identifier of the project of a project file. -/
def projectGuid (path : Path) : Guid :=
  Guid.ofName Guid.urlNamespace path.identifierName

end ProjectFiles.Path
