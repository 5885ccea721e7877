import ProjectFiles.Text.Lowercase

/-!
# Paths of files

A `Path` is a text whose components are separated by slashes.  Repeated slashes,
components `.` other than a leading one, and a slash at the end do not count
when paths are compared: two spellings of one path compare as equal, and a path
is written the way it was spelled.  Components are ordered before their texts
are compared, so everything below a directory comes before its longer siblings.
-/

namespace ProjectFiles

/-- A path as it is spelled. -/
structure Path where
  text : String
  deriving DecidableEq, Repr, Inhabited

namespace Path

/-- One step of a path. -/
inductive Component where
  /-- The root directory, at the start of a path. -/
  | root
  /-- The directory itself, at the start of a relative path. -/
  | here
  /-- The directory above. -/
  | up
  /-- An entry of a directory. -/
  | name (text : String)
  deriving DecidableEq, Repr

namespace Component

/-- The text of a component. -/
def text : Component → String
  | root => "/"
  | here => "."
  | up => ".."
  | name text => text

/-- The place of a component among the kinds, and its text. -/
def orderKey : Component → Nat × String
  | root => (0, "")
  | here => (1, "")
  | up => (2, "")
  | name text => (3, text)

theorem orderKey_injective {left right : Component} (same : left.orderKey = right.orderKey) :
    left = right := by
  cases left <;> cases right <;> simp_all [orderKey]

/-- Order by kind, then by text. -/
instance : Ord Component :=
  ⟨@compareOn _ _ lexOrd orderKey⟩

instance : Std.TransOrd Component :=
  letI : Ord (Nat × String) := lexOrd
  haveI : Std.TransOrd (Nat × String) :=
    inferInstanceAs (Std.TransCmp (compareLex (compareOn fun key : Nat × String => key.1)
      (compareOn fun key : Nat × String => key.2)))
  inferInstanceAs (Std.TransCmp (compareOn orderKey))

end Component

/-- The texts between the slashes. -/
def segments (path : Path) : List (List Char) :=
  List.splitOn '/' path.text.toList

/-- Whether a path starts at the root. -/
def hasRoot (path : Path) : Bool :=
  path.text.toList.head? == some '/'

/-- The component that a segment stands for behind the first one. -/
def innerComponent? (segment : List Char) : Option Component :=
  if segment = [] ∨ segment = ['.'] then none
  else if segment = ['.', '.'] then some .up
  else some (.name (String.ofList segment))

/-- The components of a path. -/
def components (path : Path) : List Component :=
  match path.segments with
  | [] => []
  | first :: rest =>
      let inner := rest.filterMap innerComponent?
      if path.hasRoot then .root :: inner
      else if first = ['.'] then .here :: inner
      else (innerComponent? first).toList ++ inner

/-- Order by components. -/
instance : Ord Path := ⟨compareOn components⟩

instance : Std.TransOrd Path :=
  inferInstanceAs (Std.TransCmp (compareOn components))

/-- Whether two paths have the same components. -/
def same (left right : Path) : Bool :=
  left.components == right.components

/-- The path of `below` seen from the directory `path`: a rooted path stands for
itself, and any other is put behind the directory. -/
def join (path below : Path) : Path :=
  if below.hasRoot then below
  else
    let separator :=
      match path.text.toList.getLast? with
      | some c => if c = '/' then "" else "/"
      | none => ""
    ⟨path.text ++ separator ++ below.text⟩

/-- Put components together to a path. -/
def ofComponents (components : List Component) : Path :=
  components.foldl (fun path component => path.join ⟨component.text⟩) ⟨""⟩

/-- Whether a segment stands for no component behind the first one. -/
def isIdle (segment : List Char) : Bool :=
  segment = [] || segment = ['.']

/-- Take the last component off reversed segments, with everything idle around
it; nothing when there is no component. -/
def dropLastComponent? (reversed : List (List Char)) : Option (List (List Char)) :=
  match reversed.dropWhile isIdle with
  | [] => none
  | _ :: rest => some (rest.dropWhile isIdle)

/-- Put segments together with slashes. -/
def unsplit (segments : List (List Char)) : List Char :=
  List.intercalate ['/'] segments

/-- The directory of a path.  The root and the empty path have none. -/
def parent? (path : Path) : Option Path :=
  let split (head : List Char) (segments : List (List Char)) : Option Path :=
    (dropLastComponent? segments.reverse).map fun reversed =>
      ⟨String.ofList (head ++ unsplit reversed.reverse)⟩
  match path.segments with
  | [] => none
  | first :: rest =>
      if path.hasRoot then split ['/'] rest
      else if first = ['.'] then
        match dropLastComponent? rest.reverse with
        | none => some ⟨""⟩
        | some reversed => some ⟨String.ofList (unsplit (['.'] :: reversed.reverse))⟩
      else split [] (first :: rest)

/-- The directory of a path, empty when it has none. -/
def directory (path : Path) : Path :=
  path.parent?.getD ⟨""⟩

/-- The name of the entry that a path leads to. -/
def fileName? (path : Path) : Option String :=
  match path.components.getLast? with
  | some (.name text) => some text
  | _ => none

/-- What follows the last point of a file name that has something before it. -/
def extension? (path : Path) : Option String := do
  let name ← path.fileName?
  match (List.splitOn '.' name.toList).reverse with
  | [_, []] => none
  | last :: _ :: _ => some (String.ofList last)
  | _ => none

/-- The extension in lower case, empty when there is none. -/
def extension (path : Path) : String :=
  match path.extension? with
  | some text => Text.lowercase text
  | none => ""

/-- The path with `\` between its components. -/
def windowsText (path : Path) : String :=
  "\\".intercalate <| path.components.map fun component =>
    match component with
    | .root => ""
    | other => other.text

end Path

instance : ToString Path := ⟨Path.text⟩

end ProjectFiles
