/-!
# Lines of a text

A text is cut after each newline.  Every line keeps its own terminator, and the
last line may be without one, so the lines put together are the text again.
-/

namespace ProjectFiles.Text

/-- Put a character before the first line. -/
def consToFirstLine (c : Char) : List (List Char) → List (List Char)
  | [] => [[c]]
  | line :: rest => (c :: line) :: rest

/-- The lines of a text, cut after each newline. -/
def lines : List Char → List (List Char)
  | [] => []
  | c :: rest =>
      if c = '\n' then ['\n'] :: lines rest else consToFirstLine c (lines rest)

/-- The text of lines that have no terminators yet. -/
def unlines (texts : List String) : String :=
  String.join (texts.map fun text => text ++ "\n")

theorem toList_unlines_cons {line : List Char} {texts : List String} :
    (unlines (String.ofList line :: texts)).toList =
      line ++ '\n' :: (unlines texts).toList := by
  simp [unlines]

/-- Whether `part` occurs somewhere in a text. -/
def occursIn (part : List Char) : List Char → Bool
  | [] => part.isEmpty
  | c :: rest => part.isPrefixOf (c :: rest) || occursIn part rest

/-- Putting a character before the first line puts it before the whole. -/
@[simp]
theorem flatten_consToFirstLine (c : Char) (cut : List (List Char)) :
    (consToFirstLine c cut).flatten = c :: cut.flatten := by
  cases cut <;> rfl

/-- Cutting a text into lines loses nothing. -/
@[simp]
theorem flatten_lines (text : List Char) : (lines text).flatten = text := by
  induction text with
  | nil => rfl
  | cons c rest ih =>
      by_cases newline : c = '\n' <;> simp [lines, newline, ih]

end ProjectFiles.Text
