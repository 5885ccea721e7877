/-!
# Placeholders and escapes in templates

A template is a text with placeholders `[path]` and escapes `[[word]]`.  Paths
and words consist of ASCII letters, digits, `_` and `.`; a word may be empty and
a path may not.  Tokens are found from left to right, an escape before a
placeholder at the same place, and a bracket that starts neither is an ordinary
character.
-/

namespace ProjectFiles.Template

/-- Whether a character may stand in a path. -/
def isMember (c : Char) : Bool :=
  ('A' ≤ c && c ≤ 'Z') || ('a' ≤ c && c ≤ 'z') || ('0' ≤ c && c ≤ '9') || c = '_' || c = '.'

/-- A token of a template. -/
inductive Token where
  /-- An ordinary character. -/
  | plain (c : Char)
  /-- The escape `[[word]]`. -/
  | escape (word : List Char)
  /-- The placeholder `[path]`. -/
  | placeholder (path : List Char)
  deriving DecidableEq, Repr

namespace Token

/-- The characters of a token in a template. -/
def source : Token → List Char
  | plain c => [c]
  | escape word => '[' :: '[' :: word ++ [']', ']']
  | placeholder path => '[' :: path ++ [']']

/-- The characters of a token when no placeholder is replaced any more: an
escape has lost one pair of brackets. -/
def unescaped : Token → List Char
  | escape word => '[' :: word ++ [']']
  | other => other.source

/-- Whether a token is an escape. -/
def isEscape : Token → Bool
  | escape _ => true
  | _ => false

end Token

/-- The escape that a text starts with. -/
def escapeAt? : List Char → Option Token
  | '[' :: '[' :: rest =>
      match rest.dropWhile isMember with
      | ']' :: ']' :: _ => some (.escape (rest.takeWhile isMember))
      | _ => none
  | _ => none

/-- The placeholder that a text starts with. -/
def placeholderAt? : List Char → Option Token
  | '[' :: rest =>
      match rest.takeWhile isMember, rest.dropWhile isMember with
      | [], _ => none
      | path, ']' :: _ => some (.placeholder path)
      | _, _ => none
  | _ => none

/-- The tokens of a text behind its first `skip` characters. -/
def tokensAfter : Nat → List Char → List Token
  | _, [] => []
  | skip + 1, _ :: rest => tokensAfter skip rest
  | 0, c :: rest =>
      match (escapeAt? (c :: rest)).or (placeholderAt? (c :: rest)) with
      | some token => token :: tokensAfter (token.source.length - 1) rest
      | none => .plain c :: tokensAfter 0 rest

/-- The tokens of a text. -/
def tokens (text : List Char) : List Token :=
  tokensAfter 0 text

/-- Undo the escapes of a text. -/
def unescape (text : List Char) : List Char :=
  (tokens text).flatMap Token.unescaped

end ProjectFiles.Template
