import ProjectFiles.Sha1
import ProjectFiles.Hex

/-!
# Globally unique identifiers

A `Guid` is a number of 128 bits, written as 32 hexadecimal digits in groups.
Name-based identifiers are computed from a name inside a name space: equal names
have equal identifiers.
-/

namespace ProjectFiles

/-- A globally unique identifier. -/
structure Guid where
  value : BitVec 128
  deriving DecidableEq, Repr, Inhabited

namespace Guid

instance : Ord Guid := ⟨compareOn fun guid => guid.value.toNat⟩

instance : Std.TransOrd Guid :=
  inferInstanceAs (Std.TransCmp (compareOn fun guid : Guid => guid.value.toNat))

instance : Std.LawfulEqOrd Guid where
  eq_of_compare {left right} same := by
    have equal : left.value.toNat = right.value.toNat :=
      Std.LawfulEqCmp.eq_of_compare
        (show compare left.value.toNat right.value.toNat = .eq from same)
    cases left
    cases right
    exact congrArg Guid.mk (BitVec.eq_of_toNat_eq equal)

/-- Put hyphens between the five groups of 32 digits. -/
def grouped (digits : List Char) : List Char :=
  digits.take 8 ++ '-' :: (digits.drop 8).take 4 ++ '-' :: (digits.drop 12).take 4 ++
    '-' :: (digits.drop 16).take 4 ++ '-' :: digits.drop 20

/-- The identifier in lower case, with hyphens. -/
def hyphenated (guid : Guid) : String :=
  String.ofList (grouped (Hex.digits 32 guid.value.toNat))

/-- The identifier in upper case, with hyphens and in braces. -/
def braced (guid : Guid) : String :=
  "\x7b" ++ String.ofList ((grouped (Hex.digits 32 guid.value.toNat)).map Char.toUpper) ++ "\x7d"

/-! ## Reading -/

/-- Read 32 digits without hyphens. -/
def ofDigits? (digits : List Char) : Option Guid :=
  if digits.length = 32 then
    (Hex.value? digits).map fun number => ⟨BitVec.ofNat 128 number⟩
  else
    none

/-- Read five groups of digits with hyphens between them. -/
def ofGroups? (text : List Char) : Option Guid :=
  match List.splitOn '-' text with
  | [a, b, c, d, e] =>
      if a.length = 8 ∧ b.length = 4 ∧ c.length = 4 ∧ d.length = 4 then
        ofDigits? (a ++ b ++ c ++ d ++ e)
      else
        none
  | _ => none

/-- Read an identifier: 32 digits, five groups, or five groups in braces or
behind `urn:uuid:`, whose letters may be in either case like the digits. -/
def ofText? (text : String) : Option Guid :=
  let characters := text.toList
  let name := "urn:uuid:".toList
  if characters.length = 32 then
    ofDigits? characters
  else if characters.length = 38 ∧ characters.head? = some '\x7b' ∧
      characters.getLast? = some '\x7d' then
    ofGroups? (characters.drop 1).dropLast
  else if characters.length = 45 ∧ (characters.take name.length).map Char.toLower = name then
    ofGroups? (characters.drop name.length)
  else
    ofGroups? characters

/-! ## Name-based identifiers -/

/-- The name space of uniform resource locators. -/
def urlNamespace : Guid :=
  ⟨0x6ba7b8119dad11d180b400c04fd430c8⟩

/-- Mark a number of 128 bits as an identifier of version 5. -/
def version5 (number : Nat) : Guid :=
  let bits := BitVec.ofNat 128 number
  let version : BitVec 128 := (bits &&& ~~~(0xf#128 <<< 76)) ||| (5#128 <<< 76)
  ⟨(version &&& ~~~(3#128 <<< 62)) ||| (2#128 <<< 62)⟩

/-- The identifier of a name inside a name space: the first 128 bits of the
digest of both. -/
def ofName (space : Guid) (name : String) : Guid :=
  let message := Sha1.bigEndian 16 space.value.toNat ++ name.toUTF8.toList
  version5 (Sha1.digest message / 0x100000000)

end Guid

end ProjectFiles
