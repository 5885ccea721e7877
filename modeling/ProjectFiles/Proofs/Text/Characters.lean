import ProjectFiles.Binary64.Shortest
import ProjectFiles.Decimal
import ProjectFiles.Proofs.Path.Occurrences

/-!
# Characters that a text avoids

Texts that are put together from others avoid a character when their parts and
what stands between them do.  What is put between them here, and what a program
writes of its own accord, contains neither a bracket nor a newline.
-/

namespace ProjectFiles

namespace Text

/-- Whether a text has none of the characters to be avoided. -/
def Avoids (avoided : List Char) (text : String) : Prop :=
  ∀ c ∈ text.toList, c ∉ avoided

/-- The characters that texts of the model may be asked to avoid. -/
def separators : List Char := ['[', '\n']

/-- Whether a text has neither brackets nor newlines. -/
def isFixed (text : List Char) : Bool :=
  text.all fun c => c != '[' && c != '\n'

namespace Avoids

variable {avoided : List Char} {left right : String}

theorem ofList {characters : List Char} (avoids : ∀ c ∈ characters, c ∉ avoided) :
    Avoids avoided (String.ofList characters) := by
  unfold Avoids
  rwa [String.toList_ofList]

theorem of_character (within : avoided ⊆ separators) {c : Char} (bracketless : c ≠ '[')
    (newlineless : c ≠ '\n') : c ∉ avoided := by
  intro isAvoided
  have isSeparator := within isAvoided
  simp only [separators, List.mem_cons, List.not_mem_nil, or_false] at isSeparator
  rcases isSeparator with rfl | rfl
  · exact bracketless rfl
  · exact newlineless rfl

/-- Fixed texts avoid whatever is to be avoided. -/
theorem of_isFixed (within : avoided ⊆ separators) {characters : List Char}
    (fixed : isFixed characters = true) : Avoids avoided (String.ofList characters) := by
  apply ofList
  intro c member
  have allowed := List.all_eq_true.1 fixed c member
  simp only [Bool.and_eq_true, bne_iff_ne] at allowed
  exact of_character within allowed.1 allowed.2

theorem of_isFixed_toList (within : avoided ⊆ separators) {text : String}
    (fixed : isFixed text.toList = true) : Avoids avoided text := by
  have avoids := of_isFixed within fixed
  rwa [String.ofList_toList] at avoids

theorem of_all_isFixed (within : avoided ⊆ separators) {texts : List String}
    (fixed : (texts.all fun text => isFixed text.toList) = true) :
    ∀ text ∈ texts, Avoids avoided text :=
  fun text member => of_isFixed_toList within (List.all_eq_true.1 fixed text member)

theorem append (avoidsLeft : Avoids avoided left) (avoidsRight : Avoids avoided right) :
    Avoids avoided (left ++ right) := by
  intro c member
  rw [String.toList_append, List.mem_append] at member
  rcases member with inLeft | inRight
  · exact avoidsLeft c inLeft
  · exact avoidsRight c inRight

/-- Texts with a separator between them. -/
theorem intercalate {separator : String} {texts : List String}
    (avoidsSeparator : Avoids avoided separator) (avoids : ∀ text ∈ texts, Avoids avoided text) :
    Avoids avoided (separator.intercalate texts) := by
  induction texts with
  | nil =>
      rw [String.intercalate_nil]
      intro c member
      simp at member
  | cons first rest ih =>
      have avoidsFirst := avoids first List.mem_cons_self
      cases rest with
      | nil => rwa [String.intercalate_singleton]
      | cons second others =>
          rw [String.intercalate_cons_of_ne_nil (by simp)]
          have avoidsRest := ih fun text member => avoids text (List.mem_cons_of_mem _ member)
          exact (avoidsFirst.append avoidsSeparator).append avoidsRest

end Avoids

end Text

open Text

/-! ## Identifiers -/

namespace Hex

theorem toUpper_digitChar_mem {digit : Nat} (small : digit < 16) :
    (digitChar digit).toUpper ∈ "0123456789ABCDEF".toList := by
  revert digit
  decide

theorem mem_digits {count n : Nat} {c : Char} (member : c ∈ digits count n) :
    ∃ digit < 16, c = digitChar digit := by
  induction count generalizing n with
  | zero => cases member
  | succ count ih =>
      rcases List.mem_append.1 member with earlier | isLast
      · exact ih earlier
      · exact ⟨n % 16, Nat.mod_lt n (by decide), List.mem_singleton.1 isLast⟩

end Hex

namespace Guid

theorem mem_grouped {digits : List Char} {c : Char} (member : c ∈ grouped digits) :
    c = '-' ∨ c ∈ digits := by
  simp only [grouped, List.mem_append, List.mem_cons] at member
  rcases member with (((inFirst | rfl | inSecond) | rfl | inThird) | rfl | inFourth) | rfl | inLast
  · exact .inr (List.mem_of_mem_take inFirst)
  · exact .inl rfl
  · exact .inr (List.mem_of_mem_drop (List.mem_of_mem_take inSecond))
  · exact .inl rfl
  · exact .inr (List.mem_of_mem_drop (List.mem_of_mem_take inThird))
  · exact .inl rfl
  · exact .inr (List.mem_of_mem_drop (List.mem_of_mem_take inFourth))
  · exact .inl rfl
  · exact .inr (List.mem_of_mem_drop inLast)

/-- The characters of identifiers. -/
def bracedCharacters : String := "0123456789ABCDEF-\x7b\x7d"

theorem mem_braced {guid : Guid} {c : Char} (member : c ∈ guid.braced.toList) :
    c ∈ bracedCharacters.toList := by
  have marks : ['\x7b', '-', '\x7d'] ⊆ bracedCharacters.toList := by decide
  have digits : "0123456789ABCDEF".toList ⊆ bracedCharacters.toList := by decide
  have spelled : guid.braced.toList =
      '\x7b' :: ((grouped (Hex.digits 32 guid.value.toNat)).map Char.toUpper ++ ['\x7d']) := by
    simp [braced]
  rw [spelled, List.mem_cons, List.mem_append, List.mem_singleton] at member
  rcases member with rfl | inDigits | rfl
  · exact marks (by decide)
  · obtain ⟨digit, isDigit, rfl⟩ := List.mem_map.1 inDigits
    rcases mem_grouped isDigit with rfl | isOwn
    · exact marks (by decide)
    · obtain ⟨value, small, rfl⟩ := Hex.mem_digits isOwn
      exact digits (Hex.toUpper_digitChar_mem small)
  · exact marks (by decide)

theorem avoids_braced {avoided : List Char} (within : avoided ⊆ separators) (guid : Guid) :
    Avoids avoided guid.braced := by
  have avoids : Avoids avoided bracedCharacters := Avoids.of_isFixed_toList within (by decide)
  exact fun c member => avoids c (mem_braced member)

end Guid

/-! ## Numbers -/

namespace Decimal

variable {avoided : List Char}

theorem digitChar_notMem (within : avoided ⊆ separators) (digit : Nat) :
    digitChar digit ∉ avoided := by
  have ofSmall : ∀ small < 10, Char.ofNat ('0'.toNat + small) ≠ '[' ∧
      Char.ofNat ('0'.toNat + small) ≠ '\n' := by decide
  obtain ⟨bracketless, newlineless⟩ := ofSmall (digit % 10) (Nat.mod_lt digit (by decide))
  exact Avoids.of_character within bracketless newlineless

theorem avoids_ofNat (within : avoided ⊆ separators) (n : Nat) : Avoids avoided (ofNat n) := by
  apply Avoids.ofList
  induction n using digits.induct with
  | case1 n small =>
      rw [digits, if_pos small]
      intro c member
      rw [List.mem_singleton.1 member]
      exact digitChar_notMem within n
  | case2 n large ih =>
      rw [digits, if_neg large]
      intro c member
      rcases List.mem_append.1 member with earlier | isLast
      · exact ih c earlier
      · rw [List.mem_singleton.1 isLast]
        exact digitChar_notMem within n

theorem avoids_ofInt (within : avoided ⊆ separators) (n : Int) : Avoids avoided (ofInt n) := by
  cases n with
  | ofNat n => exact avoids_ofNat within n
  | negSucc n => exact (Avoids.of_isFixed within (by decide)).append (avoids_ofNat within (n + 1))

end Decimal

namespace Binary64

variable {avoided : List Char}

theorem avoids_positional (within : avoided ⊆ separators) {whole : String} {digits : List Char}
    (avoidsWhole : Avoids avoided whole) (avoidsDigits : ∀ c ∈ digits, c ∉ avoided)
    (point : Int) : Avoids avoided (positional whole digits point) := by
  have zero : ∀ count, ∀ c ∈ List.replicate count '0', c ∉ avoided := by
    intro count c member
    rw [List.eq_of_mem_replicate member]
    exact Avoids.of_character within (by decide) (by decide)
  unfold positional
  split
  · refine (Avoids.of_isFixed within (by decide)).append (.ofList fun c member => ?_)
    exact (List.mem_append.1 member).elim (zero _ c) (avoidsDigits c)
  · split
    · refine Avoids.append (.ofList fun c member => ?_) avoidsWhole
      exact (List.mem_append.1 member).elim (avoidsDigits c) (zero _ c)
    · have former := Avoids.ofList fun c member =>
        avoidsDigits c (List.mem_of_mem_take (i := point.toNat) member)
      have latter := Avoids.ofList fun c member =>
        avoidsDigits c (List.mem_of_mem_drop (i := point.toNat) member)
      exact (former.append (Avoids.of_isFixed within (by decide))).append latter

theorem avoids_plainText (within : avoided ⊆ separators) (x : Binary64) :
    Avoids avoided x.plainText := by
  have fixed : ∀ text : String, isFixed text.toList = true → Avoids avoided text :=
    fun text => Avoids.of_isFixed_toList within
  have digits : ∀ c ∈ (x.shortest .up).layout.1, c ∉ avoided := by
    have avoids := Decimal.avoids_ofNat within (x.shortest .up).digits
    rwa [Decimal.ofNat, Avoids, String.toList_ofList] at avoids
  have finite := avoids_positional within (fixed "" (by decide)) digits
    (x.shortest .up).layout.2
  have sign : Avoids avoided (if x.isNegative then "-" else "") := by
    split <;> exact fixed _ (by decide)
  unfold plainText
  generalize (if x.isNegative then "-" else "") = negative at sign
  split
  · exact fixed "NaN" (by decide)
  · dsimp only
    split
    · exact sign.append (fixed "inf" (by decide))
    · split
      · exact sign.append (fixed "0" (by decide))
      · exact sign.append finite

end Binary64

/-! ## Paths -/

namespace Path

variable {avoided : List Char}

/-- A text avoids characters when none of them occurs in it. -/
theorem avoids_iff {text : String} :
    Avoids avoided text ↔ ∀ c ∈ avoided, ¬ [c] <:+: text.toList := by
  simp only [List.singleton_infix_iff, Avoids]
  exact ⟨fun avoids c isAvoided member => avoids c member isAvoided,
    fun avoids c member isAvoided => avoids c isAvoided member⟩

theorem isWord_of_mem (within : avoided ⊆ separators) {c : Char} (isAvoided : c ∈ avoided) :
    IsWord [c] := by
  have lacks {mark : Char} (notAvoided : mark ∉ separators) : mark ∉ [c] := fun member =>
    notAvoided (List.mem_singleton.1 member ▸ within isAvoided)
  exact ⟨List.cons_ne_nil c [], lacks (by decide), lacks (by decide), lacks (by decide)⟩

theorem avoids_windowsText (within : avoided ⊆ separators) {path : Path}
    (avoids : Avoids avoided path.text) : Avoids avoided path.windowsText :=
  avoids_iff.2 fun c isAvoided =>
    (isWord_of_mem within isAvoided).not_infix_windowsText (avoids_iff.1 avoids c isAvoided)

theorem avoids_join (within : avoided ⊆ separators) {path below : Path}
    (avoidsPath : Avoids avoided path.text) (avoidsBelow : Avoids avoided below.text) :
    Avoids avoided (path.join below).text :=
  avoids_iff.2 fun c isAvoided =>
    (isWord_of_mem within isAvoided).not_infix_join (avoids_iff.1 avoidsPath c isAvoided)
      (avoids_iff.1 avoidsBelow c isAvoided)

/-- The way to a path avoids what the path avoids, wherever it starts. -/
theorem avoids_relativeTo (within : avoided ⊆ separators) (start : Path) {path : Path}
    (avoids : Avoids avoided path.text) : Avoids avoided (start.relativeTo path).text :=
  avoids_iff.2 fun c isAvoided =>
    (isWord_of_mem within isAvoided).not_infix_relativeTo start (avoids_iff.1 avoids c isAvoided)

end Path

end ProjectFiles
