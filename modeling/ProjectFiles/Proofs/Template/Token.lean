import Mathlib.Data.List.TakeWhile
import ProjectFiles.Template.Token

/-!
# Reading the tokens of a template

A text is closed when every opening bracket belongs to a placeholder or to an
escape.  Closed texts can be put one behind the other: reading the whole comes to
the same as reading the parts.
-/

namespace ProjectFiles.Template

/-- `Reads text tokens` means that a text is closed and consists of the tokens. -/
inductive Reads : List Char → List Token → Prop where
  | nil : Reads [] []
  | plain {c : Char} {rest : List Char} {others : List Token} (ordinary : c ≠ '[')
      (reads : Reads rest others) : Reads (c :: rest) (.plain c :: others)
  | escape {word rest : List Char} {others : List Token}
      (members : ∀ c ∈ word, isMember c = true) (reads : Reads rest others) :
      Reads ((Token.escape word).source ++ rest) (.escape word :: others)
  | placeholder {path rest : List Char} {others : List Token}
      (members : ∀ c ∈ path, isMember c = true) (named : path ≠ []) (reads : Reads rest others) :
      Reads ((Token.placeholder path).source ++ rest) (.placeholder path :: others)

theorem Reads.append {former latter : List Char} {first second : List Token}
    (readsFormer : Reads former first) (readsLatter : Reads latter second) :
    Reads (former ++ latter) (first ++ second) := by
  induction readsFormer with
  | nil => exact readsLatter
  | plain ordinary _ ih => exact .plain ordinary ih
  | escape members _ ih =>
      rw [List.append_assoc, List.cons_append]
      exact .escape members ih
  | placeholder members named _ ih =>
      rw [List.append_assoc, List.cons_append]
      exact .placeholder members named ih

/-! ## Tokens at the start of a text -/

theorem not_isMember_opening : isMember '[' = false := by decide

theorem notMem_of_members {c : Char} (notMember : isMember c = false) {word : List Char}
    (members : ∀ c ∈ word, isMember c = true) : c ∉ word :=
  fun isThere => Bool.false_ne_true (notMember.symm.trans (members c isThere))

/-- The members that a text starts with end at a bracket. -/
theorem takeWhile_isMember {word : List Char} (members : ∀ c ∈ word, isMember c = true)
    (rest : List Char) : (word ++ ']' :: rest).takeWhile isMember = word := by
  rw [List.takeWhile_append_of_pos members, List.takeWhile_cons_of_neg (by decide),
    List.append_nil]

theorem dropWhile_isMember {word : List Char} (members : ∀ c ∈ word, isMember c = true)
    (rest : List Char) : (word ++ ']' :: rest).dropWhile isMember = ']' :: rest := by
  rw [List.dropWhile_append_of_pos members, List.dropWhile_cons_of_neg (by decide)]

theorem escapeAt?_escape {word : List Char} (members : ∀ c ∈ word, isMember c = true)
    (rest : List Char) :
    escapeAt? ((Token.escape word).source ++ rest) = some (.escape word) := by
  have spelled : (Token.escape word).source ++ rest =
      '[' :: '[' :: (word ++ ']' :: ']' :: rest) := by
    simp [Token.source]
  rw [spelled]
  simp only [escapeAt?, takeWhile_isMember members, dropWhile_isMember members]

theorem placeholderAt?_placeholder {path : List Char} (members : ∀ c ∈ path, isMember c = true)
    (named : path ≠ []) (rest : List Char) :
    placeholderAt? ((Token.placeholder path).source ++ rest) = some (.placeholder path) := by
  have spelled : (Token.placeholder path).source ++ rest = '[' :: (path ++ ']' :: rest) := by
    simp [Token.source]
  rw [spelled]
  simp [placeholderAt?, takeWhile_isMember members, dropWhile_isMember members]

/-- A placeholder is not an escape: what stands behind its bracket is a member. -/
theorem escapeAt?_placeholder {path : List Char} (members : ∀ c ∈ path, isMember c = true)
    (named : path ≠ []) (rest : List Char) :
    escapeAt? ((Token.placeholder path).source ++ rest) = none := by
  cases path with
  | nil => exact absurd rfl named
  | cons first others =>
      have isFirst := members first List.mem_cons_self
      have ordinary : first ≠ '[' := by
        rintro rfl
        rw [not_isMember_opening] at isFirst
        cases isFirst
      simp [Token.source, escapeAt?, ordinary]

theorem escapeAt?_eq_some {text : List Char} {token : Token} (found : escapeAt? text = some token) :
    ∃ word rest, token = .escape word ∧ (∀ c ∈ word, isMember c = true) ∧
      text = (Token.escape word).source ++ rest := by
  unfold escapeAt? at found
  split at found
  · rename_i behind
    split at found
    · rename_i rest closes
      cases found
      refine ⟨behind.takeWhile isMember, rest, rfl,
        fun c member => List.mem_takeWhile_imp member, ?_⟩
      have whole : behind.takeWhile isMember ++ behind.dropWhile isMember = behind :=
        List.takeWhile_append_dropWhile
      rw [closes] at whole
      simp [Token.source, whole]
    · cases found
  · cases found

theorem placeholderAt?_eq_some {text : List Char} {token : Token}
    (found : placeholderAt? text = some token) :
    ∃ path rest, token = .placeholder path ∧ (∀ c ∈ path, isMember c = true) ∧ path ≠ [] ∧
      text = (Token.placeholder path).source ++ rest := by
  unfold placeholderAt? at found
  split at found
  · rename_i behind
    have whole : behind.takeWhile isMember ++ behind.dropWhile isMember = behind :=
      List.takeWhile_append_dropWhile
    have members : ∀ c ∈ behind.takeWhile isMember, isMember c = true :=
      fun c member => List.mem_takeWhile_imp member
    split at found
    · cases found
    · rename_i rest dropped named
      cases found
      refine ⟨behind.takeWhile isMember, rest, rfl, members, named, ?_⟩
      rw [dropped] at whole
      simp [Token.source, whole]
    · cases found
  · cases found

/-! ## All tokens -/

theorem tokensAfter_eq (skip : Nat) (text : List Char) :
    tokensAfter skip text = tokens (text.drop skip) := by
  induction skip generalizing text with
  | zero => rfl
  | succ skip ih =>
      cases text with
      | nil => rfl
      | cons c rest =>
          rw [tokensAfter, ih]
          rfl

theorem tokens_cons (c : Char) (rest : List Char) :
    tokens (c :: rest) =
      match (escapeAt? (c :: rest)).or (placeholderAt? (c :: rest)) with
      | some token => token :: tokens (rest.drop (token.source.length - 1))
      | none => .plain c :: tokens rest := by
  rw [tokens, tokensAfter]
  cases (escapeAt? (c :: rest)).or (placeholderAt? (c :: rest)) with
  | none => rfl
  | some token => simp only [tokensAfter_eq]

theorem tokens_plain {c : Char} (ordinary : c ≠ '[') (rest : List Char) :
    tokens (c :: rest) = .plain c :: tokens rest := by
  rw [tokens_cons]
  simp [escapeAt?, placeholderAt?, ordinary]

/-- A token that a text starts with is its first token. -/
theorem tokens_source {token : Token} {rest : List Char} (opening : token.source.head? = some '[')
    (found : (escapeAt? (token.source ++ rest)).or (placeholderAt? (token.source ++ rest)) =
      some token) : tokens (token.source ++ rest) = token :: tokens rest := by
  cases spelled : token.source with
  | nil => simp [spelled] at opening
  | cons c others =>
      rw [spelled] at found
      rw [List.cons_append] at found ⊢
      rw [tokens_cons, found]
      simp [spelled]

theorem tokens_escape {word : List Char} (members : ∀ c ∈ word, isMember c = true)
    (rest : List Char) :
    tokens ((Token.escape word).source ++ rest) = .escape word :: tokens rest := by
  apply tokens_source rfl
  rw [escapeAt?_escape members]
  rfl

theorem tokens_placeholder {path : List Char} (members : ∀ c ∈ path, isMember c = true)
    (named : path ≠ []) (rest : List Char) :
    tokens ((Token.placeholder path).source ++ rest) = .placeholder path :: tokens rest := by
  apply tokens_source rfl
  rw [escapeAt?_placeholder members named, placeholderAt?_placeholder members named]
  rfl

/-- The tokens of a closed text come first, whatever follows. -/
theorem Reads.tokens_append {text : List Char} {first : List Token} (reads : Reads text first)
    (rest : List Char) : tokens (text ++ rest) = first ++ tokens rest := by
  induction reads with
  | nil => rfl
  | plain ordinary _ ih => rw [List.cons_append, tokens_plain ordinary, ih, List.cons_append]
  | escape members _ ih =>
      rw [List.append_assoc, tokens_escape members, ih, List.cons_append]
  | placeholder members named _ ih =>
      rw [List.append_assoc, tokens_placeholder members named, ih, List.cons_append]

theorem Reads.tokens_eq {text : List Char} {first : List Token} (reads : Reads text first) :
    tokens text = first := by
  have whole := reads.tokens_append []
  rwa [List.append_nil, show tokens [] = [] from rfl, List.append_nil] at whole

/-- A text is empty or starts with an escape, with a placeholder, or with a character that
stands for itself. -/
@[elab_as_elim]
theorem tokens_induction {motive : List Char → Prop} (nil : motive [])
    (escape : ∀ word rest, (∀ c ∈ word, isMember c = true) → motive rest →
      motive ((Token.escape word).source ++ rest))
    (placeholder : ∀ path rest, (∀ c ∈ path, isMember c = true) → path ≠ [] → motive rest →
      motive ((Token.placeholder path).source ++ rest))
    (plain : ∀ c rest, escapeAt? (c :: rest) = none → placeholderAt? (c :: rest) = none →
      motive rest → motive (c :: rest))
    (text : List Char) : motive text := by
  generalize bound : text.length = length
  induction length using Nat.strongRecOn generalizing text with
  | ind length ih =>
    subst bound
    cases text with
    | nil => exact nil
    | cons c rest =>
        cases isEscape : escapeAt? (c :: rest) with
        | some token =>
            obtain ⟨word, behind, rfl, members, spelled⟩ := escapeAt?_eq_some isEscape
            have shorter : behind.length < (c :: rest).length := by
              simp [spelled, Token.source]
              omega
            rw [spelled]
            exact escape word behind members (ih _ shorter behind rfl)
        | none =>
            cases isPlaceholder : placeholderAt? (c :: rest) with
            | some token =>
                obtain ⟨path, behind, rfl, members, named, spelled⟩ :=
                  placeholderAt?_eq_some isPlaceholder
                have shorter : behind.length < (c :: rest).length := by
                  simp [spelled, Token.source]
                  omega
                rw [spelled]
                exact placeholder path behind members named (ih _ shorter behind rfl)
            | none =>
                exact plain c rest isEscape isPlaceholder
                  (ih rest.length (Nat.lt_succ_self _) rest rfl)

theorem tokens_lone {c : Char} {rest : List Char} (notEscape : escapeAt? (c :: rest) = none)
    (notPlaceholder : placeholderAt? (c :: rest) = none) :
    tokens (c :: rest) = .plain c :: tokens rest := by
  rw [tokens_cons, notEscape, notPlaceholder]
  rfl

/-- Two texts are read apart when nothing that starts in the former reaches into the
latter. -/
theorem tokens_append_of_apart {latter : List Char}
    (escapes : ∀ c rest, escapeAt? (c :: rest ++ latter) = escapeAt? (c :: rest))
    (placeholders : ∀ c rest, placeholderAt? (c :: rest ++ latter) = placeholderAt? (c :: rest))
    (former : List Char) : tokens (former ++ latter) = tokens former ++ tokens latter := by
  induction former using tokens_induction with
  | nil => rfl
  | escape word rest members ih =>
      rw [List.append_assoc, tokens_escape members, tokens_escape members, ih, List.cons_append]
  | placeholder path rest members named ih =>
      rw [List.append_assoc, tokens_placeholder members named, tokens_placeholder members named,
        ih, List.cons_append]
  | plain first rest notEscape notPlaceholder ih =>
      rw [tokens_lone notEscape notPlaceholder, List.cons_append, tokens_lone, ih,
        List.cons_append]
      · exact (escapes first rest).trans notEscape
      · exact (placeholders first rest).trans notPlaceholder

/-- The tokens of a text spell the text. -/
theorem flatMap_source_tokens (text : List Char) : (tokens text).flatMap Token.source = text := by
  induction text using tokens_induction with
  | nil => rfl
  | escape word rest members ih =>
      rw [tokens_escape members, List.flatMap_cons, ih]
  | placeholder path rest members named ih =>
      rw [tokens_placeholder members named, List.flatMap_cons, ih]
  | plain c rest notEscape notPlaceholder ih =>
      rw [tokens_lone notEscape notPlaceholder, List.flatMap_cons, ih]
      rfl

/-- A text none of whose tokens is a bracket on its own is closed. -/
theorem reads_tokens {text : List Char} (closed : .plain '[' ∉ tokens text) :
    Reads text (tokens text) := by
  induction text using tokens_induction with
  | nil => exact .nil
  | escape word rest members ih =>
      rw [tokens_escape members, List.mem_cons, not_or] at closed
      rw [tokens_escape members]
      exact .escape members (ih closed.2)
  | placeholder path rest members named ih =>
      rw [tokens_placeholder members named, List.mem_cons, not_or] at closed
      rw [tokens_placeholder members named]
      exact .placeholder members named (ih closed.2)
  | plain c rest notEscape notPlaceholder ih =>
      rw [tokens_lone notEscape notPlaceholder, List.mem_cons, not_or] at closed
      rw [tokens_lone notEscape notPlaceholder]
      exact .plain (fun isBracket => closed.1 (by rw [isBracket])) (ih closed.2)

/-- A text without opening brackets has no tokens but its characters. -/
theorem reads_map_plain {text : List Char} (bracketless : '[' ∉ text) :
    Reads text (text.map .plain) := by
  induction text with
  | nil => exact .nil
  | cons c rest ih =>
      simp only [List.mem_cons, not_or] at bracketless
      exact .plain (Ne.symm bracketless.1) (ih bracketless.2)

/-- The tokens of a closed text spell the text. -/
theorem Reads.flatMap_source {text : List Char} {all : List Token} (reads : Reads text all) :
    all.flatMap Token.source = text := by
  induction reads with
  | nil => rfl
  | plain _ _ ih =>
      rw [List.flatMap_cons, ih]
      rfl
  | escape _ _ ih | placeholder _ _ _ ih => rw [List.flatMap_cons, ih]

/-- Whether every opening bracket of a text belongs to a placeholder or to an escape. -/
def IsClosed (text : List Char) : Prop :=
  Reads text (tokens text)

/-- The closed texts are those without a bracket on its own. -/
theorem isClosed_iff {text : List Char} : IsClosed text ↔ .plain '[' ∉ tokens text := by
  constructor
  · intro closed
    unfold IsClosed at closed
    generalize tokens text = all at closed ⊢
    induction closed with
    | nil => exact List.not_mem_nil
    | plain ordinary _ ih =>
        rw [List.mem_cons, not_or]
        exact ⟨fun same => ordinary (Token.plain.inj same).symm, ih⟩
    | escape _ _ ih | placeholder _ _ _ ih =>
        rw [List.mem_cons, not_or]
        exact ⟨nofun, ih⟩
  · exact reads_tokens

theorem Reads.isClosed {text : List Char} {all : List Token} (reads : Reads text all) :
    IsClosed text := by
  unfold IsClosed
  rwa [reads.tokens_eq]

theorem IsClosed.append {former latter : List Char} (closedFormer : IsClosed former)
    (closedLatter : IsClosed latter) : IsClosed (former ++ latter) :=
  (Reads.append closedFormer closedLatter).isClosed

theorem isClosed_of_bracketless {text : List Char} (bracketless : '[' ∉ text) : IsClosed text :=
  (reads_map_plain bracketless).isClosed

end ProjectFiles.Template
