import ProjectFiles.Proofs.Template.Barrier
import ProjectFiles.Proofs.Template.Passes

/-!
# Texts inside of frames

A text need not be closed to be resolved by itself: it is enough that it stands between
characters that no token reaches across, such as quotation marks.  What a value of any
text comes to in an attribute is therefore what the text comes to alone.
-/

namespace ProjectFiles

open Template Text

namespace Template

/-- Whether two texts have no tokens and keep what stands between them apart. -/
def IsFrame (before behind : List Char) : Prop :=
  '[' ∉ before ∧ '[' ∉ behind ∧ (∀ c ∈ before.getLast?, IsBarrier c) ∧
    ∀ c ∈ behind.head?, IsBarrier c

variable {before behind : List Char}

theorem IsFrame.tokens_eq (frame : IsFrame before behind) (text : List Char) :
    tokens (before ++ (text ++ behind)) =
      before.map .plain ++ (tokens text ++ behind.map .plain) := by
  obtain ⟨bracketlessBefore, bracketlessBehind, opens, closes⟩ := frame
  have tokensBehind : tokens (text ++ behind) = tokens text ++ behind.map .plain := by
    cases behind with
    | nil => rw [List.append_nil, List.map_nil, List.append_nil]
    | cons closing back =>
        rw [List.mem_cons, not_or] at bracketlessBehind
        rw [(closes closing rfl).tokens_append, (reads_map_plain bracketlessBehind.2).tokens_eq]
        rfl
  rcases List.eq_nil_or_concat before with rfl | ⟨front, opening, rfl⟩
  · exact tokensBehind
  · rw [List.concat_eq_append] at bracketlessBefore opens ⊢
    rw [List.mem_append, not_or] at bracketlessBefore
    rw [List.append_assoc, List.singleton_append,
      (opens opening List.getLast?_concat).tokens_append, tokensBehind,
      (reads_map_plain bracketlessBefore.1).tokens_eq]
    simp

theorem flatMap_unescaped_plain (text : List Char) :
    (text.map Token.plain).flatMap Token.unescaped = text := by
  rw [List.flatMap_map]
  exact List.flatMap_singleton' text

theorem IsFrame.unescape_eq (frame : IsFrame before behind) (text : List Char) :
    unescape (before ++ (text ++ behind)) = before ++ (unescape text ++ behind) := by
  unfold unescape
  rw [frame.tokens_eq, List.flatMap_append, List.flatMap_append, flatMap_unescaped_plain,
    flatMap_unescaped_plain]

/-- Whether a text has neither placeholders nor escapes. -/
def IsPlain (text : List Char) : Prop :=
  tokens text = text.map .plain

instance (text : List Char) : Decidable (IsPlain text) :=
  inferInstanceAs (Decidable (_ = _))

/-- Removing escapes adds no characters. -/
theorem notMem_unescape {c : Char} {text : List Char} (absent : c ∉ text) : c ∉ unescape text := by
  intro member
  obtain ⟨token, isToken, inToken⟩ := List.mem_flatMap.1 member
  apply absent
  rw [← flatMap_source_tokens text]
  refine List.mem_flatMap.2 ⟨token, isToken, ?_⟩
  cases token with
  | plain | placeholder => exact inToken
  | escape word =>
      simp only [Token.unescaped, Token.source, List.mem_append, List.mem_cons] at inToken ⊢
      tauto

/-- Whether no placeholder touches what could make another one with its text, and there
are no other brackets. -/
def isFenced : List Token → Bool
  | [] | [.placeholder _] => true
  | .plain c :: rest => c != '[' && isFenced rest
  | .placeholder _ :: .plain c :: rest => decide (IsBarrier c) && isFenced rest
  | .placeholder _ :: _ :: _ | .escape _ :: _ => false

end Template

namespace Resolver

variable {resolver : Resolver} {template : String} {fallback : Option Value}
variable {before behind : List Char}

/-! ## Frames -/

/-- A pass over a text inside of a frame. -/
def Pass.within (pass : Pass) (before behind : List Char) : Pass :=
  { pass with text := before ++ (pass.text ++ behind) }

theorem replaceTokens_plain (resolver : Resolver) (template : String) (fallback : Option Value)
    (text : List Char) :
    resolver.replaceTokens template fallback (text.map .plain) = .ok ⟨text, 0, false⟩ := by
  induction text with
  | nil => rfl
  | cons c rest ih =>
      rw [List.map_cons, replaceTokens, ih]
      rfl

theorem replaceTokens_plain_append (text : List Char) (rest : List Token) :
    resolver.replaceTokens template fallback (text.map .plain ++ rest) =
      (resolver.replaceTokens template fallback rest).map (·.within text []) := by
  induction text with
  | nil =>
      rw [List.map_nil, List.nil_append]
      cases resolver.replaceTokens template fallback rest <;> simp [Except.map, Pass.within]
  | cons c text ih =>
      rw [List.map_cons, List.cons_append, replaceTokens, ih]
      cases resolver.replaceTokens template fallback rest <;> rfl

theorem replaceTokens_append_plain (tokens : List Token) (text : List Char) :
    resolver.replaceTokens template fallback (tokens ++ text.map .plain) =
      (resolver.replaceTokens template fallback tokens).map (·.within [] text) := by
  induction tokens with
  | nil => exact replaceTokens_plain resolver template fallback text
  | cons token tokens ih =>
      rw [List.cons_append]
      cases token with
      | plain c =>
          rw [replaceTokens, replaceTokens, ih]
          cases resolver.replaceTokens template fallback tokens <;> rfl
      | escape word =>
          rw [replaceTokens, replaceTokens, ih]
          cases resolver.replaceTokens template fallback tokens with
          | error => rfl
          | ok pass => simp [Except.map, Pass.within]
      | placeholder path =>
          rw [replaceTokens, replaceTokens, ih]
          cases resolver.replacement template fallback (String.ofList path) with
          | error => rfl
          | ok replaced =>
              cases resolver.replaceTokens template fallback tokens with
              | error => rfl
              | ok pass => simp [Except.map, Pass.within, bind_ok]

theorem replaceTokens_frame (frame : IsFrame before behind) (text : List Char) :
    resolver.replaceTokens template fallback (tokens (before ++ (text ++ behind))) =
      (resolver.replaceTokens template fallback (tokens text)).map (·.within before behind) := by
  rw [frame.tokens_eq, replaceTokens_plain_append, replaceTokens_append_plain]
  cases resolver.replaceTokens template fallback (tokens text) <;> simp [Except.map, Pass.within]

/-- What stands in a frame is resolved by itself. -/
theorem resolvePasses_frame (resolver : Resolver) (template : String) (fallback : Option Value)
    (frame : IsFrame before behind) (passes : Nat) (escaped : Bool) (text : List Char) :
    resolver.resolvePasses template fallback passes escaped (before ++ (text ++ behind)) =
      (resolver.resolvePasses template fallback passes escaped text).map fun resolved =>
        String.ofList before ++ resolved ++ String.ofList behind := by
  induction passes generalizing escaped text with
  | zero => rfl
  | succ passes ih =>
      rw [resolvePasses, resolvePasses, substitute, substitute, replaceTokens_frame frame]
      cases resolver.replaceTokens template fallback (tokens text) with
      | error error => rfl
      | ok pass =>
          rw [Except.map, bind_ok, bind_ok]
          dsimp only
          have sameCount : (pass.within before behind).replaced = pass.replaced := rfl
          have sameFlag : (pass.within before behind).escaped = pass.escaped := rfl
          have text : (pass.within before behind).text = before ++ (pass.text ++ behind) := rfl
          rw [sameCount, sameFlag, text, frame.unescape_eq]
          by_cases unplaced : pass.replaced = 0
          · rw [if_pos unplaced, if_pos unplaced]
            cases escaped || pass.escaped <;>
              simp [Except.map, pure, Except.pure, String.ofList_append, String.append_assoc]
          · rw [if_neg unplaced, if_neg unplaced]
            exact ih _ pass.text

/-! ## Results -/

/-- A text without placeholders and escapes is resolved to itself. -/
theorem resolve_of_isPlain {text : String} (plain : IsPlain text.toList) :
    resolver.resolve text = .ok text := by
  have substituted : resolver.substitute text none text.toList = .ok ⟨text.toList, 0, false⟩ := by
    rw [substitute, plain, replaceTokens_plain]
  unfold resolve passLimit
  rw [resolvePasses_of_substitute substituted]
  simp

/-- More passes come to the same, whatever they would report. -/
theorem resolvePasses_mono {passes more : Nat} (fewer : passes ≤ more) {escaped : Bool}
    {text : List Char} {result : String} (other : String)
    (resolved : resolver.resolvePasses template none passes escaped text = .ok result) :
    resolver.resolvePasses other none more escaped text = .ok result := by
  cases passes with
  | zero => cases resolved
  | succ passes =>
      cases more with
      | zero => cases fewer
      | succ more =>
          have resolves := resolvePasses_eq_ok_iff.1 resolved
          exact resolvePasses_eq_ok_iff.2 (resolves.mono (Nat.le_of_succ_le_succ fewer))

/-- Putting in texts without a character does not bring it in. -/
theorem notMem_expandOnce {c : Char} {tokens : List Token}
    (absent : c ∉ tokens.flatMap Token.source)
    (avoids : ∀ path rendered, resolver.rendering? path = some rendered → c ∉ rendered.toList) :
    c ∉ (resolver.expandOnce tokens).flatMap Token.source := by
  intro member
  obtain ⟨token, isToken, inToken⟩ := List.mem_flatMap.1 member
  obtain ⟨former, isFormer, isNew⟩ := List.mem_flatMap.1 isToken
  have kept : token ≠ former := by
    rintro rfl
    exact absent (List.mem_flatMap.2 ⟨token, isFormer, inToken⟩)
  cases former with
  | plain | escape => exact kept (List.mem_singleton.1 isNew)
  | placeholder path =>
      rw [expandToken, expansion] at isNew
      split at isNew
      · rename_i rendered isText
        apply avoids _ _ isText
        rw [← flatMap_source_tokens rendered.toList]
        exact List.mem_flatMap.2 ⟨token, isNew, inToken⟩
      · cases isNew

/-- A character that neither a text nor the bound texts have is not in the result. -/
theorem ResolvesWithin.notMem {c : Char} {passes : Nat} {text result : List Char}
    (resolves : resolver.ResolvesWithin passes text result) (absent : c ∉ text)
    (avoids : ∀ path rendered, resolver.rendering? path = some rendered → c ∉ rendered.toList) :
    c ∉ result := by
  induction passes generalizing text with
  | zero =>
      obtain ⟨_, rfl⟩ := resolves
      exact notMem_unescape absent
  | succ passes ih =>
      rw [← flatMap_source_tokens text] at absent
      exact ih resolves.2 (notMem_expandOnce absent avoids)

theorem notMem_resolvePasses {c : Char} {passes : Nat} {escaped : Bool} {text : List Char}
    {result : String} (absent : c ∉ text)
    (avoids : ∀ path rendered, resolver.rendering? path = some rendered → c ∉ rendered.toList)
    (resolved : resolver.resolvePasses template none passes escaped text = .ok result) :
    c ∉ result.toList := by
  cases passes with
  | zero => cases resolved
  | succ passes => exact (resolvePasses_eq_ok_iff.1 resolved).notMem absent avoids

/-! ## Fenced templates -/

/-- Texts of any form are put into a fenced template without making tokens with it. -/
theorem tokens_expandOnce (resolver : Resolver) {all : List Token} (fenced : isFenced all = true) :
    tokens ((resolver.expandOnce all).flatMap Token.source) = resolver.expandOnce all := by
  have own (path : String) :
      tokens ((resolver.expansion path).flatMap Token.source) = resolver.expansion path := by
    unfold expansion
    split
    · rw [flatMap_source_tokens]
    · rfl
  have plain (c : Char) (rest : List Token) :
      (Token.plain c :: rest).flatMap Token.source = c :: rest.flatMap Token.source := rfl
  fun_induction isFenced all with
  | case1 => rfl
  | case2 path =>
      rw [expandOnce, List.flatMap_singleton]
      exact own (String.ofList path)
  | case3 c rest ih =>
      rw [Bool.and_eq_true, bne_iff_ne] at fenced
      have split : resolver.expandOnce (.plain c :: rest) =
          .plain c :: resolver.expandOnce rest := rfl
      rw [split, plain, tokens_plain fenced.1, ih fenced.2]
  | case4 path c rest ih =>
      rw [Bool.and_eq_true, decide_eq_true_eq] at fenced
      have split : resolver.expandOnce (.placeholder path :: .plain c :: rest) =
          resolver.expansion (String.ofList path) ++ .plain c :: resolver.expandOnce rest := rfl
      rw [split, List.flatMap_append, plain, fenced.1.tokens_append, own, ih fenced.2]
  | case5 => cases fenced
  | case6 => cases fenced

/-- A text without placeholders comes to the same whatever is bound. -/
theorem resolvePasses_of_isUnplaced (resolver other : Resolver) {text : List Char}
    (unplaced : IsUnplaced text) (passes : Nat) (escaped : Bool) :
    other.resolvePasses template none (passes + 1) escaped text =
      resolver.resolvePasses template none (passes + 1) escaped text := by
  rw [resolvePasses_succ (renders_of_isUnplaced unplaced), if_pos unplaced,
    resolvePasses_succ (renders_of_isUnplaced unplaced), if_pos unplaced]

/-- A fenced template in which the same texts without placeholders stand comes to the
same. -/
theorem resolve_congr_of_isFenced {other : Resolver}
    (fenced : isFenced (tokens template.toList) = true)
    (same : ∀ path ∈ paths (tokens template.toList), ∃ text,
      resolver.rendering? path = some text ∧ other.rendering? path = some text ∧
        IsUnplaced text.toList) :
    other.resolve template = resolver.resolve template := by
  refine resolvePasses_succ_congr (fun path member => ?_) fun escaped => ?_
  · obtain ⟨text, isText, isOther, _⟩ := same path member
    exact ⟨text, isText, isOther⟩
  · apply resolvePasses_of_isUnplaced
    rw [IsUnplaced, replaced, tokens_expandOnce resolver fenced, paths_expandOnce,
      List.flatMap_eq_nil_iff]
    intro path member
    obtain ⟨text, isText, _, unplaced⟩ := same path member
    rw [expansion, isText]
    exact unplaced

end Resolver

end ProjectFiles
