import Mathlib.Logic.Relation
import ProjectFiles.Proofs.Template.Writing

/-!
# Resolving as expanding

A placeholder stands for a text, which may have placeholders of its own.  A text so
becomes a tree: its placeholders are the first level, those of the texts they stand
for are the next one, and so on.  A pass replaces all placeholders of a text at once,
so the placeholders a pass meets are one level of the tree.  Resolving therefore comes
to the same as expanding every placeholder by itself, down to the level that the limit
of passes sets.

Here the texts are closed.  Then a text that is put in the place of a placeholder
neither makes a token with what stands around it nor breaks one.
-/

namespace ProjectFiles

open Template Text

/-! ## Texts in values -/

namespace Value

mutual

/-- The texts that occur in a value. -/
def texts : Value → List String
  | .text value => [value]
  | .list items => textsOfItems items
  | .object fields => textsOfFields fields
  | .integer _ | .float _ | .bool _ | .omit => []

/-- The texts that occur in list items. -/
def textsOfItems : List Value → List String
  | [] => []
  | item :: rest => texts item ++ textsOfItems rest

/-- The texts that occur in the fields of an object. -/
def textsOfFields : List (String × Value) → List String
  | [] => []
  | (_, value) :: rest => texts value ++ textsOfFields rest

end

/-- Whether all texts in a value are closed. -/
def IsClosed (value : Value) : Prop :=
  ∀ text ∈ value.texts, Template.IsClosed text.toList

theorem mem_textsOfFields {fields : List (String × Value)} {field : String × Value}
    (member : field ∈ fields) {text : String} (within : text ∈ field.2.texts) :
    text ∈ textsOfFields fields := by
  induction fields with
  | nil => cases member
  | cons first rest ih =>
      rw [textsOfFields, List.mem_append]
      rcases List.mem_cons.1 member with rfl | inRest
      · exact .inl within
      · exact .inr (ih inRest)

/-- What a path leads to inside a value has only texts of the value. -/
theorem texts_lookup? {path : List String} {value inner : Value}
    (found : value.lookup? path = some inner) {text : String} (within : text ∈ inner.texts) :
    text ∈ value.texts := by
  induction path generalizing value with
  | nil =>
      cases found
      exact within
  | cons name rest ih =>
      cases value with
      | object fields =>
          rw [lookup?] at found
          split at found
          · rename_i field isField
            obtain ⟨own, isOwn, rfl⟩ := Option.map_eq_some_iff.1 isField
            exact mem_textsOfFields (List.mem_of_find?_eq_some isOwn) (ih found)
          · cases found
      | _ => cases found

theorem IsClosed.lookup? {value inner : Value} (closed : value.IsClosed) {path : List String}
    (found : value.lookup? path = some inner) : inner.IsClosed :=
  fun text within => closed text (texts_lookup? found within)

theorem isClosed_intercalate {texts : List String}
    (closed : ∀ text ∈ texts, Template.IsClosed text.toList) :
    Template.IsClosed (";".intercalate texts).toList := by
  induction texts with
  | nil => exact .nil
  | cons first rest ih =>
      have closedFirst := closed first List.mem_cons_self
      cases rest with
      | nil => rwa [String.intercalate_singleton]
      | cons second others =>
          have closedRest := ih fun text member => closed text (List.mem_cons_of_mem _ member)
          have semicolon : Template.IsClosed ";".toList := isClosed_of_bracketless (by decide)
          rw [String.intercalate_cons_of_ne_nil (by simp), String.toList_append,
            String.toList_append]
          exact (closedFirst.append semicolon).append closedRest

theorem isClosed_of_avoids {text : String} (avoids : Avoids ['['] text) :
    Template.IsClosed text.toList :=
  isClosed_of_bracketless fun member => avoids '[' member List.mem_cons_self

mutual

/-- The text of a value is closed when the texts in it are. -/
theorem isClosed_scalarText? : ∀ {value : Value} {rendered : String}, value.IsClosed →
    value.scalarText? = some rendered → Template.IsClosed rendered.toList
  | .text value, _, closed, isText => by
      cases isText
      exact closed value (by simp [texts])
  | .integer n, _, _, isText => by
      cases isText
      exact isClosed_of_avoids (Decimal.avoids_ofInt (by decide) n)
  | .float x, _, _, isText => by
      cases isText
      exact isClosed_of_avoids (Binary64.avoids_plainText (by decide) x)
  | .bool flag, _, _, isText => by
      cases isText
      cases flag <;> exact isClosed_of_bracketless (by decide)
  | .omit, _, _, isText => by
      cases isText
      exact isClosed_of_bracketless (by decide)
  | .list items, _, closed, isText => by
      obtain ⟨parts, areParts, rfl⟩ := Option.map_eq_some_iff.1 isText
      exact isClosed_intercalate (isClosed_itemTexts? closed areParts)
  | .object _, _, _, isText => by cases isText

/-- So are the texts of list items. -/
theorem isClosed_itemTexts? : ∀ {items : List Value} {parts : List String},
    (∀ text ∈ textsOfItems items, Template.IsClosed text.toList) →
    itemTexts? items = some parts → ∀ part ∈ parts, Template.IsClosed part.toList
  | [], _, _, areParts => by
      cases areParts
      exact fun _ member => nomatch member
  | item :: rest, _, closed, areParts => by
      rw [itemTexts?] at areParts
      split at areParts
      · rename_i first others isFirst areOthers
        cases areParts
        rw [textsOfItems] at closed
        intro part member
        rcases List.mem_cons.1 member with rfl | inOthers
        · exact isClosed_scalarText?
            (fun text within => closed text (List.mem_append_left _ within)) isFirst
        · exact isClosed_itemTexts?
            (fun text within => closed text (List.mem_append_right _ within)) areOthers part
            inOthers
      · cases areParts

end

end Value

/-! ## The tree of a text -/

namespace Template

/-- The path of a placeholder. -/
def Token.path? : Token → Option String
  | .placeholder path => some (String.ofList path)
  | .plain _ | .escape _ => none

/-- The paths of the placeholders among tokens, from left to right. -/
def paths (tokens : List Token) : List String :=
  tokens.filterMap Token.path?

end Template

namespace Resolver

/-- The text that a placeholder stands for. -/
def rendering? (resolver : Resolver) (path : String) : Option String :=
  (resolver.lookup? path).bind Value.scalarText?

/-- The tokens of the text that a placeholder stands for. -/
def expansion (resolver : Resolver) (path : String) : List Token :=
  match resolver.rendering? path with
  | some text => tokens text.toList
  | none => []

/-- The placeholders of one level of the tree of a text, from left to right. -/
def level (resolver : Resolver) (tokens : List Token) : Nat → List String
  | 0 => paths tokens
  | depth + 1 => (resolver.level tokens depth).flatMap fun path => paths (resolver.expansion path)

/-- The error of a placeholder that stands for no text. -/
def failure? (resolver : Resolver) (template path : String) : Option GenerationError :=
  match resolver.lookup? path with
  | none => some (.missingBinding path template resolver.describeBindings)
  | some value =>
      match value.scalarText? with
      | none => some (.notScalar path)
      | some _ => none

/-- The error of the first placeholder that stands for no text, level by level through
a number of levels. -/
def firstFailure? (resolver : Resolver) (template : String) (tokens : List Token)
    (levels : Nat) : Option GenerationError :=
  (List.range levels).findSome? fun depth =>
    (resolver.level tokens depth).findSome? (resolver.failure? template)

/-- Whether a placeholder stands for a text in which another one occurs. -/
def Refers (resolver : Resolver) (path other : String) : Prop :=
  other ∈ paths (resolver.expansion path)

/-- `resolver.Expands tokens text` means that tokens become the text when every
placeholder is expanded by itself and escapes lose a pair of brackets. -/
inductive Expands (resolver : Resolver) : List Token → List Char → Prop where
  | nil : resolver.Expands [] []
  | plain {c : Char} {rest : List Token} {text : List Char} (others : resolver.Expands rest text) :
      resolver.Expands (.plain c :: rest) (c :: text)
  | escape {word : List Char} {rest : List Token} {text : List Char}
      (others : resolver.Expands rest text) :
      resolver.Expands (.escape word :: rest) ((Token.escape word).unescaped ++ text)
  | placeholder {path : List Char} {rendered : String} {rest : List Token}
      {inner text : List Char} (isText : resolver.rendering? (String.ofList path) = some rendered)
      (expands : resolver.Expands (tokens rendered.toList) inner)
      (others : resolver.Expands rest text) :
      resolver.Expands (.placeholder path :: rest) (inner ++ text)

/-- Whether all texts in bound values are closed, those of hidden bindings included. -/
def BindsClosed (resolver : Resolver) : Prop :=
  ∀ key, ∀ binding ∈ resolver.stack key, binding.value.IsClosed

variable {resolver : Resolver} {template : String}

theorem BindsClosed.lookup? (bound : resolver.BindsClosed) {path : String} {value : Value}
    (found : resolver.lookup? path = some value) : value.IsClosed := by
  unfold Resolver.lookup? at found
  split at found
  · cases found
  · obtain ⟨binding, isHead, leads⟩ := Option.bind_eq_some_iff.1 found
    exact (bound _ binding (List.mem_of_mem_head? isHead)).lookup? leads

theorem BindsClosed.rendering? (bound : resolver.BindsClosed) {path rendered : String}
    (isText : resolver.rendering? path = some rendered) : IsClosed rendered.toList := by
  obtain ⟨value, found, isRendered⟩ := Option.bind_eq_some_iff.1 isText
  exact Value.isClosed_scalarText? (bound.lookup? found) isRendered

theorem bindsClosed_new (caseSensitive : Bool) : (new caseSensitive).BindsClosed :=
  fun _ _ member => nomatch member

/-- Binding a value with closed texts leaves the texts of bound values closed. -/
theorem BindsClosed.declare (bound : resolver.BindsClosed) {value : Value}
    (closed : value.IsClosed) (name : String) : (resolver.declare name value).1.BindsClosed := by
  intro key binding member
  unfold Resolver.declare at member
  rw [enter_fst_stack, List.foldl_cons, List.foldl_nil, stack_push] at member
  split at member
  · rcases List.mem_cons.1 member with rfl | isOuter
    · exact closed
    · exact bound _ binding isOuter
  · exact bound _ binding member

theorem failure?_eq_none_iff {path : String} :
    resolver.failure? template path = none ↔ (resolver.rendering? path).isSome := by
  unfold failure? rendering?
  cases resolver.lookup? path with
  | none => simp
  | some value => cases isText : value.scalarText? <;> simp [isText]

/-- Below an empty level there are no placeholders. -/
theorem level_eq_nil_of_le {tokens : List Token} {depth deeper : Nat}
    (empty : resolver.level tokens depth = []) (below : depth ≤ deeper) :
    resolver.level tokens deeper = [] := by
  induction below with
  | refl => exact empty
  | step _ ih => rw [level, ih, List.flatMap_nil]

/-! ## Replacing every placeholder once -/

/-- The tokens that stand for a token after a pass. -/
def expandToken (resolver : Resolver) : Token → List Token
  | .placeholder path => resolver.expansion (String.ofList path)
  | .plain c => [.plain c]
  | .escape word => [.escape word]

/-- The tokens of a text after a pass. -/
def expandOnce (resolver : Resolver) (tokens : List Token) : List Token :=
  tokens.flatMap resolver.expandToken

/-- The placeholders after a pass are those of the next level. -/
theorem paths_expandOnce (resolver : Resolver) (tokens : List Token) :
    paths (resolver.expandOnce tokens) =
      (paths tokens).flatMap fun path => paths (resolver.expansion path) := by
  induction tokens with
  | nil => rfl
  | cons token rest ih =>
      have split : paths (resolver.expandOnce (token :: rest)) =
          paths (resolver.expandToken token) ++ paths (resolver.expandOnce rest) :=
        List.filterMap_append
      rw [split, ih]
      cases token <;> rfl

theorem level_expandOnce (resolver : Resolver) (tokens : List Token) (depth : Nat) :
    resolver.level (resolver.expandOnce tokens) depth = resolver.level tokens (depth + 1) := by
  induction depth with
  | zero => exact paths_expandOnce resolver tokens
  | succ depth ih =>
      rw [level, ih]
      rfl

theorem expandOnce_eq_self {tokens : List Token} (unplaced : paths tokens = []) :
    resolver.expandOnce tokens = tokens := by
  induction tokens with
  | nil => rfl
  | cons token rest ih =>
      cases token with
      | placeholder path => cases unplaced
      | plain | escape => exact congrArg (List.cons _) (ih unplaced)

/-- What replaces the placeholders of a closed text makes no tokens with the rest. -/
theorem reads_expandOnce (bound : resolver.BindsClosed) {text : List Char} {all : List Token}
    (reads : Reads text all) :
    Reads ((resolver.expandOnce all).flatMap Token.source) (resolver.expandOnce all) := by
  induction reads with
  | nil => exact .nil
  | plain ordinary _ ih => exact .plain ordinary ih
  | escape members _ ih => exact .escape members ih
  | @placeholder path _ others _ _ _ ih =>
      have closed : Reads ((resolver.expansion (String.ofList path)).flatMap Token.source)
          (resolver.expansion (String.ofList path)) := by
        unfold expansion
        split
        · rename_i isText
          have own := bound.rendering? isText
          rwa [own.flatMap_source]
        · exact .nil
      have whole := closed.append ih
      rwa [← List.flatMap_append] at whole

/-- A pass whose placeholders all stand for texts replaces them, whatever would stand for
the others. -/
theorem replaceTokens_eq {fallback : Option Value} {tokens : List Token}
    (renders : ∀ path ∈ paths tokens, resolver.failure? template path = none) :
    resolver.replaceTokens template fallback tokens =
      .ok ⟨(resolver.expandOnce tokens).flatMap Token.source, (paths tokens).length,
        tokens.any Token.isEscape⟩ := by
  induction tokens with
  | nil => rfl
  | cons token rest ih =>
      cases token with
      | plain c =>
          rw [replaceTokens, ih renders]
          rfl
      | escape word =>
          rw [replaceTokens, ih renders]
          rfl
      | placeholder path =>
          have isText := failure?_eq_none_iff.1 (renders _ List.mem_cons_self)
          obtain ⟨text, isText⟩ := Option.isSome_iff_exists.1 isText
          obtain ⟨value, found, isRendered⟩ := Option.bind_eq_some_iff.1 isText
          have replaced : resolver.replacement template fallback (String.ofList path) =
              .ok text := by
            simp [replacement, found, Value.render, isRendered]
          have spelled : (resolver.expandOnce (.placeholder path :: rest)).flatMap Token.source =
              text.toList ++ (resolver.expandOnce rest).flatMap Token.source := by
            rw [expandOnce, List.flatMap_cons, List.flatMap_append, expandToken, expansion, isText,
              flatMap_source_tokens]
            rfl
          rw [replaceTokens, replaced, ih fun other member => renders other (.tail _ member),
            spelled]
          rfl

/-- A pass fails as its first placeholder without a text does. -/
theorem replaceTokens_eq_error {tokens : List Token} {error : GenerationError}
    (fails : (paths tokens).findSome? (resolver.failure? template) = some error) :
    resolver.replaceTokens template none tokens = .error error := by
  induction tokens with
  | nil => cases fails
  | cons token rest ih =>
      cases token with
      | plain c =>
          rw [replaceTokens, ih fails]
          rfl
      | escape word =>
          rw [replaceTokens, ih fails]
          rfl
      | placeholder path =>
          have first : paths (.placeholder path :: rest) = String.ofList path :: paths rest := rfl
          rw [first, List.findSome?_cons] at fails
          rw [replaceTokens]
          unfold replacement failure? at *
          cases found : resolver.lookup? (String.ofList path) with
          | none =>
              rw [found] at fails
              cases fails
              rfl
          | some value =>
              rw [found] at fails
              cases isText : value.scalarText? with
              | none =>
                  simp only [isText, Option.some.injEq] at fails
                  subst fails
                  simp [Value.render, isText]
                  rfl
              | some text =>
                  simp only [isText] at fails
                  simp only [Value.render, isText, Option.some_or]
                  rw [ih fails]
                  rfl

/-- A pass succeeds when all its placeholders stand for texts. -/
theorem replaceTokens_eq_ok_iff {tokens : List Token} {pass : Pass} :
    resolver.replaceTokens template none tokens = .ok pass ↔
      (∀ path ∈ paths tokens, (resolver.rendering? path).isSome) ∧
        pass = ⟨(resolver.expandOnce tokens).flatMap Token.source, (paths tokens).length,
          tokens.any Token.isEscape⟩ := by
  constructor
  · intro replaced
    cases found : (paths tokens).findSome? (resolver.failure? template) with
    | some error =>
        rw [replaceTokens_eq_error found] at replaced
        cases replaced
    | none =>
        have renders := List.findSome?_eq_none_iff.1 found
        rw [replaceTokens_eq renders] at replaced
        cases replaced
        exact ⟨fun path member => failure?_eq_none_iff.1 (renders path member), rfl⟩
  · rintro ⟨renders, rfl⟩
    exact replaceTokens_eq fun path member => failure?_eq_none_iff.2 (renders path member)

/-! ## Expansions -/

theorem Expands.append {first second : List Token} {former latter : List Char}
    (expandsFirst : resolver.Expands first former)
    (expandsSecond : resolver.Expands second latter) :
    resolver.Expands (first ++ second) (former ++ latter) := by
  induction expandsFirst with
  | nil => exact expandsSecond
  | plain _ ih => exact .plain ih
  | escape _ ih =>
      rw [List.append_assoc]
      exact .escape ih
  | placeholder isText expands _ _ ih =>
      rw [List.append_assoc]
      exact .placeholder isText expands ih

theorem Expands.split {first second : List Token} {text : List Char}
    (expands : resolver.Expands (first ++ second) text) :
    ∃ former latter, text = former ++ latter ∧ resolver.Expands first former ∧
      resolver.Expands second latter := by
  induction first generalizing text with
  | nil => exact ⟨[], text, rfl, .nil, expands⟩
  | cons token rest ih =>
      cases expands with
      | plain others =>
          obtain ⟨former, latter, rfl, expandsRest, expandsSecond⟩ := ih others
          exact ⟨_, latter, rfl, .plain expandsRest, expandsSecond⟩
      | escape others =>
          obtain ⟨former, latter, rfl, expandsRest, expandsSecond⟩ := ih others
          exact ⟨_, latter, (List.append_assoc ..).symm, .escape expandsRest, expandsSecond⟩
      | placeholder isText inner others =>
          obtain ⟨former, latter, rfl, expandsRest, expandsSecond⟩ := ih others
          exact ⟨_, latter, (List.append_assoc ..).symm, .placeholder isText inner expandsRest,
            expandsSecond⟩

/-- Tokens expand to one text. -/
theorem Expands.unique {tokens : List Token} {text other : List Char}
    (expands : resolver.Expands tokens text) (expandsOther : resolver.Expands tokens other) :
    text = other := by
  induction expands generalizing other with
  | nil =>
      cases expandsOther
      rfl
  | plain _ ih =>
      cases expandsOther with
      | plain others => rw [ih others]
  | escape _ ih =>
      cases expandsOther with
      | escape others => rw [ih others]
  | placeholder isText _ _ ihInner ihRest =>
      cases expandsOther with
      | placeholder isOtherText inner others =>
          cases isText.symm.trans isOtherText
          rw [ihInner inner, ihRest others]

/-- Without placeholders, tokens expand to themselves without escapes. -/
theorem expands_of_unplaced {tokens : List Token} (unplaced : paths tokens = []) :
    resolver.Expands tokens (tokens.flatMap Token.unescaped) := by
  induction tokens with
  | nil => exact .nil
  | cons token rest ih =>
      cases token with
      | plain c => exact .plain (ih unplaced)
      | escape word => exact .escape (ih unplaced)
      | placeholder path => cases unplaced

/-- What the tokens after a pass expand to, those before it expand to. -/
theorem Expands.of_expandOnce {tokens : List Token} {text : List Char}
    (renders : ∀ path ∈ paths tokens, (resolver.rendering? path).isSome)
    (expands : resolver.Expands (resolver.expandOnce tokens) text) :
    resolver.Expands tokens text := by
  induction tokens generalizing text with
  | nil => exact expands
  | cons token rest ih =>
      cases token with
      | plain c =>
          cases expands with
          | plain others => exact .plain (ih renders others)
      | escape word =>
          cases expands with
          | escape others => exact .escape (ih renders others)
      | placeholder path =>
          obtain ⟨rendered, isText⟩ :=
            Option.isSome_iff_exists.1 (renders _ List.mem_cons_self)
          obtain ⟨inner, latter, rfl, expandsInner, others⟩ := expands.split
          rw [expandToken, expansion, isText] at expandsInner
          exact .placeholder isText expandsInner
            (ih (fun other member => renders other (.tail _ member)) others)

/-! ## Passes -/

/-- `resolver.Outcome template tokens levels result` says what a number of passes over
tokens gives: the first failure of as many levels, else the limit of passes when none of
the levels is empty, else the expansion. -/
inductive Outcome (resolver : Resolver) (template : String) (tokens : List Token) (levels : Nat) :
    Except GenerationError String → Prop where
  | failed {error : GenerationError}
      (fails : resolver.firstFailure? template tokens levels = some error) :
      resolver.Outcome template tokens levels (.error error)
  | endless (renders : resolver.firstFailure? template tokens levels = none)
      (deep : ∀ depth < levels, resolver.level tokens depth ≠ []) :
      resolver.Outcome template tokens levels (.error (.recursionLimit template))
  | expanded {text : List Char} (renders : resolver.firstFailure? template tokens levels = none)
      (shallow : ∃ depth < levels, resolver.level tokens depth = [])
      (expands : resolver.Expands tokens text) :
      resolver.Outcome template tokens levels (.ok (String.ofList text))

/-- The first failure is one of the first level, or else of the levels after a pass. -/
theorem firstFailure?_succ (resolver : Resolver) (template : String) (tokens : List Token)
    (levels : Nat) :
    resolver.firstFailure? template tokens (levels + 1) =
      ((paths tokens).findSome? (resolver.failure? template)).or
        (resolver.firstFailure? template (resolver.expandOnce tokens) levels) := by
  unfold firstFailure?
  simp only [level_expandOnce]
  have first : resolver.level tokens 0 = paths tokens := rfl
  rw [List.range_succ_eq_map, List.findSome?_cons, List.findSome?_map, first]
  cases (paths tokens).findSome? (resolver.failure? template) <;> rfl

/-- Without placeholders nothing fails. -/
theorem firstFailure?_of_unplaced {tokens : List Token} (unplaced : paths tokens = [])
    (levels : Nat) : resolver.firstFailure? template tokens levels = none := by
  unfold firstFailure?
  rw [List.findSome?_eq_none_iff]
  intro depth _
  have empty : resolver.level tokens 0 = [] := unplaced
  rw [level_eq_nil_of_le empty (Nat.zero_le depth)]
  rfl

/-- A pass that replaces something leaves the rest to the passes behind it. -/
theorem Outcome.of_expandOnce {tokens : List Token} {levels : Nat}
    {result : Except GenerationError String} (placed : paths tokens ≠ [])
    (renders : (paths tokens).findSome? (resolver.failure? template) = none)
    (outcome : resolver.Outcome template (resolver.expandOnce tokens) levels result) :
    resolver.Outcome template tokens (levels + 1) result := by
  have behind := firstFailure?_succ resolver template tokens levels
  rw [renders, Option.none_or] at behind
  cases outcome with
  | failed fails => exact .failed (behind.trans fails)
  | endless rendersRest deep =>
      refine .endless (behind.trans rendersRest) fun depth below => ?_
      cases depth with
      | zero => exact placed
      | succ depth =>
          rw [← level_expandOnce]
          exact deep depth (Nat.lt_of_succ_lt_succ below)
  | expanded rendersRest shallow expands =>
      obtain ⟨depth, below, empty⟩ := shallow
      rw [level_expandOnce] at empty
      refine .expanded (behind.trans rendersRest) ⟨depth + 1, Nat.succ_lt_succ below, empty⟩ ?_
      refine expands.of_expandOnce fun path member => ?_
      exact failure?_eq_none_iff.1 (List.findSome?_eq_none_iff.1 renders path member)

/-- A text loses its escapes, whether it is searched for them or known to have none. -/
theorem unescape_eq {text : List Char} {escaped : Bool}
    (covers : (tokens text).any Token.isEscape = true → escaped = true) :
    (if escaped then unescape text else text) = unescape text := by
  cases escaped with
  | true => rw [if_pos rfl]
  | false =>
      rw [if_neg Bool.false_ne_true]
      nth_rewrite 1 [← flatMap_source_tokens text]
      apply List.flatMap_congr
      intro token member
      cases token with
      | plain | placeholder => rfl
      | escape word => cases covers (List.any_eq_true.2 ⟨_, member, rfl⟩)

/-- Passes go through the tree of a closed text level by level. -/
theorem resolvePasses_outcome (bound : resolver.BindsClosed) {tokens : List Token}
    {text : List Char} (reads : Reads text tokens) (passes : Nat) (escaped : Bool) :
    resolver.Outcome template tokens passes
      (resolver.resolvePasses template none passes escaped text) := by
  induction passes generalizing tokens text escaped with
  | zero => exact .endless rfl fun depth below => absurd below (Nat.not_lt_zero depth)
  | succ passes ih =>
      rw [resolvePasses, substitute, reads.tokens_eq]
      cases found : (paths tokens).findSome? (resolver.failure? template) with
      | some error =>
          rw [replaceTokens_eq_error found]
          apply Outcome.failed
          rw [firstFailure?_succ, found, Option.some_or]
      | none =>
          rw [replaceTokens_eq (List.findSome?_eq_none_iff.1 found), bind_ok]
          dsimp only
          split
          · rename_i none_replaced
            have unplaced := List.length_eq_zero_iff.1 none_replaced
            rw [expandOnce_eq_self unplaced, reads.flatMap_source,
              unescape_eq fun isEscaped => by simp [← reads.tokens_eq, isEscaped], unescape,
              reads.tokens_eq]
            exact .expanded (firstFailure?_of_unplaced unplaced _) ⟨0, Nat.succ_pos _, unplaced⟩
              (expands_of_unplaced unplaced)
          · rename_i replaced
            have placed : paths tokens ≠ [] := fun unplaced => replaced (by rw [unplaced]; rfl)
            exact .of_expandOnce placed found (ih (reads_expandOnce bound reads) _)

/-! ## Resolving -/

theorem firstFailure?_eq_none_iff {tokens : List Token} {levels : Nat} :
    resolver.firstFailure? template tokens levels = none ↔
      ∀ depth < levels, ∀ path ∈ resolver.level tokens depth,
        (resolver.rendering? path).isSome := by
  simp only [firstFailure?, List.findSome?_eq_none_iff, List.mem_range, failure?_eq_none_iff]

/-- From a placeholder that refers to itself, the tree goes on for ever. -/
theorem exists_mem_level_of_cycle {tokens : List Token} {depth : Nat} {path : String}
    (member : path ∈ resolver.level tokens depth)
    (cycle : Relation.TransGen resolver.Refers path path) (further : Nat) :
    ∃ other ∈ resolver.level tokens (depth + further),
      Relation.TransGen resolver.Refers other other := by
  induction further with
  | zero => exact ⟨path, member, cycle⟩
  | succ further ih =>
      obtain ⟨other, isOther, onCycle⟩ := ih
      obtain ⟨next, refers, back⟩ := Relation.TransGen.head'_iff.1 onCycle
      exact ⟨next, List.mem_flatMap.2 ⟨other, isOther, refers⟩, .tail' back refers⟩

/-- Passes succeed when every placeholder of the tree stands for a text and the last pass
has nothing to replace. -/
theorem Outcome.isOk_iff {tokens : List Token} {levels : Nat}
    {result : Except GenerationError String}
    (outcome : resolver.Outcome template tokens (levels + 1) result) :
    (∃ text, result = .ok text) ↔
      (∀ depth, ∀ path ∈ resolver.level tokens depth, (resolver.rendering? path).isSome) ∧
        resolver.level tokens levels = [] := by
  constructor
  · rintro ⟨_, rfl⟩
    cases outcome with
    | expanded renders shallow =>
        obtain ⟨last, below, empty⟩ := shallow
        refine ⟨fun depth path member => ?_, level_eq_nil_of_le empty (Nat.le_of_lt_succ below)⟩
        -- only the levels before the empty one have placeholders
        have above : depth < last := by
          by_contra notAbove
          rw [level_eq_nil_of_le empty (Nat.le_of_not_lt notAbove)] at member
          cases member
        exact firstFailure?_eq_none_iff.1 renders depth (above.trans below) path member
  · rintro ⟨renders, shallow⟩
    have noFailure : resolver.firstFailure? template tokens (levels + 1) = none :=
      firstFailure?_eq_none_iff.2 fun depth _ => renders depth
    cases outcome with
    | failed fails =>
        rw [noFailure] at fails
        cases fails
    | endless _ deep => exact absurd shallow (deep levels (Nat.lt_succ_self levels))
    | expanded => exact ⟨_, rfl⟩

/-- What passes succeed with is the expansion. -/
theorem Outcome.expands_iff {tokens : List Token} {levels : Nat} {result : String}
    (outcome : resolver.Outcome template tokens levels (.ok result)) (text : List Char) :
    resolver.Expands tokens text ↔ text = result.toList := by
  cases outcome with
  | expanded _ _ expands =>
      rw [String.toList_ofList]
      constructor
      · exact fun expandsText => expandsText.unique expands
      · rintro rfl
        exact expands

/-- What passes fail with is the first failure, or the limit of passes. -/
theorem Outcome.error_eq {tokens : List Token} {levels : Nat} {error : GenerationError}
    (outcome : resolver.Outcome template tokens levels (.error error)) :
    error = (resolver.firstFailure? template tokens levels).getD (.recursionLimit template) := by
  cases outcome with
  | failed fails => rw [fails, Option.getD_some]
  | endless renders => rw [renders, Option.getD_none]

/-- What resolving a template comes to, when the template has the given tokens. -/
structure ResolvesAsExpanded (resolver : Resolver) (template : String) (tokens : List Token) :
    Prop where
  /-- It succeeds when every placeholder of the tree stands for a text and the tree has
  at most 15 levels, and only then. -/
  succeeds_iff : (∃ result, resolver.resolve template = .ok result) ↔
    (∀ depth, ∀ path ∈ resolver.level tokens depth, (resolver.rendering? path).isSome) ∧
      resolver.level tokens 15 = []
  /-- The result is the expansion. -/
  result_iff : ∀ result, resolver.resolve template = .ok result →
    ∀ text, resolver.Expands tokens text ↔ text = result.toList
  /-- Otherwise the first failure of the first 16 levels is reported, or the limit. -/
  error_eq : ∀ error, resolver.resolve template = .error error →
    error = (resolver.firstFailure? template tokens 16).getD (.recursionLimit template)
  /-- So it is when the tree has a placeholder that refers to itself. -/
  cyclic : ∀ depth, ∀ path ∈ resolver.level tokens depth,
    Relation.TransGen resolver.Refers path path →
      resolver.resolve template =
        .error ((resolver.firstFailure? template tokens 16).getD (.recursionLimit template))

/-- Resolving a closed template by passes comes to expanding every placeholder by
itself. -/
theorem resolve_as_expanded (bound : resolver.BindsClosed) {tokens : List Token}
    (reads : Reads template.toList tokens) :
    resolver.ResolvesAsExpanded template tokens := by
  have outcome : resolver.Outcome template tokens 16 (resolver.resolve template) :=
    resolvePasses_outcome bound reads 16 false
  have error_eq : ∀ error, resolver.resolve template = .error error →
      error = (resolver.firstFailure? template tokens 16).getD (.recursionLimit template) :=
    fun error isError => (isError ▸ outcome).error_eq
  exact {
    succeeds_iff := outcome.isOk_iff
    result_iff := fun result isResult text => (isResult ▸ outcome).expands_iff text
    error_eq := error_eq
    cyclic := by
      intro depth path member cycle
      cases isResult : resolver.resolve template with
      | error error => rw [error_eq error isResult]
      | ok result =>
          -- a placeholder of the cycle is on every level from this one on
          have shallow := (outcome.isOk_iff.1 ⟨result, isResult⟩).2
          obtain ⟨other, isOther, _⟩ := exists_mem_level_of_cycle member cycle 15
          rw [level_eq_nil_of_le shallow (Nat.le_add_left 15 depth)] at isOther
          cases isOther }

/-- Two names, one bound to a text that refers to the other. -/
def nestedNames : Resolver :=
  (((new true).declare "first" (.text "App")).1.declare "whole" (.text "[first] [[x]]")).1

theorem resolve_as_expanded_nestedNames :
    nestedNames.ResolvesAsExpanded "[whole]!"
      [.placeholder ['w', 'h', 'o', 'l', 'e'], .plain '!'] := by
  have closedFirst : (Value.text "App").IsClosed := by
    intro text within
    rw [List.mem_singleton.1 within]
    exact isClosed_of_bracketless (by decide)
  have closedWhole : (Value.text "[first] [[x]]").IsClosed := by
    intro text within
    rw [List.mem_singleton.1 within]
    exact reads_tokens (by decide)
  have reads : Reads ((Token.placeholder ['w', 'h', 'o', 'l', 'e']).source ++ ['!'])
      [.placeholder ['w', 'h', 'o', 'l', 'e'], .plain '!'] :=
    .placeholder (List.all_eq_true.1 (by decide)) (by decide) (.plain (by decide) .nil)
  exact resolve_as_expanded
    (((bindsClosed_new true).declare closedFirst _).declare closedWhole _) reads

example : nestedNames.resolve "[whole]!" = .ok "App [x]!" := by decide +kernel

end Resolver

end ProjectFiles
