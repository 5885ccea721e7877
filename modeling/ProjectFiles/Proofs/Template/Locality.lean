import Mathlib.Logic.Function.Iterate
import ProjectFiles.Proofs.Template.Barrier
import ProjectFiles.Proofs.Template.Passes

/-!
# Resolving on both sides of a divider

No token reaches across a character that is in none of them, and none reaches across an
escape.  This holds of every text that the passes go through.  So what stands on both
sides of such a divider is resolved apart: a text put in on one side never makes a token
together with what is on the other side, even when it is not closed.
-/

namespace ProjectFiles

open Template Text

namespace Template

/-! ## Escapes -/

/-- An escape that starts before a pair of opening brackets ends before it. -/
theorem escapeAt?_append_opening (c : Char) (rest latter : List Char) :
    escapeAt? (c :: rest ++ '[' :: '[' :: latter) = escapeAt? (c :: rest) := by
  ext token
  constructor
  · intro found
    obtain ⟨word, others, rfl, members, spelled⟩ := escapeAt?_eq_some found
    have closing : '[' ∉ word ++ [']', ']'] := by
      simp [notMem_of_members not_isMember_opening members]
    simp only [Token.source, List.cons_append, List.cons.injEq] at spelled
    obtain ⟨rfl, spelled⟩ := spelled
    cases rest with
    | nil =>
        -- a bracket before the pair: the word would begin with the second one of the pair
        have starts : word ++ [']', ']'] ++ others = [] ++ '[' :: latter :=
          (List.cons.inj spelled).2.symm
        obtain ⟨_, isNil, _⟩ := append_eq_append_cons closing starts
        exact absurd isNil (by simp)
    | cons second behind =>
        simp only [List.cons_append, List.cons.injEq] at spelled
        obtain ⟨rfl, spelled⟩ := spelled
        obtain ⟨remaining, rfl, _⟩ := append_eq_append_cons closing spelled.symm
        exact escapeAt?_escape members remaining
  · intro found
    obtain ⟨word, others, rfl, members, spelled⟩ := escapeAt?_eq_some found
    rw [spelled, List.append_assoc]
    exact escapeAt?_escape members _

/-- So does a placeholder, even before a single one. -/
theorem placeholderAt?_append_opening (c : Char) (rest latter : List Char) :
    placeholderAt? (c :: rest ++ '[' :: latter) = placeholderAt? (c :: rest) := by
  ext token
  constructor
  · intro found
    obtain ⟨path, others, rfl, members, named, spelled⟩ := placeholderAt?_eq_some found
    have closing : '[' ∉ path ++ [']'] := by
      simp [notMem_of_members not_isMember_opening members]
    simp only [Token.source, List.cons_append, List.cons.injEq] at spelled
    obtain ⟨rfl, spelled⟩ := spelled
    obtain ⟨remaining, rfl, _⟩ := append_eq_append_cons closing spelled.symm
    exact placeholderAt?_placeholder members named remaining
  · intro found
    obtain ⟨path, others, rfl, members, named, spelled⟩ := placeholderAt?_eq_some found
    rw [spelled, List.append_assoc]
    exact placeholderAt?_placeholder members named _

/-- The tokens before an escape and those behind it are found apart. -/
theorem tokens_append_escape {word : List Char} (members : ∀ c ∈ word, isMember c = true)
    (former latter : List Char) :
    tokens (former ++ ((Token.escape word).source ++ latter)) =
      tokens former ++ .escape word :: tokens latter := by
  have opening : (Token.escape word).source ++ latter =
      '[' :: '[' :: (word ++ [']', ']'] ++ latter) := rfl
  rw [← tokens_escape members, opening]
  exact tokens_append_of_apart (fun c rest => escapeAt?_append_opening c rest _)
    (fun c rest => placeholderAt?_append_opening c rest _) former

/-! ## Dividers -/

/-- What no token reaches across: a character that is in no token but itself, or an
escape. -/
inductive Divider where
  | character (c : Char) (barrier : IsBarrier c)
  | escape (word : List Char) (members : ∀ c ∈ word, isMember c = true)

namespace Divider

/-- The token that a divider is. -/
def token : Divider → Token
  | character c _ => .plain c
  | escape word _ => .escape word

/-- A line break is a divider. -/
def lineBreak : Divider :=
  .character '\n' (by decide)

/-- A divider in a template. -/
def text (divider : Divider) : String :=
  String.ofList divider.token.source

/-- A divider in a resolved template. -/
def resolved (divider : Divider) : String :=
  String.ofList divider.token.unescaped

theorem toList_append (divider : Divider) (former latter : String) :
    (former ++ divider.text ++ latter).toList =
      former.toList ++ (divider.token.source ++ latter.toList) := by
  simp [text]

theorem tokens_append (divider : Divider) (former latter : List Char) :
    tokens (former ++ (divider.token.source ++ latter)) =
      tokens former ++ divider.token :: tokens latter := by
  cases divider with
  | character c barrier => exact barrier.tokens_append former latter
  | escape word members => exact tokens_append_escape members former latter

theorem paths_append (divider : Divider) (former latter : List Char) :
    paths (tokens (former ++ (divider.token.source ++ latter))) =
      paths (tokens former) ++ paths (tokens latter) := by
  rw [divider.tokens_append, paths, List.filterMap_append]
  cases divider <;> rfl

theorem isUnplaced_append_iff (divider : Divider) {former latter : List Char} :
    IsUnplaced (former ++ (divider.token.source ++ latter)) ↔
      IsUnplaced former ∧ IsUnplaced latter := by
  rw [IsUnplaced, divider.paths_append, List.append_eq_nil_iff, IsUnplaced, IsUnplaced]

theorem unescape_append (divider : Divider) (former latter : List Char) :
    unescape (former ++ (divider.token.source ++ latter)) =
      unescape former ++ (divider.token.unescaped ++ unescape latter) := by
  rw [unescape, divider.tokens_append, List.flatMap_append, List.flatMap_cons, unescape, unescape]

end Divider

end Template

namespace Resolver

variable {resolver : Resolver} {former latter result : List Char} {passes : Nat}

/-! ## Passes -/

theorem renders_append_iff (divider : Divider) :
    resolver.Renders (former ++ (divider.token.source ++ latter)) ↔
      resolver.Renders former ∧ resolver.Renders latter := by
  unfold Renders
  rw [divider.paths_append, List.forall_mem_append]

theorem replaced_append (divider : Divider) (former latter : List Char) :
    resolver.replaced (former ++ (divider.token.source ++ latter)) =
      resolver.replaced former ++ (divider.token.source ++ resolver.replaced latter) := by
  have kept : resolver.expandToken divider.token = [divider.token] := by cases divider <;> rfl
  rw [replaced, divider.tokens_append, expandOnce, List.flatMap_append, List.flatMap_cons, kept,
    List.flatMap_append, List.singleton_append, List.flatMap_cons, replaced, replaced, expandOnce,
    expandOnce]

/-- In every pass, the text before a divider and that behind it are replaced apart. -/
theorem iterate_replaced_append (divider : Divider) (passes : Nat) (former latter : List Char) :
    resolver.replaced^[passes] (former ++ (divider.token.source ++ latter)) =
      resolver.replaced^[passes] former ++
        (divider.token.source ++ resolver.replaced^[passes] latter) := by
  induction passes generalizing former latter with
  | zero => rfl
  | succ passes ih =>
      rw [Function.iterate_succ_apply, replaced_append, ih, Function.iterate_succ_apply,
        Function.iterate_succ_apply]

/-- Both sides of a divider have the same number of passes. -/
theorem resolvesWithin_append_iff (divider : Divider) :
    resolver.ResolvesWithin passes (former ++ (divider.token.source ++ latter)) result ↔
      ∃ first second, resolver.ResolvesWithin passes former first ∧
        resolver.ResolvesWithin passes latter second ∧
        result = first ++ (divider.token.unescaped ++ second) := by
  induction passes generalizing former latter with
  | zero =>
      constructor
      · rintro ⟨unplaced, rfl⟩
        obtain ⟨isFormer, isLatter⟩ := divider.isUnplaced_append_iff.1 unplaced
        exact ⟨_, _, ⟨isFormer, rfl⟩, ⟨isLatter, rfl⟩, divider.unescape_append former latter⟩
      · rintro ⟨first, second, ⟨isFormer, rfl⟩, ⟨isLatter, rfl⟩, rfl⟩
        exact ⟨divider.isUnplaced_append_iff.2 ⟨isFormer, isLatter⟩,
          (divider.unescape_append former latter).symm⟩
  | succ passes ih =>
      simp only [ResolvesWithin, renders_append_iff, replaced_append, ih]
      constructor
      · rintro ⟨⟨isFormer, isLatter⟩, first, second, resolvesFirst, resolvesSecond, isResult⟩
        exact ⟨first, second, ⟨isFormer, resolvesFirst⟩, ⟨isLatter, resolvesSecond⟩, isResult⟩
      · rintro ⟨first, second, ⟨isFormer, resolvesFirst⟩, ⟨isLatter, resolvesSecond⟩, isResult⟩
        exact ⟨⟨isFormer, isLatter⟩, first, second, resolvesFirst, resolvesSecond, isResult⟩

/-! ## Templates -/

/-- The placeholders that are looked up after a number of passes, when those that are looked
up before stand for texts. -/
def placeholdersAfter (resolver : Resolver) (passes : Nat) (template : String) : List String :=
  paths (tokens (resolver.replaced^[passes] template.toList))

theorem resolve_append_iff (resolver : Resolver) (divider : Divider)
    (former latter result : String) :
    resolver.resolve (former ++ divider.text ++ latter) = .ok result ↔
      ∃ first second, resolver.resolve former = .ok first ∧
        resolver.resolve latter = .ok second ∧ result = first ++ divider.resolved ++ second := by
  rw [resolve_eq_ok_iff_resolvesWithin, divider.toList_append, resolvesWithin_append_iff]
  constructor
  · rintro ⟨first, second, resolvesFormer, resolvesLatter, isResult⟩
    refine ⟨String.ofList first, String.ofList second, ?_, ?_, ?_⟩
    · rwa [resolve_eq_ok_iff_resolvesWithin, String.toList_ofList]
    · rwa [resolve_eq_ok_iff_resolvesWithin, String.toList_ofList]
    · rw [← String.toList_inj, isResult]
      simp [Divider.resolved]
  · rintro ⟨first, second, resolvesFormer, resolvesLatter, rfl⟩
    refine ⟨first.toList, second.toList, resolve_eq_ok_iff_resolvesWithin.1 resolvesFormer,
      resolve_eq_ok_iff_resolvesWithin.1 resolvesLatter, ?_⟩
    simp [Divider.resolved]

/-- A template is resolved line by line. -/
theorem resolve_lines_iff (resolver : Resolver) (lines : List String) (result : String) :
    resolver.resolve ("\n".intercalate lines) = .ok result ↔
      ∃ results, List.Forall₂ (fun line text => resolver.resolve line = .ok text) lines results ∧
        result = "\n".intercalate results := by
  induction lines generalizing result with
  | nil =>
      have empty : resolver.resolve ("\n".intercalate []) = .ok "" := rfl
      simp only [List.forall₂_nil_left_iff, exists_eq_left]
      rw [empty, Except.ok.injEq]
      exact eq_comm
  | cons line lines ih =>
      simp only [List.forall₂_cons_left_iff]
      cases lines with
      | nil =>
          simp only [List.forall₂_nil_left_iff]
          constructor
          · intro resolves
            exact ⟨[result], ⟨result, [], resolves, rfl, rfl⟩, String.intercalate_singleton.symm⟩
          · rintro ⟨_, ⟨text, _, resolves, rfl, rfl⟩, rfl⟩
            exact resolves
      | cons second others =>
          have behind {texts : List String} (found : List.Forall₂
                (fun line text => resolver.resolve line = .ok text) (second :: others) texts)
              (text : String) :
              "\n".intercalate (text :: texts) = text ++ "\n" ++ "\n".intercalate texts :=
            String.intercalate_cons_of_ne_nil fun isNil => nomatch isNil ▸ found
          rw [String.intercalate_cons_cons]
          refine (resolver.resolve_append_iff .lineBreak line _ result).trans ?_
          constructor
          · rintro ⟨text, rest, resolves, resolvesRest, isResult⟩
            obtain ⟨texts, resolvesAll, rfl⟩ := (ih rest).1 resolvesRest
            exact ⟨text :: texts, ⟨text, texts, resolves, resolvesAll, rfl⟩,
              isResult.trans (behind resolvesAll text).symm⟩
          · rintro ⟨_, ⟨text, texts, resolves, resolvesAll, rfl⟩, rfl⟩
            exact ⟨text, _, resolves, (ih _).2 ⟨texts, resolvesAll, rfl⟩, behind resolvesAll text⟩

/-- What comes of a text on one side of a divider does not depend on the other side. -/
structure ResolvesLocally (resolver : Resolver) : Prop where
  apart : ∀ (divider : Divider) (former latter result : String),
    resolver.resolve (former ++ divider.text ++ latter) = .ok result ↔
      ∃ first second, resolver.resolve former = .ok first ∧
        resolver.resolve latter = .ok second ∧ result = first ++ divider.resolved ++ second
  lines : ∀ (lines : List String) (result : String),
    resolver.resolve ("\n".intercalate lines) = .ok result ↔
      ∃ results, List.Forall₂ (fun line text => resolver.resolve line = .ok text) lines results ∧
        result = "\n".intercalate results
  /-- No pass looks up the word of an escape. -/
  lookups : ∀ (divider : Divider) (former latter : String) (passes : Nat),
    resolver.placeholdersAfter passes (former ++ divider.text ++ latter) =
      resolver.placeholdersAfter passes former ++ resolver.placeholdersAfter passes latter

theorem resolves_locally (resolver : Resolver) : resolver.ResolvesLocally where
  apart := resolver.resolve_append_iff
  lines := resolver.resolve_lines_iff
  lookups divider former latter passes := by
    rw [placeholdersAfter, divider.toList_append, iterate_replaced_append, divider.paths_append]
    rfl

/-- The bracket that is put in before the escape does not become a part of it. -/
example :
    let resolver := (Resolver.new true |>.declare "open" (.text "[[a")).1
    resolver.resolve "[open][[open]]]\n" = .ok "[[a[open]]\n" := by
  decide +kernel

end Resolver

end ProjectFiles
