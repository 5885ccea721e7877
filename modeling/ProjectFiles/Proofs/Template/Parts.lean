import ProjectFiles.Proofs.Template.Barrier
import ProjectFiles.Proofs.Template.Expansion

/-!
# Resolving part by part

Closed texts that stand one behind the other are resolved each by itself: the tree of the
whole consists of their trees.  So a resolved template consists of its resolved lines,
and each of these has the terminator that it has in the template.
-/

namespace ProjectFiles

open Template Text

namespace Resolver

variable {resolver : Resolver}

/-! ## Placeholders of a tree -/

/-- Whether a placeholder is in the tree of tokens. -/
def Meets (resolver : Resolver) (tokens : List Token) (path : String) : Prop :=
  ∃ depth, path ∈ resolver.level tokens depth

theorem level_append (resolver : Resolver) (first second : List Token) (depth : Nat) :
    resolver.level (first ++ second) depth =
      resolver.level first depth ++ resolver.level second depth := by
  induction depth with
  | zero => exact List.filterMap_append
  | succ depth ih => rw [level, ih, List.flatMap_append, level, level]

theorem meets_append_iff {first second : List Token} {path : String} :
    resolver.Meets (first ++ second) path ↔
      resolver.Meets first path ∨ resolver.Meets second path := by
  unfold Meets
  simp only [level_append, List.mem_append, exists_or]

theorem level_of_unplaced {tokens : List Token} (unplaced : paths tokens = []) (depth : Nat) :
    resolver.level tokens depth = [] := by
  have first : resolver.level tokens 0 = [] := unplaced
  exact level_eq_nil_of_le first (Nat.zero_le depth)

theorem not_meets_of_unplaced {tokens : List Token} (unplaced : paths tokens = [])
    (path : String) : ¬ resolver.Meets tokens path := by
  rintro ⟨depth, member⟩
  rw [level_of_unplaced unplaced] at member
  cases member

/-- The tree of a placeholder has the placeholder and the tree of its text. -/
theorem meets_placeholder_iff {path : List Char} {other : String} :
    resolver.Meets [.placeholder path] other ↔
      other = String.ofList path ∨
        resolver.Meets (resolver.expansion (String.ofList path)) other := by
  have expanded : resolver.expandOnce [.placeholder path] =
      resolver.expansion (String.ofList path) := List.append_nil _
  constructor
  · rintro ⟨depth, member⟩
    cases depth with
    | zero => exact .inl (List.mem_singleton.1 member)
    | succ depth =>
        rw [← level_expandOnce, expanded] at member
        exact .inr ⟨depth, member⟩
  · rintro (rfl | ⟨depth, member⟩)
    · exact ⟨0, List.mem_singleton.2 rfl⟩
    · rw [← expanded, level_expandOnce] at member
      exact ⟨depth + 1, member⟩

theorem meets_cons_placeholder_iff {path : List Char} {rest : List Token} {other : String} :
    resolver.Meets (.placeholder path :: rest) other ↔
      other = String.ofList path ∨
        resolver.Meets (resolver.expansion (String.ofList path)) other ∨
        resolver.Meets rest other := by
  rw [← List.singleton_append, meets_append_iff, meets_placeholder_iff, or_assoc]

theorem meets_cons_plain_iff {c : Char} {rest : List Token} {other : String} :
    resolver.Meets (.plain c :: rest) other ↔ resolver.Meets rest other := by
  rw [← List.singleton_append, meets_append_iff]
  exact or_iff_right (not_meets_of_unplaced rfl other)

theorem meets_cons_escape_iff {word : List Char} {rest : List Token} {other : String} :
    resolver.Meets (.escape word :: rest) other ↔ resolver.Meets rest other := by
  rw [← List.singleton_append, meets_append_iff]
  exact or_iff_right (not_meets_of_unplaced rfl other)

theorem expansion_of_rendering? {path rendered : String}
    (isText : resolver.rendering? path = some rendered) :
    resolver.expansion path = tokens rendered.toList := by
  unfold expansion
  rw [isText]

/-- What a placeholder of the tree expands to is in what the whole expands to. -/
theorem Expands.exists_infix {tokens : List Token} {text : List Char}
    (expands : resolver.Expands tokens text) {path : String} (meets : resolver.Meets tokens path) :
    ∃ inner, resolver.Expands (resolver.expansion path) inner ∧ inner <:+: text := by
  induction expands with
  | nil => exact absurd meets (not_meets_of_unplaced rfl path)
  | plain _ ih =>
      obtain ⟨inner, expandsInner, within⟩ := ih (meets_cons_plain_iff.1 meets)
      exact ⟨inner, expandsInner, within.trans (List.suffix_cons _ _).isInfix⟩
  | escape _ ih =>
      obtain ⟨inner, expandsInner, within⟩ := ih (meets_cons_escape_iff.1 meets)
      exact ⟨inner, expandsInner, within.trans (List.suffix_append _ _).isInfix⟩
  | placeholder isText expands _ ihInner ihRest =>
      have own := expansion_of_rendering? isText
      rcases meets_cons_placeholder_iff.1 meets with rfl | inText | inRest
      · exact ⟨_, own ▸ expands, (List.prefix_append _ _).isInfix⟩
      · obtain ⟨inner, expandsInner, within⟩ := ihInner (own ▸ inText)
        exact ⟨inner, expandsInner, within.trans (List.prefix_append _ _).isInfix⟩
      · obtain ⟨inner, expandsInner, within⟩ := ihRest inRest
        exact ⟨inner, expandsInner, within.trans (List.suffix_append _ _).isInfix⟩

/-- A character that neither the tokens nor the texts of the tree have is not in the
expansion. -/
theorem Expands.notMem {tokens : List Token} {text : List Char}
    (expands : resolver.Expands tokens text) {c : Char}
    (absent : c ∉ tokens.flatMap Token.source)
    (absentBelow : ∀ path, resolver.Meets tokens path →
      ∀ rendered, resolver.rendering? path = some rendered → c ∉ rendered.toList) : c ∉ text := by
  induction expands with
  | nil => exact List.not_mem_nil
  | plain _ ih =>
      rw [List.flatMap_cons, List.mem_append, not_or] at absent
      rw [List.mem_cons, not_or]
      exact ⟨fun same => absent.1 (List.mem_singleton.2 same),
        ih absent.2 fun path meets => absentBelow path (meets_cons_plain_iff.2 meets)⟩
  | @escape word _ _ _ ih =>
      rw [List.flatMap_cons, List.mem_append, not_or] at absent
      rw [List.mem_append, not_or]
      refine ⟨fun inWord => absent.1 ?_,
        ih absent.2 fun path meets => absentBelow path (meets_cons_escape_iff.2 meets)⟩
      simp only [Token.unescaped, Token.source, List.mem_append, List.mem_cons] at inWord ⊢
      tauto
  | placeholder isText _ _ ihInner ihRest =>
      rw [List.flatMap_cons, List.mem_append, not_or] at absent
      rw [List.mem_append, not_or]
      have own := expansion_of_rendering? isText
      constructor
      · apply ihInner
        · rw [flatMap_source_tokens]
          exact absentBelow _ (meets_cons_placeholder_iff.2 (.inl rfl)) _ isText
        · intro path meets
          exact absentBelow path (meets_cons_placeholder_iff.2 (.inr (.inl (own ▸ meets))))
      · exact ihRest absent.2 fun path meets =>
          absentBelow path (meets_cons_placeholder_iff.2 (.inr (.inr meets)))

/-! ## Results -/

/-- `resolver.Yields tokens text` means that tokens are resolved to a text. -/
structure Yields (resolver : Resolver) (tokens : List Token) (text : List Char) : Prop where
  renders : ∀ path, resolver.Meets tokens path → (resolver.rendering? path).isSome
  shallow : resolver.level tokens 15 = []
  expands : resolver.Expands tokens text

theorem resolve_eq_ok_iff (bound : resolver.BindsClosed) {template : String} {tokens : List Token}
    (reads : Reads template.toList tokens) {result : String} :
    resolver.resolve template = .ok result ↔ resolver.Yields tokens result.toList := by
  have outcome : resolver.Outcome template tokens 16 (resolver.resolve template) :=
    resolvePasses_outcome bound reads 16 false
  constructor
  · intro isResult
    obtain ⟨renders, shallow⟩ := outcome.isOk_iff.1 ⟨result, isResult⟩
    exact ⟨fun path ⟨depth, member⟩ => renders depth path member, shallow,
      ((isResult ▸ outcome).expands_iff _).2 rfl⟩
  · intro yields
    obtain ⟨other, isOther⟩ := outcome.isOk_iff.2
      ⟨fun depth path member => yields.renders path ⟨depth, member⟩, yields.shallow⟩
    have same := ((isOther ▸ outcome).expands_iff _).1 yields.expands
    rw [isOther, String.toList_inj.1 same]

theorem Yields.split {first second : List Token} {text : List Char}
    (yields : resolver.Yields (first ++ second) text) :
    ∃ former latter, text = former ++ latter ∧ resolver.Yields first former ∧
      resolver.Yields second latter := by
  obtain ⟨former, latter, rfl, expandsFirst, expandsSecond⟩ := yields.expands.split
  have shallow := yields.shallow
  rw [level_append, List.append_eq_nil_iff] at shallow
  exact ⟨former, latter, rfl,
    ⟨fun path meets => yields.renders path (meets_append_iff.2 (.inl meets)), shallow.1,
      expandsFirst⟩,
    ⟨fun path meets => yields.renders path (meets_append_iff.2 (.inr meets)), shallow.2,
      expandsSecond⟩⟩

/-- What follows on a barrier without brackets stays as it is. -/
theorem Yields.of_terminated {c : Char} {content behind text : List Char}
    (yields : resolver.Yields (tokens (content ++ c :: behind)) text) (barrier : IsBarrier c)
    (bracketless : '[' ∉ behind) :
    ∃ inner, text = inner ++ c :: behind ∧ resolver.Yields (tokens content) inner := by
  have readsBehind := reads_map_plain bracketless
  rw [barrier.tokens_append, readsBehind.tokens_eq, ← List.map_cons] at yields
  obtain ⟨inner, rest, rfl, yieldsInner, yieldsRest⟩ := yields.split
  have unplaced : paths ((c :: behind).map .plain) = [] := by
    rw [paths, List.filterMap_map]
    exact List.filterMap_eq_nil_iff.2 fun _ _ => rfl
  have same : rest = c :: behind := by
    rw [yieldsRest.expands.unique (expands_of_unplaced unplaced), List.flatMap_map]
    exact List.flatMap_singleton' _
  exact ⟨inner, by rw [same], yieldsInner⟩

end Resolver

end ProjectFiles
