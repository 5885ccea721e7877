import ProjectFiles.Proofs.Text.Characters

/-!
# Values between fixed texts

A program writes values of a model between texts of its own.  The marker of omitted
values and the newline have a character that these texts lack, and neither of them has a
character that these texts begin or end with.  So neither occurs in what is written when
it occurs in no value.
-/

namespace ProjectFiles.Text

/-- Whether a text is free of a part. -/
def IsFree (part : List Char) (text : String) : Prop :=
  ¬ part <:+: text.toList

/-- The characters that fixed texts begin or end with. -/
def fenceMarks : List Char := ['P', '\t', ' ', '"', '|', '.', '/', '\\', '\x7b', '\x7d']

/-- Whether a part has a character that fixed texts lack, and none of those that fixed
texts begin or end with. -/
structure IsForeign (part : List Char) : Prop where
  marked : '_' ∈ part ∨ '\n' ∈ part
  unfenced : ∀ c ∈ fenceMarks, c ∉ part

theorem isForeign_newline : IsForeign ['\n'] :=
  ⟨by decide, by simp [fenceMarks]⟩

theorem isForeign_omitTag : IsForeign Value.omitTag.toList :=
  ⟨by decide, by simp [fenceMarks, Value.omitTag]⟩

/-- Whether a text has no place for a part that is foreign to it. -/
def isFixedText (text : String) : Bool :=
  !text.toList.contains '_' && !text.toList.contains '\n'

/-- Whether a fixed text begins and ends with marks that foreign parts lack. -/
def isFence (text : String) : Bool :=
  isFixedText text && (text.toList.head?.any fenceMarks.contains) &&
    text.toList.getLast?.any fenceMarks.contains

namespace IsForeign

variable {part : List Char} {fixed value former latter : String}

theorem isFree_of_isFixedText (foreign : IsForeign part) (isFixed : isFixedText fixed = true) :
    IsFree part fixed := by
  simp only [isFixedText, Bool.and_eq_true, Bool.not_eq_true', List.contains_eq_mem,
    decide_eq_false_iff_not] at isFixed
  intro occurs
  rcases foreign.marked with marked | marked
  · exact isFixed.1 (occurs.subset marked)
  · exact isFixed.2 (occurs.subset marked)

/-- A foreign part does not reach into a fence from either side. -/
theorem fenced (foreign : IsForeign part) (fence : isFence fixed = true)
    (isFree : IsFree part former) (alsoFree : IsFree part latter) :
    IsFree part (former ++ fixed ++ latter) := by
  simp only [isFence, Bool.and_eq_true, Option.any_eq_true, List.contains_iff_mem] at fence
  obtain ⟨⟨isFixed, first, begins, isMark⟩, last, ends, isLastMark⟩ := fence
  have notInFence := foreign.isFree_of_isFixedText isFixed
  obtain ⟨behind, spelled⟩ : ∃ behind, fixed.toList = first :: behind := by
    obtain ⟨head, behind, spelled⟩ := List.exists_cons_of_ne_nil (List.ne_nil_of_mem
      (List.mem_of_mem_head? begins))
    rw [spelled, List.head?_cons, Option.some.injEq] at begins
    exact ⟨behind, begins ▸ spelled⟩
  unfold IsFree at notInFence ⊢
  rw [String.toList_append, String.toList_append, List.append_assoc, spelled, List.cons_append,
    infix_append_cons_iff (foreign.unfenced first isMark), not_or]
  refine ⟨isFree, ?_⟩
  rw [spelled] at notInFence ends
  rcases List.eq_nil_or_concat behind with rfl | ⟨front, ending, rfl⟩
  · exact alsoFree
  · rw [List.concat_eq_append, ← List.cons_append, List.getLast?_concat, Option.some.injEq] at ends
    subst ends
    rw [List.concat_eq_append, List.append_assoc, List.singleton_append,
      infix_append_cons_iff (foreign.unfenced ending isLastMark), not_or]
    refine ⟨fun inFront => notInFence ?_, alsoFree⟩
    rw [List.concat_eq_append]
    exact inFront.trans ⟨[first], [ending], by simp⟩

theorem behind (foreign : IsForeign part) (fence : isFence fixed = true)
    (isFree : IsFree part latter) : IsFree part (fixed ++ latter) := by
  have nothing : IsFree part "" := foreign.isFree_of_isFixedText (by decide)
  have whole := foreign.fenced fence nothing isFree
  rwa [String.empty_append] at whole

theorem before (foreign : IsForeign part) (fence : isFence fixed = true)
    (isFree : IsFree part former) : IsFree part (former ++ fixed) := by
  have nothing : IsFree part "" := foreign.isFree_of_isFixedText (by decide)
  have whole := foreign.fenced fence isFree nothing
  rwa [String.append_empty] at whole

theorem isFree_braced (foreign : IsForeign part) (guid : Guid) : IsFree part guid.braced := by
  intro occurs
  have unmarked : '_' ∉ Guid.bracedCharacters.toList ∧ '\n' ∉ Guid.bracedCharacters.toList := by
    decide
  rcases foreign.marked with marked | marked
  · exact unmarked.1 (Guid.mem_braced (occurs.subset marked))
  · exact unmarked.2 (Guid.mem_braced (occurs.subset marked))

theorem isWord (foreign : IsForeign part) : Path.IsWord part where
  nonempty := by
    rintro rfl
    simpa using foreign.marked
  slashless := foreign.unfenced '/' (by decide)
  backslashless := foreign.unfenced '\\' (by decide)
  pointless := foreign.unfenced '.' (by decide)

end IsForeign

end ProjectFiles.Text
