import Mathlib.Data.List.Infix
import ProjectFiles.Template.OutputBuffer

/-!
# Lines of texts that are put together

A text that is put together from lines is cut into just these lines again.  So
the lines of a text are found part by part, and dropping the tagged lines of a
text leaves the others as they are.
-/

namespace ProjectFiles.Text

/-! ## Occurrences -/

/-- A text occurs where it is an infix. -/
theorem occursIn_iff {part text : List Char} : occursIn part text = true ↔ part <:+: text := by
  induction text with
  | nil => rw [occursIn, List.isEmpty_iff, List.infix_nil]
  | cons c rest ih =>
      rw [occursIn, Bool.or_eq_true, List.isPrefixOf_iff_prefix, ih, List.infix_cons_iff]

/-- A text does not reach across a character that it lacks. -/
theorem infix_append_cons_iff {part former latter : List Char} {c : Char} (absent : c ∉ part) :
    part <:+: former ++ c :: latter ↔ part <:+: former ∨ part <:+: latter := by
  constructor
  · intro occurs
    rcases List.infix_append_iff.1 occurs with inFormer | inLatter | ⟨left, right, rfl, _, starts⟩
    · exact .inl inFormer
    · rcases List.infix_cons_iff.1 inLatter with starts | inRest
      · cases part with
        | nil => exact .inl List.nil_infix
        | cons first rest =>
            obtain ⟨rfl, _⟩ := List.cons_prefix_cons.1 starts
            exact absurd List.mem_cons_self absent
      · exact .inr inRest
    · cases right with
      | nil => exact .inl (by simpa using ‹left <:+ former›.isInfix)
      | cons first rest =>
          obtain ⟨rfl, _⟩ := List.cons_prefix_cons.1 starts
          exact absurd (by simp) absent
  · rintro (inFormer | inLatter)
    · exact inFormer.trans (List.prefix_append _ _).isInfix
    · exact inLatter.trans ((List.suffix_cons c latter).trans (List.suffix_append _ _)).isInfix

/-- Texts without a mark end where the first mark stands. -/
theorem append_cons_inj {mark : Char} {former latter behind rest : List Char}
    (absent : mark ∉ former) (alsoAbsent : mark ∉ latter)
    (same : former ++ mark :: behind = latter ++ mark :: rest) :
    former = latter ∧ behind = rest := by
  have upTo : ∀ text tail : List Char, mark ∉ text →
      (text ++ mark :: tail).takeWhile (· != mark) = text := by
    intro text tail absent
    rw [List.takeWhile_append_of_pos fun c member => by
      simpa using ne_of_mem_of_not_mem member absent]
    simp
  have sameText : former = latter := by
    rw [← upTo former behind absent, same, upTo latter rest alsoAbsent]
  subst sameText
  exact ⟨rfl, (List.cons.inj (List.append_cancel_left same)).2⟩

/-! ## Cutting -/

/-- Whether a text is one line with its terminator. -/
def IsLine (line : List Char) : Prop :=
  ∃ text, line = text ++ ['\n'] ∧ '\n' ∉ text

/-- Whether a text consists of lines, the last of them terminated too. -/
def IsCut (text : List Char) (cut : List (List Char)) : Prop :=
  text = cut.flatten ∧ ∀ line ∈ cut, IsLine line

theorem lines_line_append {text : List Char} (single : '\n' ∉ text) (rest : List Char) :
    lines (text ++ '\n' :: rest) = (text ++ ['\n']) :: lines rest := by
  induction text with
  | nil => rfl
  | cons c text ih =>
      simp only [List.mem_cons, not_or] at single
      rw [List.cons_append, lines, if_neg (Ne.symm single.1), ih single.2]
      rfl

namespace IsCut

variable {text former latter : List Char} {cut : List (List Char)}

theorem nil : IsCut [] [] :=
  ⟨rfl, by simp⟩

theorem append {cutLatter : List (List Char)} (isFormer : IsCut former cut)
    (isLatter : IsCut latter cutLatter) : IsCut (former ++ latter) (cut ++ cutLatter) := by
  refine ⟨by rw [isFormer.1, isLatter.1, List.flatten_append], fun line member => ?_⟩
  rcases List.mem_append.1 member with inFormer | inLatter
  · exact isFormer.2 line inFormer
  · exact isLatter.2 line inLatter

theorem singleton {line : List Char} (ended : line.getLast? = some '\n')
    (single : '\n' ∉ line.dropLast) : IsCut line [line] := by
  refine ⟨by simp, fun other member => ?_⟩
  rw [List.mem_singleton.1 member]
  exact ⟨line.dropLast, (List.dropLast_append_getLast? _ ended).symm, single⟩

theorem join {parts : List String} {cutOf : String → List (List Char)}
    (areCut : ∀ part ∈ parts, IsCut part.toList (cutOf part)) :
    IsCut (String.join parts).toList (parts.flatMap cutOf) := by
  induction parts with
  | nil => simpa using nil
  | cons first rest ih =>
      rw [String.join_cons, String.toList_append, List.flatMap_cons]
      exact (areCut first List.mem_cons_self).append
        (ih fun part member => areCut part (List.mem_cons_of_mem _ member))

/-- The lines that a text is put together from come first, whatever follows. -/
theorem lines_append (isCut : IsCut text cut) (rest : List Char) :
    lines (text ++ rest) = cut ++ lines rest := by
  obtain ⟨rfl, areLines⟩ := isCut
  induction cut with
  | nil => rfl
  | cons line others ih =>
      obtain ⟨inner, rfl, single⟩ := areLines line List.mem_cons_self
      have behind := ih fun line member => areLines line (List.mem_cons_of_mem _ member)
      rw [List.flatten_cons, List.append_assoc, List.append_assoc, List.singleton_append,
        lines_line_append single, behind, List.cons_append]

/-- The lines that a text is put together from are the lines that it is cut into. -/
theorem lines_eq (isCut : IsCut text cut) : lines text = cut := by
  have whole := isCut.lines_append []
  rwa [List.append_nil, lines, List.append_nil] at whole

end IsCut

/-- A text that ends with a newline is cut into lines. -/
theorem isCut_lines {text : List Char} (terminated : text.getLast? = some '\n') :
    IsCut text (lines text) := by
  refine ⟨(flatten_lines text).symm, ?_⟩
  induction text with
  | nil => cases terminated
  | cons c rest ih =>
      rw [lines]
      split
      · rename_i newline
        subst newline
        intro line member
        rcases List.mem_cons.1 member with rfl | inRest
        · exact ⟨[], rfl, List.not_mem_nil⟩
        · cases rest with
          | nil => cases inRest
          | cons second others => exact ih terminated line inRest
      · rename_i ordinary
        cases rest with
        | nil => exact absurd (Option.some.inj terminated) ordinary
        | cons second others =>
            have areLines := ih terminated
            cases cut : lines (second :: others) with
            | nil =>
                have whole := flatten_lines (second :: others)
                rw [cut] at whole
                cases whole
            | cons first latter =>
                rw [cut] at areLines
                obtain ⟨⟨front, rfl, single⟩, areLatter⟩ := List.forall_mem_cons.1 areLines
                refine List.forall_mem_cons.2 ⟨⟨c :: front, rfl, ?_⟩, areLatter⟩
                rw [List.mem_cons, not_or]
                exact ⟨Ne.symm ordinary, single⟩

/-- Texts without newlines are the lines of their joined text. -/
theorem isCut_unlines {texts : List String} (single : ∀ text ∈ texts, '\n' ∉ text.toList) :
    IsCut (unlines texts).toList (texts.map fun text => text.toList ++ ['\n']) := by
  induction texts with
  | nil => exact ⟨by simp [unlines], by simp⟩
  | cons first rest ih =>
      have isFirst : IsCut (first.toList ++ ['\n']) [first.toList ++ ['\n']] :=
        ⟨by simp, by simpa [IsLine] using single first List.mem_cons_self⟩
      have others := ih fun text member => single text (List.mem_cons_of_mem _ member)
      have spelled : (unlines (first :: rest)).toList =
          first.toList ++ ['\n'] ++ (unlines rest).toList := by
        simp [unlines]
      rw [spelled]
      exact isFirst.append others

/-- Whether a text consists of lines none of which is a given one. -/
def Lacks (line text : List Char) : Prop :=
  ∃ cut, IsCut text cut ∧ line ∉ cut

theorem Lacks.nil (line : List Char) : Lacks line [] :=
  ⟨[], .nil, List.not_mem_nil⟩

theorem Lacks.append {line former latter : List Char} (lacksFormer : Lacks line former)
    (lacksLatter : Lacks line latter) : Lacks line (former ++ latter) := by
  obtain ⟨cutFormer, isFormer, notInFormer⟩ := lacksFormer
  obtain ⟨cutLatter, isLatter, notInLatter⟩ := lacksLatter
  refine ⟨cutFormer ++ cutLatter, isFormer.append isLatter, ?_⟩
  rw [List.mem_append, not_or]
  exact ⟨notInFormer, notInLatter⟩

theorem Lacks.join {line : List Char} {parts : List String}
    (lacks : ∀ part ∈ parts, Lacks line part.toList) : Lacks line (String.join parts).toList := by
  induction parts with
  | nil => simpa using Lacks.nil line
  | cons first rest ih =>
      rw [String.join_cons, String.toList_append]
      exact (lacks first List.mem_cons_self).append
        (ih fun part member => lacks part (List.mem_cons_of_mem _ member))

/-! ## Tagged lines -/

/-- Without a low line there is no place for a tag. -/
theorem untagged_of_notMem {text : List Char} (absent : '_' ∉ text) :
    ¬ Value.omitTag.toList <:+: text := by
  intro tagged
  have inTag : '_' ∈ Value.omitTag.toList := by decide
  exact absent (tagged.subset inTag)

/-- What is left when the tagged lines have been dropped. -/
theorem toList_removeTaggedLines (text : String) :
    (OutputBuffer.removeTaggedLines text).toList =
      ((lines text.toList).filter fun line => !occursIn Value.omitTag.toList line).flatten := by
  unfold OutputBuffer.removeTaggedLines
  dsimp only
  split
  · rw [String.toList_ofList]
  · rename_i untagged
    rw [List.filter_eq_self.2, flatten_lines]
    intro line member
    rw [Bool.not_eq_true', Bool.eq_false_iff]
    intro tagged
    apply untagged
    rw [occursIn_iff] at tagged ⊢
    rw [← flatten_lines text.toList]
    exact tagged.trans (List.infix_of_mem_flatten member)

/-- A text without tagged lines is left as it is. -/
theorem removeTaggedLines_eq_self {text : String} {cut : List (List Char)}
    (isCut : IsCut text.toList cut)
    (untagged : ∀ line ∈ cut, ¬ Value.omitTag.toList <:+: line) :
    OutputBuffer.removeTaggedLines text = text := by
  rw [← String.toList_inj, toList_removeTaggedLines, isCut.lines_eq,
    List.filter_eq_self.2, ← isCut.1]
  intro line member
  rw [Bool.not_eq_true', Bool.eq_false_iff, ne_eq, occursIn_iff]
  exact untagged line member

/-- Dropping the tagged lines keeps the other lines as they are. -/
theorem isCut_removeTaggedLines {text : String} {cut : List (List Char)}
    (isCut : IsCut text.toList cut) :
    IsCut (OutputBuffer.removeTaggedLines text).toList
      (cut.filter fun line => !occursIn Value.omitTag.toList line) := by
  rw [toList_removeTaggedLines, isCut.lines_eq]
  exact ⟨rfl, fun line member => isCut.2 line (List.mem_of_mem_filter member)⟩

/-- Whether a text is empty or ends with a newline. -/
def IsTerminated (text : List Char) : Prop :=
  ∀ c ∈ text.getLast?, c = '\n'

theorem getLast?_unlines {texts : List String} (nonempty : texts ≠ []) :
    (unlines texts).toList.getLast? = some '\n' := by
  obtain rfl | ⟨former, last, rfl⟩ := List.eq_nil_or_concat texts
  · exact absurd rfl nonempty
  · simp [unlines, String.join_append]

theorem IsTerminated.append {former latter : List Char} (isFormer : IsTerminated former)
    (isLatter : IsTerminated latter) : IsTerminated (former ++ latter) := by
  cases latter with
  | nil => rwa [List.append_nil]
  | cons first rest =>
      intro c isLast
      rw [List.getLast?_append_of_ne_nil _ (List.cons_ne_nil first rest)] at isLast
      exact isLatter c isLast

theorem IsTerminated.join {parts : List String}
    (terminated : ∀ part ∈ parts, IsTerminated part.toList) :
    IsTerminated (String.join parts).toList := by
  induction parts with
  | nil => exact nofun
  | cons first rest ih =>
      obtain ⟨isFirst, areRest⟩ := List.forall_mem_cons.1 terminated
      rw [String.join_cons, String.toList_append]
      exact isFirst.append (ih areRest)

/-- Behind a newline the tagged lines are dropped by themselves. -/
theorem removeTaggedLines_append_of_isTerminated {former latter : String}
    (terminated : IsTerminated former.toList) :
    OutputBuffer.removeTaggedLines (former ++ latter) =
      OutputBuffer.removeTaggedLines former ++ OutputBuffer.removeTaggedLines latter := by
  have cut : lines (former.toList ++ latter.toList) =
      lines former.toList ++ lines latter.toList := by
    cases last : former.toList.getLast? with
    | none =>
        rw [List.getLast?_eq_none_iff.1 last]
        rfl
    | some c =>
        rw [terminated c last] at last
        exact (isCut_lines last).lines_append _
  rw [← String.toList_inj, String.toList_append, toList_removeTaggedLines,
    toList_removeTaggedLines, toList_removeTaggedLines, String.toList_append, cut,
    List.filter_append, List.flatten_append]

/-- Only the untagged lines are left when the tagged ones have been dropped. -/
theorem mem_lines_removeTaggedLines {text : String} {cut : List (List Char)} {line : List Char}
    (isCut : IsCut text.toList cut) :
    line ∈ lines (OutputBuffer.removeTaggedLines text).toList ↔
      line ∈ cut ∧ occursIn Value.omitTag.toList line = false := by
  rw [(isCut_removeTaggedLines isCut).lines_eq, List.mem_filter, Bool.not_eq_true']

end ProjectFiles.Text
