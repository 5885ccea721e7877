import ProjectFiles.Proofs.Template.Scope
import ProjectFiles.Proofs.Text.Lines

/-!
# Lines of filled templates

No placeholder reaches across a newline.  So a template is filled line by line as
long as the values have no newlines, and what stands before the first placeholder
of a line is how the filled line begins.
-/

namespace ProjectFiles.Template

open Text

/-! ## Templates line by line -/

/-- What lacks a character ends before its first occurrence. -/
theorem append_eq_append_cons {token rest former latter : List Char} {c : Char}
    (absent : c ∉ token) (equal : token ++ rest = former ++ c :: latter) :
    ∃ others, former = token ++ others ∧ rest = others ++ c :: latter := by
  rcases List.append_eq_append_iff.1 equal with ⟨others, rfl, rfl⟩ | ⟨others, rfl, behind⟩
  · exact ⟨others, rfl, rfl⟩
  · cases others with
    | nil => exact ⟨[], by simp, by simpa using behind.symm⟩
    | cons first others =>
        obtain ⟨rfl, _⟩ := List.cons.inj behind
        simp at absent

/-- The tokens of a closed text end at a newline. -/
theorem Reads.split {text former latter : List Char} {all : List Token} (reads : Reads text all)
    (spelled : text = former ++ '\n' :: latter) :
    ∃ first second, Reads former first ∧ Reads latter second := by
  have newline : isMember '\n' = false := by decide
  induction reads generalizing former with
  | nil => simp at spelled
  | plain ordinary reads ih =>
      cases former with
      | nil =>
          obtain ⟨rfl, rfl⟩ := List.cons.inj spelled
          exact ⟨[], _, .nil, reads⟩
      | cons opening former =>
          obtain ⟨rfl, equal⟩ := List.cons.inj spelled
          obtain ⟨first, second, readsFormer, readsLatter⟩ := ih equal
          exact ⟨_, second, .plain ordinary readsFormer, readsLatter⟩
  | @escape word _ _ members _ ih =>
      have absent : '\n' ∉ (Token.escape word).source := by
        simp [Token.source, notMem_of_members newline members]
      obtain ⟨others, rfl, equal⟩ := append_eq_append_cons absent spelled
      obtain ⟨first, second, readsOthers, readsLatter⟩ := ih equal
      exact ⟨_, second, .escape members readsOthers, readsLatter⟩
  | @placeholder path _ _ members named _ ih =>
      have absent : '\n' ∉ (Token.placeholder path).source := by
        simp [Token.source, notMem_of_members newline members]
      obtain ⟨others, rfl, equal⟩ := append_eq_append_cons absent spelled
      obtain ⟨first, second, readsOthers, readsLatter⟩ := ih equal
      exact ⟨_, second, .placeholder members named readsOthers, readsLatter⟩

theorem Reads.tokens_newline {former latter : List Char} {first second : List Token}
    (readsFormer : Reads former first) (readsLatter : Reads latter second) :
    tokens (former ++ '\n' :: latter) = first ++ .plain '\n' :: second := by
  rw [readsFormer.tokens_append, tokens_plain (by decide), readsLatter.tokens_eq]

/-- The characters among the tokens of a text are in the text. -/
theorem Reads.mem_of_plain {text : List Char} {all : List Token} (reads : Reads text all) {c : Char}
    (member : .plain c ∈ all) : c ∈ text := by
  induction reads with
  | nil => cases member
  | plain _ _ ih =>
      rcases List.mem_cons.1 member with isFirst | inRest
      · cases isFirst
        exact List.mem_cons_self
      · exact List.mem_cons_of_mem _ (ih inRest)
  | escape _ _ ih | placeholder _ _ _ ih =>
      exact List.mem_append_right _ (ih (List.mem_of_ne_of_mem (by simp) member))

variable {avoided : List Char} {scope : Scope} {bindings : List (String × Value)}

/-- A template of several lines keeps to a scope when its lines do. -/
theorem closes_newline {former latter : List Char}
    (closes : scope.closes (former ++ '\n' :: latter) = true) :
    scope.closes former = true ∧ scope.closes latter = true := by
  obtain ⟨first, second, readsFormer, readsLatter⟩ := (Scope.reads_of_closes closes).split rfl
  unfold Scope.closes at closes ⊢
  rw [readsFormer.tokens_newline readsLatter, List.all_append, Bool.and_eq_true,
    List.all_cons, Bool.and_eq_true] at closes
  rw [readsFormer.tokens_eq, readsLatter.tokens_eq]
  exact ⟨closes.1, closes.2.2⟩

theorem fill_newline {former : List Char} (closes : scope.closes former = true)
    (latter : List Char) :
    fill bindings (former ++ '\n' :: latter) =
      fill bindings former ++ '\n' :: fill bindings latter := by
  rw [fill_append closes, List.append_cancel_left_eq, fill, tokens_plain (by decide)]
  rfl

/-- A character that the values avoid is in a filled template only if it is in the
template itself. -/
theorem notMem_fill (fits : scope.Fits avoided bindings) {c : Char} (isAvoided : c ∈ avoided)
    {template : List Char} (closes : scope.closes template = true) (absent : c ∉ template) :
    c ∉ fill bindings template := by
  intro member
  obtain ⟨token, inTokens, inText⟩ := List.mem_flatMap.1 member
  have admitted := List.all_eq_true.1 closes token inTokens
  rcases avoids_fillToken fits admitted inText with rfl | isFree
  · exact absent ((Scope.reads_of_closes closes).mem_of_plain inTokens)
  · exact isFree isAvoided

/-- A template is filled line by line. -/
theorem isCut_fill (fits : scope.Fits avoided bindings) (newline : '\n' ∈ avoided)
    {template : List Char} {cut : List (List Char)} (isCut : IsCut template cut)
    (closes : scope.closes template = true) :
    IsCut (fill bindings template) (cut.map (fill bindings)) := by
  obtain ⟨rfl, areLines⟩ := isCut
  induction cut with
  | nil => exact .nil
  | cons line rest ih =>
      obtain ⟨inner, rfl, single⟩ := areLines line List.mem_cons_self
      have spelled : ((inner ++ ['\n']) :: rest).flatten = inner ++ '\n' :: rest.flatten := by simp
      rw [spelled] at closes ⊢
      obtain ⟨closesLine, closesRest⟩ := closes_newline closes
      have others :=
        ih (fun line member => areLines line (List.mem_cons_of_mem _ member)) closesRest
      have ended : fill bindings (inner ++ ['\n']) = fill bindings inner ++ ['\n'] :=
        fill_newline closesLine []
      have first : IsCut (fill bindings inner ++ ['\n']) [fill bindings inner ++ ['\n']] :=
        ⟨by simp, by simpa [IsLine] using notMem_fill fits newline closesLine single⟩
      rw [fill_newline closesLine, List.map_cons, ended, List.append_cons]
      exact first.append others

/-! ## What a filled template spells -/

/-- A text without placeholders is left as it is. -/
theorem fill_bracketless_append {text : List Char} (bracketless : '[' ∉ text) (rest : List Char) :
    fill bindings (text ++ rest) = text ++ fill bindings rest := by
  have plain : (text.map Token.plain).flatMap (fillToken bindings) = text := by
    rw [List.flatMap_map]
    exact List.flatMap_singleton' text
  rw [fill, (reads_map_plain bracketless).tokens_append, List.flatMap_append, plain]
  rfl

theorem fill_bracketless {text : List Char} (bracketless : '[' ∉ text) :
    fill bindings text = text := by
  have whole : fill bindings (text ++ []) = text ++ fill bindings [] :=
    fill_bracketless_append bracketless []
  rwa [List.append_nil, show fill bindings [] = [] from rfl, List.append_nil] at whole

/-- A placeholder is replaced by the text of its value. -/
theorem fill_placeholder_append {path : List Char} (members : ∀ c ∈ path, isMember c = true)
    (named : path ≠ []) {text : String}
    (found : (lookup? bindings (String.ofList path)).bind Value.scalarText? = some text)
    (rest : List Char) :
    fill bindings ((Token.placeholder path).source ++ rest) =
      text.toList ++ fill bindings rest := by
  rw [fill, tokens_placeholder members named, List.flatMap_cons, fillToken, found]
  rfl

/-- So is one in quotation marks, as the value of an attribute. -/
theorem fill_quoted_append {opening : List Char} (bracketless : '[' ∉ opening) {path : List Char}
    (members : ∀ c ∈ path, isMember c = true) (named : path ≠ []) {text : String}
    (found : (lookup? bindings (String.ofList path)).bind Value.scalarText? = some text)
    (rest : List Char) :
    fill bindings (opening ++ '"' :: ((Token.placeholder path).source ++ '"' :: rest)) =
      opening ++ '"' :: (text.toList ++ '"' :: fill bindings rest) := by
  have quote : '[' ∉ ['"'] := by decide
  rw [fill_bracketless_append bracketless, ← List.singleton_append,
    fill_bracketless_append quote, fill_placeholder_append members named found,
    ← List.singleton_append (l := rest), fill_bracketless_append quote]
  rfl

/-- The text that stands for a placeholder. -/
def textOf (bindings : List (String × Value)) (path : String) : String :=
  ((lookup? bindings path).bind Value.scalarText?).getD ""

/-- Texts with a placeholder behind each of them. -/
def spelling (parts : List (String × String)) : List Char :=
  parts.flatMap fun part => part.1.toList ++ (Token.placeholder part.2.toList).source

/-- Whether no text has a placeholder of its own and every placeholder has a name. -/
def arePlain (parts : List (String × String)) : Bool :=
  parts.all fun part => !part.1.toList.contains '[' && part.2.toList.all isMember &&
    !part.2.toList.isEmpty

/-- Texts are put for the placeholders. -/
theorem fill_spelling_append {parts : List (String × String)} (plain : arePlain parts = true)
    (rest : List Char) :
    fill bindings (spelling parts ++ rest) =
      (String.join (parts.map fun part => part.1 ++ textOf bindings part.2)).toList ++
        fill bindings rest := by
  simp only [arePlain, Bool.and_eq_true, List.all_eq_true, Bool.not_eq_true',
    List.contains_eq_mem, decide_eq_false_iff_not, List.isEmpty_eq_false_iff] at plain
  induction parts with
  | nil => simp [spelling]
  | cons part others ih =>
      obtain ⟨⟨⟨bracketless, members⟩, named⟩, areOthers⟩ := List.forall_mem_cons.1 plain
      have shown : fill bindings ((Token.placeholder part.2.toList).source ++
          (spelling others ++ rest)) = (textOf bindings part.2).toList ++
            fill bindings (spelling others ++ rest) := by
        rw [fill, tokens_placeholder members named, List.flatMap_cons, fillToken,
          String.ofList_toList]
        rfl
      have spelled : spelling (part :: others) ++ rest = part.1.toList ++
          ((Token.placeholder part.2.toList).source ++ (spelling others ++ rest)) := by
        simp [spelling]
      rw [spelled, fill_bracketless_append bracketless, shown, ih areOthers]
      simp

/-- A template is filled by putting texts for its placeholders. -/
theorem filled_eq_join {template : String} {parts : List (String × String)} {ending : String}
    (plain : arePlain parts = true) (bracketless : '[' ∉ ending.toList)
    (spelled : template.toList = spelling parts ++ ending.toList) :
    filled bindings template =
      String.join (parts.map fun part => part.1 ++ textOf bindings part.2) ++ ending := by
  rw [← String.toList_inj, filled, String.toList_ofList, spelled, fill_spelling_append plain,
    fill_bracketless bracketless, String.toList_append]

/-- A line without placeholders is left as it is. -/
theorem filled_unlines_cons {line : List Char} (bracketless : '[' ∉ line)
    {texts printed : List String} (others : filled bindings (unlines texts) = unlines printed) :
    filled bindings (unlines (String.ofList line :: texts)) =
      unlines (String.ofList line :: printed) := by
  have newline : '[' ∉ ['\n'] := by decide
  have spelled : ∀ texts : List String, (unlines (String.ofList line :: texts)).toList =
      line ++ (['\n'] ++ (unlines texts).toList) := by
    simp [unlines]
  rw [← String.toList_inj, filled, String.toList_ofList] at others ⊢
  rw [spelled, spelled, fill_bracketless_append bracketless, fill_bracketless_append newline,
    others]

/-! ## Beginnings of lines -/

/-- Whether a text without newlines begins in another way than a line, before its first
placeholder. -/
def beginsApart (line text : List Char) : Bool :=
  !text.contains '\n' && !(text.takeWhile (· != '[')).isPrefixOf line

theorem of_beginsApart {line text : List Char} (apart : beginsApart line text = true) :
    '\n' ∉ text ∧ ¬ text.takeWhile (· != '[') <+: line := by
  simp only [beginsApart, Bool.and_eq_true, Bool.not_eq_true'] at apart
  rw [← List.isPrefixOf_iff_prefix, apart.2]
  exact ⟨by simpa using apart.1, by simp⟩

/-- Whether all texts begin in another way than a line. -/
def beginApart (line : List Char) (texts : List String) : Bool :=
  texts.all fun text => beginsApart line text.toList

variable {line : List Char} {texts : List String}

theorem beginApart_cons {text : List Char} (first : beginsApart line text = true)
    (rest : beginApart line texts = true) :
    beginApart line (String.ofList text :: texts) = true := by
  rw [beginApart, List.all_cons, String.toList_ofList, first]
  exact rest

theorem of_beginApart (apart : beginApart line texts = true) {text : String}
    (member : text ∈ texts) : '\n' ∉ text.toList ∧ ¬ text.toList.takeWhile (· != '[') <+: line :=
  of_beginsApart (List.all_eq_true.1 apart text member)

/-- However a template is filled, its lines begin in the same way. -/
theorem lacks_filled (fits : scope.Fits avoided bindings) (newline : '\n' ∈ avoided)
    (closes : scope.closes (unlines texts).toList = true) (apart : beginApart line texts = true) :
    Lacks line (filled bindings (unlines texts)).toList := by
  unfold filled
  rw [String.toList_ofList]
  have isCut := isCut_unlines fun text member => (of_beginApart apart member).1
  refine ⟨_, isCut_fill fits newline isCut closes, ?_⟩
  intro member
  obtain ⟨own, isOwn, rfl⟩ := List.mem_map.1 member
  obtain ⟨text, isText, rfl⟩ := List.mem_map.1 isOwn
  have bracketless : '[' ∉ text.toList.takeWhile (· != '[') := by
    intro inOpening
    simpa using List.mem_takeWhile_imp inOpening
  have whole : text.toList ++ ['\n'] = text.toList.takeWhile (· != '[') ++
      (text.toList.dropWhile (· != '[') ++ ['\n']) := by
    rw [← List.append_assoc, List.takeWhile_append_dropWhile]
  apply (of_beginApart apart isText).2
  rw [whole, fill_bracketless_append bracketless]
  exact List.prefix_append _ _

/-- So do lines that are written as they are. -/
theorem lacks_unlines (apart : beginApart line texts = true) :
    Lacks line (unlines texts).toList := by
  refine ⟨_, isCut_unlines fun text member => (of_beginApart apart member).1, ?_⟩
  intro member
  obtain ⟨text, isText, rfl⟩ := List.mem_map.1 member
  exact (of_beginApart apart isText).2
    ((List.takeWhile_prefix _).trans (List.prefix_append _ _))

end ProjectFiles.Template
