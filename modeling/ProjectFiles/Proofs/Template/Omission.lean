import ProjectFiles.Proofs.Template.OmittedValues

/-!
# Dropping the lines of omitted values

An omitted value drops every line that it gets into, whatever way it takes: all lines
from which no omitted value is met stay, resolved one by one and with their own
terminators, and all others are gone.  The marker that does this is text among texts, so
the law holds where the marker is in the output for no other reason.
-/

namespace ProjectFiles

open Template Text

/-- A template and what it is resolved with. -/
structure TemplateWrite where
  resolver : Resolver
  template : String

namespace TemplateWrite

/-- The lines of a template, resolved with the same bindings. -/
def lines (write : TemplateWrite) : List TemplateWrite :=
  (Text.lines write.template.toList).map fun line => ⟨write.resolver, String.ofList line⟩

/-- The tokens of a template. -/
def tokens (write : TemplateWrite) : List Token :=
  Template.tokens write.template.toList

/-- Whether a placeholder leads to an omitted value: by itself, through texts that it
stands for, or as an item of a list. -/
def Omits (write : TemplateWrite) : Prop :=
  write.resolver.Omits write.tokens

/-- Whether a template consists of terminated lines, all brackets in it and in the bound
texts belong to placeholders or escapes, and nothing that it refers to has a newline. -/
structure IsWellFormed (write : TemplateWrite) : Prop where
  terminated : write.template.toList.getLast? = some '\n'
  closed : IsClosed write.template.toList
  bound : write.resolver.BindsClosed
  single : ∀ path, write.resolver.Meets write.tokens path →
    ∀ rendered, write.resolver.rendering? path = some rendered → '\n' ∉ rendered.toList

/-- Whether the marker is in no line but for omitted values: it is not there when these
are blanks. -/
def IsUntagged (write : TemplateWrite) : Prop :=
  ∀ line ∈ write.lines, ∀ text, line.resolver.blankOmits.resolve line.template = .ok text →
    ¬ Value.omitTag.toList <:+: text.toList

instance (write : TemplateWrite) : Decidable write.IsUntagged :=
  decidable_of_iff
    (write.lines.all fun line =>
      match line.resolver.blankOmits.resolve line.template with
      | .ok text => !occursIn Value.omitTag.toList text.toList
      | .error _ => true) (by
    unfold IsUntagged
    rw [List.all_eq_true]
    refine forall₂_congr fun line _ => ?_
    cases line.resolver.blankOmits.resolve line.template with
    | ok text => simp [← occursIn_iff]
    | error error => simp)

/-- Write templates in order. -/
def writeAll (writes : List TemplateWrite) (buffer : OutputBuffer) :
    Except GenerationError OutputBuffer :=
  writes.foldlM (fun buffer write => buffer.write write.resolver write.template) buffer

/-- `Leaves lines texts` means that the texts are what is left of the lines: those
that lead to no omitted value are resolved and have the terminators they had, and the
others are gone. -/
inductive Leaves : List TemplateWrite → List String → Prop where
  | nil : Leaves [] []
  | kept {line : TemplateWrite} {lines : List TemplateWrite} {texts : List String}
      {content terminator text : String} (stays : ¬ line.Omits)
      (spelled : line.template = content ++ terminator)
      (terminates : terminator = "\r\n" ∨
        terminator = "\n" ∧ content.toList.getLast? ≠ some '\r')
      (resolves : line.resolver.resolve content = .ok text) (others : Leaves lines texts) :
      Leaves (line :: lines) ((text ++ terminator) :: texts)
  | dropped {line : TemplateWrite} {lines : List TemplateWrite} {texts : List String}
      (omits : line.Omits) (others : Leaves lines texts) : Leaves (line :: lines) texts

/-! ## Lines -/

/-- What is known of a line and of its text when the whole has been resolved. -/
structure Resolves (line : TemplateWrite) (text : List Char) : Prop where
  closed : IsClosed line.template.toList
  bound : line.resolver.BindsClosed
  isLine : IsLine line.template.toList
  yields : line.resolver.Yields line.tokens text
  isLineText : IsLine text

/-- A line has a terminator of its own. -/
theorem exists_terminator {line : String} (isLine : IsLine line.toList) :
    ∃ content terminator : String, ∃ c behind, line = content ++ terminator ∧
      (terminator = "\r\n" ∨ terminator = "\n" ∧ content.toList.getLast? ≠ some '\r') ∧
      terminator.toList = c :: behind ∧ IsBarrier c ∧ '[' ∉ behind := by
  obtain ⟨front, spelled, _⟩ := isLine
  by_cases returns : front.getLast? = some '\r'
  · obtain ⟨content, rfl⟩ := List.getLast?_eq_some_iff.1 returns
    refine ⟨String.ofList content, "\r\n", '\r', ['\n'], ?_, .inl rfl, rfl, by decide, by decide⟩
    rw [← String.toList_inj, spelled, String.toList_append, String.toList_ofList,
      List.append_assoc]
    rfl
  · refine ⟨String.ofList front, "\n", '\n', [], ?_, .inr ⟨rfl, ?_⟩, rfl, by decide, by decide⟩
    · rw [← String.toList_inj, spelled, String.toList_append, String.toList_ofList]
      rfl
    · rwa [String.toList_ofList]

/-- A resolved line keeps its terminator. -/
theorem Resolves.exists_kept {line : TemplateWrite} {text : List Char}
    (resolves : line.Resolves text) :
    ∃ content terminator inner : String, line.template = content ++ terminator ∧
      (terminator = "\r\n" ∨ terminator = "\n" ∧ content.toList.getLast? ≠ some '\r') ∧
      line.resolver.resolve content = .ok inner ∧ String.ofList text = inner ++ terminator := by
  obtain ⟨closed, bound, isLine, yields, _⟩ := resolves
  obtain ⟨content, terminator, c, behind, spelled, terminates, ends, barrier, bracketless⟩ :=
    exists_terminator isLine
  unfold tokens at yields
  rw [spelled, String.toList_append, ends] at closed yields
  obtain ⟨inner, rfl, yieldsInner⟩ := yields.of_terminated barrier bracketless
  refine ⟨content, terminator, String.ofList inner, spelled, terminates, ?_, ?_⟩
  · rw [Resolver.resolve_eq_ok_iff bound (barrier.isClosed_append_iff.1 closed).1,
      String.toList_ofList]
    exact yieldsInner
  · rw [← String.toList_inj, String.toList_ofList, String.toList_append, String.toList_ofList,
      ends]

/-- The lines of a resolved text are the resolved lines. -/
theorem exists_resolves {resolver : Resolver} (bound : resolver.BindsClosed)
    {cut : List (List Char)} {text : List Char} (areLines : ∀ line ∈ cut, IsLine line)
    (closed : IsClosed cut.flatten)
    (single : ∀ path, resolver.Meets (Template.tokens cut.flatten) path →
      ∀ rendered, resolver.rendering? path = some rendered → '\n' ∉ rendered.toList)
    (yields : resolver.Yields (Template.tokens cut.flatten) text) :
    ∃ texts, List.Forall₂ Resolves (cut.map fun line => ⟨resolver, String.ofList line⟩) texts ∧
      text = texts.flatten := by
  induction cut generalizing text with
  | nil =>
      cases yields.expands
      exact ⟨[], .nil, rfl⟩
  | cons line rest ih =>
      obtain ⟨isLine, areLinesRest⟩ := List.forall_mem_cons.1 areLines
      obtain ⟨front, rfl, frontSingle⟩ := isLine
      have newline : IsBarrier '\n' := by decide
      have spelled : ((front ++ ['\n']) :: rest).flatten = front ++ '\n' :: rest.flatten := by simp
      rw [spelled] at closed single yields
      obtain ⟨closedFront, closedRest⟩ := newline.isClosed_append_iff.1 closed
      have closedLine : IsClosed (front ++ ['\n']) :=
        newline.isClosed_append_iff.2 ⟨closedFront, .nil⟩
      have tokensLine : Template.tokens (front ++ ['\n']) =
          Template.tokens front ++ [.plain '\n'] := newline.tokens_append front []
      rw [newline.tokens_append, ← List.singleton_append, ← List.append_assoc, ← tokensLine]
        at single yields
      obtain ⟨lineText, restText, rfl, yieldsLine, yieldsRest⟩ := yields.split
      obtain ⟨texts, resolves, rfl⟩ := ih areLinesRest closedRest
        (fun path meets => single path (Resolver.meets_append_iff.2 (.inr meets))) yieldsRest
      refine ⟨lineText :: texts, .cons ?_ resolves, rfl⟩
      have isLineText : IsLine lineText := by
        obtain ⟨inner, rfl, yieldsInner⟩ := yieldsLine.of_terminated newline (by decide)
        refine ⟨inner, rfl, yieldsInner.expands.notMem ?_ ?_⟩
        · rwa [flatMap_source_tokens]
        · intro path meets
          apply single path
          rw [tokensLine, Resolver.meets_append_iff, Resolver.meets_append_iff]
          exact .inl (.inl meets)
      constructor
      · rwa [String.toList_ofList]
      · exact bound
      · exact ⟨front, String.toList_ofList, frontSingle⟩
      · rwa [tokens, String.toList_ofList]
      · exact isLineText

/-! ## Outputs -/

/-- Templates that have been written have put their resolved lines behind the text. -/
theorem exists_resolves_of_writeAll {writes : List TemplateWrite}
    (wellFormed : ∀ write ∈ writes, write.IsWellFormed) {buffer final : OutputBuffer}
    (succeeds : writeAll writes buffer = .ok final) :
    ∃ texts, List.Forall₂ Resolves (writes.flatMap lines) texts ∧
      final.text.toList = buffer.text.toList ++ texts.flatten := by
  induction writes generalizing buffer with
  | nil =>
      cases succeeds
      exact ⟨[], .nil, by simp⟩
  | cons write rest ih =>
      obtain ⟨isWellFormed, wellFormedRest⟩ := List.forall_mem_cons.1 wellFormed
      rw [writeAll, List.foldlM_cons, OutputBuffer.write] at succeeds
      cases isResult : write.resolver.resolve write.template with
      | error error =>
          rw [isResult] at succeeds
          cases succeeds
      | ok result =>
          rw [isResult] at succeeds
          obtain ⟨textsRest, resolvesRest, spelled⟩ := ih wellFormedRest succeeds
          obtain ⟨terminated, closed, bound, single⟩ := isWellFormed
          have isCut := isCut_lines terminated
          have yields := (Resolver.resolve_eq_ok_iff bound closed).1 isResult
          unfold tokens at single
          rw [isCut.1] at closed single yields
          obtain ⟨texts, resolves, isText⟩ := exists_resolves bound isCut.2 closed single yields
          refine ⟨texts ++ textsRest, List.rel_append resolves resolvesRest, ?_⟩
          rw [spelled, String.toList_append, isText, List.flatten_append, List.append_assoc]

theorem isLine_of_resolves {all : List TemplateWrite} {texts : List (List Char)}
    (resolves : List.Forall₂ Resolves all texts) : ∀ text ∈ texts, IsLine text := by
  induction resolves with
  | nil => exact fun _ member => nomatch member
  | cons isResolved _ ih => exact List.forall_mem_cons.2 ⟨isResolved.isLineText, ih⟩

/-- The marker is in the text of a line just when the line leads to an omitted value. -/
theorem leaves_of_resolves {all : List TemplateWrite} {texts : List (List Char)}
    (resolves : List.Forall₂ Resolves all texts)
    (untagged : ∀ line ∈ all, ∀ text,
      line.resolver.blankOmits.resolve line.template = .ok text →
        ¬ Value.omitTag.toList <:+: text.toList) :
    Leaves all ((texts.filter fun text => !occursIn Value.omitTag.toList text).map
      String.ofList) := by
  induction resolves with
  | nil => exact .nil
  | @cons line text lines texts isResolved _ ih =>
      obtain ⟨untaggedLine, untaggedRest⟩ := List.forall_mem_cons.1 untagged
      by_cases omits : line.Omits
      · have tagged := isResolved.yields.infix_of_omits isResolved.bound omits
        rw [List.filter_cons_of_neg (by simp [occursIn_iff.2 tagged])]
        exact .dropped omits (ih untaggedRest)
      · have blanked : line.resolver.blankOmits.resolve line.template =
            .ok (String.ofList text) := by
          apply Resolver.Yields.resolve_blankOmits isResolved.bound isResolved.closed _ omits
          rw [String.toList_ofList]
          exact isResolved.yields
        have absent := untaggedLine _ blanked
        rw [String.toList_ofList, ← occursIn_iff] at absent
        rw [List.filter_cons_of_pos (by simp [absent]), List.map_cons]
        obtain ⟨content, terminator, inner, spelled, terminates, resolved, same⟩ :=
          isResolved.exists_kept
        rw [same]
        exact .kept omits spelled terminates resolved (ih untaggedRest)

/-- The finished output has the lines that lead to no omitted value, in order, and nothing
else. -/
theorem finalize_drops_omitted {writes : List TemplateWrite}
    (wellFormed : ∀ write ∈ writes, write.IsWellFormed)
    (untagged : ∀ write ∈ writes, write.IsUntagged) {buffer : OutputBuffer}
    (succeeds : writeAll writes .empty = .ok buffer) :
    ∃ texts, Leaves (writes.flatMap lines) texts ∧ buffer.finalize = String.join texts := by
  obtain ⟨texts, resolves, spelled⟩ := exists_resolves_of_writeAll wellFormed succeeds
  have untaggedLines : ∀ line ∈ writes.flatMap lines, ∀ text,
      line.resolver.blankOmits.resolve line.template = .ok text →
        ¬ Value.omitTag.toList <:+: text.toList := by
    intro line member
    obtain ⟨write, isWrite, isLine⟩ := List.mem_flatMap.1 member
    exact untagged write isWrite line isLine
  refine ⟨_, leaves_of_resolves resolves untaggedLines, ?_⟩
  have isCut : IsCut buffer.text.toList texts := ⟨spelled, isLine_of_resolves resolves⟩
  have finished := (isCut_removeTaggedLines isCut).1
  rw [OutputBuffer.finalize, ← String.toList_inj, finished, String.toList_join, List.flatMap_map,
    List.flatten_eq_flatMap]
  simp only [String.toList_ofList]
  rfl

/-! A project file in which two placeholders lead to an omitted value. -/

/-- A name, an omitted value, and a list and a text that lead to it. -/
def omitting : Resolver :=
  let named := ((Resolver.new true).declare "name" (.text "core")).1
  let omits := (named.declare "scc" .omit).1
  let lists := (omits.declare "both" (.list [.text "a", .omit])).1
  (lists.declare "via" (.text "([scc])")).1

/-- Two templates of a project file. -/
def omittingWrites : List TemplateWrite :=
  [⟨omitting, "<Project>\r\n  <Name>[name]</Name>\n  <Scc>[via]</Scc>\n"⟩,
    ⟨omitting, "  <Both>[both]</Both>\r\n</Project>\n"⟩]

theorem bindsClosed_omitting : omitting.BindsClosed := by
  have closed (value : Value)
      (bracketless : ∀ text ∈ value.texts, .plain '[' ∉ Template.tokens text.toList) :
      value.IsClosed := fun text member => reads_tokens (bracketless text member)
  have named := (Resolver.bindsClosed_new true).declare (closed (.text "core") (by decide)) "name"
  have omits := named.declare (closed .omit (by decide)) "scc"
  have lists := omits.declare (closed (.list [.text "a", .omit]) (by decide)) "both"
  exact lists.declare (closed (.text "([scc])") (by decide)) "via"

theorem isWellFormed_omittingWrites : ∀ write ∈ omittingWrites, write.IsWellFormed := by
  have sameResolver : ∀ write ∈ omittingWrites, write.resolver = omitting := by
    rintro write (_ | ⟨_, _ | ⟨_, isNil⟩⟩)
    · rfl
    · rfl
    · cases isNil
  have terminated : ∀ write ∈ omittingWrites, write.template.toList.getLast? = some '\n' := by
    decide
  have closed : ∀ write ∈ omittingWrites, .plain '[' ∉ write.tokens := by decide
  -- no tree has more than two levels
  have flat : ∀ write ∈ omittingWrites, write.resolver.level write.tokens 2 = [] := by
    decide +kernel
  have single : ∀ write ∈ omittingWrites, ∀ depth < 2,
      ∀ path ∈ write.resolver.level write.tokens depth,
        ∀ rendered ∈ write.resolver.rendering? path, '\n' ∉ rendered.toList := by
    decide +kernel
  intro write member
  constructor
  · exact terminated write member
  · exact reads_tokens (closed write member)
  · rw [sameResolver write member]
    exact bindsClosed_omitting
  · rintro path ⟨depth, isThere⟩ rendered isText
    have shallow : depth < 2 := by
      by_contra deep
      rw [Resolver.level_eq_nil_of_le (flat write member) (Nat.le_of_not_lt deep)] at isThere
      cases isThere
    exact single write member depth shallow path isThere rendered isText

theorem finalize_drops_omitted_project :
    (∀ write ∈ omittingWrites, write.IsWellFormed) ∧
      (∀ write ∈ omittingWrites, write.IsUntagged) ∧
      ∃ buffer, writeAll omittingWrites .empty = .ok buffer ∧
        ∃ texts, Leaves (omittingWrites.flatMap lines) texts ∧
          buffer.finalize = String.join texts := by
  have untagged : ∀ write ∈ omittingWrites, write.IsUntagged := by decide +kernel
  have succeeds : ∃ buffer, writeAll omittingWrites .empty = .ok buffer := ⟨_, rfl⟩
  obtain ⟨buffer, succeeds⟩ := succeeds
  exact ⟨isWellFormed_omittingWrites, untagged, buffer, succeeds,
    finalize_drops_omitted isWellFormed_omittingWrites untagged succeeds⟩

example : (writeAll omittingWrites .empty).map OutputBuffer.finalize =
    .ok "<Project>\r\n  <Name>core</Name>\n</Project>\n" := by decide +kernel

end TemplateWrite

end ProjectFiles
