import ProjectFiles.Proofs.Text.Lines

/-!
# Dropping tagged lines

Dropping the tagged lines of a text is a filter on its lines, of which the last may be
without a terminator.  The marker has no newline, so it stands within one line wherever
it stands, and lines that are left out bring no new one about.  An output is filtered as
a whole, so neither a line nor the marker in it need be written at once.
-/

namespace ProjectFiles

namespace Text

/-- Whether a list consists of lines, all but the last with their terminators. -/
inductive AreLines : List (List Char) → Prop
  | nil : AreLines []
  | unterminated {line : List Char} (nonempty : line ≠ []) (single : '\n' ∉ line) :
      AreLines [line]
  | cons {line : List Char} {rest : List (List Char)} (isLine : IsLine line)
      (others : AreLines rest) : AreLines (line :: rest)

namespace AreLines

variable {cut : List (List Char)}

/-- Lines that are put together are cut into themselves. -/
theorem lines_flatten (areLines : AreLines cut) : lines cut.flatten = cut := by
  induction areLines with
  | nil => rfl
  | @unterminated line nonempty single =>
      rw [List.flatten_singleton]
      induction line with
      | nil => exact absurd rfl nonempty
      | cons c rest ih =>
          simp only [List.mem_cons, not_or] at single
          rw [lines, if_neg (Ne.symm single.1)]
          cases rest with
          | nil => rfl
          | cons second others =>
              rw [ih (List.cons_ne_nil second others) single.2]
              rfl
  | @cons line rest isLine _ ih =>
      obtain ⟨inner, rfl, single⟩ := isLine
      rw [List.flatten_cons, List.append_assoc, List.singleton_append,
        lines_line_append single, ih]

theorem filter (areLines : AreLines cut) (keeps : List Char → Bool) :
    AreLines (cut.filter keeps) := by
  induction areLines with
  | nil => exact .nil
  | @unterminated line nonempty single =>
      rw [List.filter_cons, List.filter_nil]
      split
      · exact .unterminated nonempty single
      · exact .nil
  | @cons line rest isLine _ ih =>
      rw [List.filter_cons]
      split
      · exact .cons isLine ih
      · exact ih

/-- A text without newlines that stands in lines stands in one of them. -/
theorem exists_infix (areLines : AreLines cut) {part : List Char} (nonempty : part ≠ [])
    (single : '\n' ∉ part) (occurs : part <:+: cut.flatten) : ∃ line ∈ cut, part <:+: line := by
  induction areLines with
  | nil => exact absurd (List.infix_nil.1 occurs) nonempty
  | @unterminated line =>
      rw [List.flatten_singleton] at occurs
      exact ⟨line, List.mem_singleton_self line, occurs⟩
  | @cons line rest isLine _ ih =>
      obtain ⟨inner, rfl, _⟩ := isLine
      rw [List.flatten_cons, List.append_assoc, List.singleton_append,
        infix_append_cons_iff single] at occurs
      rcases occurs with here | behind
      · exact ⟨_, List.mem_cons_self, here.trans (List.prefix_append inner ['\n']).isInfix⟩
      · obtain ⟨line, member, inLine⟩ := ih behind
        exact ⟨line, List.mem_cons_of_mem _ member, inLine⟩

end AreLines

/-- Every text is cut into lines. -/
theorem areLines_lines (text : List Char) : AreLines (lines text) := by
  induction text with
  | nil => exact .nil
  | cons c rest ih =>
      rw [lines]
      split
      · exact .cons ⟨[], rfl, List.not_mem_nil⟩ ih
      · rename_i ordinary
        generalize lines rest = cut at ih
        cases ih with
        | nil => exact .unterminated (List.cons_ne_nil c []) (by simpa using Ne.symm ordinary)
        | unterminated nonempty single =>
            exact .unterminated (List.cons_ne_nil c _) (by simp [Ne.symm ordinary, single])
        | cons isLine others =>
            obtain ⟨inner, rfl, single⟩ := isLine
            exact .cons ⟨c :: inner, rfl, by simp [Ne.symm ordinary, single]⟩ others

end Text

open Text

/-! ## The tagged lines of a text -/

namespace OutputBuffer

/-- A text without the marker is left as it is. -/
theorem removeTaggedLines_of_untagged {text : String}
    (untagged : ¬ Value.omitTag.toList <:+: text.toList) : removeTaggedLines text = text := by
  rw [← occursIn_iff] at untagged
  unfold removeTaggedLines
  exact if_neg untagged

/-- The lines that are left are the untagged ones. -/
theorem lines_removeTaggedLines (text : String) :
    lines (removeTaggedLines text).toList =
      (lines text.toList).filter fun line => !occursIn Value.omitTag.toList line := by
  rw [toList_removeTaggedLines]
  exact ((areLines_lines text.toList).filter _).lines_flatten

/-- The marker is gone. -/
theorem untagged_removeTaggedLines (text : String) :
    ¬ Value.omitTag.toList <:+: (removeTaggedLines text).toList := by
  intro tagged
  have areLines := areLines_lines (removeTaggedLines text).toList
  rw [← flatten_lines (removeTaggedLines text).toList] at tagged
  obtain ⟨line, member, inLine⟩ := areLines.exists_infix (by decide) (by decide) tagged
  rw [lines_removeTaggedLines, List.mem_filter, occursIn_iff.2 inLine] at member
  cases member.2

/-- What dropping the tagged lines of a text means. -/
structure FiltersLines (text : String) : Prop where
  /-- The text is cut into lines in one way. -/
  existsUnique_cut : ∃! cut, AreLines cut ∧ cut.flatten = text.toList
  /-- The lines without the marker are left, in order and as they are. -/
  toList_eq : ∀ cut, AreLines cut → cut.flatten = text.toList →
    (removeTaggedLines text).toList =
      (cut.filter fun line => ¬ Value.omitTag.toList <:+: line).flatten
  untagged : ¬ Value.omitTag.toList <:+: (removeTaggedLines text).toList
  /-- A text without the marker is not touched. -/
  eq_self : ¬ Value.omitTag.toList <:+: text.toList → removeTaggedLines text = text
  idempotent : removeTaggedLines (removeTaggedLines text) = removeTaggedLines text
  /-- Behind a whole line the tagged lines are dropped by themselves. -/
  append : IsTerminated text.toList → ∀ latter,
    removeTaggedLines (text ++ latter) = removeTaggedLines text ++ removeTaggedLines latter

theorem filtersLines (text : String) : FiltersLines text where
  existsUnique_cut := by
    refine ⟨lines text.toList, ⟨areLines_lines text.toList, flatten_lines text.toList⟩, ?_⟩
    rintro cut ⟨areLines, flat⟩
    rw [← flat, areLines.lines_flatten]
  toList_eq := by
    intro cut areLines flat
    rw [toList_removeTaggedLines, ← flat, areLines.lines_flatten]
    congr 1
    apply List.filter_congr
    intro line _
    rw [Bool.eq_iff_iff, Bool.not_eq_true', Bool.eq_false_iff, ne_eq, occursIn_iff,
      decide_eq_true_iff]
  untagged := untagged_removeTaggedLines text
  eq_self := removeTaggedLines_of_untagged
  idempotent := removeTaggedLines_of_untagged (untagged_removeTaggedLines text)
  append terminated latter := removeTaggedLines_append_of_isTerminated terminated

end OutputBuffer

/-! ## Outputs that are written call by call -/

/-- A call that writes to an output. -/
inductive BufferCall where
  | write (resolver : Resolver) (template : String)
  | writeVerbatim (text : String)

/-- The text that a call writes; a template that cannot be resolved writes none. -/
def BufferCall.text : BufferCall → String
  | write resolver template => (resolver.resolve template).toOption.getD ""
  | writeVerbatim text => text

namespace OutputBuffer

/-- The output after a call.  One that fails leaves the output as it is. -/
def after (buffer : OutputBuffer) : BufferCall → OutputBuffer
  | .write resolver template => (buffer.write resolver template).toOption.getD buffer
  | .writeVerbatim text => buffer.writeVerbatim text

/-- The output after calls. -/
def afterAll (buffer : OutputBuffer) (calls : List BufferCall) : OutputBuffer :=
  calls.foldl after buffer

/-- A call puts its text behind what is there. -/
theorem after_eq (buffer : OutputBuffer) (call : BufferCall) :
    buffer.after call = buffer.writeVerbatim call.text := by
  cases call with
  | writeVerbatim => rfl
  | write resolver template =>
      rw [after, write, BufferCall.text]
      cases resolver.resolve template with
      | ok => rfl
      | error => simp [Except.toOption, writeVerbatim, bind, Except.bind]

theorem text_afterAll (buffer : OutputBuffer) (calls : List BufferCall) :
    (buffer.afterAll calls).text = buffer.text ++ String.join (calls.map (·.text)) := by
  induction calls generalizing buffer with
  | nil => simp [afterAll]
  | cons call rest ih =>
      have behind := ih (buffer.after call)
      rw [after_eq, writeVerbatim, String.append_assoc, ← String.join_cons, ← List.map_cons,
        ← writeVerbatim, ← after_eq] at behind
      exact behind

/-- A finished output is the filtered text of its calls, however they cut it. -/
theorem finalize_filters_lines :
    (∀ text, FiltersLines text) ∧
      ∀ calls : List BufferCall, (empty.afterAll calls).finalize =
        removeTaggedLines (String.join (calls.map (·.text))) := by
  refine ⟨filtersLines, fun calls => ?_⟩
  rw [finalize, text_afterAll]
  simp [empty]

/-! The marker counts when it is written in two pieces, too. -/

example :
    (empty.afterAll [.writeVerbatim "first\r\nsecond REMOVE_", .writeVerbatim "LINE_TAG\nthird",
      .write (.new true) " and last"]).finalize = "first\r\nthird and last" := by
  decide +kernel

end OutputBuffer

end ProjectFiles
