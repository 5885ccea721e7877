import ProjectFiles.Proofs.Template.Embedded

/-!
# Parts of an output

A part of an output is written in the same way whatever has been written before, and its
text goes behind the text that is there.  When parts consist of terminated lines, the
lines of omitted values are dropped from each of them by itself.
-/

namespace ProjectFiles

open Template Text

namespace OutputBuffer

/-- Whether a part puts terminated lines behind the text, which do not depend on the
text. -/
structure AppendsLines (write : OutputBuffer → Except GenerationError OutputBuffer) : Prop where
  appends : ∀ buffer, write buffer = (write empty).map fun own => buffer.writeVerbatim own.text
  terminated : ∀ own, write empty = .ok own → IsTerminated own.text.toList

/-- A part that succeeds has put its text behind what was there. -/
theorem AppendsLines.eq_ok {write : OutputBuffer → Except GenerationError OutputBuffer}
    (appendsLines : AppendsLines write) {buffer final : OutputBuffer}
    (written : write buffer = .ok final) :
    ∃ own, write empty = .ok own ∧ final = buffer.writeVerbatim own.text ∧
      IsTerminated own.text.toList := by
  rw [appendsLines.appends] at written
  cases isOwn : write empty with
  | error error =>
      rw [isOwn] at written
      cases written
  | ok own =>
      rw [isOwn] at written
      cases written
      exact ⟨own, rfl, rfl, appendsLines.terminated own isOwn⟩

namespace AppendsLines

variable {first second : OutputBuffer → Except GenerationError OutputBuffer}

theorem pure : AppendsLines .ok where
  appends buffer := by rw [Except.map, empty, writeVerbatim_empty]
  terminated own isOwn := by
    cases isOwn
    intro c isLast
    cases isLast

/-- Parts one behind the other are a part. -/
theorem bind (appendsFirst : AppendsLines first) (appendsSecond : AppendsLines second) :
    AppendsLines fun buffer => first buffer >>= second where
  appends buffer := by
    rw [appendsFirst.appends]
    cases isFirst : first empty with
    | error => rfl
    | ok own =>
        rw [Except.map, bind_ok, bind_ok, appendsSecond.appends, appendsSecond.appends own]
        cases second empty with
        | error => rfl
        | ok other => exact congrArg Except.ok (writeVerbatim_writeVerbatim buffer _ _)
  terminated own isOwn := by
    obtain ⟨former, isFormer, behind⟩ := ok_of_bind_eq_ok isOwn
    obtain ⟨latter, _, rfl, terminated⟩ := appendsSecond.eq_ok behind
    rw [writeVerbatim, String.toList_append]
    exact (appendsFirst.terminated former isFormer).append terminated

theorem foldlM {α : Type} {write : OutputBuffer → α → Except GenerationError OutputBuffer}
    {members : List α} (appends : ∀ member ∈ members, AppendsLines (write · member)) :
    AppendsLines fun buffer => members.foldlM write buffer := by
  induction members with
  | nil => exact .pure
  | cons member rest ih =>
      obtain ⟨appendsFirst, appendsRest⟩ := List.forall_mem_cons.1 appends
      exact appendsFirst.bind (ih appendsRest)

/-- Terminated lines that are written as they are are a part. -/
theorem verbatim {text : String} (ends : text.toList.getLast? = some '\n') :
    AppendsLines fun buffer => .ok (buffer.writeVerbatim text) where
  appends buffer := by simp [Except.map, writeVerbatim, empty]
  terminated own isOwn := by
    cases isOwn
    intro c isLast
    rw [writeVerbatim, empty, String.empty_append, ends] at isLast
    exact (Option.some.inj isLast).symm

/-- A part may have such lines before it. -/
theorem behind {write : OutputBuffer → Except GenerationError OutputBuffer} {text : String}
    (ends : text.toList.getLast? = some '\n') (appendsLines : AppendsLines write) :
    AppendsLines fun buffer => write (buffer.writeVerbatim text) :=
  (verbatim ends).bind appendsLines

/-- A part may have such lines on both sides. -/
theorem enclosed {write : OutputBuffer → Except GenerationError OutputBuffer}
    {start stop : String} (starts : start.toList.getLast? = some '\n')
    (appendsLines : AppendsLines write) (stops : stop.toList.getLast? = some '\n') :
    AppendsLines fun buffer =>
      write (buffer.writeVerbatim start) >>= fun buffer => .ok (buffer.writeVerbatim stop) :=
  behind starts (appendsLines.bind (verbatim stops))

/-- So is a template of terminated lines. -/
theorem template (resolver : Resolver) {template : String}
    (ends : template.toList.getLast? = some '\n') :
    AppendsLines fun buffer => buffer.write resolver template where
  appends buffer := by
    unfold write
    cases resolver.resolve template with
    | error => rfl
    | ok text => exact congrArg Except.ok (by simp [empty, writeVerbatim])
  terminated own isOwn := by
    obtain ⟨text, resolved, returned⟩ := ok_of_bind_eq_ok isOwn
    cases returned
    obtain ⟨front, spelled⟩ := List.getLast?_eq_some_iff.1 ends
    have frame : IsFrame [] ['\n'] := by
      refine ⟨List.not_mem_nil, by decide, fun c isLast => ?_, fun c isFirst => ?_⟩
      · cases isLast
      · cases isFirst
        decide
    have framed := resolver.resolvePasses_frame template none frame Resolver.passLimit false front
    rw [List.nil_append, ← spelled, ← Resolver.resolve, resolved] at framed
    cases inner : resolver.resolvePasses template none Resolver.passLimit false front with
    | error =>
        rw [inner] at framed
        cases framed
    | ok inner =>
        rw [inner] at framed
        cases framed
        intro c isLast
        simp [empty] at isLast
        exact isLast.symm

/-- And so is one in a scope of its own. -/
theorem templateIn (resolver : Resolver) (assignments : List (String × Value))
    {template : String} (ends : template.toList.getLast? = some '\n') :
    AppendsLines fun buffer => buffer.writeIn resolver assignments template := by
  unfold writeIn
  cases resolver.declareAll assignments with
  | error error => exact ⟨fun _ => rfl, fun _ isOwn => by cases isOwn⟩
  | ok opened => exact .template opened.1 ends

/-- The tagged lines of a part are dropped by themselves. -/
theorem finalize_eq {write : OutputBuffer → Except GenerationError OutputBuffer}
    (appendsLines : AppendsLines write) {own : OutputBuffer} (written : write empty = .ok own)
    (text : String) : (own.writeVerbatim text).finalize = own.finalize ++ removeTaggedLines text :=
  removeTaggedLines_append_of_isTerminated (appendsLines.terminated own written)

end AppendsLines

/-! ## Texts of parts -/

/-- `Puts write text` means that a text without tagged lines is what a part puts into an
output. -/
def Puts (write : OutputBuffer → Except GenerationError OutputBuffer) (text : String) : Prop :=
  (write empty).map finalize = .ok text

section Puts

variable {first second : OutputBuffer → Except GenerationError OutputBuffer} {text : String}

theorem puts_iff : Puts first text ↔ ∃ own, first empty = .ok own ∧ own.finalize = text := by
  unfold Puts
  cases first empty <;> simp [Except.map]

theorem Puts.unique {other : String} (puts : Puts first text) (putsOther : Puts first other) :
    text = other :=
  Except.ok.inj (puts.symm.trans putsOther)

theorem puts_pure_iff : Puts .ok text ↔ text = "" := by
  have none : Puts .ok "" := rfl
  constructor
  · intro puts
    exact puts.unique none
  · rintro rfl
    exact none

/-- Parts one behind the other put their texts one behind the other. -/
theorem AppendsLines.puts_bind_iff (appendsFirst : AppendsLines first)
    (appendsSecond : AppendsLines second) :
    Puts (fun buffer => first buffer >>= second) text ↔
      ∃ former latter, Puts first former ∧ Puts second latter ∧ text = former ++ latter := by
  simp only [puts_iff]
  constructor
  · rintro ⟨whole, written, rfl⟩
    obtain ⟨own, isOwn, behind⟩ := ok_of_bind_eq_ok written
    obtain ⟨other, isOther, rfl, _⟩ := appendsSecond.eq_ok behind
    exact ⟨_, _, ⟨own, isOwn, rfl⟩, ⟨other, isOther, rfl⟩, appendsFirst.finalize_eq isOwn _⟩
  · rintro ⟨_, _, ⟨own, isOwn, rfl⟩, ⟨other, isOther, rfl⟩, rfl⟩
    refine ⟨own.writeVerbatim other.text, ?_, appendsFirst.finalize_eq isOwn _⟩
    rw [isOwn, bind_ok, appendsSecond.appends, isOther]
    rfl

/-- Repeated parts put their texts one behind the other. -/
theorem puts_foldlM_iff {α : Type} {write : OutputBuffer → α → Except GenerationError OutputBuffer}
    {members : List α} (appends : ∀ member ∈ members, AppendsLines (write · member)) :
    Puts (fun buffer => members.foldlM write buffer) text ↔
      ∃ texts, List.Forall₂ (fun member own => Puts (write · member) own) members texts ∧
        text = String.join texts := by
  induction members generalizing text with
  | nil =>
      simp only [List.foldlM_nil, List.forall₂_nil_left_iff, exists_eq_left, String.join_nil]
      exact puts_pure_iff
  | cons member rest ih =>
      obtain ⟨appendsFirst, appendsRest⟩ := List.forall_mem_cons.1 appends
      simp only [List.foldlM_cons]
      rw [appendsFirst.puts_bind_iff (.foldlM appendsRest)]
      simp only [ih appendsRest]
      constructor
      · rintro ⟨former, _, putsFirst, ⟨texts, putRest, rfl⟩, rfl⟩
        exact ⟨former :: texts, .cons putsFirst putRest, (String.join_cons ..).symm⟩
      · rintro ⟨_, _ | ⟨putsFirst, putRest⟩, rfl⟩
        exact ⟨_, _, putsFirst, ⟨_, putRest, rfl⟩, String.join_cons ..⟩

/-- Write parts one behind the other. -/
def writeParts (parts : List (OutputBuffer → Except GenerationError OutputBuffer))
    (buffer : OutputBuffer) : Except GenerationError OutputBuffer :=
  parts.foldlM (fun buffer part => part buffer) buffer

theorem puts_writeParts_iff {parts : List (OutputBuffer → Except GenerationError OutputBuffer)}
    (appends : ∀ part ∈ parts, AppendsLines part) :
    Puts (writeParts parts) text ↔
      ∃ texts, List.Forall₂ Puts parts texts ∧ text = String.join texts :=
  puts_foldlM_iff appends

/-- A template puts what it is resolved to in its scope. -/
theorem puts_writeIn_iff {resolver inner : Resolver} {guard : ScopeGuard}
    {assignments : List (String × Value)} {template : String}
    (declared : resolver.declareAll assignments = .ok (inner, guard)) :
    Puts (·.writeIn resolver assignments template) text ↔
      ∃ resolved, inner.resolve template = .ok resolved ∧ removeTaggedLines resolved = text := by
  unfold Puts writeIn write
  dsimp only
  rw [declared, bind_ok]
  dsimp only
  cases inner.resolve template <;>
    simp [Except.map, bind, Except.bind, pure, Except.pure, empty, finalize]

/-- Lines without the marker are put as they are. -/
theorem puts_verbatim_iff {lines : String}
    (untagged : occursIn Value.omitTag.toList lines.toList = false) :
    Puts (fun buffer => .ok (buffer.writeVerbatim lines)) text ↔ text = lines := by
  have same : removeTaggedLines lines = lines := by simp [removeTaggedLines, untagged]
  simp [Puts, Except.map, empty, writeVerbatim, finalize, same, eq_comm]

end Puts

end OutputBuffer

end ProjectFiles
