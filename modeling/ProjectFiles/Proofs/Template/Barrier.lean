import ProjectFiles.Proofs.Template.Lines

/-!
# Characters that no token reaches across

A character that is neither a member of words nor a bracket stands for itself wherever
it is.  The tokens of a text are therefore those before such a character and those
behind it, whether or not the text is closed.
-/

namespace ProjectFiles.Template

/-- Whether a character is in no placeholder and in no escape. -/
def IsBarrier (c : Char) : Prop :=
  isMember c = false ∧ c ≠ '[' ∧ c ≠ ']'

instance (c : Char) : Decidable (IsBarrier c) :=
  inferInstanceAs (Decidable (_ ∧ _))

namespace IsBarrier

variable {c : Char}

theorem notMem_escape (barrier : IsBarrier c) {word : List Char}
    (members : ∀ c ∈ word, isMember c = true) : c ∉ (Token.escape word).source := by
  simp [Token.source, notMem_of_members barrier.1 members, barrier.2.1, barrier.2.2]

theorem notMem_placeholder (barrier : IsBarrier c) {path : List Char}
    (members : ∀ c ∈ path, isMember c = true) : c ∉ (Token.placeholder path).source := by
  simp [Token.source, notMem_of_members barrier.1 members, barrier.2.1, barrier.2.2]

/-- An escape ends before a barrier. -/
theorem escapeAt?_append (barrier : IsBarrier c) (former latter : List Char) :
    escapeAt? (former ++ c :: latter) = escapeAt? former := by
  ext token
  constructor
  · intro found
    obtain ⟨word, rest, rfl, members, spelled⟩ := escapeAt?_eq_some found
    obtain ⟨others, rfl, _⟩ := append_eq_append_cons (barrier.notMem_escape members) spelled.symm
    exact escapeAt?_escape members others
  · intro found
    obtain ⟨word, rest, rfl, members, rfl⟩ := escapeAt?_eq_some found
    rw [List.append_assoc]
    exact escapeAt?_escape members _

/-- So does a placeholder. -/
theorem placeholderAt?_append (barrier : IsBarrier c) (former latter : List Char) :
    placeholderAt? (former ++ c :: latter) = placeholderAt? former := by
  ext token
  constructor
  · intro found
    obtain ⟨path, rest, rfl, members, named, spelled⟩ := placeholderAt?_eq_some found
    obtain ⟨others, rfl, _⟩ :=
      append_eq_append_cons (barrier.notMem_placeholder members) spelled.symm
    exact placeholderAt?_placeholder members named others
  · intro found
    obtain ⟨path, rest, rfl, members, named, rfl⟩ := placeholderAt?_eq_some found
    rw [List.append_assoc]
    exact placeholderAt?_placeholder members named _

/-- The tokens before a barrier and those behind it are found apart. -/
theorem tokens_append (barrier : IsBarrier c) (former latter : List Char) :
    tokens (former ++ c :: latter) = tokens former ++ .plain c :: tokens latter := by
  rw [tokens_append_of_apart (fun _ _ => barrier.escapeAt?_append _ latter)
    (fun _ _ => barrier.placeholderAt?_append _ latter), tokens_plain barrier.2.1]

/-- A text is closed when it is before a barrier and behind it. -/
theorem isClosed_append_iff (barrier : IsBarrier c) {former latter : List Char} :
    IsClosed (former ++ c :: latter) ↔ IsClosed former ∧ IsClosed latter := by
  have notBracket : Token.plain '[' ≠ .plain c :=
    fun same => barrier.2.1 (Token.plain.inj same).symm
  rw [isClosed_iff, isClosed_iff, isClosed_iff, barrier.tokens_append, List.mem_append,
    List.mem_cons]
  tauto

end IsBarrier

end ProjectFiles.Template
