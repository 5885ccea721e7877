import Mathlib.Data.List.Infix
import ProjectFiles.Proofs.Path.Normal
import ProjectFiles.Proofs.Text.Lines

/-!
# What occurs in a path

Paths are taken apart at slashes and put together with slashes, backslashes and points.
So a text without these characters occurs in a component, in a joined path or in the way
to a path only when it occurs in the paths that these are made of.
-/

namespace ProjectFiles.Path

open Text

variable {part : List Char}

/-- Whether a text has none of the characters that paths are put together with. -/
structure IsWord (part : List Char) : Prop where
  nonempty : part ≠ []
  slashless : '/' ∉ part
  backslashless : '\\' ∉ part
  pointless : '.' ∉ part

/-- A word does not occur in what paths are put together with. -/
theorem IsWord.not_infix (isWord : IsWord part) {text : List Char}
    (marks : text ⊆ ['/', '\\', '.']) : ¬ part <:+: text := by
  intro occurs
  obtain ⟨first, rest, rfl⟩ := List.exists_cons_of_ne_nil isWord.nonempty
  have isMark := marks (occurs.subset List.mem_cons_self)
  simp only [List.mem_cons, List.not_mem_nil, or_false] at isMark
  rcases isMark with rfl | rfl | rfl
  · exact isWord.slashless List.mem_cons_self
  · exact isWord.backslashless List.mem_cons_self
  · exact isWord.pointless List.mem_cons_self

/-! ## Taking apart -/

theorem infix_of_mem_splitOn {characters segment : List Char}
    (isSegment : segment ∈ List.splitOn '/' characters) : segment <:+: characters := by
  have whole : List.intercalate ['/'] (List.splitOn '/' characters) = characters :=
    List.intercalate_splitOn '/'
  generalize List.splitOn '/' characters = segments at isSegment whole
  subst whole
  induction segments with
  | nil => cases isSegment
  | cons first rest ih =>
      cases rest with
      | nil =>
          rw [List.mem_singleton.1 isSegment, List.intercalate_singleton]
      | cons second others =>
          rw [List.intercalate_cons_cons]
          rcases List.mem_cons.1 isSegment with rfl | inRest
          · exact ((List.prefix_append _ _).trans (List.prefix_append _ _)).isInfix
          · exact (ih inRest).trans (List.suffix_append _ _).isInfix

/-- What occurs in no path occurs in none of its components. -/
theorem IsWord.not_infix_component (isWord : IsWord part) {path : Path}
    (absent : ¬ part <:+: path.text.toList) {component : Component}
    (member : component ∈ path.components) : ¬ part <:+: component.text.toList := by
  rw [components_eq_leading_append] at member
  rcases List.mem_append.1 member with isLeading | isInner
  · rcases leading_cases path.text.toList with leads | leads | leads
    · rw [leads, List.mem_singleton] at isLeading
      subst isLeading
      exact isWord.not_infix (by decide)
    · rw [leads, List.mem_singleton] at isLeading
      subst isLeading
      exact isWord.not_infix (by decide)
    · rw [leads] at isLeading
      cases isLeading
  · obtain ⟨segment, inSegments, read⟩ := List.mem_filterMap.1 isInner
    unfold innerComponent? at read
    split at read
    · cases read
    · split at read
      · cases read
        exact isWord.not_infix (by decide)
      · cases read
        rw [Component.text, String.toList_ofList]
        exact fun occurs => absent (occurs.trans (infix_of_mem_splitOn inSegments))

/-! ## Putting together -/

theorem not_infix_intercalate {separator : Char} (absent : separator ∉ part)
    (nonempty : part ≠ []) {texts : List String} (lacks : ∀ text ∈ texts, ¬ part <:+: text.toList) :
    ¬ part <:+: ((String.singleton separator).intercalate texts).toList := by
  induction texts with
  | nil => simpa using nonempty
  | cons first rest ih =>
      obtain ⟨notInFirst, others⟩ := List.forall_mem_cons.1 lacks
      cases rest with
      | nil => rwa [String.intercalate_singleton]
      | cons second rest =>
          rw [String.intercalate_cons_of_ne_nil (by simp), String.toList_append,
            String.toList_append, String.toList_singleton, List.append_assoc,
            List.singleton_append, infix_append_cons_iff absent, not_or]
          exact ⟨notInFirst, ih others⟩

theorem IsWord.not_infix_windowsText (isWord : IsWord part) {path : Path}
    (absent : ¬ part <:+: path.text.toList) : ¬ part <:+: path.windowsText.toList := by
  refine not_infix_intercalate isWord.backslashless isWord.nonempty fun text member => ?_
  obtain ⟨component, inComponents, rfl⟩ := List.mem_map.1 member
  have notInComponent := isWord.not_infix_component absent inComponents
  cases component with
  | root => exact isWord.not_infix (by decide)
  | here | up | name => exact notInComponent

theorem IsWord.not_infix_join (isWord : IsWord part) {path below : Path}
    (notInPath : ¬ part <:+: path.text.toList) (notBelow : ¬ part <:+: below.text.toList) :
    ¬ part <:+: (path.join below).text.toList := by
  unfold join
  split
  · exact notBelow
  · dsimp only
    rw [String.toList_append, String.toList_append]
    split
    · rename_i c isLast
      split
      · rename_i slash
        -- The slash that stands between the two is the last character of the path.
        obtain ⟨front, spelled⟩ : ∃ front, path.text.toList = front ++ ['/'] :=
          ⟨_, (List.dropLast_append_getLast? c isLast).symm.trans (by rw [slash])⟩
        have notInFront : ¬ part <:+: front := fun occurs =>
          notInPath (spelled ▸ occurs.trans (List.prefix_append _ _).isInfix)
        rw [spelled, String.toList_empty, List.append_nil, List.append_assoc,
          List.singleton_append, infix_append_cons_iff isWord.slashless, not_or]
        exact ⟨notInFront, notBelow⟩
      · rw [List.append_assoc]
        refine fun occurs => ?_
        rcases (infix_append_cons_iff isWord.slashless).1 occurs with inPath | inBelow
        · exact notInPath inPath
        · exact notBelow inBelow
    · rename_i isEmpty
      rw [List.getLast?_eq_none_iff.1 isEmpty]
      exact notBelow

theorem IsWord.not_infix_foldl_join (isWord : IsWord part) {start : Path}
    {components : List Component} (notInStart : ¬ part <:+: start.text.toList)
    (lacks : ∀ component ∈ components, ¬ part <:+: component.text.toList) :
    ¬ part <:+: (components.foldl (fun path component => path.join ⟨component.text⟩)
      start).text.toList := by
  induction components generalizing start with
  | nil => exact notInStart
  | cons component rest ih =>
      obtain ⟨notInComponent, others⟩ := List.forall_mem_cons.1 lacks
      exact ih (isWord.not_infix_join notInStart notInComponent) others

/-- What does not occur in a path does not occur in the way to it, wherever that starts. -/
theorem IsWord.not_infix_relativeTo (isWord : IsWord part) (start : Path) {path : Path}
    (absent : ¬ part <:+: path.text.toList) :
    ¬ part <:+: (start.relativeTo path).text.toList := by
  unfold relativeTo
  split
  · exact absent
  · dsimp only
    split
    · exact isWord.not_infix (by decide)
    · refine isWord.not_infix_foldl_join (isWord.not_infix (by decide)) fun component member => ?_
      rcases List.mem_append.1 member with isUp | inTarget
      · rw [List.eq_of_mem_replicate isUp]
        exact isWord.not_infix (by decide)
      · exact isWord.not_infix_component absent
          (mem_components_of_mem_normalized (List.mem_of_mem_drop inTarget))

end ProjectFiles.Path
