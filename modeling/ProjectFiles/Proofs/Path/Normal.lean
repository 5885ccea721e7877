import ProjectFiles.Proofs.Path.Key

/-!
# Normal forms of paths

A normal form consists of the root and of steps.  Only names are cancelled on the way to it,
so the root and the steps up that a path has gained are still there at its end.
-/

namespace ProjectFiles.Path

variable {path left right : Path} {components reversed : List Component}
variable {component kept : Component}

/-! ## Parts of normal forms -/

/-- A component that a normal form can have: the root or a step. -/
def Component.IsPart (component : Component) : Prop :=
  component = .root ∨ component.IsStep

/-- A component of a path is the root, the directory itself, or a step. -/
theorem mem_components_cases (member : component ∈ path.components) :
    component = .here ∨ component.IsPart := by
  rw [components_eq_leading_append] at member
  rcases List.mem_append.1 member with isLeading | isInner
  · rcases leading_cases path.text.toList with root | here | nothing
    · rw [root, List.mem_singleton] at isLeading
      exact .inr (.inl isLeading)
    · rw [here, List.mem_singleton] at isLeading
      exact .inl isLeading
    · rw [nothing] at isLeading
      cases isLeading
  · exact .inr (.inr (isStep_of_mem_inner isInner))

theorem isPart_of_mem_pushNormal (isPart : component = .here ∨ component.IsPart)
    (areParts : ∀ part ∈ reversed, part.IsPart) :
    ∀ part ∈ pushNormal reversed component, part.IsPart := by
  unfold pushNormal
  split
  · exact areParts
  · exact fun part inRest => areParts part (List.mem_cons_of_mem _ inRest)
  · rename_i notHere _
    exact List.forall_mem_cons.2 ⟨isPart.resolve_left notHere, areParts⟩

/-- Nothing but names is ever cancelled. -/
theorem mem_pushNormal (notName : ∀ text, kept ≠ .name text) (member : kept ∈ reversed) :
    kept ∈ pushNormal reversed component := by
  unfold pushNormal
  split
  · exact member
  · exact (List.mem_cons.1 member).resolve_left (notName _)
  · exact List.mem_cons_of_mem _ member

theorem mem_foldl_pushNormal (notName : ∀ text, kept ≠ .name text) (member : kept ∈ reversed) :
    kept ∈ components.foldl pushNormal reversed := by
  induction components generalizing reversed with
  | nil => exact member
  | cons component rest ih => exact ih (mem_pushNormal notName member)

theorem eq_or_mem_of_mem_pushNormal (member : kept ∈ pushNormal reversed component) :
    kept = component ∨ kept ∈ reversed := by
  unfold pushNormal at member
  split at member
  · exact .inr member
  · exact .inr (List.mem_cons_of_mem _ member)
  · exact List.mem_cons.1 member

theorem mem_of_mem_foldl_pushNormal (member : kept ∈ components.foldl pushNormal reversed) :
    kept ∈ components ∨ kept ∈ reversed := by
  induction components generalizing reversed with
  | nil => exact .inr member
  | cons component rest ih =>
      rcases ih member with inRest | inPushed
      · exact .inl (List.mem_cons_of_mem _ inRest)
      · rcases eq_or_mem_of_mem_pushNormal inPushed with rfl | inReversed
        · exact .inl List.mem_cons_self
        · exact .inr inReversed

/-- Normal forms have no components of their own. -/
theorem mem_components_of_mem_normalized (member : component ∈ path.normalized) :
    component ∈ path.components :=
  (mem_of_mem_foldl_pushNormal (List.mem_reverse.1 member)).resolve_right List.not_mem_nil

theorem isPart_of_mem_foldl_pushNormal (each : ∀ part ∈ components, part = .here ∨ part.IsPart)
    (areParts : ∀ part ∈ reversed, part.IsPart) :
    ∀ part ∈ components.foldl pushNormal reversed, part.IsPart := by
  induction components generalizing reversed with
  | nil => exact areParts
  | cons component rest ih =>
      rw [List.forall_mem_cons] at each
      exact ih each.2 (isPart_of_mem_pushNormal each.1 areParts)

theorem isPart_of_mem_normalized (member : component ∈ path.normalized) : component.IsPart :=
  isPart_of_mem_foldl_pushNormal (fun _ => mem_components_cases) (List.forall_mem_nil _) component
    (List.mem_reverse.1 member)

/-! ## Ways -/

/-- The way to a path depends on its normal form, unless there is none. -/
theorem relativeTo_congr {start : Path} (rooted : left.hasRoot = start.hasRoot)
    (rightRooted : right.hasRoot = start.hasRoot) (same : left.normalized = right.normalized) :
    start.relativeTo left = start.relativeTo right := by
  unfold relativeTo
  rw [rooted, rightRooted, same]
  simp

end ProjectFiles.Path
