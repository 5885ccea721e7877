import Mathlib.Data.List.TakeWhile
import ProjectFiles.Proofs.Path.Key

/-!
# Rooted paths

A path from the root on is its own output, but for spelling: two rooted paths name
one output only when they lead to one file.
-/

namespace ProjectFiles.Path

theorem components_of_hasRoot {path : Path} (rooted : path.hasRoot = true) :
    path.components = .root :: path.components.filter isInner := by
  have isLeading : leading path.text.toList = [.root] := by
    unfold leading
    rw [if_pos (beq_iff_eq.1 rooted)]
  rw [filter_isInner_components, components_eq_leading_append, isLeading, List.singleton_append]

/-- A rooted path is absolute. -/
theorem components_absolute_of_hasRoot {path : Path} (rooted : path.hasRoot = true) :
    path.absolute.components = path.components := by
  have nonempty : path.text.toList ≠ [] := by
    intro empty
    simp [hasRoot, empty] at rooted
  rw [components_absolute nonempty, ← components_of_hasRoot rooted]

theorem components_eq_of_sameOutput {left right : Path} (rootedLeft : left.hasRoot = true)
    (rootedRight : right.hasRoot = true) (same : left.sameOutput right = true) :
    left.components = right.components := by
  rw [← components_absolute_of_hasRoot rootedLeft, ← components_absolute_of_hasRoot rootedRight]
  exact sameOutput_iff.1 same

theorem hasRoot_join {path : Path} (rooted : path.hasRoot = true) (below : Path) :
    (path.join below).hasRoot = true := by
  obtain ⟨rest, spelled⟩ := List.head?_eq_some_iff.1 (beq_iff_eq.1 rooted)
  unfold join
  split
  · assumption
  · simp [hasRoot, spelled]

theorem dropLastComponent?_eq_none {segments : List (List Char)}
    (nothing : dropLastComponent? segments.reverse = none) :
    segments.filterMap innerComponent? = [] := by
  unfold dropLastComponent? at nothing
  split at nothing
  · rename_i allIdle
    rw [List.filterMap_eq_nil_iff]
    intro segment member
    have idle := List.dropWhile_eq_nil_iff.1 allIdle segment (List.mem_reverse.2 member)
    rw [isIdle, Bool.or_eq_true, decide_eq_true_iff, decide_eq_true_iff] at idle
    rw [innerComponent?, if_pos idle]
  · cases nothing

/-- The directory of a rooted file is rooted. -/
theorem hasRoot_directory {path : Path} (rooted : path.hasRoot = true)
    (named : path.fileName? ≠ none) : path.directory.hasRoot = true := by
  unfold directory
  cases parent : path.parent? with
  | some directory =>
      unfold parent? at parent
      split at parent
      · cases parent
      · rw [if_pos rooted] at parent
        obtain ⟨reversed, _, rfl⟩ := Option.map_eq_some_iff.1 parent
        simp [hasRoot]
  | none =>
      exfalso
      apply named
      unfold parent? at parent
      split at parent
      · rename_i empty
        exact absurd empty (List.splitOn_ne_nil '/' path.text.toList)
      · rename_i first rest spelled
        rw [if_pos rooted] at parent
        have nothing := dropLastComponent?_eq_none (Option.map_eq_none_iff.1 parent)
        unfold fileName? components
        rw [spelled]
        simp [rooted, nothing]

end ProjectFiles.Path
