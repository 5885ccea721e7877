import Mathlib.Data.List.Chain

/-!
# Sorting by comparisons

What sorting makes of a list depends on the order of its members only where they
compare as equal.  So lists with the same members are sorted to the same list when
different members compare as different.
-/

namespace ProjectFiles.Sorting

universe u

variable {α : Type u} {cmp : α → α → Ordering}

theorem compareOn_pair_eq_eq {β γ : Type u} [Ord β] [Std.LawfulEqOrd β] [Ord γ]
    [Std.LawfulEqOrd γ] {first : α → β} {second : α → γ} {left right : α} :
    compareLex (compareOn first) (compareOn second) left right = .eq ↔
      first left = first right ∧ second left = second right := by
  simp [compareLex, compareOn, Ordering.then_eq_eq]

/-- A list whose members increase has each of them once. -/
theorem nodup_of_increasing [Std.ReflCmp cmp] {members : List α}
    (increasing : members.Pairwise fun left right => cmp left right = .lt) : members.Nodup := by
  refine increasing.imp fun {left right} below equal => ?_
  have self : cmp left left = .eq := Std.ReflCmp.compare_self
  rw [← equal, self] at below
  cases below

variable [Std.TransCmp cmp]

/-- Sorting puts the members in order. -/
theorem pairwise_mergeSort_isLE (members : List α) :
    (members.mergeSort fun left right => (cmp left right).isLE).Pairwise
      fun left right => (cmp left right).isLE = true := by
  refine List.pairwise_mergeSort (fun a b c => Std.TransCmp.isLE_trans) (fun a b => ?_) members
  have swapped : cmp b a = (cmp a b).swap := Std.OrientedCmp.eq_swap
  rw [swapped]
  cases cmp a b <;> rfl

/-- Members that differ from their neighbours in a list in order differ from all others. -/
theorem increasing_of_neighbours {members : List α}
    (ordered : members.Pairwise fun left right => (cmp left right).isLE = true)
    (apart : members.IsChain fun left right => cmp left right ≠ .eq) :
    members.Pairwise fun left right => cmp left right = .lt := by
  induction apart with
  | nil => exact .nil
  | singleton member => exact List.pairwise_singleton _ _
  | @cons_cons first second rest differs others ih =>
      rw [List.pairwise_cons] at ordered
      have increases := ih ordered.2
      have below : cmp first second = .lt :=
        (Ordering.isLE_iff_eq_lt_or_eq_eq.1 (ordered.1 second List.mem_cons_self)).resolve_right
          differs
      refine List.pairwise_cons.2 ⟨fun member inOthers => ?_, increases⟩
      rcases List.mem_cons.1 inOthers with rfl | inRest
      · exact below
      · exact Std.TransCmp.lt_trans below ((List.pairwise_cons.1 increases).1 member inRest)

/-- Lists with the same members are sorted alike when different members compare as
different. -/
theorem mergeSort_eq_of_perm {left right : List α} (perm : left.Perm right)
    (apart : ∀ a ∈ left, ∀ b ∈ left, cmp a b = .eq → a = b) :
    (left.mergeSort fun a b => (cmp a b).isLE) = right.mergeSort fun a b => (cmp a b).isLE := by
  have permLeft := List.mergeSort_perm left fun a b => (cmp a b).isLE
  have permRight := List.mergeSort_perm right fun a b => (cmp a b).isLE
  refine List.Perm.eq_of_pairwise ?_ (pairwise_mergeSort_isLE left) (pairwise_mergeSort_isLE right)
    ((permLeft.trans perm).trans permRight.symm)
  intro a b inLeft inRight isLE isGE
  refine apart a (permLeft.mem_iff.1 inLeft) b
    (perm.mem_iff.2 (permRight.mem_iff.1 inRight)) ?_
  exact Std.OrientedCmp.isLE_antisymm isLE isGE

/-- Sorting puts members that compare as different in strict order. -/
theorem increasing_mergeSort {members : List α} (nodup : members.Nodup)
    (apart : ∀ a ∈ members, ∀ b ∈ members, cmp a b = .eq → a = b) :
    (members.mergeSort fun a b => (cmp a b).isLE).Pairwise fun a b => cmp a b = .lt := by
  have perm := List.mergeSort_perm members fun a b => (cmp a b).isLE
  refine ((pairwise_mergeSort_isLE members).and (perm.nodup_iff.2 nodup)).imp_of_mem ?_
  rintro a b isFirst isSecond ⟨isLE, differ⟩
  refine (Ordering.isLE_iff_eq_lt_or_eq_eq.1 isLE).resolve_right fun equal => differ ?_
  exact apart a (perm.mem_iff.1 isFirst) b (perm.mem_iff.1 isSecond) equal

/-- There is one list of given members in strict order. -/
theorem eq_of_increasing {left right : List α}
    (isIncreasing : left.Pairwise fun a b => cmp a b = .lt)
    (alsoIncreasing : right.Pairwise fun a b => cmp a b = .lt)
    (same : ∀ member, member ∈ left ↔ member ∈ right) : left = right := by
  have perm : left.Perm right :=
    (List.perm_ext_iff_of_nodup (nodup_of_increasing isIncreasing)
      (nodup_of_increasing alsoIncreasing)).2 same
  refine perm.eq_of_pairwise (fun a b _ _ below above => ?_) isIncreasing alsoIncreasing
  rw [Std.OrientedCmp.gt_of_lt above] at below
  cases below

/-- Members in strict order are equal when they compare as equal. -/
theorem eq_of_compare_eq {members : List α}
    (increasing : members.Pairwise fun a b => cmp a b = .lt) :
    ∀ a ∈ members, ∀ b ∈ members, cmp a b = .eq → a = b := by
  have : Std.Symm fun a b => cmp a b ≠ .eq :=
    ⟨fun a b differs equal => differs (Std.OrientedCmp.eq_symm equal)⟩
  have differs : members.Pairwise fun a b => cmp a b ≠ .eq :=
    increasing.imp fun below equal => nomatch below.symm.trans equal
  intro a isFirst b isSecond equal
  by_contra differ
  exact differs.forall isFirst isSecond differ equal

/-- A list in strict order is what its members are sorted to. -/
theorem mergeSort_eq_of_increasing {members sorted : List α} (perm : sorted.Perm members)
    (increasing : sorted.Pairwise fun a b => cmp a b = .lt) :
    (members.mergeSort fun a b => (cmp a b).isLE) = sorted := by
  have isSorted : sorted.Pairwise fun a b => (cmp a b).isLE = true :=
    increasing.imp fun below => by rw [below]; rfl
  rw [← mergeSort_eq_of_perm perm (eq_of_compare_eq increasing),
    List.mergeSort_of_pairwise isSorted]

end ProjectFiles.Sorting
