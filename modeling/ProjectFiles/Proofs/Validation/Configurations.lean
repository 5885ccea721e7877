import ProjectFiles.Proofs.Sorting
import ProjectFiles.Validation.Configurations

/-!
# The canonical order of the configurations of a file

Configurations that are accepted have different identities.  So their order by name and
platform is strict, and it is the same whatever order they are declared in.
-/

namespace ProjectFiles.Configuration

instance : Std.TransCmp compareIdentity :=
  inferInstanceAs (Std.TransCmp (compareLex (compareOn Configuration.name)
    (compareOn Configuration.platform)))

theorem compareIdentity_eq_eq {left right : Configuration} :
    compareIdentity left right = .eq ↔ left.identity = right.identity := by
  rw [identity, identity, Prod.mk.injEq]
  exact Sorting.compareOn_pair_eq_eq

/-- Nothing collides where neighbours have different identities. -/
theorem firstCollision?_eq_none_iff {configurations : List Configuration} :
    firstCollision? configurations = none ↔
      configurations.IsChain fun left right => left.identity ≠ right.identity := by
  fun_induction firstCollision? configurations with
  | case1 first second rest same => simp [same]
  | case2 first second rest differ ih => rw [ih, List.isChain_cons_cons, and_iff_right differ]
  | case3 configurations short =>
      refine iff_of_true rfl ?_
      match configurations with
      | [] => exact .nil
      | [configuration] => exact .singleton configuration
      | first :: second :: rest => exact absurd rfl (short first second rest)

variable {file : Path} {configurations others accepted : List Configuration}

/-- Accepted configurations are in strict order. -/
theorem increasing_of_sortAndValidate
    (isAccepted : sortAndValidate file configurations = .ok accepted) :
    accepted = sorted configurations ∧
      accepted.Pairwise fun left right => compareIdentity left right = .lt := by
  have ordered : (sorted configurations).Pairwise fun left right =>
      (compareIdentity left right).isLE = true := Sorting.pairwise_mergeSort_isLE configurations
  unfold sortAndValidate at isAccepted
  split at isAccepted
  · cases isAccepted
  · rename_i first rest spelled
    split at isAccepted
    · cases isAccepted
    · rename_i noConflict
      cases isAccepted
      refine ⟨spelled.symm, ?_⟩
      have noCollision : firstCollision? (first :: rest) = none := by
        unfold conflict? at noConflict
        split at noConflict
        · cases noConflict
        · split at noConflict
          · cases noConflict
          · exact Option.map_eq_none_iff.1 noConflict
      rw [spelled] at ordered
      refine Sorting.increasing_of_neighbours ordered ?_
      exact (firstCollision?_eq_none_iff.1 noCollision).imp fun left right differ same =>
        differ (compareIdentity_eq_eq.1 same)

/-- Configurations are accepted in the same order, whatever order they are declared in. -/
theorem sortAndValidate_of_perm (isAccepted : sortAndValidate file configurations = .ok accepted)
    (perm : configurations.Perm others) : sortAndValidate file others = .ok accepted := by
  obtain ⟨isSorted, increasing⟩ := increasing_of_sortAndValidate isAccepted
  have permAccepted : accepted.Perm configurations :=
    isSorted ▸ List.mergeSort_perm configurations _
  have alsoSorted : sorted others = sorted configurations :=
    (Sorting.mergeSort_eq_of_increasing (permAccepted.trans perm) increasing).trans isSorted
  unfold sortAndValidate at isAccepted ⊢
  rwa [alsoSorted]

end ProjectFiles.Configuration
