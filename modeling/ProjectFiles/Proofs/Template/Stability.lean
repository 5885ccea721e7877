import ProjectFiles.Proofs.Template.LiveScopes
import ProjectFiles.Proofs.Template.Passes

/-!
# Templates that stay resolved

A template that is resolved asks for bound names only, in all passes.  So nothing that is
declared under names without bindings changes the result, and neither does a text for
unbound names.  A declaration that hides a binding may change it, but only until it is
released: then the same scopes are live as before, in whatever order others were released.
-/

namespace ProjectFiles

open Template Text

/-! ## Declaring more -/

namespace Resolver

variable {resolver other : Resolver} {live added : List LiveScope}

/-- A name that a live scope has a value for is bound. -/
theorem ReadsLive.isBound_of_value? (reads : resolver.ReadsLive live) {name : String}
    {value : Value}
    (found : live.findSome? (·.value? resolver (resolver.key name)) = some value) :
    resolver.isBound name = true := by
  obtain ⟨scope, isLive, isValue⟩ := List.exists_of_findSome?_eq_some found
  obtain ⟨assignment, isFirst, rfl⟩ := Option.map_eq_some_iff.1 isValue
  have sameKey : resolver.key assignment.1 = resolver.key name := by
    simpa using List.find?_some isFirst
  rw [reads.isBound_iff]
  refine ⟨scope, isLive, ?_⟩
  rw [reads.names_eq scope isLive, ← sameKey]
  exact List.mem_map_of_mem (List.mem_of_find?_eq_some isFirst)

/-- Whether no name of some scopes is bound. -/
def LeavesUnbound (resolver : Resolver) (scopes : List LiveScope) : Prop :=
  ∀ scope ∈ scopes, ∀ assignment ∈ scope.assignments, resolver.isBound assignment.1 = false

/-- Scopes whose names were not bound hide nothing. -/
theorem ReadsLive.shownBy (reads : resolver.ReadsLive live)
    (readsOther : other.ReadsLive (added ++ live))
    (sameCase : other.caseSensitive = resolver.caseSensitive)
    (unbound : resolver.LeavesUnbound added) : resolver.ShownBy other := by
  have sameKey : other.key = resolver.key := key_congr sameCase
  have sameValue (scope : LiveScope) (key : String) :
      scope.value? other key = scope.value? resolver key := by
    rw [LiveScope.value?, LiveScope.value?, sameKey]
  intro path text isText
  obtain ⟨value, found, isScalar⟩ := Option.bind_eq_some_iff.1 isText
  refine Option.bind_eq_some_iff.2 ⟨value, ?_, isScalar⟩
  rw [reads.lookup?_eq] at found
  rw [readsOther.lookup?_eq]
  cases segments : pathSegments path with
  | nil =>
      rw [segments] at found
      cases found
  | cons root fields =>
      rw [segments] at found
      dsimp only at found ⊢
      obtain ⟨shown, isShown, leads⟩ := Option.bind_eq_some_iff.1 found
      have isBound := reads.isBound_of_value? isShown
      have notAdded : added.findSome? (·.value? resolver (resolver.key root)) = none := by
        refine List.findSome?_eq_none_iff.2 fun scope isAdded => ?_
        refine Option.map_eq_none_iff.2 (List.find?_eq_none.2 fun assignment isIn same => ?_)
        have sameBound : resolver.isBound assignment.1 = resolver.isBound root :=
          congrArg resolver.bindings.contains (of_decide_eq_true same)
        rw [unbound scope isAdded assignment isIn, isBound] at sameBound
        cases sameBound
      simp only [sameKey, sameValue]
      rw [List.findSome?_append, notAdded, Option.none_or, isShown]
      exact leads

/-- Release scopes one after the other. -/
def releaseAll (resolver : Resolver) (scopes : List LiveScope) : Resolver :=
  scopes.foldl (fun current scope => current.release scope.guard) resolver

end Resolver

/-! ## Whole runs -/

namespace ScopeState

variable {state : ScopeState} {template result : String}

/-- Live scopes may be released in any order. -/
theorem run_releaseAll {added order kept : List LiveScope} (state : ScopeState)
    (isLive : state.live = added ++ kept) (permuted : order.Perm added) :
    state.Run ⟨state.resolver.releaseAll order, kept⟩ := by
  induction order generalizing state added with
  | nil =>
      rw [List.nil_perm.1 permuted, List.nil_append] at isLive
      subst isLive
      exact .refl
  | cons scope rest ih =>
      obtain ⟨former, latter, rfl⟩ := List.append_of_mem (permuted.subset List.mem_cons_self)
      rw [List.append_assoc, List.cons_append] at isLive
      have released := Step.release isLive
      rw [← List.append_assoc] at released
      have remaining : rest.Perm (former ++ latter) :=
        List.Perm.cons_inv (permuted.trans List.perm_middle)
      exact .head released (ih _ rfl remaining)

/-- A template stays resolved while what is live more has names that were not bound. -/
theorem Run.resolve_of_leavesUnbound {caseSensitive : Bool} {next : ScopeState}
    {added : List LiveScope} (run : (start caseSensitive).Run state) (further : state.Run next)
    (isLive : next.live = added ++ state.live) (unbound : state.resolver.LeavesUnbound added)
    (resolved : state.resolver.resolve template = .ok result) :
    next.resolver.resolve template = .ok result := by
  obtain ⟨represents, sameCase⟩ := run.represents
  obtain ⟨representsNext, sameCaseNext⟩ := Run.represents (run.trans further)
  rw [isLive] at representsNext
  exact (represents.readsLive.shownBy representsNext.readsLive
    (sameCaseNext.trans sameCase.symm) unbound).resolve resolved

/-- What a resolved template is not changed by. -/
structure StaysResolved (state : ScopeState) (template result : String) : Prop where
  withFallback : ∀ fallback, state.resolver.resolveWithFallback template fallback = .ok result
  declare : ∀ name value, state.resolver.isBound name = false →
    (state.resolver.declare name value).1.resolve template = .ok result
  declareAll : ∀ assignments inner guard,
    (∀ assignment ∈ assignments, state.resolver.isBound assignment.1 = false) →
    state.resolver.declareAll assignments = .ok (inner, guard) →
    inner.resolve template = .ok result
  /-- Any number of scopes with names that were not bound. -/
  extended : ∀ next added, state.Run next → next.live = added ++ state.live →
    state.resolver.LeavesUnbound added → next.resolver.resolve template = .ok result
  /-- Any number of scopes with any names, once all of them are released. -/
  released : ∀ next, state.Run next → next.live = state.live →
    next.resolver.resolve template = .ok result
  /-- The same when those that are still live are released in any order. -/
  releasedAll : ∀ next added order, state.Run next → next.live = added ++ state.live →
    order.Perm added → (next.resolver.releaseAll order).resolve template = .ok result

theorem resolve_stable {caseSensitive : Bool} (run : (start caseSensitive).Run state)
    (resolved : state.resolver.resolve template = .ok result) :
    state.StaysResolved template result := by
  have released : ∀ next, state.Run next → next.live = state.live →
      next.resolver.resolve template = .ok result :=
    fun next further isLive =>
      run.resolve_of_leavesUnbound further (isLive.trans (List.nil_append _).symm) nofun resolved
  refine
    { withFallback := fun fallback => ?_
      declare := fun name value unbound => ?_
      declareAll := fun assignments inner guard unbound declared => ?_
      extended := fun next added further isLive unbound =>
        run.resolve_of_leavesUnbound further isLive unbound resolved
      released := released
      releasedAll := fun next added order further isLive permuted =>
        released _ (further.trans (run_releaseAll next isLive permuted)) rfl }
  · have resolves := Resolver.resolve_eq_ok_iff_resolvesWithin.1 resolved
    exact (resolves.resolvePasses_eq template (some fallback) false).trans
      (congrArg _ String.ofList_toList)
  · refine run.resolve_of_leavesUnbound (.single (.declare name value)) List.singleton_append.symm
      ?_ resolved
    rw [Resolver.LeavesUnbound, List.forall_mem_singleton, List.forall_mem_singleton]
    exact unbound
  · refine run.resolve_of_leavesUnbound (.single (.declareAll declared))
      List.singleton_append.symm ?_ resolved
    rw [Resolver.LeavesUnbound, List.forall_mem_singleton]
    exact unbound

theorem resolve_stable_shadowed : shadowed.StaysResolved "[[name]] is [NAME]" "[name] is inner" :=
  have run : (start false).Run shadowed :=
    .tail (.single (.declare "Name" (.text "outer"))) (.declare "name" (.text "inner"))
  resolve_stable run (by decide +kernel)

/-- A declaration that hides a binding changes the result, as long as it is live. -/
example :
    let hidden := shadowed.resolver.declare "name" (.text "other")
    hidden.1.resolve "[NAME]" = .ok "other" ∧
      (hidden.1.release hidden.2).resolve "[NAME]" = .ok "inner" := by
  decide +kernel

end ScopeState

end ProjectFiles
