import Mathlib
import ProjectFiles.Proofs.SortedMap
import ProjectFiles.Proofs.Template.Writing

/-!
# The stacks of a resolver stand for its live scopes

A resolver keeps one stack of bindings for every bound name.  Scopes are declared
and released in any order, and share names as they please, so a release takes
bindings out of the middle of stacks.  Still the stacks hold at any time what the
live scopes have bound, those declared later on top: the resolver stands for the
list of its live scopes, and whatever is read off it can be read off that list.
-/

namespace ProjectFiles

/-! ## Declaring and releasing -/

/-- A scope that has not been released. -/
structure LiveScope where
  guard : ScopeGuard
  /-- The names and the values it was declared with. -/
  assignments : List (String × Value)

/-- A resolver and its live scopes, those declared later first. -/
structure ScopeState where
  resolver : Resolver
  live : List LiveScope

namespace ScopeState

/-- A new resolver has no live scopes. -/
def start (caseSensitive : Bool) : ScopeState :=
  ⟨.new caseSensitive, []⟩

/-- What can happen to the scopes of a resolver.  A guard is released once: a live
scope can be released, and is live no more. -/
inductive Step (state : ScopeState) : ScopeState → Prop where
  | declare (name : String) (value : Value) :
      Step state ⟨(state.resolver.declare name value).1,
        ⟨(state.resolver.declare name value).2, [(name, value)]⟩ :: state.live⟩
  | declareAll {assignments : List (String × Value)} {resolver : Resolver} {guard : ScopeGuard}
      (declared : state.resolver.declareAll assignments = .ok (resolver, guard)) :
      Step state ⟨resolver, ⟨guard, assignments⟩ :: state.live⟩
  | rejected {assignments : List (String × Value)} {error : GenerationError}
      (rejected : state.resolver.declareAll assignments = .error error) : Step state state
  | release {former latter : List LiveScope} {scope : LiveScope}
      (isLive : state.live = former ++ scope :: latter) :
      Step state ⟨state.resolver.release scope.guard, former ++ latter⟩

/-- Any number of steps. -/
abbrev Run : ScopeState → ScopeState → Prop :=
  Relation.ReflTransGen Step

end ScopeState

/-! ## What live scopes bind -/

namespace LiveScope

/-- The bindings of a scope, with the form of the name that each is bound under. -/
def entries (resolver : Resolver) (scope : LiveScope) : List (String × Binding) :=
  scope.assignments.map fun assignment =>
    (resolver.key assignment.1, ⟨scope.guard.scope, assignment.2⟩)

/-- The value that a scope has bound under a form of a name. -/
def value? (resolver : Resolver) (scope : LiveScope) (key : String) : Option Value :=
  (scope.assignments.find? fun assignment => resolver.key assignment.1 = key).map (·.2)

/-- The latest value under a form of a name is that of the first assignment to it. -/
theorem findSome?_value? (resolver : Resolver) (live : List LiveScope) (key : String) :
    live.findSome? (·.value? resolver key) =
      ((live.map (·.assignments)).flatten.find? fun assignment =>
        resolver.key assignment.1 = key).map (·.2) := by
  rw [List.find?_flatten, List.findSome?_map, List.map_findSome?]
  rfl

end LiveScope

namespace Resolver

/-- The bindings that live scopes have made under a form of a name, latest first. -/
def boundBy (resolver : Resolver) (live : List LiveScope) (key : String) : List Binding :=
  ((live.flatMap (·.entries resolver)).filter (·.1 = key)).map (·.2)

/-- `resolver.Represents live` means that the stacks of a resolver hold what the live
scopes have bound. -/
structure Represents (resolver : Resolver) (live : List LiveScope) : Prop where
  stack_eq : ∀ key, resolver.stack key = resolver.boundBy live key
  /-- A name without bindings is not in the map. -/
  nonempty : ∀ key, resolver.bindings.get? key ≠ some []
  names_eq : ∀ scope ∈ live, scope.guard.names = scope.assignments.map (resolver.key ·.1)
  nodup : ∀ scope ∈ live, scope.guard.names.Nodup
  /-- Numbers of scopes are not used again. -/
  fresh : ∀ scope ∈ live, scope.guard.scope < resolver.nextScope
  distinct : (live.map (·.guard.scope)).Nodup

variable {resolver : Resolver} {live : List LiveScope}

theorem key_congr {left right : Resolver} (same : left.caseSensitive = right.caseSensitive) :
    left.key = right.key := by
  funext name
  unfold key
  rw [same]

theorem boundBy_congr {left right : Resolver} (same : left.key = right.key)
    (live : List LiveScope) : left.boundBy live = right.boundBy live := by
  funext key
  unfold boundBy LiveScope.entries
  rw [same]

theorem boundBy_append (resolver : Resolver) (former latter : List LiveScope) (key : String) :
    resolver.boundBy (former ++ latter) key =
      resolver.boundBy former key ++ resolver.boundBy latter key := by
  simp [boundBy]

theorem boundBy_cons (resolver : Resolver) (scope : LiveScope) (live : List LiveScope)
    (key : String) :
    resolver.boundBy (scope :: live) key =
      ((scope.entries resolver).filter (·.1 = key)).map (·.2) ++ resolver.boundBy live key := by
  simp [boundBy]

theorem mem_boundBy {key : String} {binding : Binding}
    (member : binding ∈ resolver.boundBy live key) :
    ∃ scope ∈ live, binding.scope = scope.guard.scope := by
  obtain ⟨entry, inEntries, rfl⟩ := List.mem_map.1 member
  obtain ⟨scope, isLive, inScope⟩ := List.mem_flatMap.1 (List.mem_filter.1 inEntries).1
  obtain ⟨assignment, _, rfl⟩ := List.mem_map.1 inScope
  exact ⟨scope, isLive, rfl⟩

/-! ## Declaring -/

theorem repeated?_eq_none_iff {seen names : List String} :
    repeated? seen names = none ↔ names.Nodup ∧ ∀ name ∈ names, name ∉ seen := by
  refine ⟨fun unrepeated => ?_, fun ⟨nodup, unseen⟩ => repeated?_eq_none nodup unseen⟩
  induction names generalizing seen with
  | nil => simp
  | cons first rest ih =>
      unfold repeated? at unrepeated
      split at unrepeated
      · cases unrepeated
      · rename_i isNew
        obtain ⟨nodup, unseen⟩ := ih unrepeated
        simp only [List.mem_cons, not_or] at unseen
        refine ⟨List.nodup_cons.2 ⟨fun member => (unseen first member).1 rfl, nodup⟩, ?_⟩
        intro name member
        rcases List.mem_cons.1 member with rfl | inRest
        · simpa using isNew
        · exact (unseen name inRest).2

/-- Assignments in the form their names are bound under. -/
def keyed (resolver : Resolver) (assignments : List (String × Value)) : List (String × Value) :=
  assignments.map fun assignment => (resolver.key assignment.1, assignment.2)

/-- Several names are declared together when their forms differ, and only then. -/
theorem declareAll_eq (resolver : Resolver) (assignments : List (String × Value)) :
    ((assignments.map (resolver.key ·.1)).Nodup ∧
        resolver.declareAll assignments = .ok (resolver.enter (resolver.keyed assignments))) ∨
      (¬ (assignments.map (resolver.key ·.1)).Nodup ∧
        ∃ name, resolver.declareAll assignments = .error (.duplicateBinding name)) := by
  have names : (resolver.keyed assignments).map (·.1) = assignments.map (resolver.key ·.1) := by
    simp [keyed]
  cases found : repeated? [] ((resolver.keyed assignments).map (·.1)) with
  | none =>
      have opened : resolver.declareAll assignments =
          .ok (resolver.enter (resolver.keyed assignments)) := by
        rw [keyed] at found
        rw [declareAll, found]
        rfl
      rw [← names]
      exact .inl ⟨(repeated?_eq_none_iff.1 found).1, opened⟩
  | some name =>
      have refused : resolver.declareAll assignments = .error (.duplicateBinding name) := by
        rw [keyed] at found
        rw [declareAll, found]
      refine .inr ⟨fun nodup => ?_, name, refused⟩
      rw [← names] at nodup
      rw [repeated?_eq_none nodup fun _ _ => List.not_mem_nil] at found
      cases found

theorem caseSensitive_enter (resolver : Resolver) (assignments : List (String × Value)) :
    (resolver.enter assignments).1.caseSensitive = resolver.caseSensitive := by
  have kept : ∀ (assignments : List (String × Value)) (current : Resolver),
      (assignments.foldl (fun current assignment => current.push resolver.nextScope assignment)
        current).caseSensitive = current.caseSensitive := by
    intro assignments
    induction assignments with
    | nil => exact fun _ => rfl
    | cons assignment rest ih => exact fun current => ih (current.push _ assignment)
  exact kept assignments resolver

/-- Every assignment of a scope comes to lie on top of the stack of its name. -/
theorem stack_foldl_push {resolver : Resolver} {scope : Nat}
    {assignments : List (String × Value)} (nodup : (assignments.map (·.1)).Nodup)
    (probe : String) :
    (assignments.foldl (fun current assignment => current.push scope assignment) resolver).stack
        probe =
      (assignments.filter (·.1 = probe)).map (fun assignment => ⟨scope, assignment.2⟩) ++
        resolver.stack probe := by
  induction assignments generalizing resolver with
  | nil => rfl
  | cons first rest ih =>
      rw [List.map_cons, List.nodup_cons] at nodup
      rw [List.foldl_cons]
      by_cases isFirst : first.1 = probe
      · subst isFirst
        have absent : rest.filter (·.1 = first.1) = [] := by
          refine List.filter_eq_nil_iff.2 fun other member same => nodup.1 ?_
          rw [← of_decide_eq_true same]
          exact List.mem_map_of_mem member
        rw [stack_foldl_push_of_notMem nodup.1, stack_push, if_pos rfl,
          List.filter_cons_of_pos (by simp), absent]
        rfl
      · rw [ih nodup.2, stack_push, if_neg (Ne.symm isFirst),
          List.filter_cons_of_neg (by simpa using isFirst)]

theorem get?_push_ne_nil (nonempty : ∀ key, resolver.bindings.get? key ≠ some []) (scope : Nat)
    (assignment : String × Value) (key : String) :
    (resolver.push scope assignment).bindings.get? key ≠ some [] := by
  unfold push
  rw [SortedMap.get?_insert]
  split
  · simp
  · exact nonempty key

theorem get?_enter_ne_nil (nonempty : ∀ key, resolver.bindings.get? key ≠ some [])
    (assignments : List (String × Value)) (key : String) :
    (resolver.enter assignments).1.bindings.get? key ≠ some [] := by
  have kept : ∀ (assignments : List (String × Value)) (current : Resolver),
      (∀ key, current.bindings.get? key ≠ some []) →
      ∀ key, (assignments.foldl
        (fun current assignment => current.push resolver.nextScope assignment)
        current).bindings.get? key ≠ some [] := by
    intro assignments
    induction assignments with
    | nil => exact fun _ nonempty => nonempty
    | cons assignment rest ih =>
        exact fun current nonempty => ih _ (get?_push_ne_nil nonempty _ assignment)
  exact kept assignments resolver nonempty key

/-- Declaring names whose forms differ adds a live scope. -/
theorem Represents.enter (represents : resolver.Represents live)
    {assignments : List (String × Value)}
    (nodup : (assignments.map (resolver.key ·.1)).Nodup) :
    (resolver.enter (resolver.keyed assignments)).1.Represents
      (⟨(resolver.enter (resolver.keyed assignments)).2, assignments⟩ :: live) := by
  have sameKey := key_congr (caseSensitive_enter resolver (resolver.keyed assignments))
  have names : (resolver.keyed assignments).map (·.1) = assignments.map (resolver.key ·.1) := by
    simp [keyed]
  have guarded : (resolver.enter (resolver.keyed assignments)).2 =
      ⟨resolver.nextScope, assignments.map (resolver.key ·.1)⟩ := by
    rw [← names]
    rfl
  have next : (resolver.enter (resolver.keyed assignments)).1.nextScope =
      resolver.nextScope + 1 := rfl
  refine
    { stack_eq := fun key => ?_
      nonempty := get?_enter_ne_nil represents.nonempty _
      names_eq := ?_
      nodup := ?_
      fresh := ?_
      distinct := ?_ }
  · rw [boundBy_congr sameKey, boundBy_cons, ← represents.stack_eq, enter_fst_stack,
      stack_foldl_push (names ▸ nodup), guarded]
    simp [LiveScope.entries, keyed, List.filter_map, Function.comp_def]
  · rw [sameKey, guarded, List.forall_mem_cons]
    exact ⟨rfl, represents.names_eq⟩
  · rw [guarded, List.forall_mem_cons]
    exact ⟨nodup, represents.nodup⟩
  · rw [guarded, next, List.forall_mem_cons]
    exact ⟨Nat.lt_succ_self _, fun scope member => (represents.fresh scope member).trans_le
      (Nat.le_succ _)⟩
  · rw [guarded, List.map_cons, List.nodup_cons]
    refine ⟨fun member => ?_, represents.distinct⟩
    obtain ⟨scope, isLive, same⟩ := List.mem_map.1 member
    exact absurd same (Nat.ne_of_lt (represents.fresh scope isLive))

/-! ## Releasing -/

theorem withoutScope_append {scope : Nat} {former : List Binding}
    (others : ∀ binding ∈ former, binding.scope ≠ scope) (latter : List Binding) :
    withoutScope scope (former ++ latter) = former ++ withoutScope scope latter := by
  induction former with
  | nil => rfl
  | cons first rest ih =>
      rw [List.forall_mem_cons] at others
      rw [List.cons_append, withoutScope, if_neg others.1, ih others.2, List.cons_append]

theorem stack_releaseName (scope : Nat) (resolver : Resolver) (name probe : String) :
    (releaseName scope resolver name).stack probe =
      if probe = name then withoutScope scope (resolver.stack probe)
      else resolver.stack probe := by
  by_cases isName : probe = name
  · subst isName
    rw [if_pos rfl]
    unfold releaseName stack
    split
    · rename_i unbound
      simp [unbound, withoutScope]
    · rename_i bindings isBound
      dsimp only
      split
      · rename_i isEmpty
        rw [SortedMap.get?_erase, if_pos Std.ReflCmp.compare_self, isBound, Option.getD_none,
          Option.getD_some, List.isEmpty_iff.1 isEmpty]
      · rw [SortedMap.get?_insert, if_pos Std.ReflCmp.compare_self, isBound, Option.getD_some,
          Option.getD_some]
  · have other : compare probe name ≠ .eq := fun equal =>
      isName (Std.LawfulEqOrd.eq_of_compare equal)
    rw [if_neg isName]
    unfold releaseName stack
    split
    · rfl
    · dsimp only
      split
      · rw [SortedMap.get?_erase, if_neg other]
      · rw [SortedMap.get?_insert, if_neg other]

theorem get?_releaseName_ne_nil (nonempty : ∀ key, resolver.bindings.get? key ≠ some [])
    (scope : Nat) (name key : String) :
    (releaseName scope resolver name).bindings.get? key ≠ some [] := by
  unfold releaseName
  split
  · exact nonempty key
  · dsimp only
    split
    · rw [SortedMap.get?_erase]
      split
      · simp
      · exact nonempty key
    · rename_i remains
      rw [SortedMap.get?_insert]
      split
      · simpa using remains
      · exact nonempty key

theorem releaseName_frame (scope : Nat) (resolver : Resolver) (name : String) :
    (releaseName scope resolver name).caseSensitive = resolver.caseSensitive ∧
      (releaseName scope resolver name).nextScope = resolver.nextScope := by
  unfold releaseName
  split <;> exact ⟨rfl, rfl⟩

/-- Releasing takes one binding of the scope out of the stacks of its names, and leaves
the rest as it is. -/
theorem release_step (nonempty : ∀ key, resolver.bindings.get? key ≠ some [])
    {guard : ScopeGuard} (nodup : guard.names.Nodup) :
    (resolver.release guard).caseSensitive = resolver.caseSensitive ∧
      (resolver.release guard).nextScope = resolver.nextScope ∧
      (∀ key, (resolver.release guard).bindings.get? key ≠ some []) ∧
      ∀ probe, (resolver.release guard).stack probe =
        if probe ∈ guard.names then withoutScope guard.scope (resolver.stack probe)
        else resolver.stack probe := by
  unfold release
  generalize guard.names = names at nodup
  induction names generalizing resolver with
  | nil => exact ⟨rfl, rfl, nonempty, fun _ => rfl⟩
  | cons first rest ih =>
      rw [List.nodup_cons] at nodup
      obtain ⟨sameCase, sameNext⟩ := releaseName_frame guard.scope resolver first
      obtain ⟨caseRest, nextRest, nonemptyRest, stackRest⟩ :=
        ih (get?_releaseName_ne_nil nonempty guard.scope first) nodup.2
      refine ⟨caseRest.trans sameCase, nextRest.trans sameNext, nonemptyRest, fun probe => ?_⟩
      rw [List.foldl_cons, stackRest, stack_releaseName]
      by_cases isFirst : probe = first
      · subst isFirst
        rw [if_neg nodup.1, if_pos rfl, if_pos List.mem_cons_self]
      · simp [isFirst]

theorem filter_eq_singleton {entries : List (String × Binding)}
    (nodup : (entries.map (·.1)).Nodup) {key : String} (member : key ∈ entries.map (·.1)) :
    ∃ entry ∈ entries, entries.filter (·.1 = key) = [entry] := by
  induction entries with
  | nil => cases member
  | cons first rest ih =>
      rw [List.map_cons, List.nodup_cons] at nodup
      by_cases isFirst : first.1 = key
      · subst isFirst
        have absent : rest.filter (·.1 = first.1) = [] := by
          refine List.filter_eq_nil_iff.2 fun other member same => nodup.1 ?_
          rw [← of_decide_eq_true same]
          exact List.mem_map_of_mem member
        exact ⟨first, List.mem_cons_self, by rw [List.filter_cons_of_pos (by simp), absent]⟩
      · rw [List.map_cons, List.mem_cons] at member
        obtain ⟨entry, inRest, single⟩ := ih nodup.2 (member.resolve_left (Ne.symm isFirst))
        refine ⟨entry, List.mem_cons_of_mem _ inRest, ?_⟩
        rw [List.filter_cons_of_neg (by simpa using isFirst), single]

/-- Releasing a live scope takes it out of the live scopes, wherever it stands. -/
theorem Represents.release {former latter : List LiveScope} {scope : LiveScope}
    (represents : resolver.Represents (former ++ scope :: latter)) :
    (resolver.release scope.guard).Represents (former ++ latter) := by
  have isLive : scope ∈ former ++ scope :: latter := List.mem_append_right _ List.mem_cons_self
  have fewer : (former ++ latter).Sublist (former ++ scope :: latter) :=
    List.Sublist.append_left (List.sublist_cons_self _ _) _
  have nodup := represents.nodup scope isLive
  obtain ⟨sameCase, sameNext, nonempty, stackEq⟩ := release_step represents.nonempty nodup
  have sameKey := key_congr sameCase
  have names : (scope.entries resolver).map (·.1) = scope.guard.names := by
    rw [represents.names_eq scope isLive]
    simp [LiveScope.entries]
  refine
    { stack_eq := fun key => ?_
      nonempty := nonempty
      names_eq := fun other member => sameKey ▸ represents.names_eq other (fewer.subset member)
      nodup := fun other member => represents.nodup other (fewer.subset member)
      fresh := fun other member => sameNext ▸ represents.fresh other (fewer.subset member)
      distinct := represents.distinct.sublist (fewer.map _) }
  rw [stackEq, represents.stack_eq, boundBy_congr sameKey, boundBy_append, boundBy_append,
    boundBy_cons]
  split
  · rename_i bound
    rw [← names] at bound nodup
    obtain ⟨entry, inScope, single⟩ := filter_eq_singleton nodup bound
    obtain ⟨assignment, _, rfl⟩ := List.mem_map.1 inScope
    -- bindings on top of the released one are of other scopes
    have others : ∀ binding ∈ resolver.boundBy former key,
        binding.scope ≠ scope.guard.scope := by
      intro binding member same
      obtain ⟨other, isFormer, isOther⟩ := mem_boundBy member
      have distinct := represents.distinct
      rw [List.map_append, List.nodup_append] at distinct
      exact distinct.2.2 _ (List.mem_map_of_mem isFormer) _
        (List.mem_map_of_mem List.mem_cons_self) (isOther.symm.trans same)
    rw [withoutScope_append others, single]
    simp [withoutScope]
  · rename_i unbound
    have none : (scope.entries resolver).filter (·.1 = key) = [] := by
      refine List.filter_eq_nil_iff.2 fun entry member same => unbound ?_
      rw [← names, ← of_decide_eq_true same]
      exact List.mem_map_of_mem member
    rw [none, List.map_nil, List.nil_append]

end Resolver

/-! ## Runs -/

namespace ScopeState

/-- What can happen to a state adds a live scope, takes one away or changes nothing. -/
theorem Step.cases {state next : ScopeState} (step : state.Step next) :
    (∃ assignments, (assignments.map (state.resolver.key ·.1)).Nodup ∧
      next = ⟨(state.resolver.enter (state.resolver.keyed assignments)).1,
        ⟨(state.resolver.enter (state.resolver.keyed assignments)).2, assignments⟩ ::
          state.live⟩) ∨
    next = state ∨
    ∃ former scope latter, state.live = former ++ scope :: latter ∧
      next = ⟨state.resolver.release scope.guard, former ++ latter⟩ := by
  cases step with
  | declare name value => exact .inl ⟨[(name, value)], by simp, rfl⟩
  | @declareAll assignments resolver guard declared =>
      rcases state.resolver.declareAll_eq assignments with ⟨nodup, entered⟩ | ⟨_, name, rejected⟩
      · rw [entered, Except.ok.injEq] at declared
        exact .inl ⟨assignments, nodup, by rw [declared]⟩
      · rw [rejected] at declared
        cases declared
  | rejected => exact .inr (.inl rfl)
  | release isLive => exact .inr (.inr ⟨_, _, _, isLive, rfl⟩)

theorem Step.represents {state next : ScopeState} (step : state.Step next)
    (represents : state.resolver.Represents state.live) :
    next.resolver.Represents next.live ∧
      next.resolver.caseSensitive = state.resolver.caseSensitive := by
  rcases step.cases with ⟨assignments, nodup, rfl⟩ | rfl | ⟨former, scope, latter, isLive, rfl⟩
  · exact ⟨represents.enter nodup, Resolver.caseSensitive_enter _ _⟩
  · exact ⟨represents, rfl⟩
  · rw [isLive] at represents
    have isMember : scope ∈ former ++ scope :: latter :=
      List.mem_append_right _ List.mem_cons_self
    exact ⟨represents.release,
      (Resolver.release_step represents.nonempty (represents.nodup scope isMember)).1⟩

theorem Run.represents {caseSensitive : Bool} {state : ScopeState}
    (run : (start caseSensitive).Run state) :
    state.resolver.Represents state.live ∧ state.resolver.caseSensitive = caseSensitive := by
  induction run with
  | refl =>
      refine ⟨?_, rfl⟩
      exact
        { stack_eq := fun _ => rfl
          nonempty := fun _ => nofun
          names_eq := fun _ member => nomatch member
          nodup := fun _ member => nomatch member
          fresh := fun _ member => nomatch member
          distinct := List.nodup_nil }
  | tail _ step ih =>
      obtain ⟨represents, sameCase⟩ := step.represents ih.1
      exact ⟨represents, sameCase.trans ih.2⟩

end ScopeState

/-! ## Reading a resolver -/

/-- Sorting entries by keys that cover them loses none and counts none twice. -/
theorem sum_length_filter {keys : List String} (nodup : keys.Nodup)
    {entries : List (String × Binding)} (covers : ∀ entry ∈ entries, entry.1 ∈ keys) :
    (keys.map fun key => (entries.filter (·.1 = key)).length).sum = entries.length := by
  have counts : ∀ key, (entries.filter (·.1 = key)).length =
      (entries.map (·.1) : Multiset String).count key := by
    intro key
    rw [Multiset.coe_count, List.count, List.countP_map, List.countP_eq_length_filter]
    rfl
  have areKeys : ∀ key ∈ (entries.map (·.1) : Multiset String), key ∈ keys.toFinset := by
    intro key member
    obtain ⟨entry, inEntries, rfl⟩ := List.mem_map.1 (Multiset.mem_coe.1 member)
    exact List.mem_toFinset.2 (covers entry inEntries)
  rw [← List.sum_toFinset _ nodup]
  simp only [counts]
  rw [Multiset.sum_count_eq_card areKeys, Multiset.coe_card, List.length_map]

namespace Resolver.Represents

variable {resolver : Resolver} {live : List LiveScope}

/-- The visible value is that of the latest live scope with the name. -/
theorem head?_stack (represents : resolver.Represents live) (key : String) :
    (resolver.stack key).head?.map (·.value) = live.findSome? (·.value? resolver key) := by
  rw [represents.stack_eq, boundBy, List.head?_map, List.head?_filter, List.find?_flatMap]
  rw [Option.map_map, List.map_findSome?]
  congr 1
  funext scope
  rw [Function.comp_apply, LiveScope.entries, List.find?_map, Option.map_map]
  rfl

theorem stack_ne_nil_iff (represents : resolver.Represents live) (key : String) :
    resolver.stack key ≠ [] ↔ ∃ scope ∈ live, key ∈ scope.guard.names := by
  rw [represents.stack_eq, boundBy, ne_eq, List.map_eq_nil_iff, List.filter_eq_nil_iff]
  push Not
  constructor
  · rintro ⟨entry, member, same⟩
    obtain ⟨scope, isLive, inScope⟩ := List.mem_flatMap.1 member
    obtain ⟨assignment, inAssignments, rfl⟩ := List.mem_map.1 inScope
    refine ⟨scope, isLive, ?_⟩
    rw [represents.names_eq scope isLive, ← of_decide_eq_true same]
    exact List.mem_map_of_mem inAssignments
  · rintro ⟨scope, isLive, isName⟩
    rw [represents.names_eq scope isLive] at isName
    obtain ⟨assignment, inAssignments, rfl⟩ := List.mem_map.1 isName
    exact ⟨_, List.mem_flatMap.2 ⟨scope, isLive, List.mem_map_of_mem inAssignments⟩, by simp⟩

/-- A name is in the map when a live scope has bound it. -/
theorem contains_iff (represents : resolver.Represents live) (key : String) :
    resolver.bindings.contains key = true ↔ ∃ scope ∈ live, key ∈ scope.guard.names := by
  rw [← represents.stack_ne_nil_iff, SortedMap.contains, stack]
  have nonempty := represents.nonempty key
  cases found : resolver.bindings.get? key with
  | none => simp
  | some stack =>
      have filled : stack ≠ [] := fun empty => nonempty (by rw [found, empty])
      simp [filled]

/-- The stacks hold as many bindings as the live scopes have made. -/
theorem activeBindings_eq (represents : resolver.Represents live) :
    resolver.activeBindings = (live.map (·.guard.names.length)).sum := by
  have values : resolver.bindings.values = resolver.bindings.keys.map (resolver.boundBy live) := by
    rw [SortedMap.values, SortedMap.keys, List.map_map]
    refine List.map_congr_left fun entry member => ?_
    have found := SortedMap.get?_of_mem member
    rw [Function.comp_apply, ← represents.stack_eq, stack, found, Option.getD_some]
  have covers : ∀ entry ∈ live.flatMap (·.entries resolver), entry.1 ∈ resolver.bindings.keys := by
    intro entry member
    obtain ⟨scope, isLive, inScope⟩ := List.mem_flatMap.1 member
    obtain ⟨assignment, inAssignments, rfl⟩ := List.mem_map.1 inScope
    refine SortedMap.mem_keys_iff.2 ((represents.contains_iff _).2 ⟨scope, isLive, ?_⟩)
    rw [represents.names_eq scope isLive]
    exact List.mem_map_of_mem inAssignments
  have counted := sum_length_filter resolver.bindings.nodup_keys covers
  rw [List.length_flatMap] at counted
  have lengths : live.map (fun scope => (scope.entries resolver).length) =
      live.map (·.guard.names.length) := by
    refine List.map_congr_left fun scope member => ?_
    rw [represents.names_eq scope member, LiveScope.entries, List.length_map, List.length_map]
  rw [activeBindings, values, List.length_flatten, List.map_map, ← lengths, ← counted]
  congr 1
  refine List.map_congr_left fun key _ => ?_
  rw [Function.comp_apply, boundBy, List.length_map]

end Resolver.Represents

/-- What is read off a resolver, in terms of its live scopes. -/
structure Resolver.ReadsLive (resolver : Resolver) (live : List LiveScope) : Prop where
  /-- A guard holds the forms of the names its scope was declared with. -/
  names_eq : ∀ scope ∈ live, scope.guard.names = scope.assignments.map (resolver.key ·.1)
  /-- A path leads into the value of the latest live scope that has bound its root. -/
  lookup?_eq : ∀ path, resolver.lookup? path =
    match pathSegments path with
    | [] => none
    | root :: fields =>
        (live.findSome? (·.value? resolver (resolver.key root))).bind (Value.lookup? fields)
  isBound_iff : ∀ name, resolver.isBound name = true ↔
    ∃ scope ∈ live, resolver.key name ∈ scope.guard.names
  activeBindings_eq : resolver.activeBindings = (live.map (·.guard.names.length)).sum
  mem_boundNames_iff : ∀ key, key ∈ resolver.boundNames ↔ ∃ scope ∈ live, key ∈ scope.guard.names
  boundNames_increasing : resolver.boundNames.Pairwise (· < ·)
  nonempty : ∀ key, resolver.bindings.get? key ≠ some []

theorem Resolver.Represents.readsLive {resolver : Resolver} {live : List LiveScope}
    (represents : resolver.Represents live) : resolver.ReadsLive live where
  names_eq := represents.names_eq
  lookup?_eq path := by
    unfold Resolver.lookup?
    cases pathSegments path with
    | nil => rfl
    | cons root fields =>
        dsimp only
        rw [← represents.head?_stack]
        cases resolver.stack (resolver.key root) <;> rfl
  isBound_iff name := represents.contains_iff _
  activeBindings_eq := represents.activeBindings_eq
  mem_boundNames_iff key := SortedMap.mem_keys_iff.trans (represents.contains_iff key)
  boundNames_increasing := by
    refine List.pairwise_map.2 (resolver.bindings.increasing.imp fun below => ?_)
    exact compareOfLessAndEq_eq_lt.1 below
  nonempty := represents.nonempty

/-- Whether nothing that is read off two resolvers differs. -/
structure Resolver.SameBindings (left right : Resolver) : Prop where
  lookup?_eq : ∀ path, left.lookup? path = right.lookup? path
  isBound_eq : ∀ name, left.isBound name = right.isBound name
  activeBindings_eq : left.activeBindings = right.activeBindings
  boundNames_eq : left.boundNames = right.boundNames

namespace Resolver.ReadsLive

variable {resolver other : Resolver} {live otherLive : List LiveScope}

theorem exists_names_iff (reads : resolver.ReadsLive live) (key : String) :
    (∃ scope ∈ live, key ∈ scope.guard.names) ↔
      ∃ assignments ∈ live.map (·.assignments), key ∈ assignments.map (resolver.key ·.1) := by
  simp only [List.mem_map, exists_exists_and_eq_and]
  refine exists_congr fun scope => and_congr_right fun isLive => ?_
  rw [reads.names_eq scope isLive, List.mem_map]

/-- What is read off a resolver depends only on what the live scopes were declared with. -/
theorem sameBindings (reads : resolver.ReadsLive live) (readsOther : other.ReadsLive otherLive)
    (sameKey : resolver.key = other.key)
    (sameScopes : live.map (·.assignments) = otherLive.map (·.assignments)) :
    resolver.SameBindings other := by
  have sameNames : ∀ key, (∃ scope ∈ live, key ∈ scope.guard.names) ↔
      ∃ scope ∈ otherLive, key ∈ scope.guard.names := by
    intro key
    rw [reads.exists_names_iff, readsOther.exists_names_iff, sameScopes, sameKey]
  refine
    { lookup?_eq := fun path => ?_
      isBound_eq := fun name => ?_
      activeBindings_eq := ?_
      boundNames_eq := ?_ }
  · rw [reads.lookup?_eq, readsOther.lookup?_eq]
    cases pathSegments path with
    | nil => rfl
    | cons root fields =>
        dsimp only
        rw [LiveScope.findSome?_value?, LiveScope.findSome?_value?, sameScopes, sameKey]
  · rw [Bool.eq_iff_iff, reads.isBound_iff, readsOther.isBound_iff, sameNames, sameKey]
  · have lengths : ∀ {current : Resolver} {scopes : List LiveScope}, current.ReadsLive scopes →
        scopes.map (·.guard.names.length) = (scopes.map (·.assignments)).map (·.length) := by
      intro current scopes readsScopes
      rw [List.map_map]
      refine List.map_congr_left fun scope isLive => ?_
      rw [readsScopes.names_eq scope isLive, List.length_map]
      rfl
    rw [reads.activeBindings_eq, readsOther.activeBindings_eq, lengths reads, lengths readsOther,
      sameScopes]
  · -- two increasing lists with the same members are equal
    have members : resolver.boundNames.Perm other.boundNames := by
      refine (List.perm_ext_iff_of_nodup (SortedMap.nodup_keys _) (SortedMap.nodup_keys _)).2 ?_
      intro key
      exact (reads.mem_boundNames_iff key).trans
        ((sameNames key).trans (readsOther.mem_boundNames_iff key).symm)
    exact members.eq_of_pairwise (fun _ _ _ _ below above => absurd above (String.lt_asymm below))
      reads.boundNames_increasing readsOther.boundNames_increasing

/-- Without live scopes nothing is bound. -/
theorem bindings_eq_empty (reads : resolver.ReadsLive []) : resolver.bindings = .empty := by
  apply SortedMap.ext
  refine List.eq_nil_iff_forall_not_mem.2 fun entry member => ?_
  obtain ⟨scope, isLive, _⟩ := (reads.mem_boundNames_iff entry.1).1 (List.mem_map_of_mem member)
  cases isLive

end Resolver.ReadsLive

namespace ScopeState

/-- However scopes are declared and released, a resolver reads as its live scopes say.
Two ways to the same live scopes lead to the same bindings, groups of names are rejected
only for names that occur twice, and when all scopes are released nothing is bound. -/
theorem run_reads_live {caseSensitive : Bool} {state : ScopeState}
    (run : (start caseSensitive).Run state) :
    state.resolver.ReadsLive state.live ∧
      (∀ other, (start caseSensitive).Run other →
        state.live.map (·.assignments) = other.live.map (·.assignments) →
          state.resolver.SameBindings other.resolver) ∧
      (∀ assignments, (∃ error, state.resolver.declareAll assignments = .error error) ↔
        ¬ (assignments.map (state.resolver.key ·.1)).Nodup) ∧
      (state.live = [] → state.resolver.bindings = .empty) := by
  obtain ⟨represents, caseSame⟩ := run.represents
  have reads := represents.readsLive
  refine ⟨reads, fun other otherRun sameScopes => ?_, fun assignments => ?_, fun released => ?_⟩
  · obtain ⟨representsOther, caseOther⟩ := otherRun.represents
    exact reads.sameBindings representsOther.readsLive
      (Resolver.key_congr (caseSame.trans caseOther.symm)) sameScopes
  · rcases state.resolver.declareAll_eq assignments with ⟨nodup, entered⟩ | ⟨repeats, _, rejected⟩
    · simp [entered, nodup]
    · simp [rejected, repeats]
  · rw [released] at reads
    exact reads.bindings_eq_empty

/-- A resolver with two scopes that bind one name. -/
def shadowed : ScopeState :=
  let outer := (Resolver.new false).declare "Name" (.text "outer")
  let inner := outer.1.declare "name" (.text "inner")
  ⟨inner.1, [⟨inner.2, [("name", .text "inner")]⟩, ⟨outer.2, [("Name", .text "outer")]⟩]⟩

/-- The same when the outer scope is released before the inner one. -/
def outerReleased : ScopeState :=
  let outer := (Resolver.new false).declare "Name" (.text "outer")
  ⟨shadowed.resolver.release outer.2, shadowed.live.dropLast⟩

theorem run_reads_live_outerReleased :
    outerReleased.resolver.ReadsLive outerReleased.live := by
  have declared : (start false).Run shadowed :=
    .tail (.single (.declare "Name" (.text "outer"))) (.declare "name" (.text "inner"))
  have isLive : shadowed.live = [shadowed.live.head (by decide)] ++
      [⟨((Resolver.new false).declare "Name" (.text "outer")).2, [("Name", .text "outer")]⟩] := rfl
  exact (run_reads_live (.tail declared (.release isLive))).1

example : outerReleased.resolver.lookup? "NAME" = some (.text "inner") := by rfl

end ScopeState

end ProjectFiles
