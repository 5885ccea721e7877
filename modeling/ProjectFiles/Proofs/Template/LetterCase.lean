import ProjectFiles.Proofs.Template.LiveScopes
import ProjectFiles.Proofs.Template.Passes

/-!
# Resolvers that do not mind case

A resolver that minds the case of names and one that does not can go through the same
history of declarations and releases.  While names that differ at all differ in more than
case, both have the same live scopes all the time, and the second one shows everything
that the first one shows.  So it resolves whatever the first one resolves, and to the same
text; it differs only where the first one finds a name unbound.
-/

namespace ProjectFiles

open Template Text

/-! ## Histories -/

/-- What is done to the scopes of a resolver. -/
inductive ScopeAction where
  | declare (name : String) (value : Value)
  | declareAll (assignments : List (String × Value))
  /-- Release the scope of a number, if it is live. -/
  | release (number : Nat)

/-- The names that an action declares.  A group with a repeated name is rejected and
declares none. -/
def ScopeAction.names : ScopeAction → List String
  | declare name _ => [name]
  | declareAll assignments =>
      let names := assignments.map (·.1)
      if names.Nodup then names else []
  | release _ => []

/-- The names that a history declares. -/
def declaredNames (history : List ScopeAction) : List String :=
  history.flatMap ScopeAction.names

namespace ScopeState

/-- Do something to the scopes of a resolver. -/
def act (state : ScopeState) : ScopeAction → ScopeState
  | .declare name value =>
      let (resolver, guard) := state.resolver.declare name value
      ⟨resolver, ⟨guard, [(name, value)]⟩ :: state.live⟩
  | .declareAll assignments =>
      match state.resolver.declareAll assignments with
      | .ok (resolver, guard) => ⟨resolver, ⟨guard, assignments⟩ :: state.live⟩
      | .error _ => state
  | .release number =>
      match state.live.find? (·.guard.scope == number) with
      | some scope =>
          ⟨state.resolver.release scope.guard, state.live.eraseP (·.guard.scope == number)⟩
      | none => state

/-- A new resolver after a history. -/
def after (caseSensitive : Bool) (history : List ScopeAction) : ScopeState :=
  history.foldl act (start caseSensitive)

theorem after_concat (caseSensitive : Bool) (history : List ScopeAction) (action : ScopeAction) :
    after caseSensitive (history ++ [action]) = (after caseSensitive history).act action :=
  List.foldl_concat ..

theorem run_act (state : ScopeState) (action : ScopeAction) : state.Run (state.act action) := by
  cases action with
  | declare name value => exact .single (.declare name value)
  | declareAll assignments =>
      unfold act
      dsimp only
      split
      · rename_i declared
        exact .single (.declareAll declared)
      · exact .refl
  | release number =>
      unfold act
      dsimp only
      split
      · rename_i scope found
        obtain ⟨isNumber, former, latter, isLive, others⟩ := List.find?_eq_some_iff_append.1 found
        have remaining : state.live.eraseP (·.guard.scope == number) = former ++ latter := by
          rw [isLive, List.eraseP_append_right _ (by simpa using others)]
          exact congrArg (former ++ ·) (List.eraseP_cons_of_pos isNumber)
        rw [remaining]
        exact .single (.release isLive)
      · exact .refl

theorem run_after (caseSensitive : Bool) (history : List ScopeAction) :
    (start caseSensitive).Run (after caseSensitive history) := by
  induction history using List.reverseRecOn with
  | nil => exact .refl
  | append_singleton history action ih =>
      rw [after_concat]
      exact ih.trans (run_act _ action)

end ScopeState

/-! ## What does not depend on case -/

/-- Whether lowering case keeps different names apart. -/
def KeptApart (names : List String) : Prop :=
  ∀ first ∈ names, ∀ second ∈ names, lowercase first = lowercase second → first = second

instance (names : List String) : Decidable (KeptApart names) :=
  inferInstanceAs (Decidable (∀ first ∈ names, ∀ second ∈ names,
    lowercase first = lowercase second → first = second))

theorem KeptApart.subset {fewer names : List String} (apart : KeptApart names)
    (subset : fewer ⊆ names) : KeptApart fewer :=
  fun first isFirst second isSecond => apart first (subset isFirst) second (subset isSecond)

theorem Apart.keptApart {names : List String} (apart : Apart names) : KeptApart names :=
  fun _ isFirst _ isSecond same => List.inj_on_of_nodup_map apart isFirst isSecond same

/-- The numbers and the assignments of live scopes, without the forms of the names that
they are bound under. -/
structure ScopeOutline where
  nextScope : Nat
  scopes : List (Nat × List (String × Value))

namespace ScopeOutline

/-- What an action makes of an outline. -/
def act (outline : ScopeOutline) : ScopeAction → ScopeOutline
  | .declare name value =>
      ⟨outline.nextScope + 1, (outline.nextScope, [(name, value)]) :: outline.scopes⟩
  | .declareAll assignments =>
      if (assignments.map (·.1)).Nodup then
        ⟨outline.nextScope + 1, (outline.nextScope, assignments) :: outline.scopes⟩
      else outline
  | .release number => { outline with scopes := outline.scopes.eraseP (·.1 == number) }

/-- The outline after a history. -/
def after (history : List ScopeAction) : ScopeOutline :=
  history.foldl act ⟨0, []⟩

/-- Live scopes have assigned to declared names only. -/
theorem mem_declaredNames {history : List ScopeAction} {scope : Nat × List (String × Value)}
    (isLive : scope ∈ (after history).scopes) {assignment : String × Value}
    (member : assignment ∈ scope.2) : assignment.1 ∈ declaredNames history := by
  induction history using List.reverseRecOn with
  | nil => cases isLive
  | append_singleton history action ih =>
      rw [after, List.foldl_concat, ← after] at isLive
      rw [declaredNames, List.flatMap_append, List.mem_append, ← declaredNames,
        List.flatMap_singleton]
      cases action with
      | declare name value =>
          rcases List.mem_cons.1 isLive with rfl | earlier
          · rw [List.mem_singleton.1 member]
            exact .inr (List.mem_singleton.2 rfl)
          · exact .inl (ih earlier)
      | declareAll assignments =>
          rw [act] at isLive
          split at isLive
          · rename_i nodup
            rcases List.mem_cons.1 isLive with rfl | earlier
            · rw [ScopeAction.names, if_pos nodup]
              exact .inr (List.mem_map_of_mem member)
            · exact .inl (ih earlier)
          · exact .inl (ih isLive)
      | release number => exact .inl (ih (List.mem_of_mem_eraseP isLive))

end ScopeOutline

/-- Whether minding case or not, a group of names is accepted when none is repeated. -/
theorem Resolver.nodup_keys_iff (resolver : Resolver) {assignments : List (String × Value)}
    (apart : KeptApart (ScopeAction.declareAll assignments).names) :
    (assignments.map (resolver.key ·.1)).Nodup ↔ (assignments.map (·.1)).Nodup := by
  have split : assignments.map (resolver.key ·.1) = (assignments.map (·.1)).map resolver.key := by
    rw [List.map_map]
    rfl
  rw [split]
  constructor
  · exact List.Nodup.of_map resolver.key
  · intro nodup
    rw [ScopeAction.names, if_pos nodup] at apart
    refine nodup.map_on fun first isFirst second isSecond same => ?_
    unfold key at same
    split at same
    · exact same
    · exact apart first isFirst second isSecond same

namespace ScopeState

/-- The outline of a state. -/
def outline (state : ScopeState) : ScopeOutline :=
  ⟨state.resolver.nextScope, state.live.map fun scope => (scope.guard.scope, scope.assignments)⟩

theorem outline_act {state : ScopeState} (represents : state.resolver.Represents state.live)
    {action : ScopeAction} (apart : KeptApart action.names) :
    (state.act action).outline = state.outline.act action := by
  cases action with
  | declare name value => rfl
  | declareAll assignments =>
      have accepted := state.resolver.nodup_keys_iff apart
      unfold act ScopeOutline.act
      dsimp only
      rcases state.resolver.declareAll_eq assignments with ⟨nodup, entered⟩ | ⟨repeats, _, rejected⟩
      · rw [entered, if_pos (accepted.1 nodup)]
        rfl
      · rw [rejected, if_neg fun nodup => repeats (accepted.2 nodup)]
  | release number =>
      have erased : (state.live.eraseP (·.guard.scope == number)).map
            (fun scope => (scope.guard.scope, scope.assignments)) =
          (state.live.map fun scope => (scope.guard.scope, scope.assignments)).eraseP
            (·.1 == number) := by
        rw [List.eraseP_map]
        rfl
      unfold act ScopeOutline.act outline
      dsimp only
      rw [← erased]
      split
      · rename_i scope found
        have isLive := List.mem_of_find?_eq_some found
        have sameNext := (Resolver.release_step represents.nonempty
          (represents.nodup scope isLive)).2.1
        rw [sameNext]
      · rename_i absent
        rw [List.eraseP_of_forall_not fun scope isLive => List.find?_eq_none.1 absent scope isLive]

/-- The live scopes do not depend on whether case is minded. -/
theorem outline_after {history : List ScopeAction} (apart : KeptApart (declaredNames history))
    (caseSensitive : Bool) : (after caseSensitive history).outline = .after history := by
  induction history using List.reverseRecOn with
  | nil => rfl
  | append_singleton history action ih =>
      rw [declaredNames, List.flatMap_append, List.flatMap_singleton, ← declaredNames] at apart
      have represents := (run_after caseSensitive history).represents.1
      rw [after_concat, outline_act represents (apart.subset (List.subset_append_right _ _)),
        ih (apart.subset (List.subset_append_left _ _)), ScopeOutline.after, ScopeOutline.after,
        List.foldl_concat]

/-! ## What is shown -/

/-- The first assignment to a name is found in lower case as well. -/
theorem find?_lowercase {names : List String} (apart : KeptApart names)
    {assignments : List (String × Value)} (declared : ∀ assignment ∈ assignments,
      assignment.1 ∈ names) {name : String} {found : String × Value}
    (isFound : assignments.find? (fun assignment => assignment.1 = name) = some found) :
    assignments.find? (fun assignment => lowercase assignment.1 = lowercase name) =
      some found := by
  have isName : found.1 = name := by simpa using List.find?_some isFound
  have isDeclared := declared found (List.mem_of_find?_eq_some isFound)
  rw [isName] at isDeclared
  rw [← isFound]
  refine List.find?_congr fun assignment member => ?_
  rw [decide_eq_decide]
  constructor
  · exact apart assignment.1 (declared assignment member) name isDeclared
  · exact congrArg lowercase

/-- What a resolver that minds case shows, one that does not shows, too. -/
theorem lookup?_after {history : List ScopeAction} (apart : KeptApart (declaredNames history))
    {path : String} {value : Value}
    (found : (after true history).resolver.lookup? path = some value) :
    (after false history).resolver.lookup? path = some value := by
  have groups (caseSensitive : Bool) :
      (after caseSensitive history).live.map (·.assignments) =
        (ScopeOutline.after history).scopes.map (·.2) := by
    rw [← outline_after apart caseSensitive, outline, List.map_map]
    rfl
  have declared : ∀ assignment ∈ ((ScopeOutline.after history).scopes.map (·.2)).flatten,
      assignment.1 ∈ declaredNames history := by
    intro assignment member
    rw [← List.flatMap_def] at member
    obtain ⟨scope, isLive, inScope⟩ := List.mem_flatMap.1 member
    exact ScopeOutline.mem_declaredNames isLive inScope
  have exact (name : String) : (after true history).resolver.key name = name := by
    unfold Resolver.key
    rw [(run_after true history).represents.2, if_pos rfl]
  have lowered (name : String) : (after false history).resolver.key name = lowercase name := by
    unfold Resolver.key
    rw [(run_after false history).represents.2, if_neg Bool.false_ne_true]
  rw [(run_after true history).represents.1.readsLive.lookup?_eq] at found
  rw [(run_after false history).represents.1.readsLive.lookup?_eq]
  cases segments : Resolver.pathSegments path with
  | nil =>
      rw [segments] at found
      cases found
  | cons root fields =>
      rw [segments] at found
      dsimp only at found ⊢
      rw [LiveScope.findSome?_value?, groups] at found ⊢
      obtain ⟨shown, isShown, leads⟩ := Option.bind_eq_some_iff.1 found
      obtain ⟨assignment, isFirst, rfl⟩ := Option.map_eq_some_iff.1 isShown
      simp only [exact] at isFirst
      simp only [lowered]
      rw [find?_lowercase apart declared isFirst]
      exact leads

end ScopeState

/-! ## What is resolved -/

/-- After the same history, what a resolver that minds case resolves is resolved to the
same text by one that does not. -/
theorem ScopeState.resolve_after {history : List ScopeAction}
    (apart : KeptApart (declaredNames history)) {template result : String}
    (resolved : (after true history).resolver.resolve template = .ok result) :
    (after false history).resolver.resolve template = .ok result := by
  have shownBy : (after true history).resolver.ShownBy (after false history).resolver := by
    intro path text isText
    obtain ⟨value, found, isRendered⟩ := Option.bind_eq_some_iff.1 isText
    exact Option.bind_eq_some_iff.2 ⟨value, lookup?_after apart found, isRendered⟩
  exact shownBy.resolve resolved

/-- Names that differ in case only are the reason for the condition. -/
example :
    let history := [.declare "Name" (.text "outer"), .declare "name" (.text "inner")]
    (ScopeState.after true history).resolver.resolve "[Name]" = .ok "outer" ∧
      (ScopeState.after false history).resolver.resolve "[Name]" = .ok "inner" := by
  decide +kernel

/-! ## Writing -/

namespace Resolver

/-- Whether two resolvers have declared some names in the same way, where only the first
one minds case.  The names are such that case makes no difference. -/
structure Twins (names : List String) (sensitive insensitive : Resolver) : Prop where
  apart : KeptApart names
  sameHistory : ∃ history, declaredNames history ⊆ names ∧
    sensitive = (ScopeState.after true history).resolver ∧
    insensitive = (ScopeState.after false history).resolver

namespace Twins

variable {names : List String} {sensitive insensitive : Resolver}

theorem new (apart : KeptApart names) : Twins names (new true) (new false) :=
  ⟨apart, [], List.nil_subset names, rfl, rfl⟩

/-- Twins stay twins when both do the same. -/
theorem act (apart : KeptApart names) {history : List ScopeAction}
    (declared : declaredNames history ⊆ names) {action : ScopeAction}
    (areNames : action.names ⊆ names) :
    Twins names ((ScopeState.after true history).act action).resolver
      ((ScopeState.after false history).act action).resolver := by
  refine ⟨apart, history ++ [action], ?_, ?_, ?_⟩
  · rw [declaredNames, List.flatMap_append, List.flatMap_singleton]
    exact List.append_subset.2 ⟨declared, areNames⟩
  · rw [ScopeState.after_concat]
  · rw [ScopeState.after_concat]

theorem declare (twins : Twins names sensitive insensitive) {name : String}
    (isName : name ∈ names) (value : Value) :
    Twins names (sensitive.declare name value).1 (insensitive.declare name value).1 := by
  obtain ⟨apart, history, declared, rfl, rfl⟩ := twins
  have areNames : (ScopeAction.declare name value).names ⊆ names :=
    List.cons_subset.2 ⟨isName, List.nil_subset names⟩
  exact act apart declared areNames

/-- When the first twin accepts a group of names, the second one does, and both are twins
afterwards. -/
theorem declareAll (twins : Twins names sensitive insensitive)
    {assignments : List (String × Value)} (areNames : assignments.map (·.1) ⊆ names)
    {inner : Resolver} {guard : ScopeGuard}
    (accepted : sensitive.declareAll assignments = .ok (inner, guard)) :
    ∃ other otherGuard, insensitive.declareAll assignments = .ok (other, otherGuard) ∧
      Twins names inner other := by
  obtain ⟨apart, history, declared, rfl, rfl⟩ := twins
  have within : (ScopeAction.declareAll assignments).names ⊆ names := by
    unfold ScopeAction.names
    dsimp only
    split
    · exact areNames
    · exact List.nil_subset _
  have nodup_iff (caseSensitive : Bool) :=
    (ScopeState.after caseSensitive history).resolver.nodup_keys_iff (apart.subset within)
  rcases (ScopeState.after true history).resolver.declareAll_eq assignments with
    ⟨nodup, _⟩ | ⟨_, _, rejected⟩
  · rcases (ScopeState.after false history).resolver.declareAll_eq assignments with
      ⟨_, entered⟩ | ⟨repeats, _⟩
    · have twins := act apart declared within
      simp only [ScopeState.act, accepted, entered] at twins
      exact ⟨_, _, entered, twins⟩
    · exact absurd ((nodup_iff false).2 ((nodup_iff true).1 nodup)) repeats
  · rw [rejected] at accepted
    cases accepted

/-- What follows on declaring names carries over when it does from twins to twins. -/
theorem bind_declareAll (twins : Twins names sensitive insensitive) {α : Type}
    {assignments : List (String × Value)}
    {next : Resolver × ScopeGuard → Except GenerationError α}
    (areNames : assignments.map (·.1) ⊆ names)
    (others : ∀ inner other guard otherGuard, Twins names inner other →
      CarriesOver (next (inner, guard)) (next (other, otherGuard))) :
    CarriesOver (sensitive.declareAll assignments >>= next)
      (insensitive.declareAll assignments >>= next) := by
  intro result succeeded
  obtain ⟨⟨inner, guard⟩, accepted, behind⟩ := ok_of_bind_eq_ok succeeded
  obtain ⟨other, otherGuard, acceptedOther, twins⟩ := twins.declareAll areNames accepted
  rw [acceptedOther, bind_ok]
  exact others inner other guard otherGuard twins result behind

theorem write (twins : Twins names sensitive insensitive) (buffer : OutputBuffer)
    (template : String) :
    CarriesOver (buffer.write sensitive template) (buffer.write insensitive template) := by
  obtain ⟨apart, history, declared, rfl, rfl⟩ := twins
  have resolves : CarriesOver ((ScopeState.after true history).resolver.resolve template)
      ((ScopeState.after false history).resolver.resolve template) :=
    fun _ resolved => ScopeState.resolve_after (apart.subset declared) resolved
  exact resolves.bind fun text _ => .refl _

theorem writeIn (twins : Twins names sensitive insensitive) {buffer : OutputBuffer}
    {assignments : List (String × Value)} {template : String}
    (areNames : assignments.map (·.1) ⊆ names) :
    CarriesOver (buffer.writeIn sensitive assignments template)
      (buffer.writeIn insensitive assignments template) :=
  twins.bind_declareAll areNames fun _ _ _ _ inner => inner.write buffer template

/-- A template may be written once for every member of a list. -/
theorem writeEach (twins : Twins names sensitive insensitive) {α : Type}
    {assignments : α → List (String × Value)} {template : String} {members : List α}
    {buffer : OutputBuffer} (areNames : ∀ member, (assignments member).map (·.1) ⊆ names) :
    CarriesOver
      (members.foldlM
        (fun buffer member => buffer.writeIn sensitive (assignments member) template) buffer)
      (members.foldlM
        (fun buffer member => buffer.writeIn insensitive (assignments member) template) buffer) :=
  .foldlM (fun _ member _ => twins.writeIn (areNames member)) buffer

end Twins

end Resolver

end ProjectFiles
