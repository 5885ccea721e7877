import Mathlib.Data.List.Nodup
import ProjectFiles.Proofs.Error
import ProjectFiles.Proofs.Template.Scope

/-!
# Writing templates

Bindings whose names differ in more than case can be declared one scope inside the
other, whether or not the resolver minds case.  Writing a template that keeps to
the names declared puts the filled template behind what has been written.
-/

namespace ProjectFiles

open Template Text

/-! ## Declaring bindings -/

/-- Whether names differ in more than case. -/
def Apart (names : List String) : Prop :=
  (names.map lowercase).Nodup

theorem Apart.sublist {fewer names : List String} (apart : Apart names)
    (sublist : fewer.Sublist names) : Apart fewer :=
  List.Nodup.sublist (sublist.map lowercase) apart

instance (names : List String) : Decidable (Apart names) :=
  inferInstanceAs (Decidable (names.map lowercase).Nodup)

namespace Resolver

variable {resolver : Resolver} {bindings own : List (String × Value)}

/-- Names that differ in more than case are bound under different forms. -/
theorem nodup_keys_of_apart {names : List String} (apart : Apart names) (resolver : Resolver) :
    (names.map resolver.key).Nodup := by
  unfold key
  split
  · exact (List.Nodup.of_map _ apart).map_on (fun _ _ _ _ same => same)
  · exact apart

theorem stack_push (resolver : Resolver) (scope : Nat) (assignment : String × Value)
    (probe : String) :
    (resolver.push scope assignment).stack probe =
      if probe = assignment.1 then ⟨scope, assignment.2⟩ :: resolver.stack assignment.1
      else resolver.stack probe := by
  unfold push stack
  rw [SortedMap.get?_insert]
  simp only [Std.LawfulEqOrd.compare_eq_iff_eq]
  split <;> rfl

theorem stack_foldl_push_of_notMem {resolver : Resolver} {scope : Nat}
    {assignments : List (String × Value)} {probe : String}
    (absent : probe ∉ assignments.map (·.1)) :
    (assignments.foldl (fun current assignment => current.push scope assignment) resolver).stack
      probe = resolver.stack probe := by
  induction assignments generalizing resolver with
  | nil => rfl
  | cons assignment rest ih =>
      simp only [List.map_cons, List.mem_cons, not_or] at absent
      rw [List.foldl_cons, ih absent.2, stack_push, if_neg absent.1]

/-- The value assigned to a name is visible. -/
theorem head?_stack_foldl_push {resolver : Resolver} {scope : Nat}
    {assignments : List (String × Value)} (nodup : (assignments.map (·.1)).Nodup)
    {name : String} {value : Value} (member : (name, value) ∈ assignments) :
    ((assignments.foldl (fun current assignment => current.push scope assignment) resolver).stack
      name).head?.map (·.value) = some value := by
  induction assignments generalizing resolver with
  | nil => cases member
  | cons first rest ih =>
      rw [List.map_cons, List.nodup_cons] at nodup
      rcases List.mem_cons.1 member with rfl | inRest
      · rw [List.foldl_cons, stack_foldl_push_of_notMem nodup.1, stack_push, if_pos rfl]
        rfl
      · exact ih nodup.2 inRest

theorem repeated?_eq_none {seen names : List String} (nodup : names.Nodup)
    (unseen : ∀ name ∈ names, name ∉ seen) : repeated? seen names = none := by
  induction names generalizing seen with
  | nil => rfl
  | cons first rest ih =>
      rw [List.nodup_cons] at nodup
      have isNew := unseen first List.mem_cons_self
      unfold repeated?
      rw [if_neg (by simpa using isNew)]
      apply ih nodup.2
      intro name member
      simp only [List.mem_cons, not_or]
      refine ⟨?_, unseen name (List.mem_cons_of_mem _ member)⟩
      rintro rfl
      exact nodup.1 member

theorem enter_fst_stack (resolver : Resolver) (assignments : List (String × Value))
    (probe : String) :
    (resolver.enter assignments).1.stack probe =
      (assignments.foldl (fun current assignment => current.push resolver.nextScope assignment)
        resolver).stack probe := rfl

theorem key_enter (resolver : Resolver) (assignments : List (String × Value)) (name : String) :
    (resolver.enter assignments).1.key name = resolver.key name := by
  have kept : ∀ (assignments : List (String × Value)) (scope : Nat) (resolver : Resolver),
      (assignments.foldl (fun current assignment => current.push scope assignment)
        resolver).caseSensitive = resolver.caseSensitive := by
    intro assignments scope
    induction assignments with
    | nil => exact fun _ => rfl
    | cons assignment rest ih => exact fun resolver => ih (resolver.push scope assignment)
  have same : (resolver.enter assignments).1.caseSensitive = resolver.caseSensitive :=
    kept assignments resolver.nextScope resolver
  unfold key
  rw [same]

theorem map_fst_keyed (resolver : Resolver) (own : List (String × Value)) :
    (own.map fun binding => (resolver.key binding.1, binding.2)).map (·.1) =
      (own.map (·.1)).map resolver.key := by
  simp

theorem mem_of_lookup {bindings : List (String × Value)} {name : String} {value : Value}
    (found : bindings.lookup name = some value) : (name, value) ∈ bindings := by
  obtain ⟨former, latter, rfl, _⟩ := List.lookup_eq_some_iff.1 found
  simp

/-- Entering a scope shows its bindings before those around it. -/
theorem Shows.enter (shows : resolver.Shows bindings)
    (apart : Apart ((own ++ bindings).map (·.1))) :
    (resolver.enter (own.map fun binding => (resolver.key binding.1, binding.2))).1.Shows
      (own ++ bindings) := by
  have nodup := nodup_keys_of_apart apart resolver
  rw [List.map_append, List.map_append] at nodup
  obtain ⟨nodupOwn, _, disjoint⟩ := List.nodup_append.1 nodup
  rw [← map_fst_keyed] at nodupOwn
  intro name value found
  rw [key_enter, enter_fst_stack]
  rw [List.lookup_append] at found
  cases inOwn : own.lookup name with
  | some inner =>
      rw [inOwn, Option.some_or, Option.some.injEq] at found
      subst found
      have member : (resolver.key name, inner) ∈
          own.map fun binding => (resolver.key binding.1, binding.2) :=
        List.mem_map.2 ⟨(name, inner), mem_of_lookup inOwn, rfl⟩
      exact head?_stack_foldl_push nodupOwn member
  | none =>
      rw [inOwn, Option.none_or] at found
      have member := mem_of_lookup found
      rw [stack_foldl_push_of_notMem, shows name value found]
      rw [map_fst_keyed]
      intro isOwn
      exact disjoint _ isOwn _ (List.mem_map.2 ⟨name, List.mem_map.2 ⟨_, member, rfl⟩, rfl⟩) rfl

/-- Names that differ in more than case can be declared together. -/
theorem Shows.declareAll (shows : resolver.Shows bindings)
    (apart : Apart ((own ++ bindings).map (·.1))) :
    ∃ inner guard, resolver.declareAll own = .ok (inner, guard) ∧
      inner.Shows (own ++ bindings) := by
  have entered := shows.enter apart
  have nodup := nodup_keys_of_apart apart resolver
  rw [List.map_append, List.map_append] at nodup
  have nodupOwn := (List.nodup_append.1 nodup).1
  rw [← map_fst_keyed] at nodupOwn
  have declared : resolver.declareAll own = .ok
      (resolver.enter (own.map fun binding => (resolver.key binding.1, binding.2))) := by
    have unrepeated := repeated?_eq_none nodupOwn fun name _ => (List.not_mem_nil : name ∉ [])
    unfold Resolver.declareAll
    simp only [unrepeated]
  exact ⟨_, _, declared, entered⟩

/-- One name can always be declared. -/
theorem Shows.declare (shows : resolver.Shows bindings) {name : String} {value : Value}
    (apart : Apart (name :: bindings.map (·.1))) :
    (resolver.declare name value).1.Shows ((name, value) :: bindings) := by
  have single : Apart (([(name, value)] ++ bindings).map (·.1)) := apart
  exact shows.enter single

end Resolver

/-! ## Writing -/

/-- Whether a resolver shows bindings of a scope whose texts hold no brackets. -/
structure Resolver.Provides (resolver : Resolver) (avoided : List Char) (scope : Scope)
    (bindings : List (String × Value)) : Prop where
  within : avoided ⊆ separators
  bracket : '[' ∈ avoided
  shows : resolver.Shows bindings
  fits : scope.Fits avoided bindings

namespace Resolver.Provides

variable {avoided : List Char} {scope inner : Scope} {bindings own : List (String × Value)}
variable {resolver : Resolver}

theorem of_no_bindings (within : avoided ⊆ separators) (bracket : '[' ∈ avoided)
    (resolver : Resolver) : resolver.Provides avoided [] [] :=
  ⟨within, bracket, shows_nil resolver, .nil⟩

theorem declare (provides : resolver.Provides avoided scope bindings) (name : String)
    {value : Value} (hasText : value.HasText avoided)
    (apart : Apart (name :: scope.map (·.1))) :
    (resolver.declare name value).1.Provides avoided ((name, .scalar) :: scope)
      ((name, value) :: bindings) where
  within := provides.within
  bracket := provides.bracket
  shows := provides.shows.declare (provides.fits.names_eq ▸ apart)
  fits := .cons hasText provides.fits

/-- Writing a template puts the filled template behind the text. -/
theorem write_eq (provides : resolver.Provides avoided scope bindings) {template : String}
    (closes : scope.closes template.toList = true) (buffer : OutputBuffer) :
    buffer.write resolver template = .ok (buffer.writeVerbatim (filled bindings template)) := by
  unfold OutputBuffer.write
  rw [provides.shows.resolve provides.fits provides.bracket closes]
  rfl

/-- Several names whose values fit an inner scope can be declared together. -/
theorem declareAll (provides : resolver.Provides avoided scope bindings)
    (fits : inner.Fits avoided own) (apart : Apart ((inner ++ scope).map (·.1))) :
    ∃ declared guard, resolver.declareAll own = .ok (declared, guard) ∧
      declared.Provides avoided (inner ++ scope) (own ++ bindings) := by
  have fitsAll := fits.append provides.fits
  rw [← fitsAll.names_eq] at apart
  obtain ⟨declared, guard, isDeclared, shows⟩ := provides.shows.declareAll apart
  exact ⟨declared, guard, isDeclared, provides.within, provides.bracket, shows, fitsAll⟩

/-- Writing a template inside a scope of its own puts the filled template behind the
text, too. -/
theorem writeIn_eq (provides : resolver.Provides avoided scope bindings)
    (fits : inner.Fits avoided own) (apart : Apart ((inner ++ scope).map (·.1)))
    {template : String} (closes : (inner ++ scope).closes template.toList = true)
    (buffer : OutputBuffer) :
    buffer.writeIn resolver own template =
      .ok (buffer.writeVerbatim (filled (own ++ bindings) template)) := by
  obtain ⟨declared, guard, isDeclared, providesAll⟩ := provides.declareAll fits apart
  unfold OutputBuffer.writeIn
  rw [isDeclared]
  exact providesAll.write_eq closes buffer

end Resolver.Provides

namespace OutputBuffer

theorem writeVerbatim_writeVerbatim (buffer : OutputBuffer) (former latter : String) :
    (buffer.writeVerbatim former).writeVerbatim latter =
      buffer.writeVerbatim (former ++ latter) := by
  simp [writeVerbatim, String.append_assoc]

theorem writeVerbatim_empty (buffer : OutputBuffer) : buffer.writeVerbatim "" = buffer := by
  simp [writeVerbatim]

/-- What has been written is the whole text. -/
theorem finalize_empty_writeVerbatim (text : String) :
    (empty.writeVerbatim text).finalize = removeTaggedLines text := by
  simp [writeVerbatim, finalize, empty]

/-- Writing for every member of a list puts their texts behind the text, in order. -/
theorem foldlM_eq {α : Type} {write : OutputBuffer → α → Except GenerationError OutputBuffer}
    {text : α → String} {members : List α}
    (writes : ∀ buffer, ∀ member ∈ members,
      write buffer member = .ok (buffer.writeVerbatim (text member)))
    (buffer : OutputBuffer) :
    members.foldlM write buffer =
      .ok (buffer.writeVerbatim (String.join (members.map text))) := by
  induction members generalizing buffer with
  | nil => simp [writeVerbatim]; rfl
  | cons member rest ih =>
      have writesRest := ih (fun buffer other inRest =>
        writes buffer other (List.mem_cons_of_mem _ inRest)) (buffer.writeVerbatim (text member))
      rw [List.foldlM_cons, writes buffer member List.mem_cons_self]
      rw [writeVerbatim_writeVerbatim] at writesRest
      rw [List.map_cons, String.join_cons]
      exact writesRest

end OutputBuffer

end ProjectFiles
