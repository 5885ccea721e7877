import ProjectFiles.Proofs.SortedMap
import ProjectFiles.Proofs.Template.Parts
import ProjectFiles.Proofs.Template.Passes

/-!
# Omitted values in templates

The text of an omitted value is a marker, and it stays in every text that the value gets
into: through lists, through texts that refer to it and to the end of all passes.  Where
no omitted value is met, on the other hand, it makes no difference whether omitted values
have the marker for their text or a blank.
-/

namespace ProjectFiles

open Template Text

namespace Value

/-! ## Values -/

mutual

/-- Whether a value has the text of an omitted value in its own. -/
def holdsOmit : Value → Bool
  | .omit => true
  | .list items => holdsOmitItems items
  | .text _ | .integer _ | .float _ | .bool _ | .object _ => false

/-- Whether a list item does. -/
def holdsOmitItems : List Value → Bool
  | [] => false
  | item :: rest => item.holdsOmit || holdsOmitItems rest

end

mutual

/-- A value in which every omitted one is a blank. -/
def blanked : Value → Value
  | .omit => .text " "
  | .list items => .list (blankedItems items)
  | .object fields => .object (blankedFields fields)
  | .text value => .text value
  | .integer value => .integer value
  | .float value => .float value
  | .bool value => .bool value

/-- List items in which every omitted value is a blank. -/
def blankedItems : List Value → List Value
  | [] => []
  | item :: rest => item.blanked :: blankedItems rest

/-- Fields in which every omitted value is a blank. -/
def blankedFields : List (String × Value) → List (String × Value)
  | [] => []
  | (name, value) :: rest => (name, value.blanked) :: blankedFields rest

end

mutual

/-- A value without an omitted one keeps its text. -/
theorem scalarText?_blanked : ∀ {value : Value}, value.holdsOmit = false →
    value.blanked.scalarText? = value.scalarText?
  | .omit, holds => by cases holds
  | .list items, holds => by
      rw [blanked, scalarText?, scalarText?, itemTexts?_blankedItems holds]
  | .text _, _ | .integer _, _ | .float _, _ | .bool _, _ | .object _, _ => rfl

/-- So do list items. -/
theorem itemTexts?_blankedItems : ∀ {items : List Value}, holdsOmitItems items = false →
    itemTexts? (blankedItems items) = itemTexts? items
  | [], _ => rfl
  | item :: rest, holds => by
      rw [holdsOmitItems, Bool.or_eq_false_iff] at holds
      rw [blankedItems, itemTexts?, itemTexts?, scalarText?_blanked holds.1,
        itemTexts?_blankedItems holds.2]

end

theorem find?_blankedFields (fields : List (String × Value)) (name : String) :
    ((blankedFields fields).find? fun field => field.1 == name).map (·.2) =
      ((fields.find? fun field => field.1 == name).map (·.2)).map blanked := by
  induction fields with
  | nil => rfl
  | cons field rest ih =>
      rw [blankedFields, List.find?_cons, List.find?_cons]
      cases field.1 == name with
      | true => rfl
      | false => exact ih

/-- A path leads to the same value, with blanks in it. -/
theorem lookup?_blanked (path : List String) (value : Value) :
    value.blanked.lookup? path = (value.lookup? path).map blanked := by
  induction path generalizing value with
  | nil => rfl
  | cons name rest ih =>
      cases value with
      | object fields =>
          rw [blanked, lookup?, lookup?, find?_blankedFields]
          cases (fields.find? fun field => field.1 == name).map (·.2) with
          | none => rfl
          | some field => exact ih field
      | _ => rfl

/-- Whether the marker stands between two closed texts. -/
def IsTagged (text : List Char) : Prop :=
  ∃ former latter, text = former ++ (omitTag.toList ++ latter) ∧ Template.IsClosed former ∧
    Template.IsClosed latter

theorem IsTagged.append_left {former latter : List Char} (tagged : IsTagged former)
    (closed : Template.IsClosed latter) : IsTagged (former ++ latter) := by
  obtain ⟨before, behind, rfl, closedBefore, closedBehind⟩ := tagged
  exact ⟨before, behind ++ latter, by simp, closedBefore, closedBehind.append closed⟩

theorem IsTagged.append_right {former latter : List Char} (closed : Template.IsClosed former)
    (tagged : IsTagged latter) : IsTagged (former ++ latter) := by
  obtain ⟨before, behind, rfl, closedBefore, closedBehind⟩ := tagged
  exact ⟨former ++ before, behind, by simp, closed.append closedBefore, closedBehind⟩

/-- The marker of one text is in the texts put together. -/
theorem isTagged_intercalate {texts : List String}
    (closed : ∀ text ∈ texts, Template.IsClosed text.toList)
    (tagged : ∃ text ∈ texts, IsTagged text.toList) : IsTagged (";".intercalate texts).toList := by
  induction texts with
  | nil =>
      obtain ⟨_, member, _⟩ := tagged
      cases member
  | cons first rest ih =>
      obtain ⟨closedFirst, closedRest⟩ := List.forall_mem_cons.1 closed
      cases rest with
      | nil =>
          rw [String.intercalate_singleton]
          obtain ⟨text, member, isTagged⟩ := tagged
          rwa [List.mem_singleton.1 member] at isTagged
      | cons second others =>
          have semicolon : Template.IsClosed ";".toList := isClosed_of_bracketless (by decide)
          rw [String.intercalate_cons_of_ne_nil (by simp), String.toList_append,
            String.toList_append]
          obtain ⟨text, member, isTagged⟩ := tagged
          rcases List.mem_cons.1 member with rfl | inRest
          · exact (isTagged.append_left semicolon).append_left (isClosed_intercalate closedRest)
          · exact .append_right (closedFirst.append semicolon)
              (ih closedRest ⟨text, inRest, isTagged⟩)

mutual

/-- A value with an omitted one has a tagged text. -/
theorem isTagged_scalarText? : ∀ {value : Value} {rendered : String}, value.IsClosed →
    value.holdsOmit = true → value.scalarText? = some rendered → IsTagged rendered.toList
  | .omit, _, _, _, isText => by
      cases isText
      exact ⟨[], [], by simp, .nil, .nil⟩
  | .list items, _, closed, holds, isText => by
      obtain ⟨parts, areParts, rfl⟩ := Option.map_eq_some_iff.1 isText
      exact isTagged_intercalate (isClosed_itemTexts? closed areParts)
        (exists_isTagged closed holds areParts)
  | .text _, _, _, holds, _ | .integer _, _, _, holds, _ | .float _, _, _, holds, _
  | .bool _, _, _, holds, _ | .object _, _, _, holds, _ => by cases holds

/-- Among list items with an omitted value one has a tagged text. -/
theorem exists_isTagged : ∀ {items : List Value} {parts : List String},
    (∀ text ∈ textsOfItems items, Template.IsClosed text.toList) →
    holdsOmitItems items = true → itemTexts? items = some parts →
    ∃ part ∈ parts, IsTagged part.toList
  | [], _, _, holds, _ => by cases holds
  | item :: rest, _, closed, holds, areParts => by
      rw [itemTexts?] at areParts
      split at areParts
      · rename_i first others isFirst areOthers
        cases areParts
        rw [textsOfItems] at closed
        rw [holdsOmitItems, Bool.or_eq_true] at holds
        rcases holds with inFirst | inRest
        · have tagged := isTagged_scalarText?
            (fun text within => closed text (List.mem_append_left _ within)) inFirst isFirst
          exact ⟨first, List.mem_cons_self, tagged⟩
        · obtain ⟨part, member, tagged⟩ := exists_isTagged
            (fun text within => closed text (List.mem_append_right _ within)) inRest areOthers
          exact ⟨part, List.mem_cons_of_mem _ member, tagged⟩
      · cases areParts

end

end Value

namespace Resolver

variable {resolver other : Resolver} {template : String}

/-! ## Placeholders -/

/-- The resolver to which every omitted value is a blank. -/
def blankOmits (resolver : Resolver) : Resolver :=
  { resolver with
    bindings := resolver.bindings.mapValues fun stack =>
      stack.map fun binding => { binding with value := binding.value.blanked } }

theorem lookup?_blankOmits (resolver : Resolver) (path : String) :
    resolver.blankOmits.lookup? path = (resolver.lookup? path).map Value.blanked := by
  have stack (key : String) : resolver.blankOmits.stack key =
      (resolver.stack key).map fun binding => { binding with value := binding.value.blanked } := by
    unfold Resolver.stack blankOmits
    rw [SortedMap.get?_mapValues]
    cases resolver.bindings.get? key <;> rfl
  unfold lookup?
  cases pathSegments path with
  | nil => rfl
  | cons root fields =>
      have key : resolver.blankOmits.key root = resolver.key root := rfl
      dsimp only
      rw [stack, key, List.head?_map]
      cases (resolver.stack (resolver.key root)).head? with
      | none => rfl
      | some binding => exact Value.lookup?_blanked fields binding.value

/-- Whether some placeholder of a tree stands for an omitted value, or for a list that has
one in it. -/
def Omits (resolver : Resolver) (tokens : List Token) : Prop :=
  ∃ path, resolver.Meets tokens path ∧
    ∃ value, resolver.lookup? path = some value ∧ value.holdsOmit = true

/-- What stands for no omitted value stands for the same text beside blanks. -/
theorem rendering?_blankOmits {path : String}
    (holdsNone : ∀ value, resolver.lookup? path = some value → value.holdsOmit = false) :
    resolver.blankOmits.rendering? path = resolver.rendering? path := by
  unfold rendering?
  rw [lookup?_blankOmits]
  cases found : resolver.lookup? path with
  | none => rfl
  | some value => exact Value.scalarText?_blanked (holdsNone value found)

/-! ## Trees -/

/-- An expansion with an omitted value has the marker. -/
theorem Yields.infix_of_omits (bound : resolver.BindsClosed) {tokens : List Token}
    {text : List Char} (yields : resolver.Yields tokens text) (omits : resolver.Omits tokens) :
    Value.omitTag.toList <:+: text := by
  obtain ⟨path, meets, value, found, holds⟩ := omits
  obtain ⟨rendered, isText⟩ := Option.isSome_iff_exists.1 (yields.renders path meets)
  obtain ⟨inner, expands, within⟩ := yields.expands.exists_infix meets
  have isRendered : value.scalarText? = some rendered := by
    rw [rendering?, found] at isText
    exact isText
  obtain ⟨former, latter, spelled, closedFormer, closedLatter⟩ :=
    Value.isTagged_scalarText? (bound.lookup? found) holds isRendered
  have readsTag : Reads Value.omitTag.toList (Value.omitTag.toList.map .plain) :=
    reads_map_plain (by decide)
  rw [expansion_of_rendering? isText, spelled, closedFormer.tokens_append,
    readsTag.tokens_append] at expands
  obtain ⟨before, rest, rfl, _, expandsRest⟩ := expands.split
  obtain ⟨tag, behind, rfl, expandsTag, _⟩ := expandsRest.split
  have isTag : tag = Value.omitTag.toList :=
    expandsTag.unique (expands_of_unplaced (by decide))
  rw [isTag] at within
  exact List.IsInfix.trans ⟨before, behind, List.append_assoc ..⟩ within

/-- Passes that meet the same texts come to the same. -/
theorem resolvePasses_congr (bound : resolver.BindsClosed) {tokens : List Token}
    {text : List Char} (reads : Reads text tokens)
    (same : ∀ path, resolver.Meets tokens path → ∃ text, resolver.rendering? path = some text ∧
      other.rendering? path = some text) (passes : Nat) (escaped : Bool) :
    other.resolvePasses template none passes escaped text =
      resolver.resolvePasses template none passes escaped text := by
  induction passes generalizing tokens text escaped with
  | zero => rfl
  | succ passes ih =>
      refine resolvePasses_succ_congr (fun path member => ?_) fun escaped => ?_
      · rw [reads.tokens_eq] at member
        exact same path ⟨0, member⟩
      · rw [replaced, reads.tokens_eq]
        refine ih (reads_expandOnce bound reads) (fun path meets => ?_) _
        obtain ⟨depth, member⟩ := meets
        rw [level_expandOnce] at member
        exact same path ⟨depth + 1, member⟩

/-- Where no omitted value is met, blanks make no difference. -/
theorem Yields.resolve_blankOmits (bound : resolver.BindsClosed) {tokens : List Token}
    (reads : Reads template.toList tokens) {result : String}
    (yields : resolver.Yields tokens result.toList) (omits : ¬ resolver.Omits tokens) :
    resolver.blankOmits.resolve template = .ok result := by
  rw [← (resolve_eq_ok_iff bound reads).2 yields]
  refine resolvePasses_congr bound reads (fun path meets => ?_) _ _
  obtain ⟨text, isText⟩ := Option.isSome_iff_exists.1 (yields.renders path meets)
  refine ⟨text, isText, ?_⟩
  rw [rendering?_blankOmits, isText]
  intro value found
  rw [Bool.eq_false_iff]
  exact fun holds => omits ⟨path, meets, value, found, holds⟩

end Resolver

end ProjectFiles
