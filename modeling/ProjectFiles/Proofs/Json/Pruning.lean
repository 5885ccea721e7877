import ProjectFiles.Proofs.SortedMap
import ProjectFiles.Validation.FieldDiff

/-!
# Values without null fields

The fields of an object stand in the order of their names, each name once.  Two objects are
then the same when they have the same fields, whatever is found under a name.  Pruning
removes the fields that are `null` from an object and from the objects below it, so that a
field that is `null` cannot be told from one that is missing.
-/

namespace ProjectFiles.Json

/-! ## Well-formed values -/

/-- Whether the names of fields increase. -/
def Increases (fields : List (String × Json)) : Prop :=
  fields.Pairwise fun left right => compare left.1 right.1 = .lt

/-- Whether a value can be a document: the names of the fields of every object increase,
and no number is NaN. -/
inductive WellFormed : Json → Prop where
  | null : WellFormed .null
  | bool (value : Bool) : WellFormed (.bool value)
  | integer (value : Int) : WellFormed (.integer value)
  | float {value : Binary64} (isNumber : value.isNaN = false) : WellFormed (.float value)
  | text (value : String) : WellFormed (.text value)
  | array {items : List Json} (each : ∀ item ∈ items, WellFormed item) : WellFormed (.array items)
  | object {fields : List (String × Json)} (increases : Increases fields)
      (each : ∀ field ∈ fields, WellFormed field.2) : WellFormed (.object fields)

/-- Whether a value is an object. -/
def isObject : Json → Bool
  | .object _ => true
  | _ => false

/-- Whether a value is `null`. -/
def isNull : Json → Bool
  | .null => true
  | _ => false

variable {value other : Json} {fields others : List (String × Json)} {name probe : String}

theorem isNull_iff : value.isNull = true ↔ value = .null := by
  cases value <;> simp [isNull]

theorem exists_of_isObject (isObject : value.isObject = true) :
    ∃ fields, value = .object fields := by
  cases value <;> simp_all [Json.isObject]

/-! ## Fields -/

theorem ne_of_compare_lt {left right : String} (below : compare left right = .lt) :
    left ≠ right := by
  rintro rfl
  have self : compare left left = .eq := Std.ReflCmp.compare_self
  rw [self] at below
  cases below

@[simp]
theorem fieldOrNull_nil : fieldOrNull name [] = .null := rfl

theorem fieldOrNull_cons :
    fieldOrNull probe ((name, value) :: fields) =
      if probe = name then value else fieldOrNull probe fields := by
  by_cases same : probe = name
  · simp [fieldOrNull, same]
  · simp [fieldOrNull, same, Ne.symm same]

theorem fieldOrNull_of_notMem (missing : name ∉ fields.map (·.1)) :
    fieldOrNull name fields = .null := by
  induction fields with
  | nil => rfl
  | cons field rest ih =>
      obtain ⟨stored, value⟩ := field
      rw [List.map_cons, List.mem_cons, not_or] at missing
      rw [fieldOrNull_cons, if_neg missing.1, ih missing.2]

theorem fieldOrNull_mem (present : fieldOrNull name fields ≠ .null) :
    (name, fieldOrNull name fields) ∈ fields := by
  induction fields with
  | nil => exact absurd rfl present
  | cons field rest ih =>
      obtain ⟨stored, value⟩ := field
      rw [fieldOrNull_cons] at present ⊢
      split
      · rename_i same
        rw [same]
        exact List.mem_cons_self
      · rename_i differs
        rw [if_neg differs] at present
        exact List.mem_cons_of_mem _ (ih present)

theorem fieldOrNull_insertEntry :
    fieldOrNull probe (SortedMap.insertEntry name value fields) =
      if probe = name then value else fieldOrNull probe fields := by
  induction fields with
  | nil => exact fieldOrNull_cons
  | cons field rest ih =>
      obtain ⟨stored, old⟩ := field
      unfold SortedMap.insertEntry
      split
      · rw [fieldOrNull_cons]
      · rename_i equal
        obtain rfl := Std.LawfulEqOrd.eq_of_compare equal
        rw [fieldOrNull_cons, fieldOrNull_cons]
        split <;> rfl
      · rename_i above
        have differs : stored ≠ name := ne_of_compare_lt (Std.OrientedCmp.lt_of_gt above)
        rw [fieldOrNull_cons, fieldOrNull_cons, ih]
        by_cases isStored : probe = stored
        · rw [if_pos isStored, if_pos isStored, if_neg (isStored ▸ differs)]
        · rw [if_neg isStored, if_neg isStored]

theorem Increases.insertEntry (increases : Increases fields) (name : String) (value : Json) :
    Increases (SortedMap.insertEntry name value fields) :=
  SortedMap.increasing_insertEntry name value increases

theorem Increases.of_cons {field : String × Json} (increases : Increases (field :: fields)) :
    Increases fields :=
  (List.pairwise_cons.1 increases).2

/-- A name below the first one is none of the names. -/
theorem Increases.notMem_of_lt {field : String × Json}
    (increases : Increases (field :: fields)) (below : compare name field.1 = .lt) :
    name ∉ (field :: fields).map (·.1) := by
  intro listed
  obtain ⟨found, isFound, same⟩ := List.mem_map.1 listed
  refine ne_of_compare_lt ?_ same.symm
  rcases List.mem_cons.1 isFound with rfl | inRest
  · exact below
  · exact Std.TransCmp.lt_trans below ((List.pairwise_cons.1 increases).1 found inRest)

theorem Increases.head_notMem {field : String × Json}
    (increases : Increases (field :: fields)) : field.1 ∉ fields.map (·.1) := by
  intro listed
  obtain ⟨found, isFound, same⟩ := List.mem_map.1 listed
  exact ne_of_compare_lt ((List.pairwise_cons.1 increases).1 found isFound) same.symm

theorem WellFormed.fieldOrNull (each : ∀ field ∈ fields, WellFormed field.2) (name : String) :
    WellFormed (fieldOrNull name fields) := by
  by_cases missing : Json.fieldOrNull name fields = .null
  · rw [missing]
    exact .null
  · exact each _ (fieldOrNull_mem missing)

/-! ## Equality -/

theorem same_null_right : value.same .null = true ↔ value = .null := by
  cases value <;> simp [same]

theorem same_null_left : Json.same .null value = true ↔ value = .null := by
  cases value <;> simp [same]

theorem same_eq_false_of_isObject (differ : value.isObject ≠ other.isObject) :
    value.same other = false := by
  cases value <;> cases other <;> simp_all [isObject, same]

theorem sameItems_self {items : List Json} (each : ∀ item ∈ items, item.same item = true) :
    sameItems items items = true := by
  induction items with
  | nil => rfl
  | cons item rest ih =>
      rw [List.forall_mem_cons] at each
      rw [sameItems, each.1, ih each.2]
      rfl

theorem sameFields_self (each : ∀ field ∈ fields, field.2.same field.2 = true) :
    sameFields fields fields = true := by
  induction fields with
  | nil => rfl
  | cons field rest ih =>
      rw [List.forall_mem_cons] at each
      rw [sameFields, each.1, ih each.2, beq_self_eq_true]
      rfl

/-- A well-formed value is the same as itself. -/
theorem WellFormed.same_self (wellFormed : WellFormed value) : value.same value = true := by
  induction wellFormed with
  | null => rfl
  | bool | integer | text => simp [same]
  | float isNumber => simp [same, Binary64.equal, isNumber]
  | array _ ih => exact sameItems_self ih
  | object _ _ ih => exact sameFields_self ih

theorem sameItems_comm {items : List Json}
    (each : ∀ item ∈ items, ∀ other, item.same other = other.same item) (others : List Json) :
    sameItems items others = sameItems others items := by
  induction items generalizing others with
  | nil => cases others <;> simp [sameItems]
  | cons item rest ih =>
      rw [List.forall_mem_cons] at each
      cases others with
      | nil => simp [sameItems]
      | cons other rest => rw [sameItems, sameItems, each.1, ih each.2]

theorem sameFields_comm (each : ∀ field ∈ fields, ∀ other, field.2.same other = other.same field.2)
    (others : List (String × Json)) : sameFields fields others = sameFields others fields := by
  induction fields generalizing others with
  | nil => cases others <;> simp [sameFields]
  | cons field rest ih =>
      rw [List.forall_mem_cons] at each
      cases others with
      | nil => simp [sameFields]
      | cons other rest => rw [sameFields, sameFields, each.1, ih each.2, Bool.beq_comm]

theorem equal_comm (x y : Binary64) : x.equal y = y.equal x := by
  unfold Binary64.equal
  rw [Bool.and_comm (!x.isNaN), Bool.and_comm x.isZero, Bool.beq_comm]

theorem WellFormed.same_comm (wellFormed : WellFormed value) (other : Json) :
    value.same other = other.same value := by
  induction wellFormed generalizing other with
  | null => cases other <;> simp [same]
  | bool | integer | text => cases other <;> simp [same, Bool.beq_comm]
  | float =>
      cases other with
      | float number => exact equal_comm _ number
      | _ => simp [same]
  | array _ ih =>
      cases other with
      | array others => exact sameItems_comm ih others
      | _ => simp [same]
  | object _ _ ih =>
      cases other with
      | object others => exact sameFields_comm ih others
      | _ => simp [same]

/-- A field that is not `null` and that another object lacks tells the two apart. -/
theorem not_forall_same_of_notMem_right (present : value ≠ .null)
    (missing : name ∉ others.map (·.1)) :
    ¬ ∀ probe, (fieldOrNull probe ((name, value) :: fields)).same (fieldOrNull probe others) =
      true := by
  intro alike
  have found := alike name
  rw [fieldOrNull_cons, if_pos rfl, fieldOrNull_of_notMem missing, same_null_right] at found
  exact present found

theorem not_forall_same_of_notMem_left (present : value ≠ .null)
    (missing : name ∉ fields.map (·.1)) :
    ¬ ∀ probe, (fieldOrNull probe fields).same (fieldOrNull probe ((name, value) :: others)) =
      true := by
  intro alike
  have found := alike name
  rw [fieldOrNull_cons, if_pos rfl, fieldOrNull_of_notMem missing, same_null_left] at found
  exact present found

/-- Objects whose first fields have one name are alike when the values of these fields are and
what is found behind them is. -/
theorem forall_same_cons_iff (increases : Increases ((name, value) :: fields))
    (othersIncrease : Increases ((name, other) :: others)) :
    (∀ probe, (fieldOrNull probe ((name, value) :: fields)).same
        (fieldOrNull probe ((name, other) :: others)) = true) ↔
      value.same other = true ∧
        ∀ probe, (fieldOrNull probe fields).same (fieldOrNull probe others) = true := by
  simp only [fieldOrNull_cons]
  constructor
  · intro alike
    refine ⟨by simpa using alike name, fun probe => ?_⟩
    by_cases isName : probe = name
    · rw [isName, fieldOrNull_of_notMem increases.head_notMem,
        fieldOrNull_of_notMem othersIncrease.head_notMem]
      rfl
    · simpa [isName] using alike probe
  · rintro ⟨sameValue, alike⟩ probe
    split
    · exact sameValue
    · exact alike probe

/-- Objects without null fields are the same when what is found under every name is. -/
theorem sameFields_iff (increases : Increases fields) (othersIncrease : Increases others)
    (present : ∀ field ∈ fields, field.2 ≠ .null)
    (othersPresent : ∀ field ∈ others, field.2 ≠ .null) :
    sameFields fields others = true ↔
      ∀ name, (fieldOrNull name fields).same (fieldOrNull name others) = true := by
  -- both lists are walked at once; of two first names the lesser one is missing on the other side
  induction fields generalizing others with
  | nil =>
      cases others with
      | nil => simp [sameFields, same]
      | cons other rest =>
          refine iff_of_false (by simp [sameFields]) ?_
          exact not_forall_same_of_notMem_left (othersPresent _ List.mem_cons_self) List.not_mem_nil
  | cons field rest ih =>
      obtain ⟨name, value⟩ := field
      obtain ⟨isPresent, restPresent⟩ := List.forall_mem_cons.1 present
      cases others with
      | nil =>
          refine iff_of_false (by simp [sameFields]) ?_
          exact not_forall_same_of_notMem_right isPresent List.not_mem_nil
      | cons other restOthers =>
          obtain ⟨otherName, otherValue⟩ := other
          obtain ⟨otherPresent, restOthersPresent⟩ := List.forall_mem_cons.1 othersPresent
          rw [sameFields]
          cases order : compare name otherName with
          | lt =>
              refine iff_of_false (by simp [ne_of_compare_lt order]) ?_
              exact not_forall_same_of_notMem_right isPresent (othersIncrease.notMem_of_lt order)
          | gt =>
              have below := Std.OrientedCmp.lt_of_gt order
              refine iff_of_false (by simp [(ne_of_compare_lt below).symm]) ?_
              exact not_forall_same_of_notMem_left otherPresent (increases.notMem_of_lt below)
          | eq =>
              obtain rfl := Std.LawfulEqOrd.eq_of_compare order
              rw [beq_self_eq_true, Bool.true_and, Bool.and_eq_true,
                ih increases.of_cons othersIncrease.of_cons restPresent restOthersPresent]
              exact (forall_same_cons_iff increases othersIncrease).symm

/-! ## Pruning -/

/-- Remove the fields that are `null` from a value that is an object, and from all objects
that only objects lead to. -/
def pruned : Json → Json
  | .object fields => .object (prunedFields fields)
  | other => other
where
  /-- Prune the values of fields, and remove those that are `null`. -/
  prunedFields : List (String × Json) → List (String × Json)
    | [] => []
    | (name, value) :: rest =>
        if value.isNull then prunedFields rest else (name, pruned value) :: prunedFields rest

theorem pruned_eq_null_iff : value.pruned = .null ↔ value = .null := by
  cases value <;> simp [pruned]

theorem pruned_of_not_isObject (notObject : value.isObject = false) : value.pruned = value := by
  cases value <;> simp_all [pruned, isObject]

theorem isObject_pruned (value : Json) : value.pruned.isObject = value.isObject := by
  cases value <;> rfl

/-- What pruning leaves are pruned values of fields that are not `null`. -/
theorem mem_prunedFields {field : String × Json} (isMember : field ∈ pruned.prunedFields fields) :
    ∃ value, (field.1, value) ∈ fields ∧ value ≠ .null ∧ field.2 = value.pruned := by
  induction fields with
  | nil => cases isMember
  | cons first rest ih =>
      obtain ⟨name, value⟩ := first
      have inRest : field ∈ pruned.prunedFields rest →
          ∃ stored, (field.1, stored) ∈ (name, value) :: rest ∧ stored ≠ .null ∧
            field.2 = stored.pruned := by
        intro isMember
        obtain ⟨stored, isStored, present⟩ := ih isMember
        exact ⟨stored, List.mem_cons_of_mem _ isStored, present⟩
      unfold pruned.prunedFields at isMember
      split at isMember
      · exact inRest isMember
      · rename_i isPresent
        rcases List.mem_cons.1 isMember with rfl | isOther
        · exact ⟨value, List.mem_cons_self, mt isNull_iff.2 isPresent, rfl⟩
        · exact inRest isOther

theorem ne_null_of_mem_prunedFields {field : String × Json}
    (isMember : field ∈ pruned.prunedFields fields) : field.2 ≠ .null := by
  obtain ⟨value, _, present, isPruned⟩ := mem_prunedFields isMember
  rw [isPruned]
  exact mt pruned_eq_null_iff.1 present

theorem Increases.prunedFields (increases : Increases fields) :
    Increases (pruned.prunedFields fields) := by
  induction fields with
  | nil => exact .nil
  | cons field rest ih =>
      obtain ⟨name, value⟩ := field
      unfold pruned.prunedFields
      split
      · exact ih increases.of_cons
      · refine List.pairwise_cons.2 ⟨fun found isFound => ?_, ih increases.of_cons⟩
        obtain ⟨stored, isStored, _⟩ := mem_prunedFields isFound
        exact (List.pairwise_cons.1 increases).1 (found.1, stored) isStored

theorem WellFormed.pruned (wellFormed : WellFormed value) : WellFormed value.pruned := by
  induction wellFormed with
  | null => exact .null
  | bool value => exact .bool value
  | integer value => exact .integer value
  | float isNumber => exact .float isNumber
  | text value => exact .text value
  | array each _ => exact .array each
  | object increases _ ih =>
      refine .object increases.prunedFields fun field isMember => ?_
      obtain ⟨value, isField, _, isPruned⟩ := mem_prunedFields isMember
      rw [isPruned]
      exact ih _ isField

/-- What is found under a name is pruned, whether or not it is `null`. -/
theorem fieldOrNull_prunedFields (increases : Increases fields) :
    fieldOrNull name (pruned.prunedFields fields) = (fieldOrNull name fields).pruned := by
  induction fields with
  | nil => rfl
  | cons field rest ih =>
      obtain ⟨stored, value⟩ := field
      unfold pruned.prunedFields
      by_cases isName : name = stored
      · subst isName
        rw [fieldOrNull_cons, if_pos rfl]
        split
        · rename_i isNull
          rw [ih increases.of_cons, fieldOrNull_of_notMem increases.head_notMem,
            isNull_iff.1 isNull]
        · rw [fieldOrNull_cons, if_pos rfl]
      · rw [fieldOrNull_cons, if_neg isName, ← ih increases.of_cons]
        split
        · rfl
        · rw [fieldOrNull_cons, if_neg isName]

/-- Objects are the same but for null fields when what is found under every name is. -/
theorem same_pruned_object_iff (increases : Increases fields) (othersIncrease : Increases others) :
    (Json.object fields).pruned.same (Json.object others).pruned = true ↔
      ∀ name, (fieldOrNull name fields).pruned.same (fieldOrNull name others).pruned = true := by
  rw [pruned, pruned, same, sameFields_iff increases.prunedFields othersIncrease.prunedFields
    (fun _ => ne_null_of_mem_prunedFields) (fun _ => ne_null_of_mem_prunedFields)]
  simp only [fieldOrNull_prunedFields increases, fieldOrNull_prunedFields othersIncrease]

/-- Pruning matters only between objects. -/
theorem same_pruned_of_not_isObject (notBoth : (value.isObject && other.isObject) = false) :
    value.pruned.same other.pruned = value.same other := by
  by_cases alike : value.isObject = other.isObject
  · rw [← alike, Bool.and_self] at notBoth
    rw [pruned_of_not_isObject notBoth, pruned_of_not_isObject (alike ▸ notBoth)]
  · rw [same_eq_false_of_isObject alike, same_eq_false_of_isObject]
    rwa [isObject_pruned, isObject_pruned]

/-! ## Plain values -/

/-- Whether a value has neither a number nor `null` in it. -/
inductive IsPlain : Json → Prop where
  | bool (value : Bool) : IsPlain (.bool value)
  | text (value : String) : IsPlain (.text value)
  | array {items : List Json} (each : ∀ item ∈ items, IsPlain item) : IsPlain (.array items)
  | object {fields : List (String × Json)} (increases : Increases fields)
      (each : ∀ field ∈ fields, IsPlain field.2) : IsPlain (.object fields)

theorem eq_of_sameItems {items others : List Json}
    (each : ∀ item ∈ items, ∀ other, item.same other = true → item = other)
    (same : sameItems items others = true) : items = others := by
  induction items generalizing others with
  | nil => cases others <;> simp_all [sameItems]
  | cons item rest ih =>
      rw [List.forall_mem_cons] at each
      cases others with
      | nil => simp [sameItems] at same
      | cons other rest =>
          rw [sameItems, Bool.and_eq_true] at same
          rw [each.1 other same.1, ih each.2 same.2]

theorem eq_of_sameFields
    (each : ∀ field ∈ fields, ∀ other, field.2.same other = true → field.2 = other)
    (same : sameFields fields others = true) : fields = others := by
  induction fields generalizing others with
  | nil => cases others <;> simp_all [sameFields]
  | cons field rest ih =>
      rw [List.forall_mem_cons] at each
      cases others with
      | nil => simp [sameFields] at same
      | cons other rest =>
          rw [sameFields, Bool.and_eq_true, Bool.and_eq_true, beq_iff_eq] at same
          rw [Prod.ext same.1.1 (each.1 other.2 same.1.2), ih each.2 same.2]

theorem prunedFields_eq
    (each : ∀ field ∈ fields, field.2.isNull = false ∧ field.2.pruned = field.2) :
    pruned.prunedFields fields = fields := by
  induction fields with
  | nil => rfl
  | cons field rest ih =>
      rw [List.forall_mem_cons] at each
      unfold pruned.prunedFields
      rw [each.1.1, each.1.2, ih each.2]
      rfl

namespace IsPlain

theorem wellFormed (plain : IsPlain value) : value.WellFormed := by
  induction plain with
  | bool value => exact .bool value
  | text value => exact .text value
  | array _ ih => exact .array ih
  | object increases _ ih => exact .object increases ih

theorem isNull_eq_false (plain : IsPlain value) : value.isNull = false := by
  cases plain <;> rfl

/-- There is nothing to prune from a plain value. -/
theorem pruned_eq (plain : IsPlain value) : value.pruned = value := by
  induction plain with
  | bool | text | array => rfl
  | object _ each ih =>
      exact congrArg Json.object <| prunedFields_eq fun field isField =>
        ⟨(each field isField).isNull_eq_false, ih field isField⟩

/-- Plain values that are the same are equal. -/
theorem eq_of_same (plain : IsPlain value) (same : value.same other = true) : value = other := by
  induction plain generalizing other with
  | bool | text => cases other <;> simp_all [Json.same]
  | array _ ih =>
      cases other with
      | array others =>
          exact congrArg Json.array (eq_of_sameItems (fun item isItem other => ih item isItem) same)
      | _ => simp [Json.same] at same
  | object _ _ ih =>
      cases other with
      | object others =>
          exact congrArg Json.object
            (eq_of_sameFields (fun field isField other => ih field isField) same)
      | _ => simp [Json.same] at same

end IsPlain

end ProjectFiles.Json
