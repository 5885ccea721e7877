import Mathlib.Data.List.Nodup
import ProjectFiles.Proofs.Json.Pruning
import ProjectFiles.Proofs.Sorting
import ProjectFiles.Validation.Configurations

/-!
# Differences of values, field by field

A site is a sequence of names that leads from a value through objects to another.  Two
values differ at a site when only objects lead to it in both and what stands there is
different.  Every site gets one difference; replacing what stands at all of them turns one
value into the other, but for fields that are `null`.
-/

namespace ProjectFiles

/-- A difference as it is seen from the other value. -/
def FieldDifference.swapped (difference : FieldDifference) : FieldDifference :=
  ⟨difference.path, difference.right, difference.left⟩

namespace Json

variable {left right : Json} {fields others : List (String × Json)} {name probe : String}
variable {sites : List (List String)} {sitesOf : String → List (List String)}

/-! ## Sites -/

/-- The value of a name in a value; `null` where there is none. -/
def child (name : String) (value : Json) : Json :=
  (value.field? name).getD .null

/-- The value that a site leads to; `null` where there is none. -/
def valueAt : List String → Json → Json
  | [], value => value
  | name :: rest, value => valueAt rest (child name value)

/-- Put a value at a site that objects lead to. -/
def replaceAt : List String → Json → Json → Json
  | [], new, _ => new
  | name :: rest, new, .object fields =>
      .object (SortedMap.insertEntry name (replaceAt rest new (fieldOrNull name fields)) fields)
  | _ :: _, _, other => other

/-- A value in which everything at some sites comes from another value. -/
def patched (value source : Json) (sites : List (List String)) : Json :=
  sites.foldl (fun value site => replaceAt site (valueAt site source) value) value

/-- Whether values differ at a site: only objects lead there, what stands there is
different, and not both are objects. -/
structure DiffersAt (left right : Json) (site : List String) : Prop where
  differ : (valueAt site left).same (valueAt site right) = false
  notBoth : ((valueAt site left).isObject && (valueAt site right).isObject) = false
  above : ∀ front name back, site = front ++ name :: back →
    (valueAt front left).isObject = true ∧ (valueAt front right).isObject = true

/-- The difference of values at a site below a path. -/
def differenceAt (path : String) (left right : Json) (site : List String) : FieldDifference :=
  ⟨site.foldl childPath path, (valueAt site left).compact, (valueAt site right).compact⟩

theorem child_object : child name (.object fields) = fieldOrNull name fields := rfl

theorem differsAt_nil_iff : DiffersAt left right [] ↔
    left.same right = false ∧ (left.isObject && right.isObject) = false := by
  constructor
  · intro differs
    exact ⟨differs.differ, differs.notBoth⟩
  · rintro ⟨differ, notBoth⟩
    exact ⟨differ, notBoth, by simp⟩

theorem differsAt_cons_iff {site : List String} : DiffersAt left right (name :: site) ↔
    left.isObject = true ∧ right.isObject = true ∧
      DiffersAt (child name left) (child name right) site := by
  constructor
  · intro differs
    obtain ⟨isLeft, isRight⟩ := differs.above [] name site rfl
    refine ⟨isLeft, isRight, differs.differ, differs.notBoth, ?_⟩
    rintro front other back rfl
    exact differs.above (name :: front) other back rfl
  · rintro ⟨isLeft, isRight, differs⟩
    refine ⟨differs.differ, differs.notBoth, fun front other back spelled => ?_⟩
    cases front with
    | nil => exact ⟨isLeft, isRight⟩
    | cons first front =>
        obtain ⟨rfl, rest⟩ := List.cons.inj spelled
        exact differs.above front other back rest

theorem not_differsAt_null (site : List String) : ¬ DiffersAt .null .null site := by
  cases site with
  | nil => exact fun differs => nomatch (differsAt_nil_iff.1 differs).1
  | cons name site => exact fun differs => nomatch (differsAt_cons_iff.1 differs).1

/-! ## Names -/

theorem mem_unionNames_iff : name ∈ unionNames fields others ↔
    name ∈ fields.map (·.1) ∨ name ∈ others.map (·.1) := by
  rw [unionNames, SortedSet.mem_keys_ofList, List.mem_append]

theorem increasing_unionNames (fields others : List (String × Json)) :
    (unionNames fields others).Pairwise fun left right => compare left right = .lt :=
  List.pairwise_map.2 (SortedMap.increasing _)

theorem nodup_unionNames (fields others : List (String × Json)) :
    (unionNames fields others).Nodup :=
  Sorting.nodup_of_increasing (increasing_unionNames fields others)

theorem unionNames_comm (fields others : List (String × Json)) :
    unionNames fields others = unionNames others fields := by
  refine Sorting.eq_of_increasing (increasing_unionNames _ _) (increasing_unionNames _ _) ?_
  intro name
  rw [mem_unionNames_iff, mem_unionNames_iff, or_comm]

/-- A name of neither object stands for `null` in both. -/
theorem fieldOrNull_of_notMem_unionNames (unnamed : name ∉ unionNames fields others) :
    fieldOrNull name fields = .null ∧ fieldOrNull name others = .null := by
  rw [mem_unionNames_iff, not_or] at unnamed
  exact ⟨fieldOrNull_of_notMem unnamed.1, fieldOrNull_of_notMem unnamed.2⟩

/-! ## Replacing -/

theorem patched_append {value source : Json} {latter : List (List String)} :
    patched value source (sites ++ latter) = patched (patched value source sites) source latter :=
  List.foldl_append

/-- Replacing at sites behind a name changes what stands under that name. -/
theorem exists_patched_map_cons (increases : Increases fields) (name : String) (source : Json)
    (sites : List (List String)) :
    ∃ changed, patched (.object fields) source (sites.map (name :: ·)) = .object changed ∧
      Increases changed ∧ ∀ probe, fieldOrNull probe changed =
        if probe = name then patched (fieldOrNull name fields) (child name source) sites
        else fieldOrNull probe fields := by
  induction sites generalizing fields with
  | nil =>
      refine ⟨fields, rfl, increases, fun probe => ?_⟩
      split
      · rename_i isName
        rw [isName]
        rfl
      · rfl
  | cons site rest ih =>
      obtain ⟨changed, isChanged, changedIncrease, found⟩ := ih (increases.insertEntry name
        (replaceAt site (valueAt site (child name source)) (fieldOrNull name fields)))
      refine ⟨changed, isChanged, changedIncrease, fun probe => ?_⟩
      rw [found, fieldOrNull_insertEntry, fieldOrNull_insertEntry, if_pos rfl]
      split <;> rfl

/-- Replacing at sites behind several names changes what stands under each of them. -/
theorem exists_patched_flatMap {names : List String} (increases : Increases fields)
    (nodup : names.Nodup) (source : Json) (sitesOf : String → List (List String)) :
    ∃ changed, patched (.object fields) source
        (names.flatMap fun name => (sitesOf name).map (name :: ·)) = .object changed ∧
      Increases changed ∧ ∀ probe, fieldOrNull probe changed =
        if probe ∈ names then
          patched (fieldOrNull probe fields) (child probe source) (sitesOf probe)
        else fieldOrNull probe fields := by
  induction names generalizing fields with
  | nil => exact ⟨fields, rfl, increases, fun probe => by simp⟩
  | cons name rest ih =>
      obtain ⟨isNew, restNodup⟩ := List.nodup_cons.1 nodup
      obtain ⟨first, isFirst, firstIncreases, foundFirst⟩ :=
        exists_patched_map_cons increases name source (sitesOf name)
      obtain ⟨changed, isChanged, changedIncrease, found⟩ := ih firstIncreases restNodup
      refine ⟨changed, ?_, changedIncrease, fun probe => ?_⟩
      · rw [List.flatMap_cons, patched_append, isFirst, isChanged]
      · rw [found, foundFirst]
        by_cases isName : probe = name
        · subst isName
          simp [isNew]
        · simp [isName]

/-! ## Differences at sites -/

/-- Whether sites are all those at which values differ, with what follows for the
differences of the values and for replacing what stands at the sites. -/
structure Locates (left right : Json) (sites : List (List String)) : Prop where
  nodup : sites.Nodup
  mem_iff : ∀ site, site ∈ sites ↔ DiffersAt left right site
  nil_iff : sites = [] ↔ left.pruned.same right.pruned = true
  diffWithin_eq : ∀ depth path, left.objectDepth ≤ depth ∨ right.objectDepth ≤ depth →
    diffWithin depth path left right = sites.map (differenceAt path left right)
  alike : (patched left right sites).pruned.same right.pruned = true

theorem diffWithin_of_not_objects (notBoth : (left.isObject && right.isObject) = false)
    (depth : Nat) (path : String) :
    diffWithin depth path left right =
      if left.same right then [] else [⟨path, left.compact, right.compact⟩] := by
  unfold diffWithin
  split
  · simp [isObject] at notBoth
  · rfl

/-- Values of which one is no object differ as a whole. -/
theorem Locates.of_not_objects (notBoth : (left.isObject && right.isObject) = false)
    (isRight : right.WellFormed) :
    Locates left right (if left.same right then [] else [[]]) := by
  have onlyHere : ∀ site, DiffersAt left right site → site = [] := by
    intro site differs
    cases site with
    | nil => rfl
    | cons name site =>
        obtain ⟨isLeft, isRight, _⟩ := differsAt_cons_iff.1 differs
        simp [isLeft, isRight] at notBoth
  have prunedAlike := same_pruned_of_not_isObject notBoth
  have differs := diffWithin_of_not_objects notBoth
  split
  · rename_i same
    refine ⟨.nil, fun site => ?_, ?_, fun depth path _ => ?_, ?_⟩
    · refine iff_of_false List.not_mem_nil fun differsAt => ?_
      obtain rfl := onlyHere site differsAt
      rw [(differsAt_nil_iff.1 differsAt).1] at same
      cases same
    · rw [prunedAlike, same]
      simp
    · rw [differs, if_pos same]
      rfl
    · exact prunedAlike.trans same
  · rename_i differ
    have isFalse := Bool.eq_false_iff.2 differ
    refine ⟨List.nodup_singleton _, fun site => ?_, ?_, fun depth path _ => ?_, ?_⟩
    · rw [List.mem_singleton]
      constructor
      · rintro rfl
        exact differsAt_nil_iff.2 ⟨isFalse, notBoth⟩
      · exact onlyHere site
    · rw [prunedAlike, isFalse]
      simp
    · rw [differs, if_neg differ]
      rfl
    · exact isRight.pruned.same_self

theorem objectDepth_fieldOrNull_le (name : String) (fields : List (String × Json)) :
    (fieldOrNull name fields).objectDepth ≤ objectDepth.depthOfFields fields := by
  induction fields with
  | nil => exact Nat.zero_le _
  | cons field rest ih =>
      obtain ⟨stored, value⟩ := field
      rw [fieldOrNull_cons, objectDepth.depthOfFields]
      split
      · exact Nat.le_max_left _ _
      · exact ih.trans (Nat.le_max_right _ _)

theorem same_pruned_of_notMem_unionNames (unnamed : name ∉ unionNames fields others) :
    (fieldOrNull name fields).pruned.same (fieldOrNull name others).pruned = true := by
  obtain ⟨none, othersNone⟩ := fieldOrNull_of_notMem_unionNames unnamed
  rw [none, othersNone]
  rfl

/-- Sites behind different names are different. -/
theorem nodup_sitesBelow {names : List String} (nodup : names.Nodup)
    (nodupBelow : ∀ name, (sitesOf name).Nodup) :
    (names.flatMap fun name => (sitesOf name).map (name :: ·)).Nodup := by
  rw [List.nodup_flatMap]
  refine ⟨fun name _ => (nodupBelow name).map List.cons_injective,
    nodup.imp fun {first second} differ site inFirst inSecond => ?_⟩
  obtain ⟨_, _, rfl⟩ := List.mem_map.1 inFirst
  obtain ⟨_, _, same⟩ := List.mem_map.1 inSecond
  exact differ (List.cons.inj same).1.symm

/-- Objects differ behind one of their names. -/
theorem differsAt_object_iff {site : List String} :
    DiffersAt (.object fields) (.object others) site ↔ ∃ name ∈ unionNames fields others,
      ∃ rest, DiffersAt (fieldOrNull name fields) (fieldOrNull name others) rest ∧
        name :: rest = site := by
  constructor
  · intro differs
    cases site with
    | nil => exact nomatch (differsAt_nil_iff.1 differs).2
    | cons name rest =>
        have differsBelow := (differsAt_cons_iff.1 differs).2.2
        refine ⟨name, ?_, rest, differsBelow, rfl⟩
        by_contra unnamed
        obtain ⟨none, othersNone⟩ := fieldOrNull_of_notMem_unionNames unnamed
        rw [child_object, child_object, none, othersNone] at differsBelow
        exact not_differsAt_null rest differsBelow
  · rintro ⟨name, _, rest, differs, rfl⟩
    exact differsAt_cons_iff.2 ⟨rfl, rfl, differs⟩

/-- Objects are the same but for null fields when their values are, name by name. -/
theorem same_pruned_object_iff_unionNames (increases : Increases fields)
    (othersIncrease : Increases others) :
    (object fields).pruned.same (object others).pruned = true ↔
      ∀ name ∈ unionNames fields others,
        (fieldOrNull name fields).pruned.same (fieldOrNull name others).pruned = true := by
  rw [same_pruned_object_iff increases othersIncrease]
  constructor
  · exact fun alike name _ => alike name
  · intro alike name
    by_cases named : name ∈ unionNames fields others
    · exact alike name named
    · exact same_pruned_of_notMem_unionNames named

/-- The differences of objects are those of their values, name by name. -/
theorem diffWithin_object {depth : Nat} (path : String)
    (enough : (object fields).objectDepth ≤ depth ∨ (object others).objectDepth ≤ depth)
    (below : ∀ name depth path, (fieldOrNull name fields).objectDepth ≤ depth ∨
      (fieldOrNull name others).objectDepth ≤ depth →
        diffWithin depth path (fieldOrNull name fields) (fieldOrNull name others) =
          (sitesOf name).map
            (differenceAt path (fieldOrNull name fields) (fieldOrNull name others))) :
    diffWithin depth path (.object fields) (.object others) =
      ((unionNames fields others).flatMap fun name => (sitesOf name).map (name :: ·)).map
        (differenceAt path (.object fields) (.object others)) := by
  obtain ⟨depth, rfl⟩ : ∃ less, depth = less + 1 :=
    Nat.exists_eq_succ_of_ne_zero (by rintro rfl; simp [objectDepth] at enough)
  have enoughBelow : ∀ name, (fieldOrNull name fields).objectDepth ≤ depth ∨
      (fieldOrNull name others).objectDepth ≤ depth := by
    intro name
    have leFields := objectDepth_fieldOrNull_le name fields
    have leOthers := objectDepth_fieldOrNull_le name others
    simp only [objectDepth] at enough
    omega
  rw [diffWithin, List.map_flatMap]
  refine List.flatMap_congr fun name _ => ?_
  rw [below name depth _ (enoughBelow name), List.map_map]
  rfl

/-- Objects are alike once what differs below each of their names is replaced. -/
theorem patched_object_alike (increases : Increases fields) (othersIncrease : Increases others)
    (alikeBelow : ∀ name, (patched (fieldOrNull name fields) (fieldOrNull name others)
      (sitesOf name)).pruned.same (fieldOrNull name others).pruned = true) :
    (patched (.object fields) (.object others) ((unionNames fields others).flatMap
      fun name => (sitesOf name).map (name :: ·))).pruned.same (object others).pruned = true := by
  obtain ⟨changed, isChanged, changedIncrease, found⟩ :=
    exists_patched_flatMap increases (nodup_unionNames fields others) (.object others) sitesOf
  rw [isChanged, same_pruned_object_iff changedIncrease othersIncrease]
  intro name
  rw [found]
  split
  · exact alikeBelow name
  · rename_i unnamed
    exact same_pruned_of_notMem_unionNames unnamed

/-- Objects differ at the sites behind their names. -/
theorem Locates.of_objects (increases : Increases fields) (othersIncrease : Increases others)
    (below : ∀ name, Locates (fieldOrNull name fields) (fieldOrNull name others) (sitesOf name)) :
    Locates (.object fields) (.object others)
      ((unionNames fields others).flatMap fun name => (sitesOf name).map (name :: ·)) where
  nodup := nodup_sitesBelow (nodup_unionNames fields others) fun name => (below name).nodup
  mem_iff site := by
    simp only [List.mem_flatMap, List.mem_map, (below _).mem_iff, differsAt_object_iff]
  nil_iff := by
    rw [same_pruned_object_iff_unionNames increases othersIncrease, List.flatMap_eq_nil_iff]
    simp only [List.map_eq_nil_iff, (below _).nil_iff]
  diffWithin_eq _ path enough :=
    diffWithin_object path enough fun name => (below name).diffWithin_eq
  alike := patched_object_alike increases othersIncrease fun name => (below name).alike

/-- Well-formed values have sites at which they differ. -/
theorem exists_locates (isLeft : left.WellFormed) (isRight : right.WellFormed) :
    ∃ sites, Locates left right sites := by
  induction isLeft generalizing right with
  | @object fields increases _ ih =>
      cases isObject : right.isObject with
      | false => exact ⟨_, .of_not_objects isObject isRight⟩
      | true =>
          obtain ⟨others, rfl⟩ := exists_of_isObject isObject
          cases isRight with
          | object othersIncrease each =>
              have below : ∀ name, ∃ sites,
                  Locates (fieldOrNull name fields) (fieldOrNull name others) sites := by
                intro name
                have wellFormed := WellFormed.fieldOrNull each name
                by_cases missing : fieldOrNull name fields = .null
                · rw [missing]
                  exact ⟨_, .of_not_objects rfl wellFormed⟩
                · exact ih _ (fieldOrNull_mem missing) wellFormed
              choose sitesOf locates using below
              exact ⟨_, .of_objects increases othersIncrease locates⟩
  | _ => exact ⟨_, .of_not_objects rfl isRight⟩

/-! ## The other way round -/

theorem map_swapped_ite (isLeft : left.WellFormed) (path : String) :
    (if right.same left then [] else [⟨path, right.compact, left.compact⟩]) =
      (if left.same right then [] else [⟨path, left.compact, right.compact⟩]).map
        FieldDifference.swapped := by
  rw [isLeft.same_comm right]
  split <;> rfl

/-- The differences of two values are those of the values in the other order, swapped. -/
theorem diffWithin_comm (isLeft : left.WellFormed) (isRight : right.WellFormed) (depth : Nat)
    (path : String) :
    diffWithin depth path right left =
      (diffWithin depth path left right).map FieldDifference.swapped := by
  induction depth generalizing left right path with
  | zero =>
      unfold diffWithin
      exact map_swapped_ite isLeft path
  | succ depth ih =>
      cases bothObjects : left.isObject && right.isObject with
      | false =>
          rw [diffWithin_of_not_objects bothObjects,
            diffWithin_of_not_objects (Bool.and_comm .. ▸ bothObjects)]
          exact map_swapped_ite isLeft path
      | true =>
          rw [Bool.and_eq_true] at bothObjects
          obtain ⟨fields, rfl⟩ := exists_of_isObject bothObjects.1
          obtain ⟨others, rfl⟩ := exists_of_isObject bothObjects.2
          cases isLeft with
          | object _ each =>
              cases isRight with
              | object _ othersEach =>
                  rw [diffWithin, diffWithin, unionNames_comm, List.map_flatMap]
                  exact List.flatMap_congr fun name _ =>
                    ih (WellFormed.fieldOrNull each name)
                      (WellFormed.fieldOrNull othersEach name) _

/-- The differences are those at the sites. -/
theorem Locates.diff_eq (locates : Locates left right sites) :
    left.diff right = sites.map (differenceAt "" left right) :=
  locates.diffWithin_eq _ "" (.inl (Nat.le_succ _))

/-- Values without differences are the same but for null fields. -/
theorem diff_eq_nil_iff (isLeft : left.WellFormed) (isRight : right.WellFormed) :
    left.diff right = [] ↔ left.pruned.same right.pruned = true := by
  obtain ⟨sites, locates⟩ := exists_locates isLeft isRight
  rw [locates.diff_eq, List.map_eq_nil_iff, locates.nil_iff]

theorem diff_comm (isLeft : left.WellFormed) (isRight : right.WellFormed) :
    right.diff left = (left.diff right).map FieldDifference.swapped := by
  obtain ⟨sites, locates⟩ := exists_locates isLeft isRight
  rw [diff, diffWithin_comm isLeft isRight, locates.diff_eq,
    locates.diffWithin_eq _ "" (.inr (Nat.le_succ _))]

/-- Plain values without differences are equal. -/
theorem IsPlain.diff_eq_nil_iff (isLeft : left.IsPlain) (isRight : right.IsPlain) :
    left.diff right = [] ↔ left = right := by
  rw [Json.diff_eq_nil_iff isLeft.wellFormed isRight.wellFormed, isLeft.pruned_eq,
    isRight.pruned_eq]
  constructor
  · exact isLeft.eq_of_same
  · rintro rfl
    exact isLeft.wellFormed.same_self

/-! ## Configurations -/

theorem increases_of_names
    (increase : (fields.map (·.1)).Pairwise fun left right => compare left right = .lt) :
    Increases fields :=
  List.pairwise_map.1 increase

theorem isPlain_ofList {α : Type} {write : α → Json} (each : ∀ item, (write item).IsPlain)
    (items : List α) : (ofList write items).IsPlain := by
  refine .array fun item isItem => ?_
  obtain ⟨written, _, rfl⟩ := List.mem_map.1 isItem
  exact each written

theorem isPlain_ofTextMap (map : SortedMap String String) : (ofTextMap map).IsPlain := by
  refine .object (List.pairwise_map.2 map.increasing) fun field isField => ?_
  obtain ⟨entry, _, rfl⟩ := List.mem_map.1 isField
  exact .text _

end Json

theorem ProjectReference.isPlain_toJson (reference : ProjectReference) :
    reference.toJson.IsPlain := by
  refine .object (Json.increases_of_names (by simp only [List.map]; decide)) ?_
  simp only [List.forall_mem_cons, List.not_mem_nil, false_implies, implies_true, and_true]
  exact ⟨.bool _, .text _, .text _, .text _, .text _, .text _⟩

theorem PackageReference.isPlain_toJson (package : PackageReference) : package.toJson.IsPlain := by
  refine .object (Json.increases_of_names (by simp only [List.map]; decide)) ?_
  simp only [List.forall_mem_cons, List.not_mem_nil, false_implies, implies_true, and_true]
  exact ⟨.text _, .text _⟩

theorem Configuration.isPlain_toJson (configuration : Configuration) :
    configuration.toJson.IsPlain := by
  refine .object (Json.increases_of_names (by simp only [List.map]; decide)) ?_
  simp only [List.forall_mem_cons, List.not_mem_nil, false_implies, implies_true, and_true]
  exact ⟨Json.isPlain_ofList .text _, Json.isPlain_ofList ProjectReference.isPlain_toJson _,
    .text _, .text _, Json.isPlain_ofList PackageReference.isPlain_toJson _, .text _, .text _,
    .text _, .text _, .text _, Json.isPlain_ofTextMap _, Json.isPlain_ofTextMap _, .text _,
    .text _⟩

/-- The message for a configuration that is declared twice. -/
def Configuration.declaredTwice (configuration : Configuration) : String :=
  "project '" ++ configuration.projectName ++
    "' contains distinct configurations with the same identity " ++ configuration.name ++ "|" ++
    configuration.platform ++ "; the same configuration is declared twice"

/-- The wording of what two configurations of one identity have different. -/
theorem Conflict.message_sameIdentity (project name platform : String)
    (differences : List FieldDifference) :
    (sameIdentity project name platform differences).message =
      "project '" ++ project ++ "' contains distinct configurations with the same identity " ++
        name ++ "|" ++ platform ++
        if differences.isEmpty then "; the same configuration is declared twice"
        else ", add something to distinguish them. Differing fields:" ++
          String.join (differences.map FieldDifference.line) := rfl

theorem Conflict.message_sameIdentity_iff {project name platform : String}
    {differences : List FieldDifference} :
    (sameIdentity project name platform differences).message =
        "project '" ++ project ++ "' contains distinct configurations with the same identity " ++
          name ++ "|" ++ platform ++ "; the same configuration is declared twice" ↔
      differences = [] := by
  rw [message_sameIdentity]
  cases differences with
  | nil => exact iff_of_true rfl rfl
  | cons difference rest =>
      refine iff_of_false (fun alike => ?_) (List.cons_ne_nil _ _)
      -- Behind the platform one message has a comma, the other a semicolon.
      have characters := congrArg String.toList alike
      simp only [List.isEmpty_cons, Bool.false_eq_true, if_false, String.toList_append,
        List.append_assoc, List.append_cancel_left_eq] at characters
      exact absurd (congrArg List.head? characters) (by simp)

/-- Two configurations of one identity are reported as declared twice when their JSON forms
are equal. -/
theorem Configuration.message_collision_iff (first second : Configuration) :
    (collision first second).message = first.declaredTwice ↔ first.toJson = second.toJson := by
  unfold collision declaredTwice
  rw [Conflict.message_sameIdentity_iff,
    Json.IsPlain.diff_eq_nil_iff first.isPlain_toJson second.isPlain_toJson]

/-! ## The result -/

namespace Json

/-- Differences are sound, complete and antisymmetric: there are none between values that are
the same but for null fields; each stands for one of the sites at which the values differ,
with the texts of what is found there; replacing what stands at these sites turns the first
value into the second but for null fields; the other way round the list is the same with the
texts swapped.  So the message about two configurations of one identity calls them declared
twice only when they have the same JSON form. -/
theorem diff_exact (isLeft : left.WellFormed) (isRight : right.WellFormed) :
    (left.diff right = [] ↔ left.pruned.same right.pruned = true) ∧
      (∃ sites : List (List String), sites.Nodup ∧
        (∀ site, site ∈ sites ↔ DiffersAt left right site) ∧
        left.diff right = sites.map (differenceAt "" left right) ∧
        (patched left right sites).pruned.same right.pruned = true) ∧
      right.diff left = (left.diff right).map FieldDifference.swapped ∧
      ∀ first second : Configuration,
        (Configuration.collision first second).message = first.declaredTwice ↔
          first.toJson = second.toJson := by
  obtain ⟨sites, locates⟩ := exists_locates isLeft isRight
  exact ⟨diff_eq_nil_iff isLeft isRight,
    ⟨sites, locates.nodup, locates.mem_iff, locates.diff_eq, locates.alike⟩,
    diff_comm isLeft isRight, Configuration.message_collision_iff⟩

/-- Of the fields that two values name one is missing here, one is missing there, one has
another shape, and one is `null` where the other value has none. -/
theorem diff_exact_mixed :
    ∃ left right : Json,
      left = .object [("deep", .object [("kept", .text "same"), ("lost", .null),
        ("moved", .integer 1)]), ("list", .array [.null])] ∧
      right = .object [("deep", .object [("kept", .text "same"), ("moved", .object [])]),
        ("new", .bool true)] ∧
      left.WellFormed ∧ right.WellFormed ∧
      right.diff left = [⟨"deep.moved", "{}", "1"⟩, ⟨"list", "null", "[null]"⟩,
        ⟨"new", "true", "null"⟩] ∧
      ∃ sites : List (List String), sites.length = 3 ∧
        (∀ site, site ∈ sites ↔ DiffersAt left right site) ∧
        (patched left right sites).pruned.same right.pruned = true := by
  have isLeft : WellFormed (.object [("deep", .object [("kept", .text "same"), ("lost", .null),
      ("moved", .integer 1)]), ("list", .array [.null])]) := by
    refine .object (increases_of_names (by decide)) ?_
    simp only [List.forall_mem_cons, List.not_mem_nil, false_implies, implies_true, and_true]
    refine ⟨.object (increases_of_names (by decide)) ?_, .array ?_⟩
    · simp only [List.forall_mem_cons, List.not_mem_nil, false_implies, implies_true, and_true]
      exact ⟨.text _, .null, .integer _⟩
    · exact List.forall_mem_singleton.2 .null
  have isRight : WellFormed (.object [("deep", .object [("kept", .text "same"),
      ("moved", .object [])]), ("new", .bool true)]) := by
    refine .object (increases_of_names (by decide)) ?_
    simp only [List.forall_mem_cons, List.not_mem_nil, false_implies, implies_true, and_true]
    refine ⟨.object (increases_of_names (by decide)) ?_, .bool _⟩
    simp only [List.forall_mem_cons, List.not_mem_nil, false_implies, implies_true, and_true]
    exact ⟨.text _, .object .nil nofun⟩
  have listed : diff (.object [("deep", .object [("kept", .text "same"), ("lost", .null),
      ("moved", .integer 1)]), ("list", .array [.null])]) (.object [("deep", .object [("kept",
      .text "same"), ("moved", .object [])]), ("new", .bool true)]) =
      [⟨"deep.moved", "1", "{}"⟩, ⟨"list", "[null]", "null"⟩, ⟨"new", "null", "true"⟩] := by
    decide +kernel
  obtain ⟨_, ⟨sites, _, mem_iff, located, alike⟩, swapped, _⟩ := diff_exact isLeft isRight
  refine ⟨_, _, rfl, rfl, isLeft, isRight, ?_, sites, ?_, mem_iff, alike⟩
  · rw [swapped, listed]
    rfl
  · rw [← List.length_map, ← located, listed]
    rfl

end Json

end ProjectFiles
