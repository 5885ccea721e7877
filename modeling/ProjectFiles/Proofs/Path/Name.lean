import ProjectFiles.Proofs.Path.Relative

/-!
# Names of identifiers

The name of an identifier comes from the same cancelling as a normal form, but to a name
the root is a step without text.  So a step up at the root takes the root away, and the root
alone leaves no text at all.  Where rooted paths lead below the root, two paths have one name
just when both are rooted or both relative and lead to the same place; any other rooted path
has the name of a relative one.
-/

namespace ProjectFiles.Path

variable {path left right : Path} {components reversed : List Component}
variable {component : Component}

/-! ## Steps of names -/

/-- The step of a name that a part stands for: the root is the empty step. -/
def Component.stepText : Component → String
  | root => ""
  | other => other.text

/-- The part that a step of a name stands for. -/
def Component.ofStepText (text : String) : Component :=
  if text = "" then root else if text = ".." then up else name text

theorem Component.IsPart.ofStepText_stepText (isPart : component.IsPart) :
    Component.ofStepText component.stepText = component := by
  rcases isPart with rfl | isStep
  · rfl
  · cases component with
    | root | here => exact isStep.elim
    | up => decide
    | name text =>
        obtain ⟨_, nonempty, _, notUp⟩ := isStep
        have notEmptyText : text ≠ "" := by
          rintro rfl
          exact nonempty rfl
        have notUpText : text ≠ ".." := by
          rintro rfl
          exact notUp rfl
        simp [ofStepText, stepText, Component.text, notEmptyText, notUpText]

theorem Component.IsPart.slash_notMem (isPart : component.IsPart) :
    '/' ∉ component.stepText.toList := by
  rcases isPart with rfl | isStep
  · exact List.not_mem_nil
  · cases component with
    | root | here => exact isStep.elim
    | up | name => exact isStep.slash_notMem

/-- A step is put behind others, unless it goes up from one of them. -/
theorem pushStep_of_isStep {spelled : List String} (isStep : component.IsStep)
    (allUp : component = .up → ∀ step ∈ spelled, step = "..") :
    pushStep spelled component = component.stepText :: spelled := by
  cases component with
  | root | here => exact isStep.elim
  | name text => rfl
  | up =>
      cases spelled with
      | nil => rfl
      | cons last rest =>
          have isUp : last = ".." := allUp rfl last List.mem_cons_self
          rw [pushStep, if_pos isUp]
          rfl

/-- In the order of normal forms no step is cancelled. -/
theorem foldl_pushStep_of_ordered {spelled : List String} (ordered : components.Pairwise MayFollow)
    (areSteps : ∀ step ∈ components, step.IsStep)
    (allUp : .up ∈ components → ∀ step ∈ spelled, step = "..") :
    components.foldl pushStep spelled =
      (components.map Component.stepText).reverse ++ spelled := by
  induction components generalizing spelled with
  | nil => rfl
  | cons step rest ih =>
      obtain ⟨follows, orderedRest⟩ := List.pairwise_cons.1 ordered
      rw [List.forall_mem_cons] at areSteps
      have allUpRest : .up ∈ rest → ∀ other ∈ step.stepText :: spelled, other = ".." := by
        intro goesUp
        have notName := (follows .up goesUp).2 rfl
        refine List.forall_mem_cons.2 ⟨?_, allUp (List.mem_cons_of_mem _ goesUp)⟩
        cases step with
        | root | here => exact areSteps.1.elim
        | up => rfl
        | name text => exact absurd rfl (notName text)
      have pushed : pushStep spelled step = step.stepText :: spelled :=
        pushStep_of_isStep areSteps.1 fun isUp => allUp (isUp ▸ List.mem_cons_self)
      rw [List.foldl_cons, pushed, ih orderedRest areSteps.2 allUpRest, List.map_cons,
        List.reverse_cons, List.append_assoc]
      rfl

theorem reverse_foldl_pushStep_of_ordered (ordered : components.Pairwise MayFollow)
    (areSteps : ∀ step ∈ components, step.IsStep) :
    (components.foldl pushStep []).reverse = components.map Component.stepText := by
  rw [foldl_pushStep_of_ordered ordered areSteps fun _ => List.forall_mem_nil _,
    List.append_nil, List.reverse_reverse]

/-- What a normal form cancels, a name cancels as well. -/
theorem foldl_pushStep_pushNormal (areParts : ∀ part ∈ reversed, part.IsPart)
    (component : Component) :
    (pushNormal reversed component).reverse.foldl pushStep [] =
      pushStep (reversed.reverse.foldl pushStep []) component := by
  unfold pushNormal
  split
  · rfl
  · rename_i text rest
    have isName := (areParts _ List.mem_cons_self).resolve_left nofun
    have notUp : text ≠ ".." := by
      rintro rfl
      exact isName.2.2.2 rfl
    rw [List.reverse_cons, List.foldl_append]
    simp [pushStep, notUp]
  · rw [List.reverse_cons, List.foldl_append]
    rfl

theorem foldl_pushStep_foldl_pushNormal
    (each : ∀ part ∈ components, part = .here ∨ part.IsPart)
    (areParts : ∀ part ∈ reversed, part.IsPart) :
    (components.foldl pushNormal reversed).reverse.foldl pushStep [] =
      components.foldl pushStep (reversed.reverse.foldl pushStep []) := by
  induction components generalizing reversed with
  | nil => rfl
  | cons component rest ih =>
      rw [List.forall_mem_cons] at each
      rw [List.foldl_cons, ih each.2 (isPart_of_mem_pushNormal each.1 areParts),
        foldl_pushStep_pushNormal areParts, List.foldl_cons]

theorem foldl_pushStep_normalized (path : Path) :
    path.normalized.foldl pushStep [] = path.components.foldl pushStep [] :=
  foldl_pushStep_foldl_pushNormal (fun _ => mem_components_cases) (List.forall_mem_nil _)

/-! ## Normal forms that names spell -/

/-- The normal form that the name of an identifier spells: a step up takes the root away, and
the root alone is spelled like nothing. -/
def spelledForm (path : Path) : List Component :=
  match path.normalized with
  | .root :: .up :: rest => rest
  | [.root] => []
  | form => form

/-- Whether a path leads below the root if it starts there. -/
def BelowRoot (path : Path) : Prop :=
  .root ∈ path.normalized → .up ∉ path.normalized ∧ path.normalized ≠ [.root]

instance (path : Path) : Decidable path.BelowRoot :=
  inferInstanceAs (Decidable (_ → _))

theorem spelledForm_of_belowRoot (below : path.BelowRoot) : path.spelledForm = path.normalized := by
  unfold spelledForm
  split
  · rename_i rest isForm
    exact absurd (by simp [isForm]) (below (by simp [isForm])).1
  · rename_i isForm
    exact absurd isForm (below (by simp [isForm])).2
  · rfl

/-- Behind the root a normal form has steps, and only other steps up are before a step up. -/
theorem exists_normalized_eq_root_cons (rooted : .root ∈ path.normalized) :
    ∃ steps, path.normalized = .root :: steps ∧ (∀ step ∈ steps, step.IsStep) ∧
      steps.Pairwise MayFollow := by
  have ordered := pairwise_normalized path
  obtain ⟨steps, isForm⟩ := exists_eq_root_cons ordered rooted
  rw [isForm, List.pairwise_cons] at ordered
  exact ⟨steps, isForm, fun step isStep => (ordered.1 step isStep).1, ordered.2⟩

/-- What the name of a rooted path spells that does not lead below the root are steps. -/
theorem spelledForm_of_not_belowRoot (above : ¬ path.BelowRoot) :
    (∀ step ∈ path.spelledForm, step.IsStep) ∧ path.spelledForm.Pairwise MayFollow := by
  obtain ⟨rooted, notBelow⟩ := Classical.not_imp.1 above
  obtain ⟨steps, isForm, areSteps, ordered⟩ := exists_normalized_eq_root_cons rooted
  unfold spelledForm
  rw [isForm] at notBelow ⊢
  cases steps with
  | nil => exact ⟨List.forall_mem_nil _, .nil⟩
  | cons step rest =>
      have goesUp : .up ∈ step :: rest := by
        by_contra noneUp
        exact notBelow ⟨by simpa using noneUp, by simp⟩
      obtain rfl : step = .up := Option.some.inj (head?_eq_up ordered areSteps goesUp)
      exact ⟨(List.forall_mem_cons.1 areSteps).2, (List.pairwise_cons.1 ordered).2⟩

theorem spelledForm_subset (path : Path) : path.spelledForm ⊆ path.normalized := by
  unfold spelledForm
  split
  · rename_i rest isForm
    rw [isForm]
    exact fun part inRest => List.mem_cons_of_mem _ (List.mem_cons_of_mem _ inRest)
  · exact List.nil_subset _
  · exact List.Subset.refl _

theorem spelledForm_ne_root (path : Path) : path.spelledForm ≠ [.root] := by
  intro isRoot
  by_cases below : path.BelowRoot
  · rw [spelledForm_of_belowRoot below] at isRoot
    exact (below (isRoot ▸ List.mem_singleton_self _)).2 isRoot
  · have isStep := (spelledForm_of_not_belowRoot below).1
    rw [isRoot] at isStep
    exact isStep .root (List.mem_singleton_self _)

/-- The name of an identifier is put together from the steps of the form that it spells. -/
theorem identifierName_eq (path : Path) :
    path.identifierName = "/".intercalate (path.spelledForm.map Component.stepText) := by
  unfold identifierName spelledForm
  rw [← foldl_pushStep_normalized]
  by_cases rooted : .root ∈ path.normalized
  · obtain ⟨steps, isForm, areSteps, ordered⟩ := exists_normalized_eq_root_cons rooted
    rw [isForm]
    cases steps with
    | nil => rfl
    | cons step rest =>
        have areStepsRest := List.forall_mem_cons.1 areSteps
        obtain ⟨follows, orderedRest⟩ := List.pairwise_cons.1 ordered
        cases step with
        | root | here => exact areStepsRest.1.elim
        | up =>
            have removed : (Component.root :: .up :: rest).foldl pushStep [] =
                rest.foldl pushStep [] := rfl
            rw [removed, reverse_foldl_pushStep_of_ordered orderedRest areStepsRest.2]
        | name text =>
            have noneUp : .up ∉ .name text :: rest := by
              rw [List.mem_cons, not_or]
              exact ⟨nofun, fun goesUp => (follows .up goesUp).2 rfl text rfl⟩
            rw [List.foldl_cons, foldl_pushStep_of_ordered ordered areSteps
              (fun goesUp => absurd goesUp noneUp), List.reverse_append, List.reverse_reverse]
            rfl
  · have areSteps : ∀ step ∈ path.normalized, step.IsStep := fun step isStep =>
      isStep_of_mem_normalized isStep fun isRoot => rooted (isRoot ▸ isStep)
    rw [reverse_foldl_pushStep_of_ordered (pairwise_normalized path) areSteps]
    split
    · rename_i isForm
      exact absurd (by simp [isForm]) rooted
    · rename_i isForm
      exact absurd (by simp [isForm]) rooted
    · rfl

/-! ## Names -/

/-- The normal form that the name of an identifier spells. -/
def normalFormOf (name : String) : List Component :=
  if name = "" then []
  else (List.splitOn '/' name.toList).map fun step => Component.ofStepText (String.ofList step)

theorem splitOn_intercalate_stepText {parts : List Component}
    (areParts : ∀ part ∈ parts, part.IsPart) (nonempty : parts ≠ []) :
    List.splitOn '/' ("/".intercalate (parts.map Component.stepText)).toList =
      parts.map fun part => part.stepText.toList := by
  rw [String.toList_intercalate, List.map_map]
  refine List.splitOn_intercalate '/' (fun step isStep => ?_) (by simpa using nonempty)
  obtain ⟨part, isMember, rfl⟩ := List.mem_map.1 isStep
  exact (areParts part isMember).slash_notMem

/-- Parts can be read off their steps, unless the only step is the root. -/
theorem normalFormOf_intercalate {parts : List Component} (areParts : ∀ part ∈ parts, part.IsPart)
    (notRoot : parts ≠ [.root]) :
    normalFormOf ("/".intercalate (parts.map Component.stepText)) = parts := by
  by_cases empty : parts = []
  · rw [empty]
    rfl
  have cut := splitOn_intercalate_stepText areParts empty
  have notNothing : "/".intercalate (parts.map Component.stepText) ≠ "" := by
    intro nothing
    rw [nothing] at cut
    obtain ⟨part, rfl, noText⟩ := List.map_eq_singleton_iff.1 cut.symm
    have isRoot := (areParts part (List.mem_singleton_self _)).ofStepText_stepText
    rw [String.toList_eq_nil_iff.1 noText] at isRoot
    exact notRoot (isRoot ▸ rfl)
  rw [normalFormOf, if_neg notNothing, cut, List.map_map]
  calc parts.map _ = parts.map id :=
        List.map_congr_left fun part isMember => by
          simpa using (areParts part isMember).ofStepText_stepText
    _ = parts := List.map_id parts

theorem normalFormOf_identifierName (path : Path) :
    normalFormOf path.identifierName = path.spelledForm := by
  rw [identifierName_eq]
  exact normalFormOf_intercalate
    (fun _ isPart => isPart_of_mem_normalized (spelledForm_subset path isPart))
    (spelledForm_ne_root path)

/-- A name tells which normal form it spells. -/
theorem identifierName_eq_iff_spelledForm :
    left.identifierName = right.identifierName ↔ left.spelledForm = right.spelledForm := by
  constructor
  · intro same
    rw [← normalFormOf_identifierName, same, normalFormOf_identifierName]
  · intro same
    rw [identifierName_eq, same, ← identifierName_eq]

/-- Paths below the root have the same name just when they have the same normal form. -/
theorem identifierName_eq_iff (below : left.BelowRoot) (rightBelow : right.BelowRoot) :
    left.identifierName = right.identifierName ↔ left.normalized = right.normalized := by
  rw [identifierName_eq_iff_spelledForm, spelledForm_of_belowRoot below,
    spelledForm_of_belowRoot rightBelow]

theorem identifierName_congr (equal : left.components = right.components) :
    left.identifierName = right.identifierName := by
  rw [identifierName, identifierName, equal]

/-! ## Names and places -/

/-- Without steps up every part is kept. -/
theorem foldl_pushPlace_of_no_up (areParts : ∀ part ∈ components, part.IsPart)
    (noneUp : .up ∉ components) (place : List Component) :
    components.foldl pushPlace place = components.reverse ++ place := by
  induction components generalizing place with
  | nil => rfl
  | cons part rest ih =>
      rw [List.forall_mem_cons] at areParts
      rw [List.mem_cons, not_or] at noneUp
      have pushed : pushPlace place part = part :: place := by
        cases part with
        | root | name => rfl
        | up => exact absurd rfl noneUp.1
        | here => simpa [Component.IsPart, Component.IsStep] using areParts.1
      rw [List.foldl_cons, pushed, ih areParts.2 noneUp.2, List.reverse_cons, List.append_assoc]
      rfl

/-- Below the root the normal form is the place. -/
theorem place_of_belowRoot (below : path.BelowRoot) : path.place = path.normalized := by
  by_cases rooted : path.hasRoot = true
  · have noneUp := (below (root_mem_normalized_iff.2 rooted)).1
    rw [place, ← foldl_pushPlace_normalized,
      foldl_pushPlace_of_no_up (fun _ => isPart_of_mem_normalized) noneUp, List.append_nil,
      List.reverse_reverse]
  · exact place_of_relative (Bool.not_eq_true _ ▸ rooted)

theorem normalized_eq_iff (below : left.BelowRoot) (rightBelow : right.BelowRoot) :
    left.normalized = right.normalized ↔
      left.hasRoot = right.hasRoot ∧ left.place = right.place := by
  rw [place_of_belowRoot below, place_of_belowRoot rightBelow]
  refine ⟨fun same => ⟨?_, same⟩, fun both => both.2⟩
  rw [Bool.eq_iff_iff, ← root_mem_normalized_iff, ← root_mem_normalized_iff, same]

/-- A rooted path that does not lead below the root has the name of a relative path. -/
theorem exists_relative_of_not_belowRoot (above : ¬ path.BelowRoot) :
    path.hasRoot = true ∧
      ∃ other : Path, other.hasRoot = false ∧ other.identifierName = path.identifierName := by
  obtain ⟨areSteps, ordered⟩ := spelledForm_of_not_belowRoot above
  refine ⟨root_mem_normalized_iff.1 (Classical.not_imp.1 above).1,
    ofComponents path.spelledForm, ?_, ?_⟩
  · rw [← Bool.not_eq_true, ← root_mem_components_iff, ofComponents,
      components_foldl_join _ areSteps]
    exact fun isRoot => areSteps .root isRoot
  · have spelled : (ofComponents path.spelledForm).components = path.spelledForm := by
      rw [ofComponents, components_foldl_join _ areSteps]
      rfl
    rw [identifierName_eq path, identifierName, spelled,
      reverse_foldl_pushStep_of_ordered ordered areSteps]

/-- Two paths have one name just when their names spell one form.  Below the root this means
that both are rooted or both relative and that they lead to the same place.  A path that does
not lead below the root is rooted, and a relative path has its name. -/
theorem identifierName_follows_place (left right : Path) :
    (left.identifierName = right.identifierName ↔ left.spelledForm = right.spelledForm) ∧
      (left.BelowRoot → right.BelowRoot →
        (left.identifierName = right.identifierName ↔
          left.hasRoot = right.hasRoot ∧ left.place = right.place)) ∧
      (¬ left.BelowRoot → left.hasRoot = true ∧
        ∃ other : Path, other.hasRoot = false ∧ other.identifierName = left.identifierName) := by
  refine ⟨identifierName_eq_iff_spelledForm, fun below rightBelow => ?_,
    exists_relative_of_not_belowRoot⟩
  rw [identifierName_eq_iff below rightBelow, normalized_eq_iff below rightBelow]

/-- Two spellings of a file below the root, and a relative path with the same names. -/
theorem identifierName_follows_place_app :
    (Path.mk "/w/lib/../App.csproj").identifierName = (Path.mk "/w//./App.csproj").identifierName ∧
      (Path.mk "/w/App.csproj").identifierName ≠ (Path.mk "w/App.csproj").identifierName := by
  obtain ⟨_, spellings, _⟩ :=
    identifierName_follows_place ⟨"/w/lib/../App.csproj"⟩ ⟨"/w//./App.csproj"⟩
  obtain ⟨_, rooted, _⟩ := identifierName_follows_place ⟨"/w/App.csproj"⟩ ⟨"w/App.csproj"⟩
  refine ⟨(spellings (by decide) (by decide)).2 (by decide), fun same => ?_⟩
  exact absurd ((rooted (by decide) (by decide)).1 same).1 (by decide)

/-- A step up at the root leads nowhere, but takes the root out of the name. -/
theorem identifierName_of_stepAboveRoot :
    (Path.mk "/../App.csproj").hasRoot = (Path.mk "/App.csproj").hasRoot ∧
      (Path.mk "/../App.csproj").place = (Path.mk "/App.csproj").place ∧
      (Path.mk "/../App.csproj").identifierName ≠ (Path.mk "/App.csproj").identifierName ∧
      (Path.mk "App.csproj").hasRoot ≠ (Path.mk "/../App.csproj").hasRoot ∧
      (Path.mk "App.csproj").identifierName = (Path.mk "/../App.csproj").identifierName := by
  decide

end ProjectFiles.Path
