import ProjectFiles.Path.Lexical

/-!
# Absolute paths as keys of outputs

Two spellings of a path are one output when their absolute paths have the same
components.  The components of an absolute path are the root followed by the
components of the path that are steps, so they depend on the components of the
path only, and an absolute path is its own key.
-/

namespace ProjectFiles.Path

/-! ## Comparing paths -/

namespace Component

instance : Std.LawfulEqOrd Component where
  eq_of_compare {left right} same := by
    apply orderKey_injective
    have keys : compareOn (fun key : Nat × String => key.1) left.orderKey right.orderKey = .eq ∧
        compareOn (fun key : Nat × String => key.2) left.orderKey right.orderKey = .eq := by
      have unfolded : compareLex (compareOn fun key : Nat × String => key.1)
          (compareOn fun key : Nat × String => key.2) left.orderKey right.orderKey = .eq := same
      simpa [compareLex, Ordering.then_eq_eq] using unfolded
    have first := Std.LawfulEqOrd.eq_of_compare keys.1
    have second := Std.LawfulEqOrd.eq_of_compare keys.2
    exact Prod.ext first second

/-- A component that can stand behind any other: the step up or the name of an
entry. -/
def IsStep : Component → Prop
  | root | here => False
  | up => True
  | name text =>
      '/' ∉ text.toList ∧ text.toList ≠ [] ∧ text.toList ≠ ['.'] ∧ text.toList ≠ ['.', '.']

theorem IsStep.slash_notMem {step : Component} (isStep : step.IsStep) :
    '/' ∉ step.text.toList := by
  cases step with
  | root => exact isStep.elim
  | here => exact isStep.elim
  | up => simp [text]
  | name text => exact isStep.1

/-- A step is what its own text stands for. -/
theorem IsStep.innerComponent?_text {step : Component} (isStep : step.IsStep) :
    innerComponent? step.text.toList = some step := by
  cases step with
  | root => exact isStep.elim
  | here => exact isStep.elim
  | up => simp [text, innerComponent?]
  | name text =>
      obtain ⟨_, nonempty, notHere, notUp⟩ := isStep
      simp [Component.text, innerComponent?, nonempty, notHere, notUp]

end Component

/-- Paths compare as equal exactly when they have the same components. -/
theorem compare_eq_iff {left right : Path} :
    compare left right = .eq ↔ left.components = right.components :=
  Std.LawfulEqOrd.compare_eq_iff_eq (a := left.components) (b := right.components)

theorem same_iff {left right : Path} :
    left.same right = true ↔ left.components = right.components := by
  simp [same]

/-! ## Components of a joined path -/

/-- The component that stands in front of the steps of a spelling. -/
def leading (characters : List Char) : List Component :=
  if characters.head? = some '/' then [.root]
  else if (List.splitOn '/' characters).head? = some ['.'] then [.here]
  else []

theorem leading_cases (characters : List Char) :
    leading characters = [.root] ∨ leading characters = [.here] ∨ leading characters = [] := by
  unfold leading
  split
  · exact .inl rfl
  · split
    · exact .inr (.inl rfl)
    · exact .inr (.inr rfl)

/-- A path is read as its leading component and what its segments stand for. -/
theorem components_eq_leading_append (path : Path) :
    path.components = leading path.text.toList ++ path.segments.filterMap innerComponent? := by
  have rooted_iff : path.hasRoot = true ↔ path.text.toList.head? = some '/' := by
    simp [hasRoot]
  unfold components leading
  cases split : path.segments with
  | nil => exact absurd split (List.splitOn_ne_nil '/' path.text.toList)
  | cons first rest =>
      by_cases rooted : path.text.toList.head? = some '/'
      · obtain ⟨others, spelled⟩ := List.head?_eq_some_iff.1 rooted
        have firstIsEmpty : first = [] := by
          have cut := List.splitOn_append_cons_self (a := '/') [] others
          rw [List.nil_append, ← spelled, show List.splitOn '/' path.text.toList = path.segments
            from rfl, split] at cut
          simpa using congrArg List.head? cut
        simp [rooted_iff, rooted, firstIsEmpty, innerComponent?]
      · have head : (List.splitOn '/' path.text.toList).head? = some first := by
          rw [show List.splitOn '/' path.text.toList = path.segments from rfl, split]
          rfl
        by_cases isHere : first = ['.']
        · simp [rooted_iff, rooted, head, isHere, innerComponent?]
        · cases inner : innerComponent? first <;> simp [rooted_iff, rooted, head, isHere, inner]

/-- What stands behind a slash does not change the leading component. -/
theorem leading_append_slash (front back : List Char) :
    leading (front ++ '/' :: back) = leading (front ++ ['/']) := by
  unfold leading
  rw [List.splitOn_append_cons_self, List.splitOn_append_cons_self]
  obtain ⟨first, rest, split⟩ := List.exists_cons_of_ne_nil (List.splitOn_ne_nil '/' front)
  rw [split]
  cases front <;> rfl

/-- A slash at the end does not change the leading component, unless it is all
there is. -/
theorem leading_append_singleton {front : List Char} (nonempty : front ≠ []) :
    leading (front ++ ['/']) = leading front := by
  unfold leading
  rw [List.splitOn_append_cons_self]
  obtain ⟨first, rest, split⟩ := List.exists_cons_of_ne_nil (List.splitOn_ne_nil '/' front)
  obtain ⟨character, others, rfl⟩ := List.exists_cons_of_ne_nil nonempty
  rw [split]
  rfl

/-- The components of a spelling that is cut at one of its slashes. -/
theorem components_eq_of_slash {path : Path} {front back : List Char}
    (spelled : path.text.toList = front ++ '/' :: back) :
    path.components = leading (front ++ ['/']) ++
      (List.splitOn '/' front).filterMap innerComponent? ++
      (List.splitOn '/' back).filterMap innerComponent? := by
  rw [components_eq_leading_append]
  unfold segments
  rw [spelled, List.splitOn_append_cons_self, leading_append_slash, List.filterMap_append,
    List.append_assoc]

/-- A slash at the end does not count. -/
theorem components_eq_of_trailing_slash {path : Path} {front : List Char}
    (spelled : path.text.toList = front ++ ['/']) :
    path.components = leading (front ++ ['/']) ++
      (List.splitOn '/' front).filterMap innerComponent? := by
  rw [components_eq_of_slash spelled]
  simp [innerComponent?]

theorem components_eq_nil_of_text {path : Path} (spelled : path.text.toList = []) :
    path.components = [] := by
  rw [components_eq_leading_append]
  unfold segments
  rw [spelled]
  simp [leading, innerComponent?]

/-- The text of a step has no leading component and is its only segment. -/
theorem components_eq_singleton {path : Path} {step : Component} (isStep : step.IsStep)
    (spelled : path.text = step.text) : path.components = [step] := by
  have whole : List.splitOn '/' step.text.toList = [step.text.toList] :=
    List.splitOn_eq_singleton isStep.slash_notMem
  have noRoot : step.text.toList.head? ≠ some '/' := by
    intro rooted
    exact isStep.slash_notMem (List.mem_of_head? rooted)
  have notHere : step.text.toList ≠ ['.'] := by
    intro here
    have read := isStep.innerComponent?_text
    simp [here, innerComponent?] at read
  rw [components_eq_leading_append]
  unfold segments leading
  rw [spelled, whole]
  simp [noRoot, notHere, isStep.innerComponent?_text]

/-- Joining a relative path puts its steps behind the components of the path. -/
theorem components_join_of_ne_nil {path below : Path} (nonempty : path.text.toList ≠ [])
    (relative : below.hasRoot = false) :
    (path.join below).components =
      path.components ++ below.segments.filterMap innerComponent? := by
  obtain ⟨front, last, spelled⟩ := (List.eq_nil_or_concat path.text.toList).resolve_left nonempty
  rw [List.concat_eq_append] at spelled
  by_cases slash : last = '/'
  · subst slash
    have joined : (path.join below).text.toList = front ++ '/' :: below.text.toList := by
      simp [join, relative, spelled]
    rw [components_eq_of_slash joined, components_eq_of_trailing_slash spelled, segments]
  · have joined : (path.join below).text.toList =
        path.text.toList ++ '/' :: below.text.toList := by
      simp [join, relative, spelled, slash]
    rw [components_eq_of_slash joined, components_eq_leading_append path,
      leading_append_singleton nonempty, segments, segments]

/-- Joining a step to a path puts it behind the components of the path. -/
theorem components_join {step : Component} (path : Path) (isStep : step.IsStep) :
    (path.join ⟨step.text⟩).components = path.components ++ [step] := by
  have relative : (Path.mk step.text).hasRoot = false := by
    cases first : step.text.toList.head? with
    | none => simp [hasRoot, first]
    | some character =>
        have member : character ∈ step.text.toList := List.mem_of_head? first
        have notSlash : character ≠ '/' := fun slash => isStep.slash_notMem (slash ▸ member)
        simp [hasRoot, first, notSlash]
  by_cases empty : path.text.toList = []
  · rw [components_eq_nil_of_text empty]
    apply components_eq_singleton isStep
    have noText : path.text = "" := by simpa using empty
    simp [join, relative, noText]
  · have whole : (Path.mk step.text).segments = [step.text.toList] :=
      List.splitOn_eq_singleton isStep.slash_notMem
    rw [components_join_of_ne_nil empty relative, whole]
    simp [isStep.innerComponent?_text]

/-- Joining nothing adds a slash at most. -/
theorem components_join_empty (path : Path) : (path.join ⟨""⟩).components = path.components := by
  by_cases empty : path.text.toList = []
  · have joined : path.join ⟨""⟩ = path := by
      cases path
      simp_all [join, hasRoot]
    rw [joined]
  · have nothing : (Path.mk "").segments.filterMap innerComponent? = [] := by decide
    rw [components_join_of_ne_nil empty (by decide), nothing, List.append_nil]

theorem components_foldl_join (start : Path) {steps : List Component}
    (areSteps : ∀ step ∈ steps, step.IsStep) :
    (steps.foldl (fun path step => path.join ⟨step.text⟩) start).components =
      start.components ++ steps := by
  induction steps generalizing start with
  | nil => simp
  | cons step rest ih =>
      rw [List.foldl_cons, ih _ fun other member => areSteps other (List.mem_cons_of_mem _ member),
        components_join start (areSteps step List.mem_cons_self), List.append_assoc]
      rfl

/-! ## Absolute paths -/

private theorem slash_notMem_of_mem_splitOn {characters segment : List Char}
    (member : segment ∈ List.splitOn '/' characters) : '/' ∉ segment := by
  induction characters generalizing segment with
  | nil =>
      have empty : segment = [] := by simpa using member
      simp [empty]
  | cons first rest ih =>
      rw [List.splitOn_cons_eq_if_modifyHead] at member
      split at member
      · rcases List.mem_cons.1 member with rfl | inRest
        · simp
        · exact ih inRest
      · rename_i notSlash
        obtain ⟨head, others, split⟩ :=
          List.exists_cons_of_ne_nil (List.splitOn_ne_nil '/' rest)
        rw [split] at member ih
        rcases List.mem_cons.1 member with rfl | inRest
        · have headFree := ih List.mem_cons_self
          have firstDiffers : '/' ≠ first := fun same => notSlash (by simp [← same])
          simp [firstDiffers, headFree]
        · exact ih (List.mem_cons_of_mem _ inRest)

theorem isStep_of_mem_inner {characters : List Char} {step : Component}
    (member : step ∈ (List.splitOn '/' characters).filterMap innerComponent?) : step.IsStep := by
  obtain ⟨segment, inSegments, read⟩ := List.mem_filterMap.1 member
  have slashFree := slash_notMem_of_mem_splitOn inSegments
  unfold innerComponent? at read
  split at read
  · simp at read
  · rename_i notIdle
    split at read
    · cases read
      trivial
    · rename_i notUp
      cases read
      have idle := not_or.1 notIdle
      exact ⟨by simpa using slashFree, by simpa using idle.1, by simpa using idle.2,
        by simpa using notUp⟩

/-- Whether a component names a place behind the start of a path. -/
def isInner (component : Component) : Bool :=
  component != .root && component != .here

theorem Component.IsStep.isInner {step : Component} (isStep : step.IsStep) :
    isInner step = true := by
  cases step <;> simp_all [IsStep, Path.isInner]

/-- Behind the start, all components of a path are steps. -/
theorem filter_isInner_components (path : Path) :
    path.components.filter isInner = path.segments.filterMap innerComponent? := by
  rw [components_eq_leading_append, List.filter_append]
  have noLeading : (leading path.text.toList).filter isInner = [] := by
    rcases leading_cases path.text.toList with root | here | nothing <;>
      simp [*, isInner]
  have allSteps : (path.segments.filterMap innerComponent?).filter isInner =
      path.segments.filterMap innerComponent? :=
    List.filter_eq_self.2 fun step member => (isStep_of_mem_inner member).isInner
  rw [noLeading, allSteps, List.nil_append]

/-- Only the empty path has no components. -/
theorem components_ne_nil {path : Path} (nonempty : path.text.toList ≠ []) :
    path.components ≠ [] := by
  obtain ⟨first, rest, spelled⟩ := List.exists_cons_of_ne_nil nonempty
  obtain ⟨head, others, split⟩ := List.exists_cons_of_ne_nil (List.splitOn_ne_nil '/' rest)
  rw [components_eq_leading_append]
  unfold segments leading
  rw [spelled]
  by_cases slash : first = '/'
  · simp [slash]
  · have cut : List.splitOn '/' (first :: rest) = (first :: head) :: others := by
      rw [List.splitOn_cons_eq_if_modifyHead, split]
      simp [slash]
    rw [cut]
    by_cases isHere : first :: head = ['.']
    · simp [slash, isHere]
    · by_cases isUp : first :: head = ['.', '.'] <;>
        simp [slash, isHere, isUp, innerComponent?]

theorem components_eq_nil_iff {path : Path} : path.components = [] ↔ path.text.toList = [] := by
  constructor
  · intro none
    by_cases empty : path.text.toList = []
    · exact empty
    · exact absurd none (components_ne_nil empty)
  · exact components_eq_nil_of_text

theorem text_eq_nil_iff_of_components_eq {left right : Path}
    (equal : left.components = right.components) :
    left.text.toList = [] ↔ right.text.toList = [] := by
  rw [← components_eq_nil_iff, equal, components_eq_nil_iff]

/-- The components of an absolute path: the root and the steps of the path. -/
theorem components_absolute {path : Path} (nonempty : path.text.toList ≠ []) :
    path.absolute.components = .root :: path.components.filter isInner := by
  have areSteps : ∀ step ∈ path.components.filter isInner, step.IsStep := by
    intro step member
    rw [filter_isInner_components] at member
    exact isStep_of_mem_inner member
  have fromRoot : ∀ start : Path, start.components = [.root] →
      ((path.components.filter isInner).foldl (fun path step => path.join ⟨step.text⟩)
        start).components = .root :: path.components.filter isInner := by
    intro start atRoot
    rw [components_foldl_join start areSteps, atRoot]
    rfl
  have start : ∀ start : Path, start = workingDirectory ∨ start = ⟨"//"⟩ ∨ start = ⟨"/"⟩ →
      start.components = [.root] := by
    rintro start (rfl | rfl | rfl) <;> decide
  have chosen : ∀ {rooted twoSlashes : Prop} [Decidable rooted] [Decidable twoSlashes],
      (if rooted then workingDirectory else if twoSlashes then ⟨"//"⟩ else ⟨"/"⟩ :
        Path).components = [.root] := by
    intro rooted twoSlashes _ _
    apply start
    split
    · exact .inl rfl
    · split
      · exact .inr (.inl rfl)
      · exact .inr (.inr rfl)
  unfold absolute
  simp only [List.isEmpty_iff, nonempty, if_false]
  split
  · rw [components_join_empty]
    exact fromRoot _ chosen
  · exact fromRoot _ chosen

theorem absolute_of_text_eq_nil {path : Path} (empty : path.text.toList = []) :
    path.absolute = path := by
  simp [absolute, empty]

/-- The key of an output depends on the components of its path only. -/
theorem components_absolute_congr {left right : Path}
    (equal : left.components = right.components) :
    left.absolute.components = right.absolute.components := by
  by_cases empty : left.text.toList = []
  · rw [absolute_of_text_eq_nil empty,
      absolute_of_text_eq_nil ((text_eq_nil_iff_of_components_eq equal).1 empty), equal]
  · rw [components_absolute empty,
      components_absolute (mt (text_eq_nil_iff_of_components_eq equal).2 empty), equal]

/-- An absolute path is its own key. -/
theorem components_absolute_absolute (path : Path) :
    path.absolute.absolute.components = path.absolute.components := by
  by_cases empty : path.text.toList = []
  · rw [absolute_of_text_eq_nil empty, absolute_of_text_eq_nil empty]
  · have rooted := components_absolute empty
    have nonempty : path.absolute.text.toList ≠ [] := by
      intro none
      rw [components_eq_nil_of_text none] at rooted
      cases rooted
    rw [components_absolute nonempty, rooted, List.filter_cons_of_neg (by simp [isInner]),
      List.filter_filter]
    simp

/-! ## Outputs -/

/-- Whether two paths name one output. -/
def sameOutput (left right : Path) : Bool :=
  left.absolute.same right.absolute

theorem sameOutput_iff {left right : Path} :
    left.sameOutput right = true ↔ left.absolute.components = right.absolute.components :=
  same_iff

theorem sameOutput_of_components_eq {left right : Path}
    (equal : left.components = right.components) : left.sameOutput right = true :=
  sameOutput_iff.2 (components_absolute_congr equal)

@[simp]
theorem sameOutput_self (path : Path) : path.sameOutput path = true :=
  sameOutput_of_components_eq rfl

/-- Paths of different outputs lead to different files. -/
theorem components_ne_of_apart {left right : Path} (apart : left.sameOutput right = false) :
    left.components ≠ right.components := by
  intro same
  rw [sameOutput_of_components_eq same] at apart
  cases apart

theorem sameOutput_congr_left {left right path : Path} (same : left.sameOutput right = true) :
    left.sameOutput path = right.sameOutput path := by
  rw [Bool.eq_iff_iff, sameOutput_iff, sameOutput_iff, sameOutput_iff.1 same]

/-- A path and its absolute path name one output. -/
theorem sameOutput_absolute (left right : Path) :
    left.sameOutput right.absolute = left.sameOutput right := by
  rw [Bool.eq_iff_iff, sameOutput_iff, sameOutput_iff, components_absolute_absolute]

theorem sameOutput_comm (left right : Path) : left.sameOutput right = right.sameOutput left := by
  rw [Bool.eq_iff_iff, sameOutput_iff, sameOutput_iff]
  exact eq_comm

/-! ## File names -/

theorem fileName?_congr {left right : Path} (equal : left.components = right.components) :
    left.fileName? = right.fileName? := by
  unfold fileName?
  rw [equal]

/-- An absolute path leads to a file of the same name. -/
theorem fileName?_absolute (path : Path) : path.absolute.fileName? = path.fileName? := by
  by_cases empty : path.text.toList = []
  · rw [absolute_of_text_eq_nil empty]
  · have decomposed := components_eq_leading_append path
    have inner := filter_isInner_components path
    unfold fileName?
    rw [components_absolute empty, inner, decomposed]
    rcases List.eq_nil_or_concat (path.segments.filterMap innerComponent?) with
      none | ⟨front, last, spelled⟩
    · rw [none]
      rcases leading_cases path.text.toList with root | here | nothing
      · rw [root]
        rfl
      · rw [here]
        rfl
      · rw [nothing]
        rfl
    · rw [spelled, List.concat_eq_append, ← List.cons_append, ← List.append_assoc,
        List.getLast?_concat, List.getLast?_concat]

/-- An entry of a directory has the entry's name. -/
theorem fileName?_join {name : String} (path : Path) (isStep : (Component.name name).IsStep) :
    (path.join ⟨name⟩).fileName? = some name := by
  have joined := components_join path isStep
  unfold fileName?
  rw [show Path.mk name = ⟨(Component.name name).text⟩ from rfl, joined, List.getLast?_concat]

end ProjectFiles.Path
