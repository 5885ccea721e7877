import ProjectFiles.Proofs.Path.Normal
import ProjectFiles.Proofs.Path.Rooted

/-!
# The way to a path

The way from a directory to a path goes up to where the two part, and down from there.  It
leads to the path unless it would have to go up over a step up, since what is above the
start of a relative path has no known name.  Above the root there is nothing, so between
rooted paths there is always a way.
-/

namespace ProjectFiles.Path

variable {start path : Path} {component : Component} {components reversed : List Component}

/-! ## Places -/

/-- Put a component behind a place, which is held in reverse.  The root is above itself. -/
def pushPlace (reversed : List Component) (component : Component) : List Component :=
  match component, reversed with
  | .here, _ => reversed
  | .up, .name _ :: rest => rest
  | .up, .root :: _ => reversed
  | other, _ => other :: reversed

/-- The place that a path leads to, as far as its components tell. -/
def place (path : Path) : List Component :=
  (path.components.foldl pushPlace []).reverse

/-- The number of steps up that a place starts with. -/
def ascents (path : Path) : Nat :=
  (path.place.takeWhile (· = .up)).length

/-- What a normal form cancels, a place cancels as well. -/
theorem foldl_pushPlace_pushNormal (reversed : List Component) (component : Component) :
    (pushNormal reversed component).reverse.foldl pushPlace [] =
      pushPlace (reversed.reverse.foldl pushPlace []) component := by
  unfold pushNormal
  split
  · rfl
  · rw [List.reverse_cons, List.foldl_append]
    rfl
  · rw [List.reverse_cons, List.foldl_append]
    rfl

theorem foldl_pushPlace_foldl_pushNormal (components reversed : List Component) :
    (components.foldl pushNormal reversed).reverse.foldl pushPlace [] =
      components.foldl pushPlace (reversed.reverse.foldl pushPlace []) := by
  induction components generalizing reversed with
  | nil => rfl
  | cons component rest ih =>
      rw [List.foldl_cons, ih, foldl_pushPlace_pushNormal, List.foldl_cons]

/-- A normal form leads where the path leads. -/
theorem foldl_pushPlace_normalized (path : Path) :
    path.normalized.foldl pushPlace [] = path.components.foldl pushPlace [] :=
  foldl_pushPlace_foldl_pushNormal path.components []

/-- Only at the root a place differs from a normal form. -/
theorem pushPlace_eq_pushNormal (notRooted : .root ∉ reversed) (component : Component) :
    pushPlace reversed component = pushNormal reversed component := by
  cases component with
  | root | here | name => rfl
  | up =>
      cases reversed with
      | nil => rfl
      | cons last rest =>
          cases last with
          | root => exact absurd List.mem_cons_self notRooted
          | here | up | name => rfl

theorem foldl_pushPlace_eq (relative : .root ∉ components) (notRooted : .root ∉ reversed) :
    components.foldl pushPlace reversed = components.foldl pushNormal reversed := by
  induction components generalizing reversed with
  | nil => rfl
  | cons component rest ih =>
      rw [List.mem_cons, not_or] at relative
      rw [List.foldl_cons, List.foldl_cons, pushPlace_eq_pushNormal notRooted]
      refine ih relative.2 fun isThere => ?_
      exact (eq_or_mem_of_mem_pushNormal isThere).elim relative.1 notRooted

theorem root_mem_components_iff : .root ∈ path.components ↔ path.hasRoot = true := by
  constructor
  · intro isThere
    rw [components_eq_leading_append] at isThere
    rcases List.mem_append.1 isThere with isLeading | isInner
    · unfold leading at isLeading
      split at isLeading
      · rename_i rooted
        exact beq_iff_eq.2 rooted
      · split at isLeading <;> simp at isLeading
    · exact (isStep_of_mem_inner isInner).elim
  · intro rooted
    rw [components_of_hasRoot rooted]
    exact List.mem_cons_self

theorem root_mem_normalized_iff : .root ∈ path.normalized ↔ path.hasRoot = true := by
  rw [← root_mem_components_iff]
  refine ⟨mem_components_of_mem_normalized, fun isThere => List.mem_reverse.2 ?_⟩
  rw [components_of_hasRoot (root_mem_components_iff.1 isThere), List.foldl_cons]
  exact mem_foldl_pushNormal (by simp) (List.mem_singleton_self _)

theorem place_of_relative (relative : path.hasRoot = false) : path.place = path.normalized := by
  have noRoot : .root ∉ path.components := by
    rw [root_mem_components_iff, relative]
    exact Bool.false_ne_true
  rw [place, foldl_pushPlace_eq noRoot List.not_mem_nil, normalized]

/-! ## The order of normal forms -/

/-- Whether a component may be behind another one in a normal form: the root is behind
nothing, and a step up is not behind a name. -/
def MayFollow (former latter : Component) : Prop :=
  latter.IsStep ∧ (latter = .up → ∀ text, former ≠ .name text)

theorem pairwise_pushNormal (isStep : component.IsStep)
    (ordered : reversed.reverse.Pairwise MayFollow) :
    (pushNormal reversed component).reverse.Pairwise MayFollow := by
  have behind (notName : component = .up → ∀ former ∈ reversed, ∀ text, former ≠ .name text) :
      (component :: reversed).reverse.Pairwise MayFollow := by
    rw [List.reverse_cons, List.pairwise_append]
    refine ⟨ordered, List.pairwise_singleton _ _, fun former isFormer latter isLatter => ?_⟩
    rw [List.mem_singleton.1 isLatter]
    exact ⟨isStep, fun isUp => notName isUp former (List.mem_reverse.1 isFormer)⟩
  cases component with
  | root | here => exact isStep.elim
  | name text => exact behind nofun
  | up =>
      cases reversed with
      | nil => exact behind fun _ _ isFormer => nomatch isFormer
      | cons last rest =>
          rw [List.reverse_cons, List.pairwise_append] at ordered
          obtain ⟨orderedRest, _, follows⟩ := ordered
          have lastFollows : ∀ former ∈ rest, MayFollow former last := fun former isFormer =>
            follows former (List.mem_reverse.2 isFormer) last (List.mem_singleton_self _)
          cases last with
          | name text => exact orderedRest
          | up =>
              refine behind fun _ former isFormer => ?_
              rcases List.mem_cons.1 isFormer with rfl | inRest
              · exact nofun
              · exact (lastFollows former inRest).2 rfl
          | root | here =>
              refine behind fun _ former isFormer => ?_
              rcases List.mem_cons.1 isFormer with rfl | inRest
              · exact nofun
              · exact (lastFollows former inRest).1.elim

theorem pairwise_foldl_pushNormal (areSteps : ∀ step ∈ components, step.IsStep)
    (ordered : reversed.reverse.Pairwise MayFollow) :
    (components.foldl pushNormal reversed).reverse.Pairwise MayFollow := by
  induction components generalizing reversed with
  | nil => exact ordered
  | cons component rest ih =>
      rw [List.forall_mem_cons] at areSteps
      exact ih areSteps.2 (pairwise_pushNormal areSteps.1 ordered)

theorem pairwise_normalized (path : Path) : path.normalized.Pairwise MayFollow := by
  rw [normalized, components_eq_leading_append, List.foldl_append]
  refine pairwise_foldl_pushNormal (fun step => isStep_of_mem_inner) ?_
  rcases leading_cases path.text.toList with leads | leads | leads <;>
    simp [leads, pushNormal]

/-! ## Where two normal forms part -/

/-- `Fork source target shared back forth` means that two normal forms part behind what they
share, where `back` and `forth` remain. -/
structure Fork (source target shared back forth : List Component) : Prop where
  source_eq : source = shared ++ back
  target_eq : target = shared ++ forth
  apart : ∀ component ∈ back.head?, component ∉ forth.head?

theorem exists_fork (source target : List Component) :
    ∃ shared back forth, Fork source target shared back forth ∧
      commonLength source target = shared.length := by
  induction source generalizing target with
  | nil => exact ⟨[], [], target, ⟨rfl, rfl, nofun⟩, by cases target <;> rfl⟩
  | cons first rest ih =>
      cases target with
      | nil => exact ⟨[], first :: rest, [], ⟨rfl, rfl, fun _ _ => nofun⟩, rfl⟩
      | cons other others =>
          by_cases same : first = other
          · subst same
            obtain ⟨shared, back, forth, fork, common⟩ := ih others
            refine ⟨first :: shared, back, forth, ⟨?_, ?_, fork.apart⟩, ?_⟩
            · rw [fork.source_eq, List.cons_append]
            · rw [fork.target_eq, List.cons_append]
            · rw [commonLength, if_pos rfl, common, List.length_cons]
          · refine ⟨[], first :: rest, other :: others, ⟨rfl, rfl, ?_⟩, ?_⟩
            · rintro component ⟨rfl⟩ ⟨rfl⟩
              exact same rfl
            · rw [commonLength, if_neg same, List.length_nil]

/-- A root in a normal form is its first component. -/
theorem exists_eq_root_cons (ordered : components.Pairwise MayFollow)
    (isThere : .root ∈ components) : ∃ rest, components = .root :: rest := by
  cases components with
  | nil => cases isThere
  | cons first rest =>
      rcases List.mem_cons.1 isThere with rfl | inRest
      · exact ⟨rest, rfl⟩
      · exact ((List.pairwise_cons.1 ordered).1 _ inRest).1.elim

/-- Steps with one up among them start with one. -/
theorem head?_eq_up (ordered : components.Pairwise MayFollow)
    (areSteps : ∀ step ∈ components, step.IsStep) (goesUp : .up ∈ components) :
    components.head? = some .up := by
  cases components with
  | nil => cases goesUp
  | cons first rest =>
      rcases List.mem_cons.1 goesUp with rfl | inRest
      · rfl
      · have notName := ((List.pairwise_cons.1 ordered).1 _ inRest).2 rfl
        have isStep := areSteps first List.mem_cons_self
        cases first with
        | root | here => exact isStep.elim
        | up => rfl
        | name text => exact absurd rfl (notName text)

theorem isStep_of_mem_normalized (member : component ∈ path.normalized)
    (notRoot : component ≠ .root) : component.IsStep :=
  (isPart_of_mem_normalized member).resolve_left notRoot

namespace Fork

variable {shared back forth : List Component}

/-- What remains of two normal forms that are both rooted or both relative are steps. -/
theorem isStep (fork : Fork start.normalized path.normalized shared back forth)
    (same : start.hasRoot = path.hasRoot) :
    (∀ step ∈ back, step.IsStep) ∧ ∀ step ∈ forth, step.IsStep := by
  have sameRoot : .root ∈ start.normalized ↔ .root ∈ path.normalized := by
    rw [root_mem_normalized_iff, root_mem_normalized_iff, same]
  have orderedSource := pairwise_normalized start
  have orderedTarget := pairwise_normalized path
  cases shared with
  | cons first others =>
      rw [fork.source_eq, List.pairwise_append] at orderedSource
      rw [fork.target_eq, List.pairwise_append] at orderedTarget
      exact ⟨fun step isStep => (orderedSource.2.2 first List.mem_cons_self step isStep).1,
        fun step isStep => (orderedTarget.2.2 first List.mem_cons_self step isStep).1⟩
  | nil =>
      -- if one of the two started at the root, so would the other, and they would share it
      have notRooted : .root ∉ start.normalized := by
        intro isRooted
        obtain ⟨_, source⟩ := exists_eq_root_cons orderedSource isRooted
        obtain ⟨_, target⟩ := exists_eq_root_cons orderedTarget (sameRoot.1 isRooted)
        refine fork.apart .root ?_ ?_
        · rw [← List.nil_append back, ← fork.source_eq, source]
          rfl
        · rw [← List.nil_append forth, ← fork.target_eq, target]
          rfl
      have source : start.normalized = back := fork.source_eq
      have target : path.normalized = forth := fork.target_eq
      constructor
      · rw [← source]
        exact fun step isStep => isStep_of_mem_normalized isStep fun isRoot =>
          notRooted (isRoot ▸ isStep)
      · rw [← target]
        exact fun step isStep => isStep_of_mem_normalized isStep fun isRoot =>
          notRooted (sameRoot.2 (isRoot ▸ isStep))

/-- The way back goes up over a step up only when no names are shared, and then the way forth
has none. -/
theorem of_up_mem_back (fork : Fork start.normalized path.normalized shared back forth)
    (same : start.hasRoot = path.hasRoot) (goesUp : .up ∈ back) :
    (∀ former ∈ shared, ∀ text, former ≠ .name text) ∧ .up ∉ forth := by
  have orderedSource := pairwise_normalized start
  have orderedTarget := pairwise_normalized path
  rw [fork.source_eq, List.pairwise_append] at orderedSource
  rw [fork.target_eq, List.pairwise_append] at orderedTarget
  obtain ⟨areSteps, areStepsForth⟩ := fork.isStep same
  refine ⟨fun former isShared => (orderedSource.2.2 former isShared .up goesUp).2 rfl, ?_⟩
  intro goesUpForth
  exact fork.apart .up (head?_eq_up orderedSource.2.1 areSteps goesUp)
    (head?_eq_up orderedTarget.2.1 areStepsForth goesUpForth)

end Fork

/-! ## Going up and down -/

/-- Going up once for every step leads back, unless one of the steps is up; at the root, it
leads back anyway. -/
theorem foldl_pushPlace_back {back stack : List Component} (ordered : back.Pairwise MayFollow)
    (areSteps : ∀ step ∈ back, step.IsStep) (atRoot : .up ∈ back → stack = [.root]) :
    (List.replicate back.length .up).foldl pushPlace (back.foldl pushPlace stack) = stack := by
  induction back generalizing stack with
  | nil => rfl
  | cons step rest ih =>
      obtain ⟨follows, orderedRest⟩ := List.pairwise_cons.1 ordered
      rw [List.forall_mem_cons] at areSteps
      rw [List.length_cons, List.replicate_succ', List.foldl_append, List.foldl_cons,
        List.foldl_nil, List.foldl_cons]
      cases step with
      | root | here => exact areSteps.1.elim
      | up =>
          rw [atRoot List.mem_cons_self]
          have stays : pushPlace [.root] .up = [.root] := rfl
          rw [stays, ih orderedRest areSteps.2 fun _ => rfl]
          rfl
      | name text =>
          have pushed : pushPlace stack (.name text) = .name text :: stack := rfl
          rw [pushed, ih orderedRest areSteps.2 fun goesUp =>
            absurd rfl ((follows .up goesUp).2 rfl text)]
          rfl

/-- From the root, no number of steps up leads away. -/
theorem foldl_pushPlace_of_up {components : List Component}
    (allUp : ∀ component ∈ components, component = .up) :
    components.foldl pushPlace [.root] = [.root] := by
  induction components with
  | nil => rfl
  | cons component rest ih =>
      rw [List.forall_mem_cons] at allUp
      rw [allUp.1]
      exact ih allUp.2

/-- Steps up are not undone. -/
theorem count_up_le_foldl_pushPlace (components reversed : List Component) :
    reversed.count .up ≤ (components.foldl pushPlace reversed).count .up := by
  induction components generalizing reversed with
  | nil => exact le_rfl
  | cons component rest ih =>
      refine le_trans ?_ (ih (pushPlace reversed component))
      unfold pushPlace
      split
      · exact le_rfl
      · exact le_rfl
      · exact le_rfl
      · exact List.count_le_count_cons

theorem ascents_eq_count (relative : path.hasRoot = false) :
    path.ascents = path.normalized.count .up := by
  have ordered := pairwise_normalized path
  have areSteps : ∀ step ∈ path.normalized, step.IsStep := by
    intro step isStep
    refine isStep_of_mem_normalized isStep fun isRoot => ?_
    rw [isRoot, root_mem_normalized_iff, relative] at isStep
    cases isStep
  rw [ascents, place_of_relative relative]
  generalize path.normalized = steps at ordered areSteps
  induction steps with
  | nil => rfl
  | cons step rest ih =>
      obtain ⟨follows, orderedRest⟩ := List.pairwise_cons.1 ordered
      rw [List.forall_mem_cons] at areSteps
      cases step with
      | root | here => exact areSteps.1.elim
      | up =>
          rw [List.takeWhile_cons_of_pos rfl, List.length_cons, ih orderedRest areSteps.2,
            List.count_cons_self]
      | name text =>
          have noneUp : .up ∉ .name text :: rest := by
            rw [List.mem_cons, not_or]
            exact ⟨nofun, fun goesUp => (follows .up goesUp).2 rfl text rfl⟩
          rw [List.takeWhile_cons_of_neg (by simp), List.count_eq_zero_of_not_mem noneUp,
            List.length_nil]

/-! ## Ways -/

/-- Joining a relative path leads from the place of the directory on. -/
theorem foldl_pushPlace_join {below : Path} (relative : below.hasRoot = false) :
    (start.join below).components.foldl pushPlace [] =
      below.components.foldl pushPlace (start.components.foldl pushPlace []) := by
  by_cases empty : start.text.toList = []
  · have joined : start.join below = below := by
      cases start
      simp_all [join]
    rw [joined, components_eq_nil_of_text empty, List.foldl_nil]
  · have notRoot : leading below.text.toList ≠ [.root] := by
      intro isRoot
      have isThere : .root ∈ below.components := by
        rw [components_eq_leading_append, isRoot]
        exact List.mem_cons_self
      rw [root_mem_components_iff, relative] at isThere
      cases isThere
    rw [components_join_of_ne_nil empty relative, List.foldl_append,
      components_eq_leading_append below, List.foldl_append]
    rcases (leading_cases below.text.toList).resolve_left notRoot with leads | leads <;>
      rw [leads] <;> rfl

/-- The components of a way: as many steps up as remain of the directory, and then what
remains of the path.  A way without steps leads to the directory itself. -/
theorem components_relativeTo (same : start.hasRoot = path.hasRoot) :
    ∃ shared back forth, Fork start.normalized path.normalized shared back forth ∧
      (start.relativeTo path).components =
        if back = [] ∧ forth = [] then [.here]
        else List.replicate back.length .up ++ forth := by
  obtain ⟨shared, back, forth, fork, common⟩ := exists_fork start.normalized path.normalized
  refine ⟨shared, back, forth, fork, ?_⟩
  have up : start.normalized.length - shared.length = back.length := by
    rw [fork.source_eq, List.length_append, Nat.add_sub_cancel_left]
  have down : path.normalized.drop shared.length = forth := by
    rw [fork.target_eq, List.drop_left]
  have areSteps : ∀ step ∈ List.replicate back.length .up ++ forth, step.IsStep := by
    intro step isStep
    rcases List.mem_append.1 isStep with isUp | inForth
    · rw [List.eq_of_mem_replicate isUp]
      trivial
    · exact (fork.isStep same).2 step inForth
  have spelled : (ofComponents (List.replicate back.length .up ++ forth)).components =
      List.replicate back.length .up ++ forth := by
    rw [ofComponents, components_foldl_join _ areSteps]
    rfl
  unfold relativeTo
  rw [if_neg (by simp [same])]
  dsimp only
  rw [common, up, down]
  by_cases nothing : back = [] ∧ forth = []
  · rw [if_pos nothing, nothing.1, nothing.2]
    decide
  · rw [if_neg nothing, if_neg, spelled]
    rw [String.isEmpty_iff]
    intro noText
    apply nothing
    rw [components_eq_nil_of_text (by rw [noText]; rfl)] at spelled
    simpa using spelled.symm

theorem hasRoot_relativeTo (same : start.hasRoot = path.hasRoot) :
    (start.relativeTo path).hasRoot = false := by
  obtain ⟨shared, back, forth, fork, spelled⟩ := components_relativeTo same
  rw [← Bool.not_eq_true, ← root_mem_components_iff, spelled]
  split
  · simp
  · rw [List.mem_append, not_or]
    exact ⟨fun isUp => absurd (List.eq_of_mem_replicate isUp) nofun, (fork.isStep same).2 .root⟩

theorem components_relativeTo_ne_nil (same : start.hasRoot = path.hasRoot) :
    (start.relativeTo path).components ≠ [] := by
  obtain ⟨shared, back, forth, fork, spelled⟩ := components_relativeTo same
  rw [spelled]
  split
  · exact List.cons_ne_nil _ _
  · rename_i something
    simpa using something

/-- From the directory on, a way goes back to where both part and then forth.  It leads to the
path unless it goes up over steps up that are not at the root. -/
theorem place_join_relativeTo (same : start.hasRoot = path.hasRoot) :
    ∃ shared back forth, Fork start.normalized path.normalized shared back forth ∧
      ((Component.up ∈ back → shared.foldl pushPlace [] = [.root]) →
        (start.join (start.relativeTo path)).place = path.place) := by
  obtain ⟨shared, back, forth, fork, spelled⟩ := components_relativeTo same
  refine ⟨shared, back, forth, fork, fun atRoot => congrArg List.reverse ?_⟩
  have ordered := pairwise_normalized start
  rw [fork.source_eq, List.pairwise_append] at ordered
  have steps (stack : List Component) :
      (start.relativeTo path).components.foldl pushPlace stack =
        (List.replicate back.length Component.up ++ forth).foldl pushPlace stack := by
    rw [spelled]
    split
    · rename_i nothing
      rw [nothing.1, nothing.2]
      rfl
    · rfl
  rw [foldl_pushPlace_join (hasRoot_relativeTo same), steps, List.foldl_append,
    ← foldl_pushPlace_normalized start, fork.source_eq, List.foldl_append,
    foldl_pushPlace_back ordered.2.1 (fork.isStep same).1 atRoot, ← List.foldl_append,
    ← fork.target_eq, foldl_pushPlace_normalized]

theorem place_join_relativeTo_of_rooted (rootedStart : start.hasRoot = true)
    (rooted : path.hasRoot = true) :
    (start.join (start.relativeTo path)).place = path.place := by
  have same : start.hasRoot = path.hasRoot := rootedStart.trans rooted.symm
  obtain ⟨shared, back, forth, fork, leads⟩ := place_join_relativeTo same
  refine leads fun goesUp => ?_
  have notNames := (fork.of_up_mem_back same goesUp).1
  have ordered := pairwise_normalized start
  obtain ⟨rest, source⟩ := exists_eq_root_cons ordered (root_mem_normalized_iff.2 rootedStart)
  rw [fork.source_eq] at source ordered
  cases shared with
  | nil =>
      rw [List.nil_append] at source
      exact ((fork.isStep same).1 .root (source ▸ List.mem_cons_self)).elim
  | cons first others =>
      obtain ⟨rfl, _⟩ := List.cons.inj source
      refine foldl_pushPlace_of_up fun component isShared => ?_
      have isStep := ((List.pairwise_cons.1 ordered).1 component
        (List.mem_append_left _ isShared)).1
      cases component with
      | root | here => exact isStep.elim
      | up => rfl
      | name text => exact absurd rfl (notNames _ (List.mem_cons_of_mem _ isShared) text)

/-- Between relative paths a way can be spelled when the directory does not start with more
steps up. -/
theorem place_join_relativeTo_iff (relativeStart : start.hasRoot = false)
    (relative : path.hasRoot = false) :
    (start.join (start.relativeTo path)).place = path.place ↔ start.ascents ≤ path.ascents := by
  have same : start.hasRoot = path.hasRoot := relativeStart.trans relative.symm
  constructor
  · intro samePlace
    have more := count_up_le_foldl_pushPlace (start.relativeTo path).components
      (start.components.foldl pushPlace [])
    rw [← foldl_pushPlace_join (hasRoot_relativeTo same), ← List.count_reverse,
      ← List.count_reverse (l := (start.join _).components.foldl pushPlace [])] at more
    rw [ascents_eq_count relativeStart, ascents_eq_count relative,
      ← place_of_relative relativeStart, ← place_of_relative relative, ← samePlace]
    exact more
  · intro fewer
    obtain ⟨shared, back, forth, fork, leads⟩ := place_join_relativeTo same
    refine leads fun goesUp => absurd fewer (Nat.not_le.2 ?_)
    have notForth := (fork.of_up_mem_back same goesUp).2
    rw [ascents_eq_count relativeStart, ascents_eq_count relative, fork.source_eq,
      fork.target_eq, List.count_append, List.count_append,
      List.count_eq_zero_of_not_mem notForth]
    exact Nat.lt_add_of_pos_right (List.count_pos_iff.2 goesUp)

/-! ## Ways with backslashes -/

/-- A relative path with backslashes can be taken apart at them. -/
theorem splitOn_windowsText (relative : path.hasRoot = false) (nonempty : path.components ≠ [])
    (backslashless : ∀ component ∈ path.components, '\\' ∉ component.text.toList) :
    List.splitOn '\\' path.windowsText.toList = path.components.map (·.text.toList) := by
  have texts : path.windowsText = "\\".intercalate (path.components.map Component.text) := by
    unfold windowsText
    congr 1
    refine List.map_congr_left fun component member => ?_
    cases component with
    | root =>
        rw [root_mem_components_iff, relative] at member
        cases member
    | here | up | name => rfl
  rw [texts, String.toList_intercalate, List.map_map]
  refine List.splitOn_intercalate '\\' (fun text isText => ?_) (by simpa using nonempty)
  obtain ⟨component, member, rfl⟩ := List.mem_map.1 isText
  exact backslashless component member

/-- The way from a directory to a path: where it leads, and how it is written. -/
structure LeadsTo (start path : Path) : Prop where
  rooted : start.hasRoot = true → path.hasRoot = true →
    (start.join (start.relativeTo path)).place = path.place
  relative : start.hasRoot = false → path.hasRoot = false →
    ((start.join (start.relativeTo path)).place = path.place ↔ start.ascents ≤ path.ascents)
  isRelative : start.hasRoot = path.hasRoot → (start.relativeTo path).hasRoot = false
  nonempty : start.hasRoot = path.hasRoot → (start.relativeTo path).text ≠ ""
  windows : start.hasRoot = path.hasRoot →
    (∀ component ∈ (start.relativeTo path).components, '\\' ∉ component.text.toList) →
    List.splitOn '\\' (start.relativeTo path).windowsText.toList =
      (start.relativeTo path).components.map (·.text.toList)

theorem relativeTo_leadsTo (start path : Path) : LeadsTo start path where
  rooted := place_join_relativeTo_of_rooted
  relative := place_join_relativeTo_iff
  isRelative := hasRoot_relativeTo
  nonempty same noText := by
    refine components_relativeTo_ne_nil same (components_eq_nil_of_text ?_)
    rw [noText]
    rfl
  windows same := splitOn_windowsText (hasRoot_relativeTo same) (components_relativeTo_ne_nil same)

/-- The name of the directory above the start would have to be known. -/
example :
    (Path.mk "..").relativeTo ⟨"app"⟩ = ⟨"../app"⟩ ∧
      ((Path.mk "..").join ⟨"../app"⟩).place = [.up, .up, .name "app"] := by
  decide +kernel

end ProjectFiles.Path
