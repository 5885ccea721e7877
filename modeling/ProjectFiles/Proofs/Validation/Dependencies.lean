import ProjectFiles.Generation.Context
import ProjectFiles.Proofs.Error
import ProjectFiles.Proofs.Path.Key
import ProjectFiles.Proofs.Validation.Acceptance

/-!
# References to other projects

Many references can name one project.  Only the first of them counts, and it decides
whether the project is referred to in the generated file: a project whose first reference is
exported is left out, whatever the references behind it say.
-/

namespace ProjectFiles

namespace ProjectReference

/-- What tells referenced projects apart. -/
def identity (reference : ProjectReference) : List Path.Component × Guid :=
  (reference.projectFile.components, reference.guid)

/-- The place at which the project of a reference is first referred to. -/
def firstSeen (references : List ProjectReference) (reference : ProjectReference) : Nat :=
  (references.map identity).idxOf reference.identity

/-- `FirstOfEach references entries` means that entries are the first references of each
project, in their order. -/
structure FirstOfEach (references entries : List ProjectReference) : Prop where
  mem_iff : ∀ reference, reference ∈ entries ↔
    references[firstSeen references reference]? = some reference
  increasing : entries.Pairwise fun left right =>
    firstSeen references left < firstSeen references right

/-- The references that get an entry in generated files. -/
def unexported (references : List ProjectReference) : List ProjectReference :=
  references.filter fun reference => !reference.exported

variable {references entries : List ProjectReference} {reference other : ProjectReference}

theorem sameIdentity_iff : other.sameIdentity reference = true ↔
    other.identity = reference.identity := by
  simp [sameIdentity, identity, Path.same_iff]

theorem mem_unexported_iff :
    reference ∈ unexported references ↔ reference ∈ references ∧ reference.exported = false := by
  simp [unexported]

/-! ## First references -/

theorem firstSeen_lt_length_iff : firstSeen references reference < references.length ↔
    reference.identity ∈ references.map identity := by
  rw [firstSeen, ← List.idxOf_lt_length_iff, List.length_map]

/-- A project that is referred to has a first reference. -/
theorem exists_first (isReferred : reference.identity ∈ references.map identity) :
    ∃ first, references[firstSeen references reference]? = some first ∧
      first.identity = reference.identity := by
  have bound := firstSeen_lt_length_iff.2 isReferred
  refine ⟨references[firstSeen references reference], List.getElem?_eq_getElem bound, ?_⟩
  have found := List.getElem_idxOf (List.idxOf_lt_length_of_mem isReferred)
  rw [← found, List.getElem_map]
  rfl

theorem firstSeen_congr (same : other.identity = reference.identity) :
    firstSeen references other = firstSeen references reference := by
  rw [firstSeen, firstSeen, same]

theorem firstSeen_append_of_mem {latter : List ProjectReference}
    (isReferred : reference.identity ∈ references.map identity) :
    firstSeen (references ++ latter) reference = firstSeen references reference := by
  rw [firstSeen, List.map_append, List.idxOf_append_of_mem isReferred, firstSeen]

theorem firstSeen_concat_self (isNew : reference.identity ∉ references.map identity) :
    firstSeen (references ++ [reference]) reference = references.length := by
  rw [firstSeen, List.map_append, List.idxOf_append_of_notMem isNew]
  simp

namespace FirstOfEach

theorem mem (first : FirstOfEach references entries) (isEntry : reference ∈ entries) :
    reference ∈ references :=
  List.mem_of_getElem? ((first.mem_iff reference).1 isEntry)

/-- Every project that is referred to has an entry, and no other has. -/
theorem mem_map_identity_iff (first : FirstOfEach references entries)
    {key : List Path.Component × Guid} :
    key ∈ entries.map identity ↔ key ∈ references.map identity := by
  constructor
  · intro listed
    obtain ⟨entry, isEntry, rfl⟩ := List.mem_map.1 listed
    exact List.mem_map_of_mem (first.mem isEntry)
  · intro isReferred
    obtain ⟨reference, _, rfl⟩ := List.mem_map.1 isReferred
    obtain ⟨entry, isFirst, same⟩ := exists_first isReferred
    rw [← same]
    refine List.mem_map_of_mem ((first.mem_iff entry).2 ?_)
    rwa [firstSeen_congr same]

/-- Entries have different projects. -/
theorem nodup_identity (first : FirstOfEach references entries) :
    (entries.map identity).Nodup := by
  refine List.pairwise_map.2 (first.increasing.imp fun {left right} below same => ?_)
  rw [firstSeen_congr same] at below
  exact lt_irrefl _ below

theorem nil : FirstOfEach [] [] where
  mem_iff := by simp
  increasing := .nil

/-- Another reference to a project does not count. -/
theorem concat_of_mem (first : FirstOfEach references entries)
    (isReferred : other.identity ∈ references.map identity) :
    FirstOfEach (references ++ [other]) entries where
  mem_iff reference := by
    by_cases isOld : reference.identity ∈ references.map identity
    · rw [first.mem_iff, firstSeen_append_of_mem isOld,
        List.getElem?_append_left (firstSeen_lt_length_iff.2 isOld)]
    · constructor
      · intro isEntry
        exact absurd (List.mem_map_of_mem (first.mem isEntry)) isOld
      · intro isFirst
        rcases List.mem_append.1 (List.mem_of_getElem? isFirst) with isMember | isLast
        · exact absurd (List.mem_map_of_mem isMember) isOld
        · rw [List.mem_singleton.1 isLast] at isOld
          exact absurd isReferred isOld
  increasing := first.increasing.imp_of_mem fun isLeft isRight below => by
    rwa [firstSeen_append_of_mem (List.mem_map_of_mem (first.mem isLeft)),
      firstSeen_append_of_mem (List.mem_map_of_mem (first.mem isRight))]

/-- The first reference to a project does. -/
theorem concat_of_notMem (first : FirstOfEach references entries)
    (isNew : other.identity ∉ references.map identity) :
    FirstOfEach (references ++ [other]) (entries ++ [other]) where
  mem_iff reference := by
    rw [List.mem_append, List.mem_singleton, first.mem_iff]
    by_cases isOld : reference.identity ∈ references.map identity
    · have differs : reference ≠ other := by
        rintro rfl
        exact isNew isOld
      rw [firstSeen_append_of_mem isOld,
        List.getElem?_append_left (firstSeen_lt_length_iff.2 isOld)]
      simp [differs]
    · have unlisted : references[firstSeen references reference]? ≠ some reference :=
        fun isFirst => isOld (List.mem_map_of_mem (List.mem_of_getElem? isFirst))
      constructor
      · intro isEither
        obtain rfl := isEither.resolve_left unlisted
        rw [firstSeen_concat_self isNew, List.getElem?_concat_length]
      · intro isFirst
        rcases List.mem_append.1 (List.mem_of_getElem? isFirst) with isMember | isLast
        · exact absurd (List.mem_map_of_mem isMember) isOld
        · exact .inr (List.mem_singleton.1 isLast)
  increasing := by
    refine List.pairwise_append.2 ⟨first.increasing.imp_of_mem fun isLeft isRight below => ?_,
      List.pairwise_singleton _ _, fun left isLeft right isRight => ?_⟩
    · rwa [firstSeen_append_of_mem (List.mem_map_of_mem (first.mem isLeft)),
        firstSeen_append_of_mem (List.mem_map_of_mem (first.mem isRight))]
    · have isReferred : left.identity ∈ references.map identity :=
        List.mem_map_of_mem (first.mem isLeft)
      rw [List.mem_singleton.1 isRight, firstSeen_concat_self isNew,
        firstSeen_append_of_mem isReferred]
      exact firstSeen_lt_length_iff.2 isReferred

end FirstOfEach

/-! ## Distinct references -/

theorem any_sameIdentity_iff :
    (entries.any fun other => other.sameIdentity reference) = true ↔
      reference.identity ∈ entries.map identity := by
  simp only [List.any_eq_true, sameIdentity_iff, List.mem_map]

theorem distinct_concat : distinct (references ++ [reference]) =
    if reference.identity ∈ (distinct references).map identity then distinct references
    else distinct references ++ [reference] := by
  simp only [distinct, List.foldl_append, List.foldl_cons, List.foldl_nil, any_sameIdentity_iff]

theorem firstOfEach_distinct (references : List ProjectReference) :
    FirstOfEach references (distinct references) := by
  induction references using List.reverseRecOn with
  | nil => exact .nil
  | append_singleton references reference first =>
      rw [distinct_concat]
      split
      · rename_i isReferred
        exact first.concat_of_mem (first.mem_map_identity_iff.1 isReferred)
      · rename_i isNew
        exact first.concat_of_notMem fun isReferred =>
          isNew (first.mem_map_identity_iff.2 isReferred)

theorem distinct_concat_of_mem (isReferred : reference.identity ∈ references.map identity) :
    distinct (references ++ [reference]) = distinct references := by
  rw [distinct_concat, if_pos ((firstOfEach_distinct references).mem_map_identity_iff.2 isReferred)]

theorem distinct_concat_of_notMem (isNew : reference.identity ∉ references.map identity) :
    distinct (references ++ [reference]) = distinct references ++ [reference] := by
  rw [distinct_concat, if_neg]
  exact fun listed => isNew ((firstOfEach_distinct references).mem_map_identity_iff.1 listed)

/-! ## Exported references -/

/-- Whether a project that has an unexported reference is first referred to by one. -/
def UnexportedFirst (references : List ProjectReference) : Prop :=
  ∀ reference ∈ unexported references, ∀ first,
    references[firstSeen references reference]? = some first → first.exported = false

theorem unexported_concat_of_exported (isExported : reference.exported = true) :
    unexported (references ++ [reference]) = unexported references := by
  simp [unexported, isExported]

theorem unexported_concat_of_unexported (isUnexported : reference.exported = false) :
    unexported (references ++ [reference]) = unexported references ++ [reference] := by
  simp [unexported, isUnexported]

theorem mem_map_identity_of_mem_unexported (isMember : reference ∈ unexported references) :
    reference.identity ∈ references.map identity :=
  List.mem_map_of_mem (mem_unexported_iff.1 isMember).1

theorem UnexportedFirst.of_concat (unexportedFirst : UnexportedFirst (references ++ [other])) :
    UnexportedFirst references := by
  intro reference isMember first isFirst
  have isReferred := mem_map_identity_of_mem_unexported isMember
  refine unexportedFirst reference ?_ first ?_
  · rw [mem_unexported_iff] at isMember ⊢
    exact ⟨List.mem_append_left _ isMember.1, isMember.2⟩
  · rwa [firstSeen_append_of_mem isReferred,
      List.getElem?_append_left (firstSeen_lt_length_iff.2 isReferred)]

/-- A project is not first referred to by an exported reference when an unexported one
follows. -/
theorem UnexportedFirst.mem_of_concat (unexportedFirst : UnexportedFirst (references ++ [other]))
    (isUnexported : other.exported = false)
    (isReferred : other.identity ∈ references.map identity) :
    other.identity ∈ (unexported references).map identity := by
  obtain ⟨first, isFirst, same⟩ := exists_first isReferred
  have isLast : other ∈ unexported (references ++ [other]) :=
    mem_unexported_iff.2 ⟨List.mem_append_right _ (List.mem_singleton_self _), isUnexported⟩
  have firstUnexported : first.exported = false := by
    refine unexportedFirst other isLast first ?_
    rwa [firstSeen_append_of_mem isReferred,
      List.getElem?_append_left (firstSeen_lt_length_iff.2 isReferred)]
  rw [← same]
  exact List.mem_map_of_mem
    (mem_unexported_iff.2 ⟨List.mem_of_getElem? isFirst, firstUnexported⟩)

/-- Where unexported references come first, exported ones can be left out before or after
the repetitions are. -/
theorem unexported_distinct (unexportedFirst : UnexportedFirst references) :
    unexported (distinct references) = distinct (unexported references) := by
  induction references using List.reverseRecOn with
  | nil => rfl
  | append_singleton references reference ih =>
      have same := ih unexportedFirst.of_concat
      by_cases isReferred : reference.identity ∈ references.map identity
      · rw [distinct_concat_of_mem isReferred]
        cases isExported : reference.exported with
        | true => rw [unexported_concat_of_exported isExported, same]
        | false =>
            rw [unexported_concat_of_unexported isExported, same,
              distinct_concat_of_mem (unexportedFirst.mem_of_concat isExported isReferred)]
      · rw [distinct_concat_of_notMem isReferred]
        cases isExported : reference.exported with
        | true => rw [unexported_concat_of_exported isExported,
            unexported_concat_of_exported isExported, same]
        | false =>
            have isNew : reference.identity ∉ (unexported references).map identity := by
              intro listed
              obtain ⟨other, isMember, sameProject⟩ := List.mem_map.1 listed
              exact isReferred (sameProject ▸ mem_map_identity_of_mem_unexported isMember)
            rw [unexported_concat_of_unexported isExported,
              unexported_concat_of_unexported isExported, distinct_concat_of_notMem isNew, same]

/-- The unexported ones among the first references are the first unexported ones just when
unexported references come first. -/
theorem firstOfEach_unexported_distinct_iff :
    FirstOfEach (unexported references) (unexported (distinct references)) ↔
      UnexportedFirst references := by
  constructor
  · intro areFirst reference isMember first isFirst
    obtain ⟨entry, isEntry, same⟩ := List.mem_map.1
      (areFirst.mem_map_identity_iff.2 (List.mem_map_of_mem isMember))
    obtain ⟨isDistinct, isUnexported⟩ := mem_unexported_iff.1 isEntry
    have alsoFirst := ((firstOfEach_distinct references).mem_iff entry).1 isDistinct
    rw [firstSeen_congr same, isFirst] at alsoFirst
    rwa [Option.some.inj alsoFirst]
  · intro unexportedFirst
    rw [unexported_distinct unexportedFirst]
    exact firstOfEach_distinct (unexported references)

end ProjectReference

/-! ## The projects that a generated file refers to -/

namespace GenerationContext

open ProjectReference

variable {project : Project} {file : Path} {configurations : List Configuration}
variable {settings : Settings} {context : GenerationContext}

/-- All references of the configurations of a file. -/
def references (context : GenerationContext) : List ProjectReference :=
  context.configurations.flatMap (·.dependencies)

/-- A context holds its configurations in order and the unexported ones among the first
references to each project. -/
theorem new_eq_ok_iff : new project file configurations settings = .ok context ↔
    Configuration.sortAndValidate file configurations = .ok context.configurations ∧
      context.project = project ∧ context.file = file ∧ context.settings = settings ∧
      context.dependencies = unexported (distinct context.references) ∧
      ∃ found, Configuration.checkDependencyConsistency project.name context.configurations
        settings.dependencyCheck = .ok found ∧ context.warnings = found.warnings := by
  unfold new
  constructor
  · intro created
    obtain ⟨sorted, isSorted, afterSorting⟩ := ok_of_bind_eq_ok created
    obtain ⟨found, isFound, afterCheck⟩ := ok_of_bind_eq_ok afterSorting
    cases sorted with
    | nil => cases afterCheck
    | cons first others =>
        cases afterCheck
        exact ⟨isSorted, rfl, rfl, rfl, rfl, found, isFound, rfl⟩
  · rintro ⟨isSorted, rfl, rfl, rfl, areDistinct, found, isFound, isWarned⟩
    rw [isSorted, bind_ok, isFound, bind_ok]
    cases context
    simp only at areDistinct isWarned
    rw [areDistinct, isWarned]
    rfl

/-- A generated file refers to the projects whose first reference is unexported, in the
order of these references.  They are all the projects with unexported references just when
such a project is first referred to by one. -/
theorem dependencies_of_new (isNew : new project file configurations settings = .ok context) :
    (∀ reference, reference ∈ context.dependencies ↔
      context.references[firstSeen context.references reference]? = some reference ∧
        reference.exported = false) ∧
    (context.dependencies.Pairwise fun left right =>
      firstSeen context.references left < firstSeen context.references right) ∧
    (FirstOfEach (unexported context.references) context.dependencies ↔
      UnexportedFirst context.references) := by
  have areFirst := firstOfEach_distinct context.references
  obtain ⟨_, _, _, _, isListed, _⟩ := new_eq_ok_iff.1 isNew
  rw [isListed]
  refine ⟨fun reference => ?_, areFirst.increasing.sublist List.filter_sublist,
    firstOfEach_unexported_distinct_iff⟩
  rw [mem_unexported_iff, areFirst.mem_iff]

/-- A reference to a library, exported or not. -/
def libraryReference (exported : Bool) : ProjectReference where
  projectName := "Lib"
  projectFile := ⟨"/w/Lib.vcxproj"⟩
  guid := ⟨2⟩
  output := .lib
  targetFileName := "Lib"
  exported := exported

/-- Two configurations of an application that refer to the library, the first of them with
an exported reference or not. -/
def applicationConfigurations (exported : Bool) : List Configuration :=
  [{ Configuration.new "App" "Debug" "x64" with
      projectGuid := ⟨1⟩, dependencies := [libraryReference exported] },
   { Configuration.new "App" "Release" "x64" with
      projectGuid := ⟨1⟩, dependencies := [libraryReference false] }]

/-- The context of the file of the application. -/
def applicationContext (exported : Bool) : GenerationContext where
  project :=
    { name := "App", kind := .cpp, sourceRoot := ⟨"/w"⟩, sourceFiles := [],
      configurations := applicationConfigurations exported }
  file := ⟨"/w/App.vcxproj"⟩
  first := (applicationConfigurations exported).head (List.cons_ne_nil _ _)
  others := (applicationConfigurations exported).tail
  dependencies := unexported [libraryReference exported]
  settings := {}
  warnings := []

theorem belongTogether_applicationConfigurations (exported : Bool) :
    Configuration.BelongTogether (applicationConfigurations exported) where
  nonempty := List.cons_ne_nil _ _
  names := by unfold Configuration.Agree applicationConfigurations; simp [Configuration.new]
  guids := by unfold Configuration.Agree applicationConfigurations; simp
  apart := by simp [applicationConfigurations, Configuration.new, Configuration.identity]

theorem new_applicationContext (exported : Bool) :
    new (applicationContext exported).project ⟨"/w/App.vcxproj"⟩
      (applicationConfigurations exported) {} = .ok (applicationContext exported) := by
  refine new_eq_ok_iff.2 ⟨Configuration.sortAndValidate_eq_ok_iff.2
    ⟨belongTogether_applicationConfigurations exported, .refl _, ?_⟩, rfl, rfl, rfl, ?_,
      .new, ?_, rfl⟩
  · cases exported <;> decide +kernel
  · cases exported <;> decide +kernel
  · cases exported <;> decide +kernel

/-- Where no configuration exports the library, it is the one project referred to. -/
theorem dependencies_of_new_application :
    new (applicationContext false).project ⟨"/w/App.vcxproj"⟩ (applicationConfigurations false) {} =
      .ok (applicationContext false) ∧
    FirstOfEach (unexported (applicationContext false).references)
      (applicationContext false).dependencies := by
  have isNew := new_applicationContext false
  obtain ⟨_, _, listsAll⟩ := dependencies_of_new isNew
  refine ⟨isNew, listsAll.2 fun reference _ first isFirst => ?_⟩
  have unexportedAll : ∀ reference ∈ (applicationContext false).references,
      reference.exported = false := by decide
  exact unexportedAll first (List.mem_of_getElem? isFirst)

/-- A library whose first reference is exported is left out, although the reference behind
it is not. -/
theorem dependencies_miss_unexported :
    new (applicationContext true).project ⟨"/w/App.vcxproj"⟩ (applicationConfigurations true) {} =
      .ok (applicationContext true) ∧
    libraryReference false ∈ unexported (applicationContext true).references ∧
    (applicationContext true).dependencies = [] ∧
    ¬ FirstOfEach (unexported (applicationContext true).references)
      (applicationContext true).dependencies := by
  have isAsked : libraryReference false ∈ unexported (applicationContext true).references := by
    decide
  refine ⟨new_applicationContext true, isAsked, rfl, fun lists => ?_⟩
  cases lists.mem_map_identity_iff.2 (List.mem_map_of_mem isAsked)

end GenerationContext

end ProjectFiles
