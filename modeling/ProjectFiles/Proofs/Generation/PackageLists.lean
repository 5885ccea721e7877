import ProjectFiles.Proofs.Generation.Minimal

/-!
# Package lists at the end of a run

The C# project files of one directory share a package list.  After a run in which
nothing has failed the list is there exactly when one of them has packages, and it is
what the first of those has made of it.  So a project file that names its list finds
it, but packages that only a later project file refers to are not in the list.
-/

namespace ProjectFiles

open Store Format Template Text

/-- Project files of one directory have one package list. -/
theorem CSharpFile.components_list (own : CSharpFile) :
    own.list.components = own.file.directory.components ++ [.name PackageList.fileName] := by
  have isStep : (Path.Component.name PackageList.fileName).IsStep := by
    refine ⟨?_, ?_, ?_, ?_⟩ <;> decide
  have joined := Path.components_join own.file.directory isStep
  dsimp only [Path.Component.text] at joined
  unfold list Path.packageList
  rw [joined]

theorem CSharpFile.same_directory_iff {own other : CSharpFile} :
    other.file.directory.same own.file.directory = true ↔
      other.list.components = own.list.components := by
  rw [Path.same_iff, components_list, components_list, List.append_cancel_right_eq]

/-- A rooted project file fills the list of another one when it has packages and is in
the same directory. -/
theorem CSharpFile.fills_iff {own other : CSharpFile} (rootedOther : other.list.hasRoot = true)
    (rooted : own.list.hasRoot = true) :
    other.fills own.list = true ↔
      other.file.directory.same own.file.directory = true ∧ other.references ≠ [] := by
  have same_iff : other.list.sameOutput own.list = true ↔
      other.list.components = own.list.components :=
    ⟨Path.components_eq_of_sameOutput rootedOther rooted, Path.sameOutput_of_components_eq⟩
  rw [fills, Bool.and_eq_true, same_iff, same_directory_iff, Bool.not_eq_true',
    List.isEmpty_eq_false_iff, and_comm]

/-- Whether contents are those that a C# project file is rendered with. -/
def CSharpFile.Renders (settings : Settings) (own : CSharpFile) (contents : String) : Prop :=
  ∃ rendered, (Builder.new settings).renderFile own.project own.file own.configurations =
    .ok rendered ∧ .file own.file contents ∈ rendered.pending

namespace Builder

variable {settings : Settings} {clock : Timestamp} {store : Store} {projects : List Project}
variable {solutions : List Solution} {report : GenerationReport} {own first : CSharpFile}

/-! ## Outputs -/

/-- In a clean run all projects are rendered, and their outputs are committed. -/
theorem IsClean.commits
    (clean : (Builder.new settings).IsClean clock store projects solutions) :
    Produces settings (csharpFiles projects) ((Builder.new settings).renderedOutputs projects) ∧
      ∃ total, CommitRun settings.overwriteReadOnly ⟨store, .new clock⟩ .empty
        ((Builder.new settings).renderedOutputs projects)
        ((Builder.new settings).afterProjects clock store projects).1 total none := by
  obtain ⟨renders, run⟩ := commitRun_of_clean clean.failures_eq_nil
  exact ⟨produces_of_rendered renders, run⟩

/-! ## Lists that are written -/

/-- A list is what the first project file with packages has made of it. -/
theorem contents?_list (clean : (Builder.new settings).IsClean clock store projects solutions)
    (found : (csharpFiles projects).find? (·.fills own.list) = some first)
    (solutionsApart : ∀ solution ∈ solutions, first.list.sameOutput solution.file = false)
    (isNotDatabase : settings.IsNotDatabase first.list) :
    ∃ contents, first.Lists settings contents ∧
      ((Builder.new settings).generate clock store projects solutions).1.contents? first.list =
        some contents := by
  obtain ⟨produces, total, run⟩ := clean.commits
  obtain ⟨earlier, contents, later, spelled, lists, unnamed⟩ := produces.exists_first found
  have fills : first.fills own.list = true := List.find?_some found
  have same : first.list.sameOutput own.list = true := by
    rw [CSharpFile.fills, Bool.and_eq_true] at fills
    exact fills.2
  have belong : ∀ pending ∈ (Builder.new settings).renderedOutputs projects,
      ∃ project, pending.BelongsTo project := by
    intro pending member
    obtain ⟨project, _, isOwn⟩ := List.mem_flatMap.1 member
    exact ⟨project, belongsTo_of_mem_pendings isOwn⟩
  rw [spelled] at run belong
  obtain ⟨produced, written⟩ := run.contents?_of_first belong rfl fun other text member => by
    rw [Path.sameOutput_comm, Path.sameOutput_congr_left same, Path.sameOutput_comm]
    exact unnamed other text member
  refine ⟨contents, lists, ?_⟩
  rw [← written]
  unfold contents?
  rw [file?_generate_of_settled produced solutionsApart isNotDatabase]

/-! ## Lists that are removed -/

/-- Nobody claims a list that no project file has packages for. -/
theorem isClaimed_list_eq_false
    (clean : (Builder.new settings).IsClean clock store projects solutions)
    (unused : ∀ other ∈ csharpFiles projects, other.fills own.list = false) :
    ((Builder.new settings).afterProjects clock store projects).1.session.isClaimed own.list =
      false := by
  obtain ⟨produces, total, run⟩ := clean.commits
  rw [Bool.eq_false_iff]
  intro claimed
  rcases run.isClaimed_cases claimed with atStart | ⟨path, contents, isShared, same⟩
  · cases atStart
  · obtain ⟨other, isOther, used, rfl⟩ := produces.exists_of_shared isShared
    have unfilled := unused other isOther
    simp [CSharpFile.fills, used, same] at unfilled

/-- A list that nobody claims is as the run has found it. -/
theorem file?_afterProjects_list
    (clean : (Builder.new settings).IsClean clock store projects solutions)
    (unused : ∀ other ∈ csharpFiles projects, other.fills own.list = false) :
    ((Builder.new settings).afterProjects clock store projects).1.store.file? own.list =
      store.file? own.list := by
  apply file?_afterProjects_of_unproduced
  rw [Bool.eq_false_iff]
  intro produced
  have isList : own.list.isPackageList = true := Path.isPackageList_packageList own.file
  have claimed := (accounts_afterProjects settings clock store projects).holdsLists
    clean.failures_eq_nil own.list isList produced
  rw [isClaimed_list_eq_false clean unused] at claimed
  cases claimed

/-- Such a list is removed behind the projects. -/
theorem file?_removeStale_list
    (clean : (Builder.new settings).IsClean clock store projects solutions)
    (member : own ∈ csharpFiles projects)
    (unused : ∀ other ∈ csharpFiles projects, other.fills own.list = false)
    (rooted : own.list.hasRoot = true)
    (unlocked : store.locked.contains own.list = false)
    (writable : ∀ old, store.file? own.list ≠ some ⟨old, true⟩) :
    (removeStale ((Builder.new settings).afterProjects clock store projects)).1.store.file?
      own.list = none := by
  obtain ⟨produces, total, run⟩ := clean.commits
  have noReferences : own.references = [] := by
    have unfilled := unused own member
    simpa [CSharpFile.fills] using unfilled
  have stale := run.stale_of_deferred (produces.staleShared_mem member noReferences)
  obtain ⟨key, taken, isKey⟩ :=
    Session.exists_mem_takeUnclaimed stale (isClaimed_list_eq_false clean unused)
  rw [Path.components_absolute_of_hasRoot rooted] at isKey
  have isStale : key ∈ staleLists ((Builder.new settings).afterProjects clock store projects) := by
    unfold staleLists
    rwa [if_pos (GenerationReport.isSuccess_of_clean clean.failures_eq_nil)]
  have kept := file?_afterProjects_list clean unused
  rw [store_removeStale]
  cases found : store.file? own.list with
  | none =>
      by_contra present
      obtain ⟨file, isFile⟩ := Option.ne_none_iff_exists'.1 present
      rw [file?_of_file?_deleteAll isFile, found] at kept
      cases kept
  | some file =>
      obtain ⟨contents, readOnly⟩ := file
      cases readOnly with
      | true => exact absurd found (writable contents)
      | false =>
          refine file?_deleteAll_of_deletable isStale isKey ⟨?_, contents, kept.trans found⟩
          rw [locked_afterProjects]
          exact unlocked

/-- A list that has gone behind the projects does not come back. -/
theorem file?_generate_of_removed {path : Path}
    (removed : (removeStale ((Builder.new settings).afterProjects clock store
      projects)).1.store.file? path = none)
    (solutionsApart : ∀ solution ∈ solutions, path.sameOutput solution.file = false)
    (isNotDatabase : settings.IsNotDatabase path) :
    ((Builder.new settings).generate clock store projects solutions).1.file? path = none := by
  have gone : ((Builder.new settings).afterSolutions clock store projects
      solutions).1.store.file? path = none := by
    unfold afterSolutions
    rw [file?_foldl_generateSolution solutionsApart, removed]
  rw [generate_eq]
  rcases (cleanUp_step (.new settings) ((Builder.new settings).afterSolutions clock store projects
    solutions)).file?_cases isNotDatabase with same | absent
  · exact same.trans gone
  · exact absent

/-! ## Lists that are there -/

/-- A list that is filled is there at the end of the run. -/
theorem file?_list_ne_none_of_fills
    (clean : (Builder.new settings).IsClean clock store projects solutions)
    (rooted : ∀ own ∈ csharpFiles projects, own.file.hasRoot = true)
    (solutionsApart : ∀ own ∈ csharpFiles projects, ∀ solution ∈ solutions,
      own.list.sameOutput solution.file = false)
    (isNotDatabase : ∀ own ∈ csharpFiles projects, settings.IsNotDatabase own.list)
    (member : own ∈ csharpFiles projects) {other : CSharpFile}
    (isOther : other ∈ csharpFiles projects) (fills : other.fills own.list = true) :
    ((Builder.new settings).generate clock store projects solutions).1.file? own.list ≠ none := by
  have rootedList : ∀ other ∈ csharpFiles projects, other.list.hasRoot = true :=
    fun other isOther => CSharpFile.hasRoot_list isOther (rooted other isOther)
  obtain ⟨first, found⟩ := Option.isSome_iff_exists.1 (List.find?_isSome.2 ⟨other, isOther, fills⟩)
  have isFirst := List.mem_of_find?_eq_some found
  obtain ⟨contents, _, written⟩ := contents?_list clean found (solutionsApart first isFirst)
    (isNotDatabase first isFirst)
  have same := (CSharpFile.fills_iff (rootedList first isFirst) (rootedList own member)).1
    (List.find?_some found)
  obtain ⟨readOnly, isThere⟩ := contents?_eq_some_iff.1 written
  rw [Store.file?_congr _ (CSharpFile.same_directory_iff.1 same.1)] at isThere
  exact Option.ne_none_iff_exists'.2 ⟨_, isThere⟩

/-- The package list of a directory is there exactly when one of the C# project files
in it has packages. -/
theorem file?_list_ne_none_iff
    (clean : (Builder.new settings).IsClean clock store projects solutions)
    (rooted : ∀ own ∈ csharpFiles projects, own.file.hasRoot = true)
    (unlocked : ∀ own ∈ csharpFiles projects, store.locked.contains own.list = false)
    (writable : ∀ own ∈ csharpFiles projects, ∀ old, store.file? own.list ≠ some ⟨old, true⟩)
    (solutionsApart : ∀ own ∈ csharpFiles projects, ∀ solution ∈ solutions,
      own.list.sameOutput solution.file = false)
    (isNotDatabase : ∀ own ∈ csharpFiles projects, settings.IsNotDatabase own.list)
    (member : own ∈ csharpFiles projects) :
    ((Builder.new settings).generate clock store projects solutions).1.file? own.list ≠ none ↔
      ∃ other ∈ csharpFiles projects,
        other.file.directory.same own.file.directory = true ∧ other.references ≠ [] := by
  have rootedList : ∀ other ∈ csharpFiles projects, other.list.hasRoot = true :=
    fun other isOther => CSharpFile.hasRoot_list isOther (rooted other isOther)
  have fills_iff : ∀ other ∈ csharpFiles projects, other.fills own.list = true ↔
      other.file.directory.same own.file.directory = true ∧ other.references ≠ [] :=
    fun other isOther => CSharpFile.fills_iff (rootedList other isOther) (rootedList own member)
  constructor
  · intro isThere
    by_contra nobody
    have unused : ∀ other ∈ csharpFiles projects, other.fills own.list = false := by
      intro other isOther
      rw [Bool.eq_false_iff]
      exact fun fills => nobody ⟨other, isOther, (fills_iff other isOther).1 fills⟩
    have removed := file?_removeStale_list clean member unused (rootedList own member)
      (unlocked own member) (writable own member)
    exact isThere
      (file?_generate_of_removed removed (solutionsApart own member) (isNotDatabase own member))
  · rintro ⟨other, isOther, used⟩
    exact file?_list_ne_none_of_fills clean rooted solutionsApart isNotDatabase member isOther
      ((fills_iff other isOther).2 used)

/-! ## Rendered project files -/

/-- Files of a project that is rendered are rendered one by one. -/
theorem exists_renderFile {builder : Builder} {project : Project}
    {groups : List (Path × List Configuration)} {rendered : RenderedProject}
    (renders : builder.renderFiles project groups = .ok rendered)
    {group : Path × List Configuration} (member : group ∈ groups) :
    ∃ first, builder.renderFile project group.1 group.2 = .ok first := by
  induction groups generalizing rendered with
  | nil => cases member
  | cons head rest ih =>
      unfold renderFiles at renders
      split at renders
      · cases renders
      · rename_i first isFirst
        cases others : builder.renderFiles project rest with
        | error failure => rw [others] at renders; cases renders
        | ok behind =>
            rcases List.mem_cons.1 member with rfl | inRest
            · exact ⟨first, isFirst⟩
            · exact ih others inRest

/-- A C# project file of a clean run names its list exactly when it has packages. -/
theorem exists_contents (clean : (Builder.new settings).IsClean clock store projects solutions)
    (member : own ∈ csharpFiles projects)
    (avoid : ∀ text ∈ own.project.texts, Avoids separators text)
    (others : PackageList.fileName ∉ own.includes) :
    ∃ contents, own.Renders settings contents ∧
      (CSharp.packagesLine ∈ lines contents.toList ↔ own.references ≠ []) := by
  obtain ⟨isProject, isOwn⟩ := mem_csharpFiles member
  obtain ⟨_, isGroup, found⟩ := Project.mem_csharpFiles isOwn
  obtain ⟨renders, _⟩ := commitRun_of_clean clean.failures_eq_nil
  obtain ⟨rendered, isRendered⟩ := renders own.project isProject
  unfold renderProject at isRendered
  split at isRendered
  · cases isRendered
  · obtain ⟨first, isFirst⟩ := exists_renderFile isRendered isGroup
    rcases renderFile_cases isFirst with ⟨isOther, _⟩ | ⟨context, _, created, generated⟩
    · rw [found] at isOther
      cases isOther
    · have isContext : own.Context settings context := created
      obtain ⟨_, _, contents, list, _, _, _, _, outputs⟩ := CSharp.exists_of_generate generated
      rw [outputs] at generated
      rw [GenerationContext.file_of_new created] at outputs
      refine ⟨contents, ⟨first, isFirst, outputs ▸ List.mem_cons_self⟩, ?_⟩
      rw [CSharp.packagesLine_mem_generated_iff (isContext.avoids isGroup avoid) ?_ generated,
        ne_eq, isContext.packages_eq_nil_iff]
      intro entry isEntry isNamed
      exact others (isNamed ▸ isContext.fst_mem_includes isEntry)

/-! ## Siblings -/

/-- Projects of one directory: two with different packages, and one without any. -/
def siblings : List Project :=
  [.minimal "App" ⟨"/w/App.csproj"⟩ [⟨"Json", "13.0.1"⟩],
    .minimal "Lib" ⟨"/w/Lib.csproj"⟩ [⟨"Log", "1.0"⟩],
    .minimal "Tool" ⟨"/w/Tool.csproj"⟩ []]

theorem csharpFiles_siblings : csharpFiles siblings =
    siblings.flatMap fun project => project.projectFiles.map fun file =>
      ⟨project, file, project.configurations⟩ := by
  unfold csharpFiles siblings
  simp only [List.flatMap_cons, List.flatMap_nil, Project.projectFiles_minimal, List.map_cons,
    List.map_nil]
  rw [csharpFiles_minimal (by decide), csharpFiles_minimal (by decide),
    csharpFiles_minimal (by decide)]

/-- The first of the siblings, which fills their list. -/
def firstSibling : CSharpFile :=
  ⟨.minimal "App" ⟨"/w/App.csproj"⟩ [⟨"Json", "13.0.1"⟩], ⟨"/w/App.csproj"⟩,
    (Project.minimal "App" ⟨"/w/App.csproj"⟩ [⟨"Json", "13.0.1"⟩]).configurations⟩

theorem firstSibling_mem : firstSibling ∈ csharpFiles siblings := by
  rw [csharpFiles_siblings]
  exact List.mem_cons_self

theorem find?_siblings :
    (csharpFiles siblings).find? (·.fills ⟨"/w/packages.config"⟩) = some firstSibling := by
  rw [csharpFiles_siblings]
  exact List.find?_cons_of_pos (by decide)

theorem avoids_siblings : ∀ project ∈ siblings, ∀ text ∈ project.texts,
    Avoids separators text := by
  have fixed : ∀ project ∈ siblings, ∀ text ∈ project.texts, isFixed text.toList = true := by
    decide
  exact fun project isProject text isText =>
    .of_isFixed_toList (List.Subset.refl _) (fixed project isProject text isText)

theorem untagged_siblings : ∀ project ∈ siblings, ∀ text ∈ project.texts,
    ¬ Value.omitTag.toList <:+: text.toList := by
  simp only [← occursIn_iff]
  decide

theorem isClean_siblings : (Builder.new {}).IsClean ⟨0, 0⟩ .empty siblings [] := by
  have bracketless : ∀ project ∈ siblings, ∀ text ∈ project.texts, '[' ∉ text.toList := by
    decide
  refine isClean_of_rendered ⟨0, 0⟩ .empty rfl rfl fun project member => ?_
  have own := bracketless project member
  simp only [siblings, List.mem_cons, List.not_mem_nil, or_false] at member
  rcases member with rfl | rfl | rfl <;>
  · obtain ⟨_, _, _, _, rendered, _, _, renders, _⟩ :=
      renderProject_minimal {} (by decide) own
    exact ⟨rendered, renders⟩

/-! ## Agreement -/

/-- After a clean run the package list of a directory is there exactly when one of the
C# project files in it has packages, and each project file names the list exactly when
it has packages itself, so it finds the list that it names. -/
theorem lists_agree_with_files (settings : Settings) (clock : Timestamp) (store : Store)
    (projects : List Project) (solutions : List Solution)
    (clean : (Builder.new settings).IsClean clock store projects solutions)
    (rooted : ∀ own ∈ csharpFiles projects, own.file.hasRoot = true)
    (unlocked : ∀ own ∈ csharpFiles projects, store.locked.contains own.list = false)
    (writable : ∀ own ∈ csharpFiles projects, ∀ old, store.file? own.list ≠ some ⟨old, true⟩)
    (solutionsApart : ∀ own ∈ csharpFiles projects, ∀ solution ∈ solutions,
      own.list.sameOutput solution.file = false)
    (isNotDatabase : ∀ own ∈ csharpFiles projects, settings.IsNotDatabase own.list)
    (others : ∀ own ∈ csharpFiles projects, PackageList.fileName ∉ own.includes)
    (avoid : ∀ project ∈ projects, ∀ text ∈ project.texts, Avoids separators text) :
    let final := ((Builder.new settings).generate clock store projects solutions).1
    ∀ own ∈ csharpFiles projects,
      (final.file? own.list ≠ none ↔ ∃ other ∈ csharpFiles projects,
        other.file.directory.same own.file.directory = true ∧ other.references ≠ []) ∧
      ∃ contents, own.Renders settings contents ∧
        (CSharp.packagesLine ∈ lines contents.toList ↔ own.references ≠ []) ∧
        (CSharp.packagesLine ∈ lines contents.toList → final.file? own.list ≠ none) := by
  intro final own member
  have present := file?_list_ne_none_iff clean rooted unlocked writable solutionsApart
    isNotDatabase member
  obtain ⟨contents, renders, names⟩ := exists_contents clean member
    (avoid own.project (mem_csharpFiles member).1) (others own member)
  refine ⟨present, contents, renders, names, fun isNamed => present.2 ?_⟩
  exact ⟨own, member, Path.same_iff.2 rfl, names.1 isNamed⟩

/-- Beside projects with packages a project without any leaves their list alone and
does not name it. -/
theorem lists_agree_with_files_siblings :
    ((Builder.new {}).generate ⟨0, 0⟩ .empty siblings []).1.file? ⟨"/w/packages.config"⟩ ≠ none ∧
      ∃ tool ∈ csharpFiles siblings, tool.file = ⟨"/w/Tool.csproj"⟩ ∧
        ∃ contents, tool.Renders {} contents ∧
          CSharp.packagesLine ∉ lines contents.toList := by
  have rooted : ∀ own ∈ csharpFiles siblings, own.file.hasRoot = true := by
    rw [csharpFiles_siblings]
    decide
  have others : ∀ own ∈ csharpFiles siblings, PackageList.fileName ∉ own.includes := by
    rw [csharpFiles_siblings]
    decide
  have agree := lists_agree_with_files {} ⟨0, 0⟩ .empty siblings [] isClean_siblings rooted
    (fun _ _ => rfl) (fun _ _ _ found => by cases found) (fun _ _ _ member => by cases member)
    (fun _ _ _ kept => by cases kept) others avoids_siblings
  let tool : CSharpFile := ⟨.minimal "Tool" ⟨"/w/Tool.csproj"⟩ [], ⟨"/w/Tool.csproj"⟩,
    (Project.minimal "Tool" ⟨"/w/Tool.csproj"⟩ []).configurations⟩
  have member : tool ∈ csharpFiles siblings := by
    rw [csharpFiles_siblings]
    exact List.mem_cons_of_mem _ (List.mem_cons_of_mem _ List.mem_cons_self)
  obtain ⟨present, contents, renders, names, _⟩ := agree tool member
  have isList : tool.list = ⟨"/w/packages.config"⟩ := by decide
  rw [isList] at present
  refine ⟨?_, tool, member, rfl, contents, renders, ?_⟩
  · refine present.2 ?_
    rw [csharpFiles_siblings]
    exact ⟨_, List.mem_cons_self, by decide, List.cons_ne_nil _ _⟩
  · rw [names]
    simp [tool, CSharpFile.references, Project.minimal]

/-! ## Packages of siblings -/

/-- After a clean run the package list of a directory has a line for every package of
the first C# project file in it that has packages.  Later project files of the directory
are not asked for theirs. -/
theorem first_file_fills_list (settings : Settings) (clock : Timestamp) (store : Store)
    (projects : List Project) (solutions : List Solution)
    (clean : (Builder.new settings).IsClean clock store projects solutions)
    (solutionsApart : ∀ own ∈ csharpFiles projects, ∀ solution ∈ solutions,
      own.list.sameOutput solution.file = false)
    (isNotDatabase : ∀ own ∈ csharpFiles projects, settings.IsNotDatabase own.list)
    (avoid : ∀ project ∈ projects, ∀ text ∈ project.texts, Avoids separators text)
    (untagged : ∀ project ∈ projects, ∀ text ∈ project.texts,
      ¬ Value.omitTag.toList <:+: text.toList) :
    let final := ((Builder.new settings).generate clock store projects solutions).1
    ∀ own ∈ csharpFiles projects, own.references ≠ [] →
      ∃ first ∈ csharpFiles projects,
        (csharpFiles projects).find? (·.fills own.list) = some first ∧
          (first.file.directory.same own.file.directory = true →
            ∃ contents folder, final.contents? own.list = some contents ∧
              ∀ package ∈ first.references,
                PackageList.packageLine folder package ∈ lines contents.toList) := by
  intro final own member used
  have fills : own.fills own.list = true := by
    simp [CSharpFile.fills, used]
  obtain ⟨first, found⟩ := Option.isSome_iff_exists.1 (List.find?_isSome.2 ⟨own, member, fills⟩)
  have isFirst := List.mem_of_find?_eq_some found
  refine ⟨first, isFirst, found, fun sameDirectory => ?_⟩
  obtain ⟨contents, lists, written⟩ := contents?_list clean found (solutionsApart first isFirst)
    (isNotDatabase first isFirst)
  obtain ⟨isProject, isOwn⟩ := mem_csharpFiles isFirst
  obtain ⟨folder, listed⟩ := lists.exists_folder (Project.mem_csharpFiles isOwn).2.1
    (avoid first.project isProject) (untagged first.project isProject)
  refine ⟨contents, folder, ?_, listed⟩
  have samePath := CSharpFile.same_directory_iff.1 sameDirectory
  rw [← written]
  unfold contents?
  rw [Store.file?_congr _ samePath]

/-- The first of the siblings finds its package in the list. -/
theorem first_file_fills_list_siblings :
    ∃ contents folder,
      ((Builder.new {}).generate ⟨0, 0⟩ .empty siblings []).1.contents? ⟨"/w/packages.config"⟩ =
        some contents ∧
      PackageList.packageLine folder ⟨"Json", "13.0.1"⟩ ∈ lines contents.toList := by
  have fill := first_file_fills_list {} ⟨0, 0⟩ .empty siblings [] isClean_siblings
    (fun _ _ _ member => by cases member) (fun _ _ _ kept => by cases kept) avoids_siblings
    untagged_siblings
  have isList : firstSibling.list = ⟨"/w/packages.config"⟩ := by decide
  obtain ⟨first, _, found, written⟩ := fill firstSibling firstSibling_mem (List.cons_ne_nil _ _)
  rw [isList, find?_siblings] at found
  cases found
  obtain ⟨contents, folder, stored, listed⟩ := written (Path.same_iff.2 rfl)
  rw [isList] at stored
  exact ⟨contents, folder, stored, listed _ List.mem_cons_self⟩

/-- The package of the second sibling has no line in the list, although nothing has
failed. -/
theorem list_loses_package_of_sibling :
    (Builder.new {}).IsClean ⟨0, 0⟩ .empty siblings [] ∧
      (∀ project ∈ siblings, ∀ text ∈ project.texts,
        Avoids separators text ∧ ¬ Value.omitTag.toList <:+: text.toList) ∧
      ∃ own ∈ csharpFiles siblings, own.file = ⟨"/w/Lib.csproj"⟩ ∧
        own.list = ⟨"/w/packages.config"⟩ ∧ ⟨"Log", "1.0"⟩ ∈ own.references ∧
        ∃ contents,
          ((Builder.new {}).generate ⟨0, 0⟩ .empty siblings []).1.contents?
            ⟨"/w/packages.config"⟩ = some contents ∧
          ∀ folder, PackageList.packageLine folder ⟨"Log", "1.0"⟩ ∉ lines contents.toList := by
  let own : CSharpFile := ⟨.minimal "Lib" ⟨"/w/Lib.csproj"⟩ [⟨"Log", "1.0"⟩], ⟨"/w/Lib.csproj"⟩,
    (Project.minimal "Lib" ⟨"/w/Lib.csproj"⟩ [⟨"Log", "1.0"⟩]).configurations⟩
  have member : own ∈ csharpFiles siblings := by
    rw [csharpFiles_siblings]
    exact List.mem_cons_of_mem _ List.mem_cons_self
  have isList : own.list = ⟨"/w/packages.config"⟩ := by decide
  have isFirstList : firstSibling.list = ⟨"/w/packages.config"⟩ := by decide
  have found : (csharpFiles siblings).find? (·.fills own.list) = some firstSibling := by
    rw [isList, find?_siblings]
  obtain ⟨contents, lists, written⟩ := contents?_list isClean_siblings found
    (fun _ isSolution => by cases isSolution) (fun _ kept => by cases kept)
  rw [isFirstList] at written
  refine ⟨isClean_siblings, fun project isProject text isText => ⟨avoids_siblings project isProject
    text isText, untagged_siblings project isProject text isText⟩, own, member, rfl, isList,
    List.mem_cons_self, contents, written, ?_⟩
  intro folder listed
  obtain ⟨isProject, isOwn⟩ := mem_csharpFiles firstSibling_mem
  obtain ⟨otherFolder, other, isOther, same⟩ := lists.exists_of_packageLine_mem
    (Project.mem_csharpFiles isOwn).2.1 (avoids_siblings _ isProject) listed
  rw [List.mem_singleton.1 isOther] at same
  exact absurd (PackageList.eq_of_packageLine_eq (by decide) same) (by decide)

end Builder

end ProjectFiles
