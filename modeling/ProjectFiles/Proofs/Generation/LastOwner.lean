import ProjectFiles.Proofs.Generation.PackageLists

/-!
# Project files with several owners

The configurations of a project say where its project files are, and nothing compares
the files of different projects.  When several projects of a run have one file, each of
them writes it, and the run succeeds.  The file then holds what was rendered for the
last of them.
-/

namespace ProjectFiles

open Store PendingOutput Format Template Text

/-! ## Rendered project files -/

/-- Whether contents are those that a project file is rendered with, from the
configurations of the project that name it. -/
def Project.RendersFile (settings : Settings) (project : Project)
    (group : Path × List Configuration) (contents : String) : Prop :=
  ∃ rendered, (Builder.new settings).renderFile project group.1 group.2 = .ok rendered ∧
    .file group.1 contents ∈ rendered.pending

namespace Builder

variable {settings : Settings} {project : Project}

/-- A project file is the first output of its group, and there is no other one. -/
theorem exists_file_of_renderFile {group : Path × List Configuration} {rendered : RenderedProject}
    (renders : (Builder.new settings).renderFile project group.1 group.2 = .ok rendered) :
    ∃ contents beside, rendered.pending = .file group.1 contents :: beside ∧
      beside.filterMap filePath? = [] := by
  obtain ⟨_, contents, alone | ⟨_, _, stale | ⟨_, list, shared⟩⟩⟩ := renderFile_new_eq_ok renders
  · exact ⟨contents, [], alone, rfl⟩
  · exact ⟨contents, _, stale, rfl⟩
  · exact ⟨contents, _, shared, rfl⟩

/-- A project file is rendered in one way. -/
theorem rendersFile_unique {group : Path × List Configuration} {contents other : String}
    (renders : project.RendersFile settings group contents)
    (rendersOther : project.RendersFile settings group other) : contents = other := by
  obtain ⟨rendered, isRendered, member⟩ := renders
  obtain ⟨again, isAgain, memberOther⟩ := rendersOther
  obtain rfl := Except.ok.inj (isRendered.symm.trans isAgain)
  obtain ⟨own, beside, outputs, noFiles⟩ := exists_file_of_renderFile isRendered
  have isOwn : ∀ text, .file group.1 text ∈ rendered.pending → text = own := by
    intro text isOutput
    rw [outputs] at isOutput
    rcases List.mem_cons.1 isOutput with isFirst | isBeside
    · cases isFirst
      rfl
    · have isFile : group.1 ∈ beside.filterMap filePath? :=
        List.mem_filterMap.2 ⟨_, isBeside, rfl⟩
      rw [noFiles] at isFile
      cases isFile
  exact (isOwn contents member).trans (isOwn other memberOther).symm

/-- The outputs of a group are among those of its project, behind the files of earlier
groups and before those of later ones. -/
theorem exists_split_of_renderFiles {earlier later : List (Path × List Configuration)}
    {group : Path × List Configuration} {rendered : RenderedProject}
    (renders : (Builder.new settings).renderFiles project (earlier ++ group :: later) =
      .ok rendered) :
    ∃ before first behind, rendered.pending = before ++ first.pending ++ behind.pending ∧
      (Builder.new settings).renderFile project group.1 group.2 = .ok first ∧
      (Builder.new settings).renderFiles project later = .ok behind := by
  induction earlier generalizing rendered with
  | nil =>
      rw [List.nil_append, renderFiles] at renders
      split at renders
      · cases renders
      · rename_i first isFirst
        cases others : (Builder.new settings).renderFiles project later with
        | error failure => rw [others] at renders; cases renders
        | ok behind =>
            rw [others] at renders
            cases renders
            exact ⟨[], first, behind, rfl, isFirst, rfl⟩
  | cons head rest ih =>
      rw [List.cons_append, renderFiles] at renders
      split at renders
      · cases renders
      · rename_i leading _
        cases others : (Builder.new settings).renderFiles project (rest ++ group :: later) with
        | error failure => rw [others] at renders; cases renders
        | ok inner =>
            rw [others] at renders
            cases renders
            obtain ⟨before, first, behind, outputs, isFirst, isBehind⟩ := ih others
            refine ⟨leading.pending ++ before, first, behind, ?_, isFirst, isBehind⟩
            dsimp only
            rw [outputs]
            simp

/-- The project files that are put out for projects are their own. -/
theorem mem_projectFiles_of_renderedOutputs {projects : List Project} {path : Path}
    (member : path ∈ ((Builder.new settings).renderedOutputs projects).filterMap filePath?) :
    path ∈ projects.flatMap Project.projectFiles := by
  obtain ⟨pending, isOutput, isFile⟩ := List.mem_filterMap.1 member
  obtain ⟨project, isProject, isOwn⟩ := List.mem_flatMap.1 isOutput
  have belongs := belongsTo_of_mem_pendings isOwn
  cases belongs with
  | file isOwnFile =>
      cases isFile
      exact List.mem_flatMap.2 ⟨project, isProject, isOwnFile⟩
  | shared | staleShared => cases isFile

/-! ## The last owner -/

/-- Behind the projects of a clean run, a file of a project holds what was rendered for
it when no later project file is the same output. -/
theorem contents?_afterProjects_of_last {clock : Timestamp} {store : Store}
    {solutions : List Solution} (former latter : List Project)
    (earlier later : List (Path × List Configuration)) (group : Path × List Configuration)
    (clean : (Builder.new settings).IsClean clock store (former ++ project :: latter) solutions)
    (groups : project.configurationsByFile = earlier ++ group :: later)
    (isLast : ∀ other ∈ later.map (·.1) ++ latter.flatMap Project.projectFiles,
      group.1.sameOutput other = false) :
    let final := ((Builder.new settings).afterProjects clock store (former ++ project :: latter)).1
    final.session.produced group.1 = true ∧ ∃ contents,
      project.RendersFile settings group contents ∧
        final.store.contents? group.1 = some contents := by
  obtain ⟨render, _⟩ := commitRun_of_clean clean.failures_eq_nil
  obtain ⟨_, total, run⟩ := clean.commits
  obtain ⟨rendered, renders⟩ := render project (List.mem_append_right _ List.mem_cons_self)
  have ownOutputs : (Builder.new settings).pendings project = rendered.pending := by
    rw [pendings, renders]
  have rendersFiles : (Builder.new settings).renderFiles project (earlier ++ group :: later) =
      .ok rendered := by
    unfold renderProject at renders
    rw [groups] at renders
    cases earlier <;> exact renders
  obtain ⟨before, first, behind, outputs, isFirst, isBehind⟩ :=
    exists_split_of_renderFiles rendersFiles
  obtain ⟨contents, beside, ownFile, noFiles⟩ := exists_file_of_renderFile isFirst
  have laterFiles : behind.pending.filterMap filePath? = later.map (·.1) := by
    refine (renderFiles_new_eq_ok (fun own member => ?_) isBehind).1
    rw [Project.projectFiles, groups]
    exact List.mem_map_of_mem (List.mem_append_right _ (List.mem_cons_of_mem _ member))
  have spelled : (Builder.new settings).renderedOutputs (former ++ project :: latter) =
      ((Builder.new settings).renderedOutputs former ++ before) ++ .file group.1 contents ::
        (beside ++ behind.pending ++ (Builder.new settings).renderedOutputs latter) := by
    unfold renderedOutputs
    rw [List.flatMap_append, List.flatMap_cons, ownOutputs, outputs, ownFile]
    simp
  have belong : ∀ pending ∈ (Builder.new settings).renderedOutputs (former ++ project :: latter),
      ∃ project, pending.BelongsTo project := by
    intro pending member
    obtain ⟨project, _, isOwn⟩ := List.mem_flatMap.1 member
    exact ⟨project, belongsTo_of_mem_pendings isOwn⟩
  rw [spelled] at run belong
  obtain ⟨produced, written⟩ := run.contents?_of_last belong fun other member => by
    rw [List.filterMap_append, List.filterMap_append, noFiles, laterFiles, List.nil_append]
      at member
    refine isLast other ?_
    exact (List.mem_append.1 member).elim (List.mem_append_left _)
      fun inLatter => List.mem_append_right _ (mem_projectFiles_of_renderedOutputs inLatter)
  exact ⟨produced, contents, ⟨first, isFirst, ownFile ▸ List.mem_cons_self⟩, written⟩

/-- After a clean run a project file holds what was rendered for the last project that
has it, unless a solution has it, too. -/
theorem last_owner_keeps_file (settings : Settings) (clock : Timestamp) (store : Store)
    (former latter : List Project) (project : Project)
    (earlier later : List (Path × List Configuration)) (group : Path × List Configuration)
    (solutions : List Solution)
    (clean : (Builder.new settings).IsClean clock store (former ++ project :: latter) solutions)
    (groups : project.configurationsByFile = earlier ++ group :: later)
    (isLast : ∀ other ∈ later.map (·.1) ++ latter.flatMap Project.projectFiles,
      group.1.sameOutput other = false)
    (solutionsApart : ∀ solution ∈ solutions, group.1.sameOutput solution.file = false)
    (isNotDatabase : settings.IsNotDatabase group.1) :
    ∃ contents, project.RendersFile settings group contents ∧
      ((Builder.new settings).generate clock store (former ++ project :: latter)
        solutions).1.contents? group.1 = some contents := by
  obtain ⟨produced, contents, renders, written⟩ :=
    contents?_afterProjects_of_last former latter earlier later group clean groups isLast
  refine ⟨contents, renders, ?_⟩
  rw [← written]
  unfold contents?
  rw [file?_generate_of_settled produced solutionsApart isNotDatabase]

/-- The one file of a minimal project, at the path that the rivals share. -/
def rival (name : String) (packages : List PackageReference) : CSharpFile :=
  ⟨.minimal name ⟨"/w/App.csproj"⟩ packages, ⟨"/w/App.csproj"⟩,
    (Project.minimal name ⟨"/w/App.csproj"⟩ packages).configurations⟩

/-- Two projects of one project file, of which only the first has packages. -/
def rivals : List Project :=
  [(rival "App" [⟨"Json", "13.0.1"⟩]).project, (rival "Lib" []).project]

theorem isClean_rivals : (Builder.new {}).IsClean ⟨0, 0⟩ .empty rivals [] := by
  have bracketless : ∀ project ∈ rivals, ∀ text ∈ project.texts, '[' ∉ text.toList := by
    decide
  refine isClean_of_rendered ⟨0, 0⟩ .empty rfl rfl fun project member => ?_
  have own := bracketless project member
  simp only [rivals, List.mem_cons, List.not_mem_nil, or_false] at member
  rcases member with rfl | rfl <;>
  · obtain ⟨_, _, _, _, rendered, _, _, renders, _⟩ :=
      renderProject_minimal {} (by decide) own
    exact ⟨rendered, renders⟩

theorem csharpFiles_rivals :
    csharpFiles rivals = [rival "App" [⟨"Json", "13.0.1"⟩], rival "Lib" []] := by
  unfold csharpFiles rivals rival
  simp only [List.flatMap_cons, List.flatMap_nil]
  rw [csharpFiles_minimal (by decide), csharpFiles_minimal (by decide)]
  rfl

/-- The project file of a rival names a package list when the rival has packages. -/
theorem exists_contents_rivals {own : CSharpFile} (member : own ∈ csharpFiles rivals) :
    ∃ contents, own.project.RendersFile {} (own.file, own.configurations) contents ∧
      (CSharp.packagesLine ∈ lines contents.toList ↔ own.references ≠ []) := by
  have fixed : ∀ project ∈ rivals, ∀ text ∈ project.texts, isFixed text.toList = true := by
    decide
  have others : ∀ own ∈ csharpFiles rivals, PackageList.fileName ∉ own.includes := by
    rw [csharpFiles_rivals]
    decide
  refine exists_contents isClean_rivals member (fun text isText => ?_) (others own member)
  exact .of_isFixed_toList (List.Subset.refl _)
    (fixed own.project (mem_csharpFiles member).1 text isText)

/-- The second rival has its file. -/
theorem last_owner_keeps_file_rivals :
    ∃ contents, (rival "Lib" []).project.RendersFile {}
        (⟨"/w/App.csproj"⟩, (rival "Lib" []).configurations) contents ∧
      ((Builder.new {}).generate ⟨0, 0⟩ .empty rivals []).1.contents? ⟨"/w/App.csproj"⟩ =
        some contents :=
  last_owner_keeps_file {} ⟨0, 0⟩ .empty [(rival "App" [⟨"Json", "13.0.1"⟩]).project] []
    (rival "Lib" []).project [] [] (⟨"/w/App.csproj"⟩, (rival "Lib" []).configurations) []
    isClean_rivals rfl (fun _ member => by cases member) (fun _ member => by cases member)
    (fun _ kept => by cases kept)

/-- The first rival does not have its file, although nothing has failed. -/
theorem first_rival_loses_file :
    (Builder.new {}).IsClean ⟨0, 0⟩ .empty rivals [] ∧
      ∃ project ∈ rivals, ∃ group ∈ project.configurationsByFile,
        (∃ contents, project.RendersFile {} group contents) ∧
        ∀ contents, project.RendersFile {} group contents →
          ((Builder.new {}).generate ⟨0, 0⟩ .empty rivals []).1.contents? group.1 ≠
            some contents := by
  let app := rival "App" [⟨"Json", "13.0.1"⟩]
  let lib := rival "Lib" []
  have isApp : app ∈ csharpFiles rivals := by
    rw [csharpFiles_rivals]
    exact List.mem_cons_self
  have isLib : lib ∈ csharpFiles rivals := by
    rw [csharpFiles_rivals]
    exact List.mem_cons_of_mem _ List.mem_cons_self
  obtain ⟨own, rendersOwn, named⟩ := exists_contents_rivals isApp
  obtain ⟨last, rendersLast, unnamed⟩ := exists_contents_rivals isLib
  have isGroup : (app.file, app.configurations) ∈ app.project.configurationsByFile :=
    (Project.mem_csharpFiles (mem_csharpFiles isApp).2).2.1
  refine ⟨isClean_rivals, app.project, List.mem_cons_self, _, isGroup, ⟨own, rendersOwn⟩,
    fun contents renders stored => ?_⟩
  obtain ⟨produced, written, rendersWritten, isWritten⟩ :=
    contents?_afterProjects_of_last [app.project] [] [] [] (lib.file, lib.configurations)
      isClean_rivals rfl (fun _ member => by cases member)
  have kept : ((Builder.new {}).generate ⟨0, 0⟩ .empty rivals []).1.file? lib.file = _ :=
    file?_generate_of_settled produced (fun _ member => by cases member)
      (fun _ kept => by cases kept)
  have same : own = last := by
    rw [rendersFile_unique rendersOwn renders, rendersFile_unique rendersLast rendersWritten]
    unfold contents? at stored isWritten
    exact Option.some.inj (stored.symm.trans ((congrArg _ kept).trans isWritten))
  exact unnamed.1 (same ▸ named.2 (List.cons_ne_nil _ _)) rfl

end Builder

end ProjectFiles
