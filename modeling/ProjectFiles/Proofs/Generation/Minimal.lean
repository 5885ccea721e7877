import ProjectFiles.Proofs.Generation.Authoring
import ProjectFiles.Proofs.Generation.CSharpFiles

/-!
# C# projects of one configuration

A C# project of one configuration is always rendered when its texts hold no brackets:
as its project file, and as a package list or the request to remove one.  So runs of
such projects that may overwrite every file are clean.
-/

namespace ProjectFiles

open Format Text Store PendingOutput

namespace Builder

variable {settings : Settings} {name : String} {file : Path} {packages : List PackageReference}

/-! ## Rendering -/

theorem forFile_minimal (isCSharp : Text.lowercase file.extension = "csproj") :
    GeneratorRegistry.standard.forFile file (.cSharp name) = .ok CSharp.generator := by
  have registered : GeneratorRegistry.standard.get? file.extension = some CSharp.generator := by
    unfold GeneratorRegistry.standard GeneratorRegistry.ofList
    simp only [List.foldl_cons, List.foldl_nil, GeneratorRegistry.get?_register, isCSharp]
    rw [if_neg (by decide), if_neg (by decide), if_pos (by decide)]
  unfold GeneratorRegistry.forFile
  rw [registered]
  rfl

theorem new_minimal (settings : Settings) (name : String) (file : Path)
    (packages : List PackageReference) :
    ∃ context, GenerationContext.new (.minimal name file packages) file
        (Project.minimal name file packages).configurations settings = .ok context ∧
      context.configurations = (Project.minimal name file packages).configurations := by
  have checked : ∀ configuration : Configuration,
      Configuration.checkDependencyConsistency name [configuration] settings.dependencyCheck =
        .ok .new := by
    intro configuration
    unfold Configuration.checkDependencyConsistency
    rw [if_pos (.inr (by simp))]
  have sorted : ∀ configuration : Configuration,
      Configuration.sortAndValidate file [configuration] = .ok [configuration] := by
    intro configuration
    simp [Configuration.sortAndValidate, Configuration.sorted, Configuration.conflict?,
      Configuration.firstCollision?]
  unfold GenerationContext.new Project.minimal
  simp only [sorted, checked, bind_ok]
  exact ⟨_, rfl, rfl⟩

/-- Some rule of every axis applies to the configuration. -/
theorem ofAxes_minimal {configuration : Configuration}
    (member : configuration ∈ (Project.minimal name file packages).configurations) :
    ∃ options, ExplicitOptions.ofAxes configuration (CSharp.axes configuration) = .ok options := by
  have nodup : ((CSharp.axes configuration).flatMap (·.keys)).Nodup := by
    have isFixed : (CSharp.axes configuration).flatMap (·.keys) = CSharp.optionKeys := rfl
    rw [isFixed]
    decide
  have applies : (CSharp.axes configuration).find? (fun axis =>
      (axis.effectFor? configuration).isNone) = none := by
    rw [List.mem_singleton.1 member]
    rfl
  rcases ExplicitOptions.ofAxes_cases rfl nodup with ⟨axis, found, _⟩ | ⟨options, succeeded, _⟩
  · rw [applies] at found
    cases found
  · exact ⟨options, succeeded⟩

theorem computeOptions_singleton {context : GenerationContext} {configuration : Configuration}
    {axesFor : Configuration → Except GenerationError (List OptionAxis)} {axes : List OptionAxis}
    {options : ExplicitOptions} (isOnly : context.configurations = [configuration])
    (areAxes : axesFor configuration = .ok axes)
    (computed : ExplicitOptions.ofAxes configuration axes = .ok options) :
    context.computeOptions axesFor = .ok [options] := by
  unfold GenerationContext.computeOptions
  rw [isOnly, List.mapM_cons, List.mapM_nil, areAxes, bind_ok, computed]
  rfl

/-- The options of one configuration do not contradict each other. -/
theorem ofOptions_singleton (context : GenerationContext) (options : ExplicitOptions) :
    ∃ header, CSharp.ProjectHeader.ofOptions context [options] = .ok header :=
  ⟨_, rfl⟩

/-- What is generated from its one context is what a project is rendered as. -/
theorem renderProject_of_generate {settings : Settings} {context : GenerationContext}
    {outputs : List PendingOutput} (isCSharp : Text.lowercase file.extension = "csproj")
    (created : GenerationContext.new (.minimal name file packages) file
      (Project.minimal name file packages).configurations settings = .ok context)
    (generated : CSharp.generator.generate context = .ok outputs) :
    ∃ rendered, (Builder.new settings).renderProject (.minimal name file packages) =
      .ok rendered ∧ rendered.pending = outputs := by
  have isFound : GeneratorRegistry.standard.forFile file
      (Project.minimal name file packages).kind = .ok CSharp.generator :=
    forFile_minimal isCSharp
  have rendered : ∃ rendered, (Builder.new settings).renderFile (.minimal name file packages) file
      (Project.minimal name file packages).configurations = .ok rendered ∧
        rendered.pending = outputs := by
    unfold renderFile Builder.new
    dsimp only
    rw [isFound, bind_ok, created, bind_ok, generated]
    exact ⟨_, rfl, rfl⟩
  obtain ⟨first, isFirst, rfl⟩ := rendered
  have groups : (Project.minimal name file packages).configurationsByFile =
      [(file, (Project.minimal name file packages).configurations)] := rfl
  unfold renderProject
  rw [groups]
  simp only [renderFiles, isFirst]
  exact ⟨_, rfl, List.append_nil _⟩

/-- A project of one configuration is always rendered, as its file and what it wants of
its package list. -/
theorem renderProject_minimal (settings : Settings)
    (isCSharp : Text.lowercase file.extension = "csproj")
    (bracketless : ∀ text ∈ (Project.minimal name file packages).texts, '[' ∉ text.toList) :
    ∃ context framework contents list rendered,
      GenerationContext.new (.minimal name file packages) file
          (Project.minimal name file packages).configurations settings = .ok context ∧
        PackageList.pending context framework = .ok list ∧
        (Builder.new settings).renderProject (.minimal name file packages) = .ok rendered ∧
        rendered.pending = [.file file contents, list] := by
  have avoid : ∀ text ∈ (Project.minimal name file packages).texts, Avoids brackets text :=
    fun text isText => avoids_brackets (bracketless text isText)
  have bracket : '[' ∈ brackets := List.mem_singleton.2 rfl
  obtain ⟨context, created, configurations_eq⟩ := new_minimal settings name file packages
  have avoids : context.Avoids brackets := GenerationContext.avoids_of_new created avoid
    fun _ member => Project.avoids_of_mem_configurations avoid member
  obtain ⟨options, computed⟩ := ofAxes_minimal (List.mem_singleton_self _)
  have computedAll : (context.computeOptions fun configuration =>
      .ok (CSharp.axes configuration)) = .ok [options] :=
    computeOptions_singleton configurations_eq rfl computed
  obtain ⟨header, found⟩ := ofOptions_singleton context options
  have sets := (computedAll ▸ CSharp.yields_computeOptions brackets_subset avoids).meets_of_ok
  have fits := (found ▸ CSharp.yields_header brackets_subset avoids sets).meets_of_ok
  have listed := PackageList.pending_eq brackets_subset bracket avoids header.framework.display
  have generated := CSharp.generate_of_ok computedAll found
    (CSharp.render_eq brackets_subset bracket avoids sets fits _) listed
  rw [GenerationContext.file_of_new created] at generated
  obtain ⟨rendered, renders, isPending⟩ := renderProject_of_generate isCSharp created generated
  exact ⟨context, _, _, _, rendered, created, listed, renders, isPending⟩

/-- With packages it is rendered as its file and the package list that is made for it. -/
theorem exists_list_minimal (settings : Settings)
    (isCSharp : Text.lowercase file.extension = "csproj")
    (bracketless : ∀ text ∈ (Project.minimal name file packages).texts, '[' ∉ text.toList)
    (used : packages ≠ []) :
    ∃ contents list rendered,
      (Builder.new settings).renderProject (.minimal name file packages) = .ok rendered ∧
        rendered.pending = [.file file contents, .shared file.packageList list] ∧
        CSharpFile.Lists settings ⟨.minimal name file packages, file,
          (Project.minimal name file packages).configurations⟩ list := by
  obtain ⟨context, framework, contents, list, rendered, created, listed, renders, isPending⟩ :=
    renderProject_minimal settings isCSharp bracketless
  have isContext : CSharpFile.Context settings ⟨.minimal name file packages, file,
      (Project.minimal name file packages).configurations⟩ context := created
  have contextFile := GenerationContext.file_of_new created
  rcases PackageList.pending_eq_ok listed with ⟨noPackages, _⟩ | ⟨_, text, rfl⟩
  · have unused := isContext.packages_eq_nil_iff.1 noPackages
    simp [CSharpFile.references, Project.minimal, used] at unused
  · rw [contextFile] at listed isPending
    exact ⟨contents, text, rendered, renders, isPending, context, framework, isContext, listed⟩

theorem csharpFiles_minimal (isCSharp : Text.lowercase file.extension = "csproj") :
    (Project.minimal name file packages).csharpFiles =
      [⟨.minimal name file packages, file,
        (Project.minimal name file packages).configurations⟩] := by
  have groups : (Project.minimal name file packages).configurationsByFile =
      [(file, (Project.minimal name file packages).configurations)] := rfl
  have isGroup : CSharpFile.ofGroup? (.minimal name file packages)
      (file, (Project.minimal name file packages).configurations) =
        some ⟨.minimal name file packages, file,
          (Project.minimal name file packages).configurations⟩ := by
    simp [CSharpFile.ofGroup?, isCSharp, Project.minimal]
  rw [Project.csharpFiles, groups, List.filterMap_cons_some isGroup, List.filterMap_nil]

/-! ## Clean runs -/

/-- Nothing stops a project that is rendered where every file may be overwritten. -/
theorem failures_of_rendered {builder : Builder} {state : Workspace × GenerationReport}
    {projects : List Project} (overwrites : builder.settings.overwriteReadOnly = true)
    (render : ∀ project ∈ projects, ∃ rendered, builder.renderProject project = .ok rendered) :
    (projects.foldl builder.generateProject state).2.failures = state.2.failures := by
  induction projects generalizing state with
  | nil => rfl
  | cons project rest ih =>
      obtain ⟨⟨rendered, renders⟩, others⟩ := List.forall_mem_cons.1 render
      rw [List.foldl_cons, ih others]
      have step := builder.generateProject_step project state
      generalize builder.generateProject state project = next at step
      cases step with
      | unrendered fails =>
          rw [renders] at fails
          cases fails
      | stopped _ run =>
          rw [run.overwriteReadOnly_eq_false] at overwrites
          cases overwrites
      | finished => rfl

/-- A run of such projects alone that keeps no database is clean. -/
theorem isClean_of_rendered {builder : Builder} (clock : Timestamp) (store : Store)
    {projects : List Project} (overwrites : builder.settings.overwriteReadOnly = true)
    (unkept : builder.settings.cleanupDatabase = none)
    (render : ∀ project ∈ projects, ∃ rendered, builder.renderProject project = .ok rendered) :
    builder.IsClean clock store projects [] := by
  have clean : (builder.afterProjects clock store projects).2.failures = [] :=
    failures_of_rendered overwrites render
  rw [← report_removeStale] at clean
  exact ⟨_, congrArg Prod.snd (builder.generate_of_none clock store projects unkept), clean⟩

end Builder

end ProjectFiles
