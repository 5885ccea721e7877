import ProjectFiles.Proofs.Generation.Minimal
import ProjectFiles.Proofs.Format.SolutionText
import ProjectFiles.Proofs.Template.LetterCase

/-!
# Settings that do not mind case

The names that the templates of this library refer to differ in more than case.  So
whatever the texts of a model refer to, a file that is rendered while case is minded is
rendered to the same text when it is not.
-/

namespace ProjectFiles

open Resolver (Twins)

/-- The names that are declared when files are rendered. -/
def renderedNames : List String :=
  ["androidManifest", "androidPackageDirectory", "androidTargetsPath", "antBuildXml",
    "antProjectPropertiesFile", "assemblyName", "category", "conf", "configurationName",
    "element", "first", "framework", "guid", "include", "interpreterId", "interpreterVersion",
    "options", "outputType", "package", "projectConf", "projectFile", "projectGuid",
    "projectHome", "projectName", "projectPlatform", "projectTypeGuid", "rootNamespace",
    "searchPath", "solutionConf", "solutionPlatform", "startupFile", "targetFramework",
    "toolsVersion", "visualStudioVersion", "windowsTargetPlatformVersion"]

theorem keptApart_renderedNames : KeptApart renderedNames :=
  Apart.keptApart (by decide +kernel)

/-- The settings when case is minded, or when it is not. -/
def Settings.withCase (settings : Settings) (caseSensitive : Bool) : Settings :=
  { settings with caseSensitivePlaceholders := caseSensitive }

/-- The context when case is minded, or when it is not. -/
def GenerationContext.withCase (context : GenerationContext) (caseSensitive : Bool) :
    GenerationContext :=
  { context with settings := context.settings.withCase caseSensitive }

variable {context : GenerationContext} {sensitive insensitive : Resolver}

/-! ## Parts of project files -/

namespace Format.MSBuild

variable (twins : Twins renderedNames sensitive insensitive) (buffer : OutputBuffer)
include twins

theorem writeConfigurations_carriesOver (template : String)
    (configured : List (Configuration × ExplicitOptions)) :
    CarriesOver (writeConfigurations buffer sensitive template configured)
      (writeConfigurations buffer insensitive template configured) := by
  have areNames : ["conf", "options"] ⊆ renderedNames := by decide
  unfold writeConfigurations
  exact twins.writeEach fun _ => areNames

theorem writeEachConfiguration_carriesOver (template : String)
    (configurations : List Configuration) :
    CarriesOver (writeEachConfiguration buffer sensitive template configurations)
      (writeEachConfiguration buffer insensitive template configurations) := by
  have areNames : ["conf"] ⊆ renderedNames := by decide
  unfold writeEachConfiguration
  exact twins.writeEach fun _ => areNames

theorem writeConfigurationList_carriesOver :
    CarriesOver (writeConfigurationList buffer sensitive (context.withCase true))
      (writeConfigurationList buffer insensitive (context.withCase false)) :=
  (writeEachConfiguration_carriesOver twins _ _ context.configurations).bind fun _ _ => .refl _

theorem writeSourceFiles_carriesOver (elementFor : String → String) :
    CarriesOver (writeSourceFiles buffer sensitive (context.withCase true) elementFor)
      (writeSourceFiles buffer insensitive (context.withCase false) elementFor) := by
  have areNames : ["element", "include"] ⊆ renderedNames := by decide
  have same (caseSensitive : Bool) :
      (context.withCase caseSensitive).sourceFiles = context.sourceFiles := rfl
  unfold writeSourceFiles
  rw [same, same]
  split
  · exact .refl _
  · exact CarriesOver.bind (twins.writeEach fun _ => areNames) fun _ _ => .refl _

theorem writeReferences_carriesOver (template : String) :
    CarriesOver (writeReferences buffer sensitive (context.withCase true) template)
      (writeReferences buffer insensitive (context.withCase false) template) := by
  have areNames : ["include", "projectGuid", "projectName"] ⊆ renderedNames := by decide
  have same (caseSensitive : Bool) :
      (context.withCase caseSensitive).dependencies = context.dependencies := rfl
  unfold writeReferences
  rw [same, same]
  split
  · exact .refl _
  · exact CarriesOver.bind (twins.writeEach fun _ => areNames) fun _ _ => .refl _

end Format.MSBuild

/-! ## Project files -/

theorem GenerationContext.resolvers_twins (context : GenerationContext) :
    Twins renderedNames (context.withCase true).resolver (context.withCase false).resolver :=
  .new keptApart_renderedNames

namespace Format

open MSBuild

theorem VisualCpp.render_carriesOver (options : List ExplicitOptions) :
    CarriesOver (render (context.withCase true) options)
      (render (context.withCase false) options) := by
  have twins := context.resolvers_twins
  have tools : ["toolsVersion"] ⊆ renderedNames := by decide
  have ofProject : ["guid", "projectName", "windowsTargetPlatformVersion"] ⊆ renderedNames := by
    decide
  unfold render
  refine CarriesOver.bind (twins.writeIn tools) fun buffer _ => ?_
  refine (writeConfigurationList_carriesOver twins buffer).bind fun buffer _ => ?_
  refine CarriesOver.bind (twins.writeIn ofProject) fun buffer _ => ?_
  refine (writeConfigurations_carriesOver twins buffer _ _).bind fun buffer _ => ?_
  refine (writeConfigurations_carriesOver twins _ _ _).bind fun buffer _ => ?_
  refine (writeConfigurations_carriesOver twins buffer _ _).bind fun buffer _ => ?_
  refine (writeSourceFiles_carriesOver twins buffer _).bind fun buffer _ => ?_
  exact (writeReferences_carriesOver twins buffer _).bind fun _ _ => .refl _

theorem VisualCpp.generate_carriesOver :
    CarriesOver (generator.generate (context.withCase true))
      (generator.generate (context.withCase false)) := by
  refine CarriesOver.bind (.refl _) fun options _ => ?_
  exact (render_carriesOver options).bind fun _ _ => .refl _

theorem PackageList.pending_carriesOver (framework : String) :
    CarriesOver (pending (context.withCase true) framework)
      (pending (context.withCase false) framework) := by
  have isName : "framework" ∈ renderedNames := by decide
  have areNames : ["package"] ⊆ renderedNames := by decide
  have same (caseSensitive : Bool) : packages (context.withCase caseSensitive) = packages context :=
    rfl
  have rendered (packages : List PackageReference) :
      CarriesOver (render (context.withCase true) packages framework)
        (render (context.withCase false) packages framework) := by
    have twins := context.resolvers_twins.declare isName (.text (frameworkFolder framework))
    unfold render
    exact CarriesOver.bind (twins.writeEach fun _ => areNames) fun _ _ => .refl _
  unfold pending
  rw [same, same]
  split
  · exact .refl _
  · exact (rendered _).map _

theorem CSharp.render_carriesOver (options : List ExplicitOptions) (header : ProjectHeader)
    (hasPackages : Bool) :
    CarriesOver (render (context.withCase true) options header hasPackages)
      (render (context.withCase false) options header hasPackages) := by
  have twins := context.resolvers_twins
  have tools : ["toolsVersion"] ⊆ renderedNames := by decide
  have ofProject : ["first", "guid", "outputType", "rootNamespace", "assemblyName",
      "targetFramework"] ⊆ renderedNames := by decide
  unfold render
  refine CarriesOver.bind (twins.writeIn tools) fun buffer _ => ?_
  refine CarriesOver.bind (twins.writeIn ofProject) fun buffer _ => ?_
  refine (writeConfigurations_carriesOver twins buffer _ _).bind fun buffer _ => ?_
  refine (writeSourceFiles_carriesOver twins buffer _).bind fun buffer _ => ?_
  exact (writeReferences_carriesOver twins _ _).bind fun _ _ => .refl _

theorem CSharp.generate_carriesOver :
    CarriesOver (generator.generate (context.withCase true))
      (generator.generate (context.withCase false)) := by
  refine CarriesOver.bind (.refl _) fun options _ => ?_
  refine CarriesOver.bind (.refl _) fun header _ => ?_
  refine (render_carriesOver options header _).bind fun contents _ => ?_
  exact (PackageList.pending_carriesOver _).bind fun _ _ => .refl _

theorem Python.render_carriesOver (settings : PythonProject) :
    CarriesOver (render (context.withCase true) settings)
      (render (context.withCase false) settings) := by
  have twins := context.resolvers_twins
  have ofProject : ["first", "guid", "projectHome", "startupFile", "searchPath",
      "interpreterId", "interpreterVersion"] ⊆ renderedNames := by decide
  unfold render
  refine CarriesOver.bind (twins.writeIn ofProject) fun buffer _ => ?_
  refine (writeEachConfiguration_carriesOver twins buffer _ _).bind fun buffer _ => ?_
  refine (writeSourceFiles_carriesOver twins _ _).bind fun buffer _ => ?_
  exact (writeReferences_carriesOver twins buffer _).bind fun _ _ => .refl _

theorem Python.generate_carriesOver :
    CarriesOver (generator.generate (context.withCase true))
      (generator.generate (context.withCase false)) :=
  (render_carriesOver _).bind fun _ _ => .refl _

theorem Android.render_carriesOver (options : List ExplicitOptions) (package : AndroidPackage) :
    CarriesOver (render (context.withCase true) options package)
      (render (context.withCase false) options package) := by
  have tools : "toolsVersion" ∈ renderedNames := by decide
  have ofProject : ["projectName", "guid", "androidTargetsPath"] ⊆ renderedNames := by decide
  have directory : "androidPackageDirectory" ∈ renderedNames := by decide
  have ofFiles : ["antBuildXml", "androidManifest", "antProjectPropertiesFile"] ⊆
      renderedNames := by decide
  have twins := context.resolvers_twins.declare tools (.text toolsVersion)
  have inPackage :=
    twins.declare directory (.text (context.relative package.antBuildRoot))
  unfold render
  refine CarriesOver.bind (twins.write _ _) fun buffer _ => ?_
  refine (writeConfigurationList_carriesOver twins buffer).bind fun buffer _ => ?_
  refine CarriesOver.bind (.refl _) fun targetsPath _ => ?_
  refine CarriesOver.bind (twins.writeIn ofProject) fun buffer _ => ?_
  refine (writeConfigurations_carriesOver twins buffer _ _).bind fun buffer _ => ?_
  refine (writeConfigurations_carriesOver inPackage _ _ _).bind fun buffer _ => ?_
  refine (writeSourceFiles_carriesOver twins buffer _).bind fun buffer _ => ?_
  refine CarriesOver.bind (twins.writeIn ofFiles) fun buffer _ => ?_
  exact (writeReferences_carriesOver twins _ _).bind fun _ _ => .refl _

theorem Android.generate_carriesOver :
    CarriesOver (generator.generate (context.withCase true))
      (generator.generate (context.withCase false)) := by
  refine CarriesOver.bind (.refl _) fun options _ => ?_
  exact (render_carriesOver options _).bind fun _ _ => .refl _

end Format

/-- The standard generators render a file alike when they do not mind case. -/
theorem Generator.generate_carriesOver {extension : String} {generator : Generator}
    (registered : GeneratorRegistry.standard.get? extension = some generator) :
    CarriesOver (generator.generate (context.withCase true))
      (generator.generate (context.withCase false)) := by
  obtain ⟨_, rfl | rfl | rfl | rfl⟩ := GeneratorRegistry.cases_of_get?_standard registered
  · exact Format.VisualCpp.generate_carriesOver
  · exact Format.CSharp.generate_carriesOver
  · exact Format.Python.generate_carriesOver
  · exact Format.Android.generate_carriesOver

/-! ## Projects -/

variable {settings : Settings} {project : Project}

theorem GenerationContext.new_withCase (project : Project) (file : Path)
    (configurations : List Configuration) (settings : Settings) (caseSensitive : Bool) :
    new project file configurations (settings.withCase caseSensitive) =
      (new project file configurations settings).map (·.withCase caseSensitive) := by
  unfold new
  cases Configuration.sortAndValidate file configurations with
  | error => rfl
  | ok sorted =>
      rw [bind_ok, bind_ok]
      have check : (settings.withCase caseSensitive).dependencyCheck = settings.dependencyCheck :=
        rfl
      rw [check]
      cases Configuration.checkDependencyConsistency project.name sorted
          settings.dependencyCheck with
      | error => rfl
      | ok found => cases sorted <;> rfl

theorem Builder.renderFile_carriesOver (file : Path) (configurations : List Configuration) :
    CarriesOver
      ((Builder.new (settings.withCase true)).renderFile project file configurations)
      ((Builder.new (settings.withCase false)).renderFile project file configurations) := by
  refine CarriesOver.bind (.refl _) fun generator isFound => ?_
  obtain ⟨registered, _⟩ := GeneratorRegistry.forFile_eq_ok isFound
  have created (caseSensitive : Bool) :=
    GenerationContext.new_withCase project file configurations settings caseSensitive
  dsimp only [Builder.new]
  rw [created, created]
  cases GenerationContext.new project file configurations settings with
  | error => exact fun _ succeeded => nomatch succeeded
  | ok context =>
      exact (Generator.generate_carriesOver registered).bind fun _ _ => .refl _

theorem Builder.renderFiles_carriesOver (files : List (Path × List Configuration)) :
    CarriesOver ((Builder.new (settings.withCase true)).renderFiles project files)
      ((Builder.new (settings.withCase false)).renderFiles project files) := by
  induction files with
  | nil => exact .refl _
  | cons entry rest ih =>
      intro rendered succeeded
      rw [renderFiles] at succeeded ⊢
      split at succeeded
      · cases succeeded
      · rename_i first isFirst
        rw [renderFile_carriesOver _ _ first isFirst]
        exact ih.map _ rendered succeeded

theorem Builder.renderProject_carriesOver (project : Project) :
    CarriesOver ((Builder.new (settings.withCase true)).renderProject project)
      ((Builder.new (settings.withCase false)).renderProject project) := by
  unfold renderProject
  split
  · exact .refl _
  · exact renderFiles_carriesOver _

/-! ## Solutions -/

namespace Format.SolutionFile

theorem writeInclusion_carriesOver (twins : Twins renderedNames sensitive insensitive) (guid : Guid)
    (buffer : OutputBuffer) (configuration : SolutionConfiguration) :
    CarriesOver (writeInclusion sensitive guid buffer configuration)
      (writeInclusion insensitive guid buffer configuration) := by
  have areNames : ["solutionConf", "solutionPlatform", "projectConf", "projectPlatform"] ⊆
      renderedNames := by decide
  unfold writeInclusion
  split
  · exact .refl _
  · rename_i entry _
    refine twins.bind_declareAll areNames fun _ _ _ _ inner => ?_
    refine (inner.write buffer _).bind fun buffer _ => ?_
    split
    · exact inner.write buffer buildLine
    · exact .refl _

theorem render_carriesOver (solution : Solution) :
    CarriesOver (render solution (settings.withCase true))
      (render solution (settings.withCase false)) := by
  have twins : Twins renderedNames (.new true) (.new false) := .new keptApart_renderedNames
  have version : ["visualStudioVersion"] ⊆ renderedNames := by decide
  have ofProject : ["projectTypeGuid", "projectName", "projectFile", "projectGuid"] ⊆
      renderedNames := by decide
  have ofConfiguration : ["configurationName", "category"] ⊆ renderedNames := by decide
  have ofInclusions : "projectGuid" ∈ renderedNames := by decide
  refine CarriesOver.bind (.refl _) fun configurations _ => ?_
  refine CarriesOver.bind (.refl _) fun projects _ => ?_
  refine CarriesOver.bind (twins.writeIn version) fun buffer _ => ?_
  refine CarriesOver.bind (.foldlM (fun buffer project _ => ?_) buffer) fun buffer _ => ?_
  · exact CarriesOver.bind (.refl _) fun typeGuid _ => twins.writeIn ofProject
  refine CarriesOver.bind (.foldlM (fun buffer configuration _ => ?_) _) fun buffer _ => ?_
  · exact twins.writeIn ofConfiguration
  refine CarriesOver.bind (.foldlM (fun buffer project _ => ?_) _) fun _ _ => .refl _
  have inner := twins.declare ofInclusions (.text project.guid.braced)
  exact .foldlM (fun buffer configuration _ =>
    writeInclusion_carriesOver inner project.guid buffer configuration) buffer

end Format.SolutionFile

/-! ## Not minding case -/

/-- Whatever is resolved while case is minded comes to the same when it is not, as long as
names that differ at all differ in more than case.  So does every project and every
solution that is rendered while case is minded, whatever its texts refer to. -/
theorem insensitive_conservative :
    (∀ history, KeptApart (declaredNames history) → ∀ template,
      CarriesOver ((ScopeState.after true history).resolver.resolve template)
        ((ScopeState.after false history).resolver.resolve template)) ∧
    (∀ (settings : Settings) (project : Project),
      CarriesOver ((Builder.new (settings.withCase true)).renderProject project)
        ((Builder.new (settings.withCase false)).renderProject project)) ∧
    ∀ (settings : Settings) (solution : Solution),
      CarriesOver (Format.SolutionFile.render solution (settings.withCase true))
        (Format.SolutionFile.render solution (settings.withCase false)) := by
  refine ⟨fun history apart template result resolved => ?_, fun settings project => ?_,
    fun settings solution => ?_⟩
  · exact ScopeState.resolve_after apart resolved
  · exact Builder.renderProject_carriesOver project
  · exact Format.SolutionFile.render_carriesOver solution

/-- A platform that hides another one, which is released first. -/
def platforms : List ScopeAction :=
  [.declare "platform" (.text "x64"),
    .declareAll [("platform", .text "ARM64"), ("target", .text "[Name]-[platform]")],
    .declare "Name" (.text "Game"), .release 0]

theorem insensitive_conservative_platforms :
    (ScopeState.after false platforms).resolver.resolve "[target]" = .ok "Game-ARM64" ∧
    (∃ rendered, (Builder.new (Settings.withCase {} false)).renderProject
      (.minimal "App" ⟨"/w/App.csproj"⟩ []) = .ok rendered) ∧
    ∃ text, Format.SolutionFile.render Format.SolutionFile.game (Settings.withCase {} false) =
      .ok text := by
  obtain ⟨resolves, projects, solutions⟩ := insensitive_conservative
  have bracketless : ∀ text ∈ (Project.minimal "App" ⟨"/w/App.csproj"⟩ []).texts,
      '[' ∉ text.toList := by decide +kernel
  obtain ⟨_, _, _, _, rendered, _, _, renders, _⟩ :=
    Builder.renderProject_minimal (Settings.withCase {} true) (by decide +kernel) bracketless
  obtain ⟨text, renderedGame⟩ := Format.SolutionFile.render_game
  refine ⟨resolves platforms (by decide +kernel) "[target]" _ (by decide +kernel), ?_, ?_⟩
  · exact ⟨rendered, projects {} _ rendered renders⟩
  · exact ⟨text, solutions {} _ text renderedGame⟩

end ProjectFiles
