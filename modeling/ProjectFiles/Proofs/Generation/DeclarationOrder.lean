import Mathlib.Data.List.Perm.Basic
import ProjectFiles.Proofs.Format.Python
import ProjectFiles.Proofs.Format.SolutionText
import ProjectFiles.Proofs.Generation.Outputs
import ProjectFiles.Proofs.Generation.SourceFiles
import ProjectFiles.Proofs.Validation.Configurations

/-!
# The order of declarations

What is rendered does not depend on the order in which a model is declared.  The
configurations of a file and of a solution have a canonical order, and so have source
files whose include paths differ in more than case.  A project that several configurations
of a solution include is shown as the first of them includes it, in the canonical order,
and a configuration includes it once.
-/

namespace ProjectFiles

/-! ## Source files -/

namespace GenerationContext

/-- The context of a file for another project. -/
def withProject (context : GenerationContext) (project : Project) : GenerationContext :=
  { context with project := project }

/-- Entries whose include paths differ in more than case are sorted alike. -/
theorem mergeSort_includeLE_of_perm {entries others : List (String × String)}
    (perm : entries.Perm others)
    (apart : (entries.map fun entry => Text.lowercase entry.1).Nodup) :
    entries.mergeSort includeLE = others.mergeSort includeLE := by
  rw [includeLE_eq]
  refine Sorting.mergeSort_eq_of_perm perm fun left isLeft right isRight equal => ?_
  exact List.inj_on_of_nodup_map apart isLeft isRight (Std.LawfulEqOrd.eq_of_compare equal)

end GenerationContext

/-- Whether a project is another one, up to the order of its source files and to the
configurations that it has.  Source files can change places where their paths, seen from
the generated file, differ in more than case. -/
structure Project.Rearranges (file : Path) (project other : Project) : Prop where
  name : other.name = project.name
  kind : other.kind = project.kind
  sourceRoot : other.sourceRoot = project.sourceRoot
  sourceFiles : other.sourceFiles = project.sourceFiles ∨
    (project.sourceFiles.Perm other.sourceFiles ∧
      (project.sourceFiles.map fun source =>
        Text.lowercase
          (file.directory.relativeTo (project.sourceRoot.join source)).windowsText).Nodup)

variable {project other : Project} {file : Path} {context : GenerationContext}

theorem Project.Rearranges.sourceFiles_eq
    (rearranges : context.project.Rearranges context.file other) :
    (context.withProject other).sourceFiles = context.sourceFiles := by
  have sameEntry : (context.withProject other).sourceEntry = context.sourceEntry := by
    funext source
    unfold GenerationContext.sourceEntry GenerationContext.withProject
    dsimp only
    rw [rearranges.sourceRoot]
    rfl
  have entries : (other.sourceFiles.map context.sourceEntry).mergeSort
        GenerationContext.includeLE =
      (context.project.sourceFiles.map context.sourceEntry).mergeSort
        GenerationContext.includeLE := by
    rcases rearranges.sourceFiles with same | ⟨perm, apart⟩
    · rw [same]
    · refine (GenerationContext.mergeSort_includeLE_of_perm (perm.map _) ?_).symm
      simpa only [List.map_map, Function.comp_def, GenerationContext.sourceEntry,
        GenerationContext.relative, GenerationContext.directory] using apart
  have ownFiles : (context.withProject other).project.sourceFiles = other.sourceFiles := rfl
  unfold GenerationContext.sourceFiles
  rw [sameEntry, ownFiles, entries]

/-! ## Project files -/

/-- A project matters to source items by its source files only. -/
theorem Format.MSBuild.writeSourceFiles_congr {left right : GenerationContext}
    (same : left.sourceFiles = right.sourceFiles) (buffer : OutputBuffer) (resolver : Resolver)
    (elementFor : String → String) :
    writeSourceFiles buffer resolver left elementFor =
      writeSourceFiles buffer resolver right elementFor := by
  unfold writeSourceFiles
  rw [same]

section

variable (rearranges : context.project.Rearranges context.file other)
include rearranges

theorem Format.VisualCpp.generate_withProject :
    generator.generate (context.withProject other) = generator.generate context := by
  have sourceItems := MSBuild.writeSourceFiles_congr rearranges.sourceFiles_eq
  have rendered : render (context.withProject other) = render context := by
    funext options
    unfold render
    simp only [sourceItems]
    rfl
  unfold generator
  dsimp only
  rw [rendered]
  rfl

theorem Format.CSharp.generate_withProject :
    generator.generate (context.withProject other) = generator.generate context := by
  have sourceItems := MSBuild.writeSourceFiles_congr rearranges.sourceFiles_eq
  have rendered : render (context.withProject other) = render context := by
    funext options header hasPackages
    unfold render
    simp only [sourceItems]
    rfl
  have headers : ProjectHeader.ofOptions (context.withProject other) =
      ProjectHeader.ofOptions context := by
    have sameNamespace : rootNamespace (context.withProject other) = rootNamespace context := by
      unfold rootNamespace GenerationContext.withProject
      dsimp only
      rw [rearranges.kind]
    funext options
    unfold ProjectHeader.ofOptions
    rw [sameNamespace]
    rfl
  unfold generator
  dsimp only
  rw [rendered, headers]
  rfl

theorem Format.Python.generate_withProject :
    generator.generate (context.withProject other) = generator.generate context := by
  have sourceItems := MSBuild.writeSourceFiles_congr rearranges.sourceFiles_eq
  have bindings : globalBindings (context.withProject other) = globalBindings context := by
    funext settings
    unfold globalBindings searchPath GenerationContext.withProject
    dsimp only
    rw [rearranges.sourceRoot]
    rfl
  have rendered : render (context.withProject other) = render context := by
    funext settings
    unfold render
    simp only [sourceItems, bindings]
    rfl
  unfold generator
  dsimp only
  rw [rendered, show (context.withProject other).project.kind = context.project.kind from
    rearranges.kind]
  rfl

theorem Format.Android.generate_withProject :
    generator.generate (context.withProject other) = generator.generate context := by
  have sourceItems := MSBuild.writeSourceFiles_congr rearranges.sourceFiles_eq
  have rendered : render (context.withProject other) = render context := by
    funext options package
    unfold render
    simp only [sourceItems]
    rfl
  unfold generator
  dsimp only
  rw [rendered, show (context.withProject other).project.kind = context.project.kind from
    rearranges.kind]
  rfl

/-- The standard generators render a rearranged project alike. -/
theorem Generator.generate_withProject {extension : String} {generator : Generator}
    (registered : GeneratorRegistry.standard.get? extension = some generator) :
    generator.generate (context.withProject other) = generator.generate context := by
  obtain ⟨_, rfl | rfl | rfl | rfl⟩ := GeneratorRegistry.cases_of_get?_standard registered
  · exact Format.VisualCpp.generate_withProject rearranges
  · exact Format.CSharp.generate_withProject rearranges
  · exact Format.Python.generate_withProject rearranges
  · exact Format.Android.generate_withProject rearranges

end

/-- The context of a file does not depend on the order of its configurations. -/
theorem GenerationContext.new_of_perm {configurations others : List Configuration}
    {settings : Settings} (sameName : other.name = project.name)
    (perm : configurations.Perm others)
    (created : GenerationContext.new project file configurations settings = .ok context) :
    GenerationContext.new other file others settings = .ok (context.withProject other) := by
  unfold GenerationContext.new at created ⊢
  obtain ⟨sorted, isSorted, afterSorting⟩ := ok_of_bind_eq_ok created
  obtain ⟨found, isFound, afterCheck⟩ := ok_of_bind_eq_ok afterSorting
  rw [Configuration.sortAndValidate_of_perm isSorted perm, bind_ok, sameName, isFound, bind_ok]
  cases sorted with
  | nil => cases afterCheck
  | cons first others =>
      cases afterCheck
      rfl

/-- A project file is rendered alike in whatever order its configurations and its source
files are declared. -/
theorem Builder.renderFile_of_rearranges {settings : Settings} {rendered : RenderedProject}
    {configurations others : List Configuration}
    (rearranges : project.Rearranges file other) (perm : configurations.Perm others)
    (succeeded : (Builder.new settings).renderFile project file configurations = .ok rendered) :
    (Builder.new settings).renderFile other file others = .ok rendered := by
  unfold renderFile at succeeded ⊢
  obtain ⟨generator, isFound, afterFinding⟩ := ok_of_bind_eq_ok succeeded
  obtain ⟨context, isCreated, afterCreation⟩ := ok_of_bind_eq_ok afterFinding
  obtain ⟨registered, _⟩ := GeneratorRegistry.forFile_eq_ok isFound
  have ofContext : context.project.Rearranges context.file other := by
    rwa [(GenerationContext.new_eq_ok isCreated).1, GenerationContext.file_of_new isCreated]
  rw [rearranges.kind, isFound, bind_ok,
    GenerationContext.new_of_perm rearranges.name perm isCreated, bind_ok,
    Generator.generate_withProject ofContext registered, rearranges.name]
  exact afterCreation

/-! ## Solutions -/

/-- Whether a configuration of a solution is another one, up to the order of what it
includes. -/
structure SolutionConfiguration.Rearranges (configuration other : SolutionConfiguration) :
    Prop where
  name : configuration.name = other.name
  platform : configuration.platform = other.platform
  projects : configuration.projects.Perm other.projects

/-- Whether a solution is another one, up to the order of its configurations and of what
they include. -/
structure Solution.Rearranges (solution other : Solution) : Prop where
  name : other.name = solution.name
  file : other.file = solution.file
  configurations : ∃ permuted, solution.configurations.Perm permuted ∧
    List.Forall₂ SolutionConfiguration.Rearranges permuted other.configurations

namespace Format.SolutionFile

variable {solution rearranged : Solution} {configurations others : List SolutionConfiguration}

/-- Whether two configurations write the same lines. -/
structure LooksLike (configuration other : SolutionConfiguration) : Prop where
  name : configuration.name = other.name
  platform : configuration.platform = other.platform
  included : included? configuration = included? other

/-- What a configuration includes once is found wherever it stands. -/
theorem looksLike_of_rearranges {configuration other : SolutionConfiguration}
    (rearranges : configuration.Rearranges other)
    (once : (configuration.projects.map fun entry => entry.project.guid).Nodup) :
    LooksLike configuration other := by
  refine ⟨rearranges.name, rearranges.platform, funext fun guid => ?_⟩
  have alsoOnce : (other.projects.map fun entry => entry.project.guid).Nodup :=
    (rearranges.projects.map _).nodup_iff.1 once
  have perm : (included? configuration guid).toList.Perm (included? other guid).toList := by
    rw [← filter_eq_toList_included? once, ← filter_eq_toList_included? alsoOnce]
    exact rearranges.projects.filter _
  cases found : included? configuration guid with
  | none =>
      rw [found] at perm
      exact (Option.toList_eq_nil_iff.1 perm.nil_eq.symm).symm
  | some entry =>
      rw [found] at perm
      exact (Option.toList_eq_singleton_iff.1 (List.singleton_perm.1 perm).symm).symm

theorem sectionName_eq_of_rearranges {configuration other : SolutionConfiguration}
    (rearranges : configuration.Rearranges other) :
    configuration.sectionName = other.sectionName := by
  rw [SolutionConfiguration.sectionName, rearranges.name, rearranges.platform]
  rfl

theorem map_eq_of_forall₂ {α β : Type} {related : α → α → Prop} {left right : List α}
    (areRelated : List.Forall₂ related left right) {shown : α → β}
    (same : ∀ a b, related a b → shown a = shown b) : left.map shown = right.map shown := by
  have shownAlike : List.Forall₂ Eq (left.map shown) (right.map shown) :=
    List.forall₂_map_left_iff.2 (List.forall₂_map_right_iff.2 (areRelated.imp same))
  rwa [List.forall₂_eq_eq_eq] at shownAlike

/-- Rearranged configurations are accepted in the same order. -/
theorem sortedConfigurations_of_rearranges (rearranges : solution.Rearranges rearranged)
    (isSorted : sortedConfigurations solution = .ok configurations) :
    ∃ others, sortedConfigurations rearranged = .ok others ∧
      List.Forall₂ SolutionConfiguration.Rearranges configurations others := by
  obtain ⟨nonempty, _, unrepeated⟩ := sortedConfigurations_eq_ok_iff.1 isSorted
  have increasing := increasing_of_sortedConfigurations isSorted
  have perm := perm_of_sortedConfigurations isSorted
  obtain ⟨permuted, permPermuted, related⟩ := rearranges.configurations
  obtain ⟨others, sameOrder, permOthers⟩ :=
    List.perm_comp_forall₂ (perm.trans permPermuted) related
  refine ⟨others, sortedConfigurations_eq_ok_of_increasing ?_ permOthers ?_ ?_, sameOrder⟩
  · intro isEmpty
    rw [isEmpty] at permOthers
    rw [permOthers.eq_nil, List.forall₂_nil_right_iff] at sameOrder
    rw [sameOrder] at perm
    exact nonempty perm.nil_eq.symm
  · have sameKeys := map_eq_of_forall₂ sameOrder fun left right same =>
      show (left.name, left.platform) = (right.name, right.platform) by
        rw [same.name, same.platform]
    have keysIncrease : (configurations.map fun configuration =>
        (configuration.name, configuration.platform)).Pairwise fun left right =>
          compareLex (compareOn Prod.fst) (compareOn Prod.snd) left right = .lt :=
      List.pairwise_map.2 increasing
    rw [sameKeys] at keysIncrease
    exact List.pairwise_map.1 keysIncrease
  · have sameSections := map_eq_of_forall₂ sameOrder fun _ _ => sectionName_eq_of_rearranges
    rw [repeatedSection?_eq_none_iff] at unrepeated ⊢
    have sectionsDiffer := (List.isChain_map SolutionConfiguration.sectionName).2 unrepeated
    rw [sameSections] at sectionsDiffer
    exact (List.isChain_map SolutionConfiguration.sectionName).1 sectionsDiffer

/-- A reference is found in the first configuration that includes its project. -/
theorem find?_references (configurations : List SolutionConfiguration) (guid : Guid) :
    (references configurations).find? (fun reference => reference.guid = guid) =
      (configurations.findSome? fun configuration => included? configuration guid).map
        (·.project) := by
  unfold references included?
  rw [List.find?_flatMap, List.map_findSome?]
  congr 1
  funext configuration
  rw [List.find?_map]
  rfl

theorem perm_references
    (related : List.Forall₂ SolutionConfiguration.Rearranges configurations others) :
    (references configurations).Perm (references others) := by
  induction related with
  | nil => exact .refl _
  | cons isRelated _ ih => exact (isRelated.projects.map _).append ih

theorem AreCompatible.of_rearranges (compatible : AreCompatible configurations)
    (related : List.Forall₂ SolutionConfiguration.Rearranges configurations others) :
    AreCompatible others := by
  refine ⟨?_, ((perm_references related).pairwise_iff (Std.Symm.symm _ _)).1 compatible.agree⟩
  have once := compatible.once
  clear compatible
  induction related with
  | nil => exact nofun
  | cons isRelated _ ih =>
      obtain ⟨isOnce, areOnce⟩ := List.forall_mem_cons.1 once
      exact List.forall_mem_cons.2 ⟨(isRelated.projects.map _).nodup_iff.1 isOnce, ih areOnce⟩

theorem AreCompatible.lookLike (compatible : AreCompatible configurations)
    (related : List.Forall₂ SolutionConfiguration.Rearranges configurations others) :
    List.Forall₂ LooksLike configurations others :=
  ((List.forall₂_and_left _ _).2 ⟨compatible.once, related⟩).imp fun _ _ isRelated =>
    looksLike_of_rearranges isRelated.2 isRelated.1

theorem findSome?_eq_of_lookLike (looks : List.Forall₂ LooksLike configurations others)
    (guid : Guid) :
    (configurations.findSome? fun configuration => included? configuration guid) =
      others.findSome? fun configuration => included? configuration guid := by
  induction looks with
  | nil => rfl
  | cons isAlike _ ih => rw [List.findSome?_cons, List.findSome?_cons, isAlike.included, ih]

/-- Rearranged configurations include the same projects. -/
theorem distinctProjects_of_rearranges
    (related : List.Forall₂ SolutionConfiguration.Rearranges configurations others)
    {projects : List ProjectReference}
    (isDistinct : distinctProjects solution configurations = .ok projects) :
    distinctProjects rearranged others = .ok projects := by
  obtain ⟨compatible, increasing, areFirst⟩ := distinctProjects_eq_ok_iff.1 isDistinct
  refine distinctProjects_eq_ok_iff.2
    ⟨compatible.of_rearranges related, increasing, fun project => ?_⟩
  rw [areFirst, find?_references, find?_references,
    findSome?_eq_of_lookLike (compatible.lookLike related)]

/-- Lists of configurations that look alike are written alike. -/
theorem foldlM_eq_of_lookLike (looks : List.Forall₂ LooksLike configurations others)
    {write : OutputBuffer → SolutionConfiguration → Except GenerationError OutputBuffer}
    (same : ∀ buffer configuration other, LooksLike configuration other →
      write buffer configuration = write buffer other) (buffer : OutputBuffer) :
    configurations.foldlM write buffer = others.foldlM write buffer := by
  induction looks generalizing buffer with
  | nil => rfl
  | cons isAlike _ ih =>
      rw [List.foldlM_cons, List.foldlM_cons, same buffer _ _ isAlike]
      exact bind_congr fun next => ih next

/-- A solution that is rendered is rendered alike in whatever order its configurations and
what they include are declared. -/
theorem render_of_rearranges {settings : Settings} {text : String}
    (rearranges : solution.Rearranges rearranged)
    (rendered : render solution settings = .ok text) :
    render rearranged settings = .ok text := by
  obtain ⟨configurations, projects, isSorted, isDistinct, _⟩ := exists_of_render_eq_ok rendered
  obtain ⟨others, alsoSorted, related⟩ := sortedConfigurations_of_rearranges rearranges isSorted
  have looks := (distinctProjects_eq_ok_iff.1 isDistinct).1.lookLike related
  have projectsWritten : writeProject rearranged = writeProject solution := by
    funext resolver buffer project
    unfold writeProject
    rw [rearranges.file]
  have configurationsWritten := fun resolver buffer => foldlM_eq_of_lookLike looks
    (fun buffer configuration other same => show writeConfiguration resolver buffer configuration =
        writeConfiguration resolver buffer other by
      unfold writeConfiguration
      rw [same.name, same.platform]) buffer
  have inclusionsWritten : ∀ resolver, writeInclusions resolver configurations =
      writeInclusions resolver others := by
    intro resolver
    funext buffer project
    refine foldlM_eq_of_lookLike looks (fun buffer configuration other same => ?_) buffer
    unfold writeInclusion
    rw [same.name, same.platform, same.included]
  unfold render at rendered ⊢
  rw [isSorted, bind_ok, isDistinct, bind_ok] at rendered
  rw [alsoSorted, bind_ok, distinctProjects_of_rearranges related isDistinct, bind_ok,
    projectsWritten]
  simp only [← configurationsWritten, ← inclusionsWritten]
  exact rendered

/-- A solution of the same content as another one, in another order. -/
def rearrangedGame : Solution :=
  { game with
    configurations := game.configurations.reverse.map fun configuration =>
      { configuration with projects := configuration.projects.reverse } }

theorem rearranges_game : game.Rearranges rearrangedGame := by
  refine ⟨rfl, rfl, game.configurations.reverse, (List.reverse_perm _).symm, ?_⟩
  refine List.forall₂_map_right_iff.2 (List.forall₂_same.2 fun configuration _ => ?_)
  exact ⟨rfl, rfl, (List.reverse_perm _).symm⟩

end Format.SolutionFile

/-! ## Whatever is rendered -/

/-- Rendering does not depend on the order of declarations: neither a project file on that
of its configurations and source files, nor a solution file on that of its configurations
and what they include. -/
theorem rendering_ignores_order (settings : Settings) :
    (∀ (project other : Project) (file : Path) (configurations others : List Configuration)
        (rendered : RenderedProject),
      (Builder.new settings).renderFile project file configurations = .ok rendered →
      configurations.Perm others → project.Rearranges file other →
      (Builder.new settings).renderFile other file others = .ok rendered) ∧
    ∀ (solution other : Solution) (text : String),
      Format.SolutionFile.render solution settings = .ok text → solution.Rearranges other →
      Format.SolutionFile.render other settings = .ok text :=
  ⟨fun _ _ _ _ _ _ rendered perm rearranges =>
      Builder.renderFile_of_rearranges rearranges perm rendered,
    fun _ _ _ rendered rearranges => Format.SolutionFile.render_of_rearranges rearranges rendered⟩

/-- A Python project of two configurations and two source files. -/
def scripts : Project where
  name := "scripts"
  kind := .python ⟨[], some ⟨"main.py"⟩, none, none⟩
  sourceRoot := ⟨"/w"⟩
  sourceFiles := [⟨"main.py"⟩, ⟨"tools.py"⟩]
  configurations := ["Debug", "Release"].map fun name =>
    (Configuration.new "scripts" name "AnyCPU").withGuid ⟨1⟩

/-- The same with its source files in another order. -/
def rearrangedScripts : Project :=
  { scripts with sourceFiles := scripts.sourceFiles.reverse }

/-- The file of these projects. -/
def scriptsFile : Path := ⟨"/w/scripts.pyproj"⟩

theorem rearranges_scripts : scripts.Rearranges scriptsFile rearrangedScripts :=
  ⟨rfl, rfl, rfl, .inr ⟨(List.reverse_perm _).symm, by decide +kernel⟩⟩

theorem forFile_scripts :
    GeneratorRegistry.standard.forFile scriptsFile scripts.kind =
      .ok Format.Python.generator := by
  have isPython : Text.lowercase scriptsFile.extension = "pyproj" := by decide +kernel
  have registered : GeneratorRegistry.standard.get? scriptsFile.extension =
      some Format.Python.generator := by
    unfold GeneratorRegistry.standard GeneratorRegistry.ofList
    simp only [List.foldl_cons, List.foldl_nil, GeneratorRegistry.get?_register, isPython]
    rw [if_neg (by decide), if_pos (by decide)]
  unfold GeneratorRegistry.forFile
  rw [registered]
  rfl

theorem exists_new_scripts : ∃ context,
    GenerationContext.new scripts scriptsFile scripts.configurations {} = .ok context := by
  have inOrder : scripts.configurations.Pairwise fun left right =>
      (Configuration.compareIdentity left right).isLE = true := by decide +kernel
  have isSorted : Configuration.sortAndValidate scriptsFile scripts.configurations =
      .ok scripts.configurations := by
    have sorted : Configuration.sorted scripts.configurations = scripts.configurations :=
      List.mergeSort_of_pairwise inOrder
    unfold Configuration.sortAndValidate
    rw [sorted]
    rfl
  have checked : Configuration.checkDependencyConsistency scripts.name scripts.configurations
      .warn = .ok .new := rfl
  unfold GenerationContext.new
  rw [isSorted, bind_ok, checked, bind_ok]
  exact ⟨_, rfl⟩

theorem exists_renderFile_scripts : ∃ rendered,
    (Builder.new {}).renderFile scripts scriptsFile scripts.configurations = .ok rendered := by
  have avoids : ∀ text ∈ scripts.texts, Text.Avoids Text.separators text :=
    Text.Avoids.of_all_isFixed (List.Subset.refl _) (by decide +kernel)
  obtain ⟨context, isCreated⟩ := exists_new_scripts
  have avoidsContext := GenerationContext.avoids_of_new isCreated avoids
    fun configuration member => Project.avoids_of_mem_configurations avoids member
  obtain ⟨outputs, generated⟩ := Format.Python.exists_generate_eq (List.Subset.refl _)
    (by decide) avoidsContext
  unfold Builder.renderFile Builder.new
  dsimp only
  rw [forFile_scripts, bind_ok, isCreated, bind_ok, generated]
  exact ⟨_, rfl⟩

theorem rendering_ignores_order_samples :
    (∃ rendered,
      (Builder.new {}).renderFile scripts scriptsFile scripts.configurations = .ok rendered ∧
      (Builder.new {}).renderFile rearrangedScripts scriptsFile scripts.configurations.reverse =
        .ok rendered) ∧
    ∃ text, Format.SolutionFile.render Format.SolutionFile.game {} = .ok text ∧
      Format.SolutionFile.render Format.SolutionFile.rearrangedGame {} = .ok text := by
  obtain ⟨rendered, isRendered⟩ := exists_renderFile_scripts
  obtain ⟨text, isText⟩ := Format.SolutionFile.render_game
  exact ⟨⟨rendered, isRendered, (rendering_ignores_order {}).1 _ _ _ _ _ _ isRendered
      (List.reverse_perm _).symm rearranges_scripts⟩,
    text, isText, (rendering_ignores_order {}).2 _ _ _ isText
      Format.SolutionFile.rearranges_game⟩

end ProjectFiles
