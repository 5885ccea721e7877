import ProjectFiles.Proofs.Format.PackagesItem
import ProjectFiles.Proofs.Format.PackageLines
import ProjectFiles.Proofs.Generation.Commits
import ProjectFiles.Proofs.Path.Rooted

/-!
# The C# project files of a run

Every C# project file of a run asks for the package list beside it: to be written
when its configurations have packages, and to be removed when they have none.  The
outputs of a run are listed here file by file, in the order of the run.
-/

namespace ProjectFiles

open Format Template Text

/-! ## C# project files -/

/-- A C# project file, the project that it belongs to and the configurations that it
is generated from. -/
structure CSharpFile where
  project : Project
  file : Path
  configurations : List Configuration

namespace CSharpFile

/-- The package list beside a project file. -/
def list (own : CSharpFile) : Path :=
  own.file.packageList

/-- The packages that the configurations of a project file refer to. -/
def references (own : CSharpFile) : List PackageReference :=
  own.configurations.flatMap (·.nugetReferences)

/-- The source files of the project as the project file includes them. -/
def includes (own : CSharpFile) : List String :=
  own.project.sourceFiles.map fun source =>
    (own.file.directory.relativeTo (own.project.sourceRoot.join source)).windowsText

/-- The C# project file that a group of configurations makes up, if it is one. -/
def ofGroup? (project : Project) (group : Path × List Configuration) : Option CSharpFile :=
  if (project.kind matches .cSharp _) && Text.lowercase group.1.extension == "csproj" then
    some ⟨project, group.1, group.2⟩
  else none

theorem of_ofGroup?_eq_some {project : Project} {group : Path × List Configuration}
    {own : CSharpFile} (found : ofGroup? project group = some own) :
    own = ⟨project, group.1, group.2⟩ ∧ (project.kind matches .cSharp _) = true ∧
      Text.lowercase group.1.extension = "csproj" := by
  unfold ofGroup? at found
  by_cases isCSharp : ((project.kind matches .cSharp _) &&
      Text.lowercase group.1.extension == "csproj") = true
  · rw [if_pos isCSharp] at found
    rw [Bool.and_eq_true, beq_iff_eq] at isCSharp
    exact ⟨(Option.some.inj found).symm, isCSharp⟩
  · rw [if_neg isCSharp] at found
    cases found

/-- The context that a project file is rendered in. -/
def Context (settings : Settings) (own : CSharpFile) (context : GenerationContext) : Prop :=
  GenerationContext.new own.project own.file own.configurations settings = .ok context

/-- Whether contents are what a project file makes of its package list. -/
def Lists (settings : Settings) (own : CSharpFile) (contents : String) : Prop :=
  ∃ context framework, own.Context settings context ∧
    PackageList.pending context framework = .ok (.shared own.list contents)

variable {settings : Settings} {own : CSharpFile} {context : GenerationContext}

theorem Context.mem_packages_iff (created : own.Context settings context)
    {package : PackageReference} :
    package ∈ PackageList.packages context ↔ package ∈ own.references := by
  have perm := GenerationContext.configurations_of_new created
  rw [PackageList.mem_packages_iff, references, List.mem_flatMap]
  simp only [perm.mem_iff]

theorem Context.packages_eq_nil_iff (created : own.Context settings context) :
    PackageList.packages context = [] ↔ own.references = [] := by
  simp only [List.eq_nil_iff_forall_not_mem, created.mem_packages_iff]

theorem Context.avoids {avoided : List Char} (created : own.Context settings context)
    (isOwn : (own.file, own.configurations) ∈ own.project.configurationsByFile)
    (avoids : ∀ text ∈ own.project.texts, Avoids avoided text) : context.Avoids avoided :=
  GenerationContext.avoids_of_new created avoids fun _ member =>
    Project.avoids_of_mem_configurations avoids
      (Project.mem_configurations_of_group isOwn member)

/-- The source files of a context are those that the project file includes. -/
theorem Context.fst_mem_includes (created : own.Context settings context) {entry : String × String}
    (member : entry ∈ context.sourceFiles) : entry.1 ∈ own.includes := by
  obtain ⟨source, isSource, rfl⟩ := GenerationContext.mem_sourceFiles member
  have contextFile := GenerationContext.file_of_new created
  obtain ⟨contextProject, _⟩ := GenerationContext.new_eq_ok created
  rw [contextProject] at isSource
  refine List.mem_map.2 ⟨source, isSource, ?_⟩
  rw [GenerationContext.sourceEntry, GenerationContext.relative, GenerationContext.directory,
    contextFile, contextProject]

/-- The texts of the packages of a project file are its project's. -/
theorem mem_texts_of_mem_references
    (isOwn : (own.file, own.configurations) ∈ own.project.configurationsByFile)
    {package : PackageReference} (member : package ∈ own.references) {text : String}
    (isText : text ∈ package.texts) : text ∈ own.project.texts := by
  obtain ⟨configuration, inGroup, isReference⟩ := List.mem_flatMap.1 member
  have isConfiguration := Project.mem_configurations_of_group isOwn inGroup
  refine List.mem_append_right _ (List.mem_flatMap.2 ⟨configuration, isConfiguration, ?_⟩)
  exact List.mem_append_right _ (List.mem_flatMap.2 ⟨package, isReference, isText⟩)

namespace Lists

variable {contents : String}

/-- A list has a line for every package of the project file that it is made for. -/
theorem exists_folder (lists : own.Lists settings contents)
    (isOwn : (own.file, own.configurations) ∈ own.project.configurationsByFile)
    (avoid : ∀ text ∈ own.project.texts, Avoids separators text)
    (untagged : ∀ text ∈ own.project.texts, ¬ Value.omitTag.toList <:+: text.toList) :
    ∃ folder, ∀ package ∈ own.references,
      PackageList.packageLine folder package ∈ lines contents.toList := by
  obtain ⟨context, framework, created, listed⟩ := lists
  refine ⟨PackageList.frameworkFolder framework, fun package member => ?_⟩
  exact PackageList.packageLine_mem (created.avoids isOwn avoid) listed
    (created.mem_packages_iff.2 member)
    fun text isText => untagged text (mem_texts_of_mem_references isOwn member isText)

/-- A list has no lines for other packages. -/
theorem exists_of_packageLine_mem (lists : own.Lists settings contents)
    (isOwn : (own.file, own.configurations) ∈ own.project.configurationsByFile)
    (avoid : ∀ text ∈ own.project.texts, Avoids separators text)
    {folder : String} {package : PackageReference}
    (listedLine : PackageList.packageLine folder package ∈ lines contents.toList) :
    ∃ otherFolder, ∃ other ∈ own.references,
      PackageList.packageLine folder package = PackageList.packageLine otherFolder other := by
  obtain ⟨context, framework, created, listed⟩ := lists
  obtain ⟨other, isOther, same⟩ :=
    PackageList.exists_of_packageLine_mem (created.avoids isOwn avoid) listed listedLine
  exact ⟨_, other, created.mem_packages_iff.1 isOther, same⟩

end Lists

end CSharpFile

namespace Project

/-- The C# project files of a project, in order. -/
def csharpFiles (project : Project) : List CSharpFile :=
  project.configurationsByFile.filterMap (CSharpFile.ofGroup? project)

/-- A C# project file is what a group of configurations of its project makes up. -/
theorem mem_csharpFiles {project : Project} {own : CSharpFile}
    (member : own ∈ project.csharpFiles) :
    own.project = project ∧ (own.file, own.configurations) ∈ project.configurationsByFile ∧
      CSharpFile.ofGroup? project (own.file, own.configurations) = some own := by
  obtain ⟨group, isGroup, found⟩ := List.mem_filterMap.1 member
  obtain ⟨rfl, _⟩ := CSharpFile.of_ofGroup?_eq_some found
  exact ⟨rfl, isGroup, found⟩

end Project

/-- The C# project files of a run, in order. -/
def csharpFiles (projects : List Project) : List CSharpFile :=
  projects.flatMap Project.csharpFiles

theorem mem_csharpFiles {projects : List Project} {own : CSharpFile}
    (member : own ∈ csharpFiles projects) :
    own.project ∈ projects ∧ own ∈ own.project.csharpFiles := by
  obtain ⟨project, isProject, isOwn⟩ := List.mem_flatMap.1 member
  obtain ⟨rfl, _⟩ := Project.mem_csharpFiles isOwn
  exact ⟨isProject, isOwn⟩

/-- The package list of a rooted C# project file is rooted. -/
theorem CSharpFile.hasRoot_list {projects : List Project} {own : CSharpFile}
    (member : own ∈ csharpFiles projects) (rooted : own.file.hasRoot = true) :
    own.list.hasRoot = true := by
  obtain ⟨_, _, found⟩ := Project.mem_csharpFiles (mem_csharpFiles member).2
  obtain ⟨_, _, isCSharp⟩ := CSharpFile.of_ofGroup?_eq_some found
  refine Path.hasRoot_join (Path.hasRoot_directory rooted fun unnamed => ?_) _
  have noExtension : own.file.extension = "" := by
    simp [Path.extension, Path.extension?, unnamed]
  rw [noExtension] at isCSharp
  exact absurd isCSharp (by decide)

/-! ## Outputs file by file -/

/-- The outputs of C# project files among other outputs, in order: a list that is
written, or one that is to be removed. -/
inductive Produces (settings : Settings) : List CSharpFile → List PendingOutput → Prop where
  | nil : Produces settings [] []
  | file {files : List CSharpFile} {outputs : List PendingOutput} {path : Path}
      {contents : String} (others : Produces settings files outputs) :
      Produces settings files (.file path contents :: outputs)
  | stale {own : CSharpFile} {files : List CSharpFile} {outputs : List PendingOutput}
      (unused : own.references = []) (others : Produces settings files outputs) :
      Produces settings (own :: files) (.staleShared own.list :: outputs)
  | shared {own : CSharpFile} {files : List CSharpFile} {outputs : List PendingOutput}
      {contents : String} (used : own.references ≠ []) (lists : own.Lists settings contents)
      (others : Produces settings files outputs) :
      Produces settings (own :: files) (.shared own.list contents :: outputs)

namespace Produces

variable {settings : Settings} {files others : List CSharpFile}
variable {outputs behind : List PendingOutput}

theorem append (former : Produces settings files outputs)
    (latter : Produces settings others behind) :
    Produces settings (files ++ others) (outputs ++ behind) := by
  induction former with
  | nil => exact latter
  | file _ ih => exact .file ih
  | stale unused _ ih => exact .stale unused ih
  | shared used lists _ ih => exact .shared used lists ih

/-- A list that is written is one of a project file with packages. -/
theorem exists_of_shared (produces : Produces settings files outputs) {path : Path}
    {contents : String} (member : .shared path contents ∈ outputs) :
    ∃ own ∈ files, own.references ≠ [] ∧ path = own.list := by
  induction produces with
  | nil => cases member
  | file _ ih => exact ih (List.mem_of_ne_of_mem (by simp) member)
  | stale _ _ ih =>
      obtain ⟨own, isOwn, found⟩ := ih (List.mem_of_ne_of_mem (by simp) member)
      exact ⟨own, List.mem_cons_of_mem _ isOwn, found⟩
  | shared used _ _ ih =>
      rcases List.mem_cons.1 member with isFirst | inRest
      · cases isFirst
        exact ⟨_, List.mem_cons_self, used, rfl⟩
      · obtain ⟨own, isOwn, found⟩ := ih inRest
        exact ⟨own, List.mem_cons_of_mem _ isOwn, found⟩

/-- A project file without packages asks for the removal of its list. -/
theorem staleShared_mem (produces : Produces settings files outputs) {own : CSharpFile}
    (member : own ∈ files) (unused : own.references = []) : .staleShared own.list ∈ outputs := by
  induction produces with
  | nil => cases member
  | file _ ih => exact List.mem_cons_of_mem _ (ih member)
  | stale _ _ ih =>
      rcases List.mem_cons.1 member with rfl | inRest
      · exact List.mem_cons_self
      · exact List.mem_cons_of_mem _ (ih inRest)
  | shared used _ _ ih =>
      rcases List.mem_cons.1 member with rfl | inRest
      · exact absurd unused used
      · exact List.mem_cons_of_mem _ (ih inRest)

end Produces

/-- Whether a project file has packages for a list. -/
def CSharpFile.fills (path : Path) (own : CSharpFile) : Bool :=
  !own.references.isEmpty && own.list.sameOutput path

/-- The first project file with packages for a list is the first that writes it. -/
theorem Produces.exists_first {settings : Settings} {files : List CSharpFile}
    {outputs : List PendingOutput} (produces : Produces settings files outputs) {path : Path}
    {first : CSharpFile} (found : files.find? (·.fills path) = some first) :
    ∃ earlier contents later, outputs = earlier ++ .shared first.list contents :: later ∧
      first.Lists settings contents ∧
      ∀ other text, .shared other text ∈ earlier → other.sameOutput path = false := by
  induction produces with
  | nil => cases found
  | file _ ih =>
      obtain ⟨earlier, contents, later, rfl, lists, unnamed⟩ := ih found
      refine ⟨_ :: earlier, contents, later, rfl, lists, fun other text member => ?_⟩
      exact unnamed other text (List.mem_of_ne_of_mem (by simp) member)
  | @stale own _ _ unused _ ih =>
      have fillsNothing : own.fills path = false := by simp [CSharpFile.fills, unused]
      rw [List.find?_cons, fillsNothing] at found
      obtain ⟨earlier, contents, later, rfl, lists, unnamed⟩ := ih found
      refine ⟨_ :: earlier, contents, later, rfl, lists, fun other text member => ?_⟩
      exact unnamed other text (List.mem_of_ne_of_mem (by simp) member)
  | @shared own _ outputs contents used lists _ ih =>
      rw [List.find?_cons] at found
      cases isFirst : own.fills path with
      | true =>
          rw [isFirst] at found
          cases found
          exact ⟨[], contents, outputs, rfl, lists, by simp⟩
      | false =>
          rw [isFirst] at found
          obtain ⟨earlier, text, later, rfl, listsFirst, unnamed⟩ := ih found
          refine ⟨_ :: earlier, text, later, rfl, listsFirst, fun other own member => ?_⟩
          rcases List.mem_cons.1 member with isOwn | inEarlier
          · cases isOwn
            simpa [CSharpFile.fills, used] using isFirst
          · exact unnamed other own inEarlier

/-! ## Rendering -/

namespace Builder

variable {settings : Settings} {project : Project}

/-- A group of configurations is rendered as one project file, or as a C# project file
and its package list. -/
theorem renderFile_cases {group : Path × List Configuration} {rendered : RenderedProject}
    (renders : (Builder.new settings).renderFile project group.1 group.2 = .ok rendered) :
    (CSharpFile.ofGroup? project group = none ∧
      ∃ contents, rendered.pending = [.file group.1 contents]) ∨
    ∃ context, CSharpFile.ofGroup? project group = some ⟨project, group.1, group.2⟩ ∧
      GenerationContext.new project group.1 group.2 settings = .ok context ∧
      CSharp.generator.generate context = .ok rendered.pending := by
  obtain ⟨generator, found, afterGenerator⟩ := ok_of_bind_eq_ok renders
  obtain ⟨context, created, afterContext⟩ := ok_of_bind_eq_ok afterGenerator
  obtain ⟨pending, generated, returned⟩ := ok_of_bind_eq_ok afterContext
  cases returned
  have contextFile := GenerationContext.file_of_new created
  obtain ⟨registered, supported⟩ := GeneratorRegistry.forFile_eq_ok found
  obtain ⟨same, isStandard⟩ := GeneratorRegistry.cases_of_get?_standard registered
  have other : ∀ name : String, Text.lowercase group.1.extension = name → name ≠ "csproj" →
      CSharpFile.ofGroup? project group = none := by
    intro name isNamed differs
    simp [CSharpFile.ofGroup?, isNamed, differs]
  rcases isStandard with rfl | rfl | rfl | rfl
  · obtain ⟨contents, outputs⟩ := VisualCpp.generate_eq_ok generated
    exact .inl ⟨other _ same (by decide), contents, contextFile ▸ outputs⟩
  · have isCSharp : Text.lowercase group.1.extension = "csproj" := by
      rw [same]
      decide
    have supports : (project.kind matches .cSharp _) = true := supported
    exact .inr ⟨context, by simp [CSharpFile.ofGroup?, supports, isCSharp], created, generated⟩
  · obtain ⟨contents, outputs⟩ := Python.generate_eq_ok generated
    exact .inl ⟨other _ same (by decide), contents, contextFile ▸ outputs⟩
  · obtain ⟨contents, outputs⟩ := Android.generate_eq_ok generated
    exact .inl ⟨other _ same (by decide), contents, contextFile ▸ outputs⟩

/-- A C# project file is put out together with what it wants of its package list. -/
theorem produces_of_generate {own : CSharpFile} {context : GenerationContext}
    {outputs : List PendingOutput} (created : own.Context settings context)
    (generated : CSharp.generator.generate context = .ok outputs) :
    Produces settings [own] outputs := by
  have contextFile := GenerationContext.file_of_new created
  obtain ⟨_, header, contents, list, _, _, _, listed, rfl⟩ := CSharp.exists_of_generate generated
  have isList : PackageList.path context = own.list := by
    rw [PackageList.path, GenerationContext.directory, contextFile]
    rfl
  refine .file ?_
  rcases PackageList.pending_eq_ok listed with ⟨noPackages, rfl⟩ | ⟨somePackages, text, rfl⟩
  · rw [contextFile]
    exact .stale (created.packages_eq_nil_iff.1 noPackages) .nil
  · rw [contextFile] at listed ⊢
    exact .shared (mt created.packages_eq_nil_iff.2 somePackages)
      ⟨context, _, created, listed⟩ .nil

theorem produces_of_renderFiles {groups : List (Path × List Configuration)}
    {rendered : RenderedProject}
    (renders : (Builder.new settings).renderFiles project groups = .ok rendered) :
    Produces settings (groups.filterMap (CSharpFile.ofGroup? project)) rendered.pending := by
  induction groups generalizing rendered with
  | nil =>
      cases renders
      exact .nil
  | cons group rest ih =>
      unfold renderFiles at renders
      split at renders
      · cases renders
      · rename_i first isFirst
        cases others : (Builder.new settings).renderFiles project rest with
        | error failure => rw [others] at renders; cases renders
        | ok behind =>
            rw [others] at renders
            cases renders
            rcases renderFile_cases isFirst with
              ⟨isOther, contents, alone⟩ | ⟨context, isCSharp, created, generated⟩
            · rw [List.filterMap_cons_none isOther]
              dsimp only
              rw [alone]
              exact .file (ih others)
            · rw [List.filterMap_cons_some isCSharp]
              have own : Produces settings [⟨project, group.1, group.2⟩] first.pending :=
                produces_of_generate created generated
              exact own.append (ih others)

/-- The outputs of a run in which all projects are rendered. -/
theorem produces_of_rendered {projects : List Project}
    (render : ∀ project ∈ projects, ∃ rendered,
      (Builder.new settings).renderProject project = .ok rendered) :
    Produces settings (csharpFiles projects)
      ((Builder.new settings).renderedOutputs projects) := by
  induction projects with
  | nil => exact .nil
  | cons project rest ih =>
      obtain ⟨⟨rendered, renders⟩, others⟩ := List.forall_mem_cons.1 render
      have own : Produces settings project.csharpFiles
          ((Builder.new settings).pendings project) := by
        unfold pendings
        rw [renders]
        unfold renderProject at renders
        split at renders
        · cases renders
        · exact produces_of_renderFiles renders
      exact own.append (ih others)

end Builder

end ProjectFiles
