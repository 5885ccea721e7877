import Mathlib.Data.List.Pairwise
import ProjectFiles.Generation.Run
import ProjectFiles.Proofs.Error
import ProjectFiles.Proofs.Output.Commit

/-!
# Outputs of the standard generators

Rendering a project with the standard generators yields each of its project
files once, in their order, and beside every C# project file the package list of
the directory, to be written or to be removed.  No project file is itself a
package list, since there is no generator for its extension.
-/

namespace ProjectFiles

/-! ## Project files and package lists -/

/-- Whether a path leads to a package list. -/
def Path.isPackageList (path : Path) : Bool :=
  path.fileName? == some Format.PackageList.fileName

/-- The paths of a list that lead to other files than package lists. -/
def projectFilesOf (paths : List Path) : List Path :=
  paths.filter fun path => !path.isPackageList

theorem projectFilesOf_append (former latter : List Path) :
    projectFilesOf (former ++ latter) = projectFilesOf former ++ projectFilesOf latter :=
  List.filter_append ..

/-- The package list beside a project file. -/
def Path.packageList (file : Path) : Path :=
  file.directory.join ⟨Format.PackageList.fileName⟩

namespace Path

theorem isPackageList_congr {left right : Path} (equal : left.components = right.components) :
    left.isPackageList = right.isPackageList := by
  unfold isPackageList
  rw [fileName?_congr equal]

theorem isPackageList_absolute (path : Path) :
    path.absolute.isPackageList = path.isPackageList := by
  unfold isPackageList
  rw [fileName?_absolute]

theorem isPackageList_of_sameOutput {left right : Path} (same : left.sameOutput right = true) :
    left.isPackageList = right.isPackageList := by
  rw [← isPackageList_absolute left, ← isPackageList_absolute right]
  exact isPackageList_congr (sameOutput_iff.1 same)

theorem isPackageList_packageList (file : Path) : file.packageList.isPackageList = true := by
  have isStep : (Component.name Format.PackageList.fileName).IsStep := by
    refine ⟨?_, ?_, ?_, ?_⟩ <;> decide
  unfold isPackageList packageList
  rw [fileName?_join _ isStep]
  simp

/-- A package list has the extension of configuration files. -/
theorem extension_of_isPackageList {path : Path} (isList : path.isPackageList = true) :
    path.extension = "config" := by
  have name : path.fileName? = (Path.mk Format.PackageList.fileName).fileName? := by
    rw [beq_iff_eq.1 isList]
    decide
  unfold extension extension?
  rw [name]
  decide

end Path

namespace Project

/-- The files that are generated for a project. -/
def projectFiles (project : Project) : List Path :=
  project.configurationsByFile.map (·.1)

/-- Whether a file is one of the project's and generated as a C# project. -/
def IsCSharpFile (project : Project) (file : Path) : Prop :=
  file ∈ project.projectFiles ∧ (project.kind matches .cSharp _) = true ∧
    Text.lowercase file.extension = "csproj"

end Project

/-- A C# project of one configuration with a number of packages. -/
def Project.minimal (name : String) (file : Path) (packages : List PackageReference) :
    Project where
  name := name
  kind := .cSharp name
  sourceRoot := ⟨"src"⟩
  sourceFiles := []
  configurations :=
    [{ name := "Debug"
       platform := "AnyCPU"
       target := .empty
       projectName := name
       projectGuid := ⟨0⟩
       projectFile := file
       output := .dotNetClassLibrary
       targetPath := ⟨"bin"⟩
       intermediatePath := ⟨"obj"⟩
       targetFileName := name
       defines := []
       dependencies := []
       settings := .empty
       nugetReferences := packages }]

theorem Project.projectFiles_minimal (name : String) (file : Path)
    (packages : List PackageReference) : (minimal name file packages).projectFiles = [file] := rfl

/-- What the standard generators put out for a project: its own files, and
package lists beside its C# project files. -/
inductive PendingOutput.BelongsTo (project : Project) : PendingOutput → Prop where
  | file {path : Path} {contents : String} (member : path ∈ project.projectFiles)
      (isOwn : path.isPackageList = false) : BelongsTo project (.file path contents)
  | shared {file : Path} {contents : String} (isCSharp : project.IsCSharpFile file) :
      BelongsTo project (.shared file.packageList contents)
  | staleShared {file : Path} (isCSharp : project.IsCSharpFile file) :
      BelongsTo project (.staleShared file.packageList)

/-- The path of an output that belongs to one project. -/
def PendingOutput.filePath? : PendingOutput → Option Path
  | file path _ => some path
  | shared .. | staleShared _ => none

theorem PendingOutput.filterMap_filePath?_cons (pending : PendingOutput)
    (rest : List PendingOutput) :
    (pending :: rest).filterMap filePath? =
      pending.filePath?.toList ++ rest.filterMap filePath? := by
  cases pending <;> rfl

/-! ## Finding a generator -/

namespace GeneratorRegistry

theorem get?_register (registry : GeneratorRegistry) (generator : Generator) (extension : String) :
    (registry.register generator).get? extension =
      if Text.lowercase extension = Text.lowercase generator.extension then some generator
      else registry.get? extension := by
  unfold register get?
  rw [SortedMap.get?_insert]
  simp only [Std.LawfulEqOrd.compare_eq_iff_eq]

private theorem get?_foldl_register {generators : List Generator} {registry : GeneratorRegistry}
    {extension : String} {generator : Generator}
    (found : (generators.foldl register registry).get? extension = some generator) :
    (generator ∈ generators ∧ Text.lowercase extension = Text.lowercase generator.extension) ∨
      registry.get? extension = some generator := by
  induction generators generalizing registry with
  | nil => exact .inr found
  | cons first rest ih =>
      rcases ih found with ⟨member, same⟩ | older
      · exact .inl ⟨List.mem_cons_of_mem _ member, same⟩
      · rw [get?_register] at older
        split at older
        · rename_i same
          cases older
          exact .inl ⟨List.mem_cons_self, same⟩
        · exact .inr older

/-- A generator is found under its own extension only. -/
theorem mem_of_get?_ofList {generators : List Generator} {extension : String}
    {generator : Generator} (found : (ofList generators).get? extension = some generator) :
    generator ∈ generators ∧ Text.lowercase extension = Text.lowercase generator.extension := by
  rcases get?_foldl_register found with listed | inEmpty
  · exact listed
  · cases inEmpty

/-- The standard generators are those of four kinds of project files. -/
theorem cases_of_get?_standard {extension : String} {generator : Generator}
    (found : standard.get? extension = some generator) :
    Text.lowercase extension = Text.lowercase generator.extension ∧
      (generator = Format.VisualCpp.generator ∨ generator = Format.CSharp.generator ∨
        generator = Format.Python.generator ∨ generator = Format.Android.generator) := by
  obtain ⟨member, same⟩ := mem_of_get?_ofList found
  simp only [List.mem_cons, List.not_mem_nil, or_false] at member
  exact ⟨same, member⟩

theorem forFile_eq_ok {registry : GeneratorRegistry} {file : Path} {kind : ProjectKind}
    {generator : Generator} (found : registry.forFile file kind = .ok generator) :
    registry.get? file.extension = some generator ∧ generator.supports kind = true := by
  unfold forFile at found
  split at found
  · cases found
  · rename_i candidate isCandidate
    split at found
    · rename_i supported
      cases found
      exact ⟨isCandidate, supported⟩
    · cases found

/-- There is no standard generator for package lists. -/
theorem isPackageList_of_get?_standard {file : Path} {generator : Generator}
    (found : standard.get? file.extension = some generator) : file.isPackageList = false := by
  cases isList : file.isPackageList with
  | false => rfl
  | true =>
      obtain ⟨same, isStandard⟩ := cases_of_get?_standard found
      rw [Path.extension_of_isPackageList isList] at same
      rcases isStandard with rfl | rfl | rfl | rfl <;> exact absurd same (by decide)

end GeneratorRegistry

/-! ## Rendering -/

namespace Format

theorem VisualCpp.generate_eq_ok {context : GenerationContext} {pending : List PendingOutput}
    (generated : VisualCpp.generator.generate context = .ok pending) :
    ∃ contents, pending = [.file context.file contents] := by
  obtain ⟨options, _, afterOptions⟩ := ok_of_bind_eq_ok generated
  obtain ⟨contents, _, returned⟩ := ok_of_bind_eq_ok afterOptions
  cases returned
  exact ⟨contents, rfl⟩

theorem Python.generate_eq_ok {context : GenerationContext} {pending : List PendingOutput}
    (generated : Python.generator.generate context = .ok pending) :
    ∃ contents, pending = [.file context.file contents] := by
  obtain ⟨contents, _, returned⟩ := ok_of_bind_eq_ok generated
  cases returned
  exact ⟨contents, rfl⟩

theorem Android.generate_eq_ok {context : GenerationContext} {pending : List PendingOutput}
    (generated : Android.generator.generate context = .ok pending) :
    ∃ contents, pending = [.file context.file contents] := by
  obtain ⟨options, _, afterOptions⟩ := ok_of_bind_eq_ok generated
  obtain ⟨contents, _, returned⟩ := ok_of_bind_eq_ok afterOptions
  cases returned
  exact ⟨contents, rfl⟩

/-- A project without packages asks for the removal of its list, any other one
writes it. -/
theorem PackageList.pending_eq_ok {context : GenerationContext} {framework : String}
    {output : PendingOutput} (found : PackageList.pending context framework = .ok output) :
    (PackageList.packages context = [] ∧ output = .staleShared context.file.packageList) ∨
      (PackageList.packages context ≠ [] ∧
        ∃ contents, output = .shared context.file.packageList contents) := by
  unfold PackageList.pending at found
  split at found
  · rename_i noPackages
    cases found
    exact .inl ⟨noPackages, rfl⟩
  · rename_i packages somePackages
    cases rendered : PackageList.render context (PackageList.packages context) framework with
    | error error => rw [rendered] at found; cases found
    | ok contents =>
        rw [rendered] at found
        cases found
        exact .inr ⟨somePackages, contents, rfl⟩

theorem CSharp.generate_eq_ok {context : GenerationContext} {pending : List PendingOutput}
    (generated : CSharp.generator.generate context = .ok pending) :
    ∃ contents,
      (PackageList.packages context = [] ∧
        pending = [.file context.file contents, .staleShared context.file.packageList]) ∨
      (PackageList.packages context ≠ [] ∧ ∃ list,
        pending = [.file context.file contents, .shared context.file.packageList list]) := by
  obtain ⟨options, _, afterOptions⟩ := ok_of_bind_eq_ok generated
  obtain ⟨header, _, afterHeader⟩ := ok_of_bind_eq_ok afterOptions
  obtain ⟨contents, _, afterContents⟩ := ok_of_bind_eq_ok afterHeader
  obtain ⟨packages, listed, returned⟩ := ok_of_bind_eq_ok afterContents
  cases returned
  rcases PackageList.pending_eq_ok listed with ⟨noPackages, rfl⟩ | ⟨somePackages, list, rfl⟩
  · exact ⟨contents, .inl ⟨noPackages, rfl⟩⟩
  · exact ⟨contents, .inr ⟨somePackages, list, rfl⟩⟩

end Format

theorem GenerationContext.file_of_new {project : Project} {file : Path}
    {configurations : List Configuration} {settings : Settings} {context : GenerationContext}
    (created : GenerationContext.new project file configurations settings = .ok context) :
    context.file = file := by
  obtain ⟨sorted, _, afterSorting⟩ := ok_of_bind_eq_ok created
  obtain ⟨found, _, afterCheck⟩ := ok_of_bind_eq_ok afterSorting
  cases sorted with
  | nil => cases afterCheck
  | cons first others =>
      cases afterCheck
      rfl

theorem GenerationContext.configurations_of_new {project : Project} {file : Path}
    {configurations : List Configuration} {settings : Settings} {context : GenerationContext}
    (created : GenerationContext.new project file configurations settings = .ok context) :
    context.configurations.Perm configurations := by
  obtain ⟨sorted, isSorted, afterSorting⟩ := ok_of_bind_eq_ok created
  obtain ⟨found, _, afterCheck⟩ := ok_of_bind_eq_ok afterSorting
  have perm : sorted.Perm configurations := by
    unfold Configuration.sortAndValidate at isSorted
    split at isSorted
    · cases isSorted
    · rename_i first rest spelled
      split at isSorted
      · cases isSorted
      · cases isSorted
        rw [← spelled]
        exact List.mergeSort_perm ..
  cases sorted with
  | nil => cases afterCheck
  | cons first others =>
      cases afterCheck
      exact perm

/-- A file that lists packages has configurations that refer to some. -/
theorem Format.PackageList.nugetReferences_ne_nil {context : GenerationContext}
    (listed : packages context ≠ []) : context.configurations.flatMap (·.nugetReferences) ≠ [] := by
  intro nothing
  apply listed
  unfold packages
  rw [nothing]
  rfl

namespace Builder

/-- The outputs of one project file. -/
theorem renderFile_new_eq_ok {settings : Settings} {project : Project} {file : Path}
    {configurations : List Configuration} {rendered : RenderedProject}
    (succeeded : (Builder.new settings).renderFile project file configurations = .ok rendered) :
    file.isPackageList = false ∧ ∃ contents,
      rendered.pending = [.file file contents] ∨
      ((project.kind matches .cSharp _) = true ∧ Text.lowercase file.extension = "csproj" ∧
        (rendered.pending = [.file file contents, .staleShared file.packageList] ∨
          (configurations.flatMap (·.nugetReferences) ≠ [] ∧ ∃ list,
            rendered.pending = [.file file contents, .shared file.packageList list]))) := by
  obtain ⟨generator, found, afterGenerator⟩ := ok_of_bind_eq_ok succeeded
  obtain ⟨context, created, afterContext⟩ := ok_of_bind_eq_ok afterGenerator
  obtain ⟨pending, generated, returned⟩ := ok_of_bind_eq_ok afterContext
  cases returned
  have contextFile := GenerationContext.file_of_new created
  obtain ⟨registered, supported⟩ := GeneratorRegistry.forFile_eq_ok found
  refine ⟨GeneratorRegistry.isPackageList_of_get?_standard registered, ?_⟩
  obtain ⟨same, rfl | rfl | rfl | rfl⟩ := GeneratorRegistry.cases_of_get?_standard registered
  · obtain ⟨contents, outputs⟩ := Format.VisualCpp.generate_eq_ok generated
    exact ⟨contents, .inl (contextFile ▸ outputs)⟩
  · obtain ⟨contents, outputs⟩ := Format.CSharp.generate_eq_ok generated
    rw [contextFile] at outputs
    have isCSharp : Text.lowercase file.extension = "csproj" := by
      rw [same]
      decide
    refine ⟨contents, .inr ⟨supported, isCSharp, ?_⟩⟩
    rcases outputs with ⟨_, stale⟩ | ⟨listed, list, shared⟩
    · exact .inl stale
    · have perm :=
        (GenerationContext.configurations_of_new created).flatMap_right (·.nugetReferences)
      have someReferences := Format.PackageList.nugetReferences_ne_nil listed
      refine .inr ⟨fun nothing => someReferences ?_, list, shared⟩
      rw [nothing] at perm
      exact perm.eq_nil
  · obtain ⟨contents, outputs⟩ := Format.Python.generate_eq_ok generated
    exact ⟨contents, .inl (contextFile ▸ outputs)⟩
  · obtain ⟨contents, outputs⟩ := Format.Android.generate_eq_ok generated
    exact ⟨contents, .inl (contextFile ▸ outputs)⟩

theorem renderFiles_new_eq_ok {settings : Settings} {project : Project}
    {groups : List (Path × List Configuration)} {rendered : RenderedProject}
    (members : ∀ group ∈ groups, group.1 ∈ project.projectFiles)
    (succeeded : (Builder.new settings).renderFiles project groups = .ok rendered) :
    rendered.pending.filterMap PendingOutput.filePath? = groups.map (·.1) ∧
      ∀ pending ∈ rendered.pending, pending.BelongsTo project := by
  induction groups generalizing rendered with
  | nil =>
      cases succeeded
      exact ⟨rfl, by simp⟩
  | cons group rest ih =>
      obtain ⟨file, configurations⟩ := group
      have isMember := members _ List.mem_cons_self
      unfold renderFiles at succeeded
      split at succeeded
      · cases succeeded
      · rename_i first isFirst
        cases others : (Builder.new settings).renderFiles project rest with
        | error failure => rw [others] at succeeded; cases succeeded
        | ok behind =>
            rw [others] at succeeded
            cases succeeded
            obtain ⟨files, belong⟩ :=
              ih (fun group member => members group (List.mem_cons_of_mem _ member)) others
            obtain ⟨isOwn, contents, outputs⟩ := renderFile_new_eq_ok isFirst
            have ownFile : PendingOutput.BelongsTo project (.file file contents) :=
              .file isMember isOwn
            rcases outputs with alone | ⟨isCSharp, extension, stale | ⟨_, list, shared⟩⟩
            · simp only [alone, List.filterMap_append, files]
              exact ⟨rfl, by simpa [ownFile] using belong⟩
            · have beside : PendingOutput.BelongsTo project (.staleShared file.packageList) :=
                .staleShared ⟨isMember, isCSharp, extension⟩
              simp only [stale, List.filterMap_append, files]
              exact ⟨rfl, by simpa [ownFile, beside] using belong⟩
            · have beside : PendingOutput.BelongsTo project (.shared file.packageList list) :=
                .shared ⟨isMember, isCSharp, extension⟩
              simp only [shared, List.filterMap_append, files]
              exact ⟨rfl, by simpa [ownFile, beside] using belong⟩

/-- The standard generators put out every project file once, in order, and
nothing but outputs that belong to the project. -/
theorem renderProject_new_eq_ok {settings : Settings} {project : Project}
    {rendered : RenderedProject}
    (succeeded : (Builder.new settings).renderProject project = .ok rendered) :
    rendered.pending.filterMap PendingOutput.filePath? = project.projectFiles ∧
      ∀ pending ∈ rendered.pending, pending.BelongsTo project := by
  unfold renderProject at succeeded
  split at succeeded
  · cases succeeded
  · exact renderFiles_new_eq_ok (fun group member => List.mem_map_of_mem member) succeeded

/-- The rendered outputs of a project, none if it cannot be rendered. -/
def pendings (builder : Builder) (project : Project) : List PendingOutput :=
  match builder.renderProject project with
  | .ok rendered => rendered.pending
  | .error _ => []

/-- The rendered outputs of projects. -/
def renderedOutputs (builder : Builder) (projects : List Project) : List PendingOutput :=
  projects.flatMap builder.pendings

/-- The rendered outputs of a project belong to it. -/
theorem belongsTo_of_mem_pendings {settings : Settings} {project : Project}
    {output : PendingOutput} (member : output ∈ (Builder.new settings).pendings project) :
    output.BelongsTo project := by
  unfold pendings at member
  split at member
  · rename_i rendered renders
    exact (renderProject_new_eq_ok renders).2 output member
  · cases member

/-- The project files among the rendered outputs of a project, in order. -/
theorem filterMap_pendings_sublist (settings : Settings) (project : Project) :
    (((Builder.new settings).pendings project).filterMap PendingOutput.filePath?).Sublist
      project.projectFiles := by
  unfold pendings
  split
  · rename_i rendered renders
    simp [(renderProject_new_eq_ok renders).1]
  · exact List.nil_sublist _

/-! ## Distinct outputs -/

/-- Whether no two paths of a list name one output. -/
def Distinct (paths : List Path) : Prop :=
  paths.Pairwise fun left right => left.sameOutput right = false

instance (paths : List Path) : Decidable (Distinct paths) :=
  inferInstanceAs (Decidable (paths.Pairwise fun left right => left.sameOutput right = false))

namespace Distinct

open PendingOutput

variable {pending : PendingOutput} {rest : List PendingOutput} {later : List Path}

/-- The first of distinct outputs is apart from those behind it. -/
theorem apart (distinct : Distinct ((pending :: rest).filterMap filePath? ++ later)) {file : Path}
    (isFile : file ∈ pending.filePath?) {path : Path}
    (member : path ∈ rest.filterMap filePath? ++ later) : file.sameOutput path = false := by
  rw [List.filterMap_cons_some (Option.mem_def.1 isFile), List.cons_append] at distinct
  exact (List.pairwise_cons.1 distinct).1 path member

theorem tail (distinct : Distinct ((pending :: rest).filterMap filePath? ++ later)) :
    Distinct (rest.filterMap filePath? ++ later) :=
  distinct.sublist (((List.sublist_cons_self pending rest).filterMap filePath?).append_right later)

theorem perm {left right : List Path} (distinct : Distinct left) (perm : left.Perm right) :
    Distinct right := by
  apply (perm.pairwise_iff ?_).1 distinct
  intro one other differs
  rwa [Path.sameOutput_comm]

/-- Different outputs of a list whose files are distinct have distinct files. -/
theorem apart_of_mem {outputs : List PendingOutput}
    (distinct : Distinct (outputs.filterMap filePath?)) {one other : PendingOutput}
    (inOutputs : one ∈ outputs) (otherIn : other ∈ outputs) (differ : one ≠ other) :
    ∀ path, one.filePath? = some path → ∀ otherPath, other.filePath? = some otherPath →
      path.sameOutput otherPath = false := by
  have symmetric : Std.Symm fun one other : PendingOutput =>
      ∀ path, one.filePath? = some path → ∀ otherPath, other.filePath? = some otherPath →
        path.sameOutput otherPath = false := by
    constructor
    intro one other apart path isPath otherPath isOther
    rw [Path.sameOutput_comm]
    exact apart otherPath isOther path isPath
  exact (List.pairwise_filterMap.1 distinct).forall inOutputs otherIn differ

end Distinct

end Builder

end ProjectFiles
