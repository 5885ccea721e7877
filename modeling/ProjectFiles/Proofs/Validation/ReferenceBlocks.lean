import ProjectFiles.Proofs.Path.Name
import ProjectFiles.Proofs.Validation.Dependencies

/-!
# Blocks of references

A generated file has a block for each project that it refers to, with the identifier of the
project and the way to its file.  References are told apart by the components of their files,
while identifiers and ways depend on the normal forms of the files only.  Two spellings of one
file that differ in more than idle components are therefore two projects with one block.
-/

namespace ProjectFiles

/-- Members differ in one key where they differ in another that the first decides. -/
theorem nodup_map_of_imp {α β γ : Type} {members : List α} {decided : α → β} {deciding : α → γ}
    (nodup : (members.map decided).Nodup)
    (decides : ∀ left ∈ members, ∀ right ∈ members,
      deciding left = deciding right → decided left = decided right) :
    (members.map deciding).Nodup :=
  List.pairwise_map.2 ((List.pairwise_map.1 nodup).imp_of_mem
    fun {left right} isLeft isRight differ same => differ (decides left isLeft right isRight same))

namespace GenerationContext

open ProjectReference

variable {project : Project} {file : Path} {configurations : List Configuration}
variable {settings : Settings} {context : GenerationContext}

/-- What the block of a reference holds: the identifier and the way to the file. -/
def block (context : GenerationContext) (reference : ProjectReference) : Guid × String :=
  (reference.guid, context.relative reference.projectFile)

theorem block_eq_iff {left right : ProjectReference} :
    context.block left = context.block right ↔ left.guid = right.guid ∧
      context.relative left.projectFile = context.relative right.projectFile := by
  rw [block, block, Prod.mk.injEq]

theorem relative_congr {left right : Path} (rooted : left.hasRoot = context.directory.hasRoot)
    (rightRooted : right.hasRoot = context.directory.hasRoot)
    (same : left.normalized = right.normalized) :
    context.relative left = context.relative right := by
  rw [relative, relative, Path.relativeTo_congr rooted rightRooted same]

/-- The projects that a generated file refers to have different identities. -/
theorem nodup_identity_dependencies
    (isNew : new project file configurations settings = .ok context) :
    (context.dependencies.map identity).Nodup := by
  obtain ⟨_, _, _, _, isListed, _⟩ := new_eq_ok_iff.1 isNew
  rw [isListed]
  exact (firstOfEach_distinct context.references).nodup_identity.sublist
    (List.filter_sublist.map identity)

/-- References with the identifiers of their files have different components. -/
theorem nodup_components_dependencies
    (isNew : new project file configurations settings = .ok context)
    (derived : ∀ reference ∈ context.dependencies,
      reference.guid = reference.projectFile.projectGuid) :
    (context.dependencies.map (·.projectFile.components)).Nodup := by
  refine nodup_map_of_imp (nodup_identity_dependencies isNew)
    fun left isLeft right isRight same => ?_
  rw [identity, identity, derived left isLeft, derived right isRight, Path.projectGuid,
    Path.projectGuid, Path.identifierName_congr same, same]

/-- Of references with the identifiers of their files no two have the same components.  If
identifiers of different names differ, two of them have the same identifier just when their
files have the same normal form.  So each has a block of its own where all files are spelled
in normal form; and where the directory leads to all files, blocks repeat just when normal
forms do. -/
theorem repeated_blocks (isNew : new project file configurations settings = .ok context)
    (derived : ∀ reference ∈ context.dependencies,
      reference.guid = reference.projectFile.projectGuid)
    (faithful : ∀ left ∈ context.dependencies, ∀ right ∈ context.dependencies,
      left.guid = right.guid →
        left.projectFile.identifierName = right.projectFile.identifierName)
    (below : ∀ reference ∈ context.dependencies, reference.projectFile.BelowRoot) :
    (context.dependencies.map (·.projectFile.components)).Nodup ∧
      (∀ left ∈ context.dependencies, ∀ right ∈ context.dependencies,
        left.guid = right.guid ↔ left.projectFile.normalized = right.projectFile.normalized) ∧
      ((∀ reference ∈ context.dependencies,
          reference.projectFile.normalized = reference.projectFile.components) →
        (context.dependencies.map context.block).Nodup) ∧
      ((∀ reference ∈ context.dependencies,
          reference.projectFile.hasRoot = context.directory.hasRoot) →
        ((context.dependencies.map context.block).Nodup ↔
          (context.dependencies.map (·.projectFile.normalized)).Nodup)) := by
  have apart := nodup_components_dependencies isNew derived
  have guid_eq_iff : ∀ left ∈ context.dependencies, ∀ right ∈ context.dependencies,
      left.guid = right.guid ↔ left.projectFile.normalized = right.projectFile.normalized := by
    intro left isLeft right isRight
    rw [← Path.identifierName_eq_iff (below left isLeft) (below right isRight)]
    constructor
    · exact faithful left isLeft right isRight
    · intro same
      rw [derived left isLeft, derived right isRight, Path.projectGuid, Path.projectGuid, same]
  have nodup_of_normalized : (context.dependencies.map (·.projectFile.normalized)).Nodup →
      (context.dependencies.map context.block).Nodup := by
    refine fun formsApart => nodup_map_of_imp formsApart fun left isLeft right isRight same => ?_
    exact (guid_eq_iff left isLeft right isRight).1 (block_eq_iff.1 same).1
  refine ⟨apart, guid_eq_iff, fun inNormalForm => ?_, fun rooted => ⟨fun blocksApart => ?_,
    nodup_of_normalized⟩⟩
  · apply nodup_of_normalized
    rwa [List.map_congr_left inNormalForm]
  · refine nodup_map_of_imp blocksApart fun left isLeft right isRight same => ?_
    exact block_eq_iff.2 ⟨(guid_eq_iff left isLeft right isRight).2 same,
      relative_congr (rooted left isLeft) (rooted right isRight) same⟩

/-- The reference to a new configuration that is generated into a file. -/
def referenceTo (projectName : String) (file : Path) : ProjectReference where
  projectName := projectName
  projectFile := file
  guid := file.projectGuid
  output := .exe
  targetFileName := projectName
  exported := false

theorem asReference_withProjectFile_new (projectName name platform : String) (file : Path) :
    ((Configuration.new projectName name platform).withProjectFile file).asReference =
      referenceTo projectName file := by
  simp [Configuration.asReference, Configuration.withProjectFile, Configuration.new, referenceTo]

/-- A project of a new identity becomes the last dependency. -/
theorem dependencies_dependsOn {configuration other : Configuration}
    (isNew : other.asReference.identity ∉ configuration.dependencies.map identity) :
    (configuration.dependsOn other).dependencies =
      configuration.dependencies ++ [other.asReference] := by
  rw [← any_sameIdentity_iff] at isNew
  rw [Configuration.dependsOn, Configuration.refersTo, if_neg isNew]

/-- A configuration of an application that depends on a library in each of two files. -/
def applicationUsing (first second : Path) : Configuration :=
  (((Configuration.new "App" "Debug" "x64").withProjectFile ⟨"/w/App.vcxproj"⟩).dependsOn
    ((Configuration.new "Lib" "Debug" "x64").withProjectFile first)).dependsOn
      ((Configuration.new "Lib" "Debug" "x64").withProjectFile second)

/-- The context of the file of the application. -/
def contextUsing (first second : Path) : GenerationContext where
  project :=
    { name := "App", kind := .cpp, sourceRoot := ⟨"/w"⟩, sourceFiles := [],
      configurations := [applicationUsing first second] }
  file := ⟨"/w/App.vcxproj"⟩
  first := applicationUsing first second
  others := []
  dependencies := [referenceTo "Lib" first, referenceTo "Lib" second]
  settings := {}
  warnings := []

theorem dependencies_applicationUsing {first second : Path}
    (differ : first.components ≠ second.components) :
    (applicationUsing first second).dependencies =
      [referenceTo "Lib" first, referenceTo "Lib" second] := by
  have alone : (((Configuration.new "App" "Debug" "x64").withProjectFile
      ⟨"/w/App.vcxproj"⟩).dependsOn
      ((Configuration.new "Lib" "Debug" "x64").withProjectFile first)).dependencies =
      [referenceTo "Lib" first] := by
    rw [dependencies_dependsOn List.not_mem_nil, asReference_withProjectFile_new]
    rfl
  unfold applicationUsing
  rw [dependencies_dependsOn, alone, asReference_withProjectFile_new]
  · rfl
  · rw [alone, asReference_withProjectFile_new]
    simp [identity, referenceTo, Ne.symm differ]

/-- The application is accepted with both libraries, where their files differ in their
components. -/
theorem new_contextUsing {first second : Path} (differ : first.components ≠ second.components) :
    new (contextUsing first second).project ⟨"/w/App.vcxproj"⟩ [applicationUsing first second] {} =
      .ok (contextUsing first second) := by
  have listed := dependencies_applicationUsing differ
  refine new_eq_ok_iff.2 ⟨Configuration.sortAndValidate_eq_ok_iff.2 ⟨?_, .refl _,
    List.pairwise_singleton _ _⟩, rfl, rfl, rfl, ?_, .new, rfl, rfl⟩
  · exact
      { nonempty := List.cons_ne_nil _ _
        names := by simp [Configuration.Agree]
        guids := by simp [Configuration.Agree]
        apart := by simp }
  · have areReferences : (contextUsing first second).references =
        [referenceTo "Lib" first, referenceTo "Lib" second] := by
      simp [contextUsing, references, GenerationContext.configurations, listed]
    rw [areReferences]
    simp [contextUsing, distinct, unexported, sameIdentity, Path.same, differ, referenceTo]

theorem guid_of_mem_contextUsing {first second : Path} :
    ∀ reference ∈ (contextUsing first second).dependencies,
      reference.guid = reference.projectFile.projectGuid := by
  simp [contextUsing, referenceTo]

/-- Two libraries whose files are spelled with idle components have a block each. -/
theorem repeated_blocks_idle :
    (contextUsing ⟨"/w//./Lib.vcxproj"⟩ ⟨"/lib/./Lib.vcxproj"⟩).dependencies.length = 2 ∧
      ((contextUsing ⟨"/w//./Lib.vcxproj"⟩ ⟨"/lib/./Lib.vcxproj"⟩).dependencies.map
        (contextUsing ⟨"/w//./Lib.vcxproj"⟩ ⟨"/lib/./Lib.vcxproj"⟩).block).Nodup := by
  have differ : (Path.mk "/w//./Lib.vcxproj").components ≠
      (Path.mk "/lib/./Lib.vcxproj").components := by decide
  obtain ⟨_, _, nodup_of_normalForm, _⟩ := repeated_blocks (new_contextUsing differ)
    guid_of_mem_contextUsing (by decide +kernel) (by decide +kernel)
  exact ⟨rfl, nodup_of_normalForm (by decide +kernel)⟩

/-- A library whose file is also spelled with a step up has two entries with one block. -/
theorem blocks_repeat :
    new (contextUsing ⟨"/w/Lib.vcxproj"⟩ ⟨"/w/lib/../Lib.vcxproj"⟩).project ⟨"/w/App.vcxproj"⟩
        [applicationUsing ⟨"/w/Lib.vcxproj"⟩ ⟨"/w/lib/../Lib.vcxproj"⟩] {} =
      .ok (contextUsing ⟨"/w/Lib.vcxproj"⟩ ⟨"/w/lib/../Lib.vcxproj"⟩) ∧
    (∀ reference ∈ (contextUsing ⟨"/w/Lib.vcxproj"⟩ ⟨"/w/lib/../Lib.vcxproj"⟩).dependencies,
      reference.guid = reference.projectFile.projectGuid) ∧
    ∃ block, (contextUsing ⟨"/w/Lib.vcxproj"⟩ ⟨"/w/lib/../Lib.vcxproj"⟩).dependencies.map
      (contextUsing ⟨"/w/Lib.vcxproj"⟩ ⟨"/w/lib/../Lib.vcxproj"⟩).block = [block, block] := by
  refine ⟨new_contextUsing (by decide), guid_of_mem_contextUsing,
    ((Path.mk "/w/Lib.vcxproj").projectGuid, "Lib.vcxproj"), ?_⟩
  decide +kernel

end GenerationContext

end ProjectFiles
