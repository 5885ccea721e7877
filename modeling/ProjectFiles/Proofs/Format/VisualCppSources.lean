import ProjectFiles.Proofs.Format.SourceItems
import ProjectFiles.Proofs.Format.VisualCpp
import ProjectFiles.Proofs.Template.Appending

/-!
# Source files of C++ project files

The parts of a C++ project file are written independently of each other, so its source
files stand between how the configurations compile and the references to projects.  Every
source file has its item there, in order, unless what its name is resolved to has the
marker of omitted values.
-/

namespace ProjectFiles

open Template Text

namespace Format.MSBuild

/-! ## Parts -/

section Parts

variable (resolver : Resolver) (context : GenerationContext)

theorem appendsLines_writeConfigurations {template : String}
    (ends : template.toList.getLast? = some '\n')
    (configured : List (Configuration × ExplicitOptions)) :
    OutputBuffer.AppendsLines (writeConfigurations · resolver template configured) :=
  .foldlM fun _ _ => .templateIn _ _ ends

theorem appendsLines_writeConfigurationList :
    OutputBuffer.AppendsLines (writeConfigurationList · resolver context) := by
  have ends : configurationItem.toList.getLast? = some '\n' :=
    getLast?_unlines (List.cons_ne_nil _ _)
  have items : OutputBuffer.AppendsLines
      (writeEachConfiguration · resolver configurationItem context.configurations) :=
    .foldlM fun _ _ => .templateIn _ _ ends
  have starts : configurationsStart.toList.getLast? = some '\n' := by simp [configurationsStart]
  have stops : itemGroupEnd.toList.getLast? = some '\n' := by decide
  have enclosed := items.enclosed starts stops
  exact enclosed

theorem appendsLines_writeSourceFiles (elementFor : String → String) :
    OutputBuffer.AppendsLines (writeSourceFiles · resolver context elementFor) := by
  unfold writeSourceFiles
  split
  · exact .pure
  · exact .enclosed (by decide) (.foldlM fun _ _ => .templateIn _ _ (by decide)) (by decide)

theorem appendsLines_writeReferences {template : String}
    (ends : template.toList.getLast? = some '\n') :
    OutputBuffer.AppendsLines (writeReferences · resolver context template) := by
  unfold writeReferences
  split
  · exact .pure
  · exact .enclosed (by decide) (.foldlM fun _ _ => .templateIn _ _ ends) (by decide)

end Parts

end Format.MSBuild

namespace Format.VisualCpp

open MSBuild

theorem isElement_elementFor (extension : String) : IsElement (elementFor extension) := by
  have fixed : ∀ element ∈ ["ClCompile", "ClInclude", "ResourceCompile", "None"],
      '[' ∉ element.toList ∧ '\n' ∉ element.toList ∧
        occursIn Value.omitTag.toList ("    <" ++ element ++ " Include=").toList = false := by
    decide
  have isFixed : elementFor extension ∈ ["ClCompile", "ClInclude", "ResourceCompile", "None"] := by
    unfold elementFor
    split
    · decide
    · split
      · decide
      · split <;> decide
  obtain ⟨bracketless, single, untagged⟩ := fixed _ isFixed
  refine ⟨bracketless, single, ?_⟩
  rw [← occursIn_iff, untagged]
  exact Bool.false_ne_true

/-- Write the part of a project file before its source files: it ends with how the
configurations compile. -/
def writeHead (context : GenerationContext) (options : List ExplicitOptions)
    (buffer : OutputBuffer) : Except GenerationError OutputBuffer := do
  let resolver := context.resolver
  let configured := context.configurations.zip options
  let buffer ← buffer.writeIn resolver [("toolsVersion", .text toolsVersion)] projectStart
  let buffer ← writeConfigurationList buffer resolver context
  let buffer ← buffer.writeIn resolver (globalBindings context) globals
  let buffer ← writeConfigurations buffer resolver generalProperties configured
  let buffer := buffer.writeVerbatim afterGeneralProperties
  let buffer ← writeConfigurations buffer resolver pathProperties configured
  writeConfigurations buffer resolver itemDefinition configured

theorem appendsLines_writeHead (context : GenerationContext) (options : List ExplicitOptions) :
    OutputBuffer.AppendsLines (writeHead context options) := by
  have ends {first : String} {rest : List String} :
      (unlines (first :: rest)).toList.getLast? = some '\n' :=
    getLast?_unlines (List.cons_ne_nil first rest)
  refine .bind (.templateIn _ _ ends) ?_
  refine .bind (appendsLines_writeConfigurationList _ _) ?_
  refine .bind (.templateIn _ _ ends) ?_
  refine .bind (appendsLines_writeConfigurations _ ends _) ?_
  have imports : afterGeneralProperties.toList.getLast? = some '\n' := ends
  have pathParts := appendsLines_writeConfigurations context.resolver
    (ends : pathProperties.toList.getLast? = some '\n') (context.configurations.zip options)
  have itemParts := appendsLines_writeConfigurations context.resolver
    (ends : itemDefinition.toList.getLast? = some '\n') (context.configurations.zip options)
  have later := OutputBuffer.AppendsLines.behind imports (pathParts.bind itemParts)
  exact later

/-- A project file is its three parts, one behind the other. -/
theorem render_eq (context : GenerationContext) (options : List ExplicitOptions) :
    render context options = (do
      let head ← writeHead context options .empty
      let sources ← writeSourceFiles .empty context.resolver context elementFor
      let references ← writeReferences .empty context.resolver context projectReference
      return head.finalize ++ sources.finalize ++
        (references.writeVerbatim projectEnd).finalize) := by
  have split : render context options = (do
      let buffer ← writeHead context options .empty
      let buffer ← writeSourceFiles buffer context.resolver context elementFor
      let buffer ← writeReferences buffer context.resolver context projectReference
      return (buffer.writeVerbatim projectEnd).finalize) := by
    simp only [render, writeHead, bind_assoc]
  have sourceParts := appendsLines_writeSourceFiles context.resolver context elementFor
  have ends : projectReference.toList.getLast? = some '\n' :=
    getLast?_unlines (List.cons_ne_nil _ _)
  have referenceParts := appendsLines_writeReferences context.resolver context ends
  rw [split]
  cases isHead : writeHead context options .empty with
  | error => rfl
  | ok head =>
      rw [bind_ok, bind_ok, sourceParts.appends]
      cases isSources : writeSourceFiles .empty context.resolver context elementFor with
      | error => rfl
      | ok sources =>
          rw [Except.map, bind_ok, bind_ok, referenceParts.appends]
          cases isReferences : writeReferences .empty context.resolver context projectReference with
          | error => rfl
          | ok references =>
              rw [Except.map, bind_ok, bind_ok, OutputBuffer.writeVerbatim_writeVerbatim,
                OutputBuffer.writeVerbatim_writeVerbatim,
                (appendsLines_writeHead context options).finalize_eq isHead,
                removeTaggedLines_append_of_isTerminated (sourceParts.terminated _ isSources),
                ← String.append_assoc]
              rfl

/-! ## Source files of a project file -/

/-- `SourcesBetween context group outputs` means that a project file is put out in which a
text stands behind how the configurations compile and before the references. -/
def SourcesBetween (context : GenerationContext) (group : String)
    (outputs : List PendingOutput) : Prop :=
  ∃ options head references,
    (context.computeOptions fun configuration => .ok (axes configuration)) = .ok options ∧
    writeHead context options .empty = .ok head ∧
    writeReferences .empty context.resolver context projectReference = .ok references ∧
    outputs = [.file context.file
      (head.finalize ++ group ++ (references.writeVerbatim projectEnd).finalize)]

variable {context : GenerationContext} {outputs : List PendingOutput}

theorem SourcesBetween.unique {group other : String}
    (between : SourcesBetween context group outputs)
    (betweenOther : SourcesBetween context other outputs) : group = other := by
  obtain ⟨options, head, references, computed, isHead, areReferences, rfl⟩ := between
  obtain ⟨_, _, _, again, isHeadAgain, areAgain, same⟩ := betweenOther
  obtain rfl := Except.ok.inj (computed.symm.trans again)
  obtain rfl := Except.ok.inj (isHead.symm.trans isHeadAgain)
  obtain rfl := Except.ok.inj (areReferences.symm.trans areAgain)
  simpa [← String.toList_inj] using same

theorem SourcesBetween.of_generate (generated : generator.generate context = .ok outputs) :
    ∃ sources, writeSourceFiles .empty context.resolver context elementFor = .ok sources ∧
      SourcesBetween context sources.finalize outputs := by
  obtain ⟨options, computed, afterOptions⟩ := ok_of_bind_eq_ok generated
  obtain ⟨contents, rendered, returned⟩ := ok_of_bind_eq_ok afterOptions
  cases returned
  rw [render_eq] at rendered
  obtain ⟨head, isHead, afterHead⟩ := ok_of_bind_eq_ok rendered
  obtain ⟨sources, areSources, afterSources⟩ := ok_of_bind_eq_ok afterHead
  obtain ⟨references, areReferences, isContents⟩ := ok_of_bind_eq_ok afterSources
  cases isContents
  exact ⟨sources, areSources, options, head, references, computed, isHead, areReferences, rfl⟩

/-- Include paths have newlines only where the paths of source files do. -/
theorem single_of_mem_sourceFiles
    (single : ∀ file ∈ context.project.sourceFiles,
      '\n' ∉ (context.project.sourceRoot.join file).text.toList) {entry : String × String}
    (member : entry ∈ context.sourceFiles) : '\n' ∉ entry.1.toList := by
  obtain ⟨file, isFile, rfl⟩ := GenerationContext.mem_sourceFiles member
  have avoids : Avoids ['\n'] (context.project.sourceRoot.join file).text := by
    intro c inPath isNewline
    rw [List.mem_singleton.1 isNewline] at inPath
    exact single file isFile inPath
  have within : ['\n'] ⊆ separators := by decide
  have relative := GenerationContext.Avoids.relative within context avoids
  dsimp only [GenerationContext.sourceEntry]
  intro newline
  exact relative '\n' newline List.mem_cons_self

/-- The group between the other parts has the resolved source files. -/
theorem exists_includes_of_generate (generated : generator.generate context = .ok outputs)
    (single : ∀ file ∈ context.project.sourceFiles,
      '\n' ∉ (context.project.sourceRoot.join file).text.toList) :
    ∃ includes, List.Forall₂ (Includes context.resolver elementFor) context.sourceFiles includes ∧
      SourcesBetween context (sourceGroup elementFor (context.sourceFiles.zip includes))
        outputs := by
  obtain ⟨sources, areSources, between⟩ := SourcesBetween.of_generate generated
  obtain ⟨includes, areIncludes, isGroup⟩ := finalize_writeSourceFiles isElement_elementFor
    (fun entry member => single_of_mem_sourceFiles single member) areSources
  rw [isGroup] at between
  exact ⟨includes, areIncludes, between⟩

/-- Names without placeholders, escapes and the marker are rendered as they are. -/
theorem sourcesBetween_names (generated : generator.generate context = .ok outputs)
    (single : ∀ file ∈ context.project.sourceFiles,
      '\n' ∉ (context.project.sourceRoot.join file).text.toList)
    (plain : ∀ entry ∈ context.sourceFiles, IsPlain entry.1.toList)
    (untagged : ∀ entry ∈ context.sourceFiles,
      occursIn Value.omitTag.toList entry.1.toList = false) :
    SourcesBetween context
      (itemGroup (context.sourceFiles.map fun entry => sourceLine (elementFor entry.2) entry.1))
      outputs := by
  obtain ⟨includes, areIncludes, between⟩ := exists_includes_of_generate generated single
  rwa [sourceGroup_of_isPlain areIncludes plain untagged] at between

/-- The context of the same file without source files. -/
def withoutSources (context : GenerationContext) : GenerationContext :=
  { context with project := { context.project with sourceFiles := [] } }

/-- Only its source files can keep a project file without further brackets from being
rendered. -/
theorem exists_generate {options : List ExplicitOptions} {sources : OutputBuffer}
    (avoids : (withoutSources context).Avoids separators)
    (computed : (context.computeOptions fun configuration => .ok (axes configuration)) =
      .ok options)
    (areSources : writeSourceFiles .empty context.resolver context elementFor = .ok sources) :
    ∃ outputs, generator.generate context = .ok outputs ∧
      SourcesBetween context sources.finalize outputs := by
  have within : separators ⊆ separators := List.Subset.refl _
  have computes : Yields (fun options => ∀ own ∈ options, own.Sets separators optionKeys)
      (context.computeOptions fun configuration => .ok (axes configuration)) :=
    GenerationContext.yields_computeOptions fun configuration member =>
      .ok (yields_ofAxes within (avoids.configurations configuration member))
  rw [computed] at computes
  obtain ⟨_, rendered⟩ := exists_render_eq within (by decide) avoids computes.meets_of_ok
  rw [render_eq] at rendered
  obtain ⟨head, isHead, afterHead⟩ := ok_of_bind_eq_ok rendered
  obtain ⟨_, _, afterSources⟩ := ok_of_bind_eq_ok afterHead
  obtain ⟨references, areReferences, _⟩ := ok_of_bind_eq_ok afterSources
  -- The other parts do not read the source files.
  have isOwnHead : writeHead context options .empty = .ok head := isHead
  have areOwnReferences :
      writeReferences .empty context.resolver context projectReference = .ok references :=
    areReferences
  refine ⟨_, ?_, options, head, references, computed, isOwnHead, areOwnReferences, rfl⟩
  unfold generator
  dsimp only
  rw [computed, bind_ok, render_eq, isOwnHead, bind_ok, areSources, bind_ok, areOwnReferences]
  rfl

/-! ## A project file with odd names -/

/-- A project file of one configuration for some source files. -/
def sampleContext (files : List Path) : GenerationContext where
  project :=
    { name := "App"
      kind := .cpp
      sourceRoot := ⟨"/w"⟩
      sourceFiles := files
      configurations := [] }
  file := ⟨"/w/App.vcxproj"⟩
  first :=
    { name := "Debug"
      platform := "x64"
      target := .empty
      projectName := "App"
      projectGuid := ⟨0⟩
      projectFile := ⟨"/w/App.vcxproj"⟩
      output := .exe
      targetPath := ⟨"/w/bin"⟩
      intermediatePath := ⟨"/w/obj"⟩
      targetFileName := "App"
      defines := []
      dependencies := []
      settings := .empty
      nugetReferences := [] }
  others := []
  dependencies := []
  settings := {}
  warnings := []

theorem avoids_sampleContext (files : List Path) :
    (withoutSources (sampleContext files)).Avoids separators where
  configurations configuration member text isText := by
    have fixed : ∀ text ∈ (sampleContext []).first.texts, isFixed text.toList = true := by decide
    rw [List.mem_singleton.1 member] at isText
    exact .of_isFixed_toList (List.Subset.refl _) (fixed text isText)
  dependencies := fun _ member => nomatch member
  project text isText := by
    have fixed : ∀ text ∈ (sampleContext []).project.texts, isFixed text.toList = true := by decide
    exact .of_isFixed_toList (List.Subset.refl _) (fixed text isText)

theorem exists_computeOptions_sampleContext (files : List Path) :
    ∃ options, ((sampleContext files).computeOptions fun configuration =>
      .ok (axes configuration)) = .ok options := by
  have decided : ((sampleContext []).computeOptions fun configuration =>
      .ok (axes configuration)).isOk = true := by decide +kernel
  cases computed : (sampleContext []).computeOptions fun configuration =>
      .ok (axes configuration) with
  | error =>
      rw [computed] at decided
      cases decided
  | ok options => exact ⟨options, computed⟩

/-- A project file of which one name has an escape and one has the marker of omitted
values. -/
def oddContext : GenerationContext :=
  sampleContext [⟨"[[x]].cpp"⟩, ⟨"main.cpp"⟩, ⟨"REMOVE_LINE_TAG.cpp"⟩]

theorem sourceFiles_oddContext : oddContext.sourceFiles =
    [("[[x]].cpp", "cpp"), ("main.cpp", "cpp"), ("REMOVE_LINE_TAG.cpp", "cpp")] := by
  have entries : oddContext.project.sourceFiles.map oddContext.sourceEntry =
      [("[[x]].cpp", "cpp"), ("main.cpp", "cpp"), ("REMOVE_LINE_TAG.cpp", "cpp")] := by
    decide +kernel
  have sorted : [("[[x]].cpp", "cpp"), ("main.cpp", "cpp"), ("REMOVE_LINE_TAG.cpp", "cpp")].Pairwise
      fun left right => GenerationContext.includeLE left right = true := by
    decide +kernel
  rw [GenerationContext.sourceFiles, entries, List.mergeSort_of_pairwise sorted]
  decide +kernel

theorem single_oddContext : ∀ file ∈ oddContext.project.sourceFiles,
    '\n' ∉ (oddContext.project.sourceRoot.join file).text.toList := by
  decide +kernel

/-- The items of such names: the escape is removed, and one item is missing. -/
def oddItems : String :=
  "  <ItemGroup>\n    <ClCompile Include=\"[x].cpp\" />\n" ++
    "    <ClCompile Include=\"main.cpp\" />\n  </ItemGroup>\n"

theorem exists_generate_oddContext : ∃ outputs, generator.generate oddContext = .ok outputs ∧
    SourcesBetween oddContext oddItems outputs := by
  obtain ⟨options, computed⟩ := exists_computeOptions_sampleContext oddContext.project.sourceFiles
  obtain ⟨sources, areSources, isGroup⟩ : ∃ sources,
      writeSourceFiles .empty oddContext.resolver oddContext elementFor = .ok sources ∧
        sources.finalize = oddItems := by
    unfold writeSourceFiles
    rw [sourceFiles_oddContext]
    refine ⟨_, rfl, ?_⟩
    decide +kernel
  rw [← isGroup]
  exact exists_generate (avoids_sampleContext _) computed areSources

/-! ## Source files as they are found -/

/-- A C++ project file has an item for every source file, in order, with what its include
path is resolved to; the items whose text has the marker of omitted values are left out.
An include path without placeholders and escapes is resolved to itself. -/
theorem sourceItems_of_generate (generated : generator.generate context = .ok outputs)
    (single : ∀ file ∈ context.project.sourceFiles,
      '\n' ∉ (context.project.sourceRoot.join file).text.toList) :
    ∃ includes,
      List.Forall₂ (fun entry text => Includes context.resolver elementFor entry text ∧
        (IsPlain entry.1.toList → text = entry.1)) context.sourceFiles includes ∧
      SourcesBetween context (sourceGroup elementFor (context.sourceFiles.zip includes))
        outputs := by
  obtain ⟨includes, areIncludes, between⟩ := exists_includes_of_generate generated single
  exact ⟨includes, areIncludes.imp fun _ _ includes => ⟨includes, includes.eq_of_isPlain⟩, between⟩

theorem sourceItems_of_generate_oddContext : ∃ outputs,
    generator.generate oddContext = .ok outputs ∧
    (∀ file ∈ oddContext.project.sourceFiles,
      '\n' ∉ (oddContext.project.sourceRoot.join file).text.toList) ∧
    ∃ includes,
      List.Forall₂ (fun entry text => Includes oddContext.resolver elementFor entry text ∧
        (IsPlain entry.1.toList → text = entry.1)) oddContext.sourceFiles includes ∧
      SourcesBetween oddContext (sourceGroup elementFor (oddContext.sourceFiles.zip includes))
        outputs := by
  obtain ⟨outputs, generated, _⟩ := exists_generate_oddContext
  exact ⟨outputs, generated, single_oddContext, sourceItems_of_generate generated single_oddContext⟩

/-- The items of such names are not the items of the names as they are. -/
theorem not_sourcesBetween_names_oddContext :
    (∀ file ∈ oddContext.project.sourceFiles,
      '\n' ∉ (oddContext.project.sourceRoot.join file).text.toList) ∧
    ∃ outputs, generator.generate oddContext = .ok outputs ∧
      SourcesBetween oddContext oddItems outputs ∧
      ¬ SourcesBetween oddContext
        (itemGroup (oddContext.sourceFiles.map fun entry =>
          sourceLine (elementFor entry.2) entry.1))
        outputs := by
  obtain ⟨outputs, generated, between⟩ := exists_generate_oddContext
  refine ⟨single_oddContext, outputs, generated, between, fun names => ?_⟩
  have same := between.unique names
  rw [sourceFiles_oddContext] at same
  revert same
  decide +kernel

end Format.VisualCpp

end ProjectFiles
