import ProjectFiles.Proofs.Format.CSharp
import ProjectFiles.Proofs.Template.Lines

/-!
# The item of the package list

A C# project file has the line that names its package list exactly when it is
rendered with packages.  Every other line of the file begins in another way, but
for the items of source files, and these name other files.
-/

namespace ProjectFiles.Format.CSharp

open MSBuild Template Text

/-- The line of a project file that names the package list. -/
def packagesLine : List Char :=
  ("    <None Include=\"" ++ PackageList.fileName ++ "\" />\n").toList

theorem isCut_packagesItem :
    IsCut packagesItem.toList
      ["  <ItemGroup>\n".toList, packagesLine, "  </ItemGroup>\n".toList] := by
  have single : ∀ text ∈ ["  <ItemGroup>", "    <None Include=\"packages.config\" />",
      "  </ItemGroup>"], '\n' ∉ text.toList := by
    decide
  exact isCut_unlines single

theorem packagesLine_untagged : occursIn Value.omitTag.toList packagesLine = false := by
  decide

/-! ## Source files -/

/-- The line of a source file. -/
def sourceLine (element relative : String) : List Char :=
  "    <".toList ++ (element.toList ++ (" Include=\"".toList ++
    (relative.toList ++ "\" />\n".toList)))

theorem fill_sourceItem (elementFor : String → String) (file : String × String) :
    fill (sourceBindings elementFor file) sourceItem.toList =
      sourceLine (elementFor file.2) file.1 := by
  have spelled : sourceItem.toList =
      "    <".toList ++ ((Token.placeholder "element".toList).source ++
        (" Include=\"".toList ++ ((Token.placeholder "include".toList).source ++
          "\" />\n".toList))) := by
    decide
  have isElement : (lookup? (sourceBindings elementFor file)
      (String.ofList "element".toList)).bind Value.scalarText? = some (elementFor file.2) := rfl
  have isInclude : (lookup? (sourceBindings elementFor file)
      (String.ofList "include".toList)).bind Value.scalarText? = some file.1 := rfl
  rw [spelled, fill_bracketless_append (by decide),
    fill_placeholder_append (List.all_eq_true.1 (by decide)) (by decide) isElement,
    fill_bracketless_append (by decide),
    fill_placeholder_append (List.all_eq_true.1 (by decide)) (by decide) isInclude,
    fill_bracketless (by decide)]
  rfl

/-- A source file has the line of the package list only when it has its name. -/
theorem sourceLine_ne_packagesLine (extension : String) {relative : String}
    (differs : relative ≠ PackageList.fileName) :
    sourceLine (elementFor extension) relative ≠ packagesLine := by
  have otherElement : ∀ element : String, ¬ "    <".toList ++ element.toList <+: packagesLine →
      sourceLine element relative ≠ packagesLine := by
    intro element begins equal
    apply begins
    rw [← equal, sourceLine, ← List.append_assoc]
    exact List.prefix_append _ _
  unfold elementFor
  split
  · exact otherElement "Compile" (by decide)
  · split
    · exact otherElement "Page" (by decide)
    · split
      · exact otherElement "Content" (by decide)
      · intro equal
        have spelled : packagesLine = sourceLine "None" PackageList.fileName := by decide
        rw [spelled] at equal
        unfold sourceLine at equal
        rw [List.append_cancel_left_eq, List.append_cancel_left_eq, List.append_cancel_left_eq,
          List.append_cancel_right_eq] at equal
        exact differs (String.toList_inj.1 equal)

/-! ## The other parts of the file -/

section Rendering

variable {bindings : List (String × Value)}

set_option maxRecDepth 2048 in
theorem lacks_projectStart (fits : startScope.Fits separators bindings) :
    Lacks packagesLine (filled bindings projectStart).toList := by
  refine lacks_filled fits (by decide) projectStart_closes ?_
  repeat with_reducible refine beginApart_cons (by decide) ?_
  rfl

theorem lacks_globals (fits : globalScope.Fits separators bindings) :
    Lacks packagesLine (filled bindings globals).toList := by
  refine lacks_filled fits (by decide) globals_closes ?_
  repeat with_reducible refine beginApart_cons (by decide) ?_
  rfl

theorem lacks_configurationProperties
    (fits : (configurationScope optionKeys).Fits separators bindings) :
    Lacks packagesLine (filled bindings configurationProperties).toList := by
  refine lacks_filled fits (by decide) configurationProperties_closes ?_
  repeat with_reducible refine beginApart_cons (by decide) ?_
  rfl

theorem lacks_projectReference (fits : referenceScope.Fits separators bindings) :
    Lacks packagesLine (filled bindings projectReference).toList := by
  refine lacks_filled fits (by decide) projectReference_closes ?_
  repeat with_reducible refine beginApart_cons (by decide) ?_
  rfl

theorem lacks_projectEnd : Lacks packagesLine projectEnd.toList := by
  refine lacks_unlines ?_
  repeat with_reducible refine beginApart_cons (by decide) ?_
  rfl

theorem lacks_itemGroup {items : List String}
    (lacks : ∀ item ∈ items, Lacks packagesLine item.toList) :
    Lacks packagesLine (itemGroup items).toList := by
  have start : Lacks packagesLine (unlines ["  <ItemGroup>"]).toList :=
    lacks_unlines (by decide)
  have ended : Lacks packagesLine (unlines ["  </ItemGroup>"]).toList :=
    lacks_unlines (by decide)
  unfold itemGroup
  split
  · exact .nil _
  · rw [String.toList_append, String.toList_append]
    exact (start.append (.join lacks)).append ended

variable {context : GenerationContext} {options : List ExplicitOptions} {header : ProjectHeader}

theorem lacks_sourceFilesText (avoids : context.Avoids separators)
    (others : ∀ file ∈ context.sourceFiles, file.1 ≠ PackageList.fileName) :
    Lacks packagesLine (sourceFilesText [] context elementFor).toList := by
  refine lacks_itemGroup fun part member => ?_
  obtain ⟨file, isFile, rfl⟩ := List.mem_map.1 member
  have within : separators ⊆ separators := List.Subset.refl _
  have fits : sourceScope.Fits separators (sourceBindings elementFor file) :=
    .text (avoids_elementFor within _) (.text (avoids.sourceFile within isFile) .nil)
  have isLine : IsCut sourceItem.toList [sourceItem.toList] :=
    .singleton (by decide) (by decide)
  have isCut := isCut_fill fits (by decide) isLine sourceItem_closes
  rw [List.append_nil, filled, String.toList_ofList]
  refine ⟨_, isCut, ?_⟩
  rw [List.map_singleton, List.mem_singleton, fill_sourceItem]
  exact (sourceLine_ne_packagesLine file.2 (others file isFile)).symm

/-- Before the item of the package list no line is the one that names it. -/
theorem lacks_beforePackages (avoids : context.Avoids separators)
    (sets : ∀ own ∈ options, own.Sets separators optionKeys)
    (fits : globalScope.Fits separators (globalBindings context header))
    (others : ∀ file ∈ context.sourceFiles, file.1 ≠ PackageList.fileName) :
    Lacks packagesLine (beforePackages context options header).toList := by
  have startFits : startScope.Fits separators [("toolsVersion", .text toolsVersion)] :=
    .text (.of_isFixed (List.Subset.refl _) (by decide)) .nil
  have configurations : Lacks packagesLine (configurationsText [] configurationProperties
      (context.configurations.zip options)).toList := by
    refine .join fun part member => ?_
    obtain ⟨entry, isEntry, rfl⟩ := List.mem_map.1 member
    obtain ⟨isConfiguration, isOptions⟩ := List.of_mem_zip isEntry
    rw [List.append_nil]
    exact lacks_configurationProperties (configurationBindings_fits
      (avoids.configurations _ isConfiguration) (sets _ isOptions))
  unfold beforePackages
  simp only [String.toList_append]
  exact (((lacks_projectStart startFits).append (lacks_globals fits)).append
    configurations).append (lacks_sourceFilesText avoids others)

/-- Nor is one behind the item. -/
theorem lacks_behindPackages (avoids : context.Avoids separators) :
    Lacks packagesLine (behindPackages context).toList := by
  have references : Lacks packagesLine (referencesText [] projectReference context).toList := by
    refine lacks_itemGroup fun part member => ?_
    obtain ⟨reference, isReference, rfl⟩ := List.mem_map.1 member
    rw [List.append_nil]
    exact lacks_projectReference
      (referenceBindings_fits (List.Subset.refl _) (avoids.dependencies reference isReference))
  unfold behindPackages
  rw [String.toList_append]
  exact references.append lacks_projectEnd

/-- A C# project file names its package list exactly when it is rendered with packages. -/
theorem packagesLine_mem_iff (avoids : context.Avoids separators)
    (sets : ∀ own ∈ options, own.Sets separators optionKeys)
    (fits : globalScope.Fits separators (globalBindings context header))
    (others : ∀ file ∈ context.sourceFiles, file.1 ≠ PackageList.fileName) {hasPackages : Bool}
    {contents : String} (rendered : render context options header hasPackages = .ok contents) :
    packagesLine ∈ lines contents.toList ↔ hasPackages = true := by
  rw [render_eq (List.Subset.refl _) (by decide) avoids sets fits] at rendered
  obtain rfl := Except.ok.inj rendered
  obtain ⟨before, isBefore, notBefore⟩ := lacks_beforePackages avoids sets fits others
  obtain ⟨behind, isBehind, notBehind⟩ := lacks_behindPackages avoids
  have isCut : IsCut
      (beforePackages context options header ++ (if hasPackages then packagesItem else "") ++
        behindPackages context).toList
      (before ++ (if hasPackages then ["  <ItemGroup>\n".toList, packagesLine,
        "  </ItemGroup>\n".toList] else []) ++ behind) := by
    rw [String.toList_append, String.toList_append]
    refine (isBefore.append ?_).append isBehind
    cases hasPackages with
    | true => exact isCut_packagesItem
    | false => exact .nil
  rw [mem_lines_removeTaggedLines isCut]
  cases hasPackages with
  | true => simp [packagesLine_untagged]
  | false => simp [notBefore, notBehind]

/-- A C# project file and its package list come out of one generation. -/
theorem exists_of_generate {outputs : List PendingOutput}
    (generated : generator.generate context = .ok outputs) :
    ∃ options header contents list,
      (context.computeOptions fun configuration => .ok (axes configuration)) = .ok options ∧
      ProjectHeader.ofOptions context options = .ok header ∧
      render context options header (!(PackageList.packages context).isEmpty) = .ok contents ∧
      PackageList.pending context header.framework.display = .ok list ∧
      outputs = [.file context.file contents, list] := by
  obtain ⟨options, computed, afterOptions⟩ := ok_of_bind_eq_ok generated
  obtain ⟨header, found, afterHeader⟩ := ok_of_bind_eq_ok afterOptions
  obtain ⟨contents, rendered, afterContents⟩ := ok_of_bind_eq_ok afterHeader
  obtain ⟨list, listed, returned⟩ := ok_of_bind_eq_ok afterContents
  exact ⟨options, header, contents, list, computed, found, rendered, listed,
    (Except.ok.inj returned).symm⟩

theorem generate_of_ok {contents : String} {list : PendingOutput}
    (computed : (context.computeOptions fun configuration => .ok (axes configuration)) =
      .ok options)
    (found : ProjectHeader.ofOptions context options = .ok header)
    (rendered : render context options header (!(PackageList.packages context).isEmpty) =
      .ok contents)
    (listed : PackageList.pending context header.framework.display = .ok list) :
    generator.generate context = .ok [.file context.file contents, list] := by
  unfold generator
  dsimp only
  rw [computed, bind_ok, found, bind_ok, rendered, bind_ok, listed, bind_ok]
  rfl

/-- A generated C# project file names its package list exactly when its configurations
have packages. -/
theorem packagesLine_mem_generated_iff (avoids : context.Avoids separators)
    (others : ∀ file ∈ context.sourceFiles, file.1 ≠ PackageList.fileName) {contents : String}
    {list : PendingOutput}
    (generated : generator.generate context = .ok [.file context.file contents, list]) :
    packagesLine ∈ lines contents.toList ↔ PackageList.packages context ≠ [] := by
  have within : separators ⊆ separators := List.Subset.refl _
  obtain ⟨options, header, own, ownList, computed, found, rendered, _, isOwn⟩ :=
    exists_of_generate generated
  cases isOwn
  have sets := (computed ▸ yields_computeOptions within avoids).meets_of_ok
  have fits := (found ▸ yields_header within avoids sets).meets_of_ok
  rw [packagesLine_mem_iff avoids sets fits others rendered]
  simp

end Rendering

end ProjectFiles.Format.CSharp
