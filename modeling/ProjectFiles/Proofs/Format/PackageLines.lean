import ProjectFiles.Proofs.Format.PackageList
import ProjectFiles.Proofs.Template.Lines

/-!
# The lines of package lists

Every package that a list is rendered for has a line of its own in the list, which
spells its name, its version and the folder of the framework.
-/

namespace ProjectFiles.Format.PackageList

open Template Text

/-- The line of a package. -/
def packageLine (folder : String) (package : PackageReference) : List Char :=
  "  <package id=".toList ++ '"' :: (package.name.toList ++ '"' :: (" version=".toList ++
    '"' :: (package.version.toList ++ '"' :: (" targetFramework=".toList ++
      '"' :: (folder.toList ++ '"' :: " />\n".toList)))))

theorem toList_packageText (framework : String) (package : PackageReference) :
    (packageText framework package).toList = packageLine (frameworkFolder framework) package := by
  have spelled : packageItem.toList =
      "  <package id=".toList ++ '"' :: ((Token.placeholder "package.name".toList).source ++
        '"' :: (" version=".toList ++ '"' :: ((Token.placeholder "package.version".toList).source ++
          '"' :: (" targetFramework=".toList ++ '"' ::
            ((Token.placeholder "framework".toList).source ++ '"' :: " />\n".toList))))) := by
    decide
  unfold packageText filled
  generalize shown : [("package", Value.ofJson package.toJson)] ++
    [("framework", .text (frameworkFolder framework))] = bindings
  have isName : (lookup? bindings (String.ofList "package.name".toList)).bind Value.scalarText? =
      some package.name := by
    rw [← shown]
    rfl
  have isVersion : (lookup? bindings (String.ofList "package.version".toList)).bind
      Value.scalarText? = some package.version := by
    rw [← shown]
    rfl
  have isFolder : (lookup? bindings (String.ofList "framework".toList)).bind
      Value.scalarText? = some (frameworkFolder framework) := by
    rw [← shown]
    rfl
  rw [String.toList_ofList, spelled,
    fill_quoted_append (by decide) (List.all_eq_true.1 (by decide)) (by decide) isName,
    fill_quoted_append (by decide) (List.all_eq_true.1 (by decide)) (by decide) isVersion,
    fill_quoted_append (by decide) (List.all_eq_true.1 (by decide)) (by decide) isFolder,
    fill_bracketless (by decide)]
  rfl

/-- The line of a package tells what the package is, unless its texts are quoted. -/
theorem eq_of_packageLine_eq {folder otherFolder : String} {package other : PackageReference}
    (unquoted : ∀ text ∈ package.texts ++ other.texts, '"' ∉ text.toList)
    (same : packageLine folder package = packageLine otherFolder other) : package = other := by
  simp only [PackageReference.texts, List.cons_append, List.nil_append,
    List.forall_mem_cons] at unquoted
  obtain ⟨ownName, ownVersion, otherName, otherVersion, _⟩ := unquoted
  have afterStart := (List.cons.inj (List.append_cancel_left same)).2
  obtain ⟨names, afterNames⟩ := append_cons_inj ownName otherName afterStart
  have beforeVersion := (List.cons.inj (List.append_cancel_left afterNames)).2
  obtain ⟨versions, _⟩ := append_cons_inj ownVersion otherVersion beforeVersion
  cases package
  cases other
  rw [PackageReference.mk.injEq]
  exact ⟨String.toList_inj.1 names, String.toList_inj.1 versions⟩

/-! ## Tags -/

theorem untagged_frameworkFolder (framework : String) :
    ¬ Value.omitTag.toList <:+: (frameworkFolder framework).toList := by
  apply untagged_of_notMem
  rw [frameworkFolder, String.toList_append, List.mem_append, not_or]
  refine ⟨by decide, fun inDigits => ?_⟩
  rw [String.toList_ofList] at inDigits
  exact absurd (List.of_mem_filter inDigits) (by decide)

/-- A tag does not reach across a quotation mark. -/
theorem untagged_quoted {former latter : List Char}
    (untaggedFormer : ¬ Value.omitTag.toList <:+: former)
    (untaggedLatter : ¬ Value.omitTag.toList <:+: latter) :
    ¬ Value.omitTag.toList <:+: former ++ '"' :: latter := by
  have absent : '"' ∉ Value.omitTag.toList := by decide
  rw [infix_append_cons_iff absent, not_or]
  exact ⟨untaggedFormer, untaggedLatter⟩

/-- The line of a package is dropped only when its name or its version is tagged. -/
theorem untagged_packageLine (framework : String) {package : PackageReference}
    (untagged : ∀ text ∈ package.texts, ¬ Value.omitTag.toList <:+: text.toList) :
    occursIn Value.omitTag.toList (packageLine (frameworkFolder framework) package) = false := by
  have name := untagged package.name (by simp [PackageReference.texts])
  have version := untagged package.version (by simp [PackageReference.texts])
  have folder := untagged_frameworkFolder framework
  rw [Bool.eq_false_iff, ne_eq, occursIn_iff]
  refine untagged_quoted (untagged_of_notMem (by decide)) (untagged_quoted name ?_)
  refine untagged_quoted (untagged_of_notMem (by decide)) (untagged_quoted version ?_)
  refine untagged_quoted (untagged_of_notMem (by decide)) (untagged_quoted folder ?_)
  exact untagged_of_notMem (by decide)

/-! ## The whole list -/

theorem isCut_packageItem : IsCut packageItem.toList [packageItem.toList] :=
  .singleton (by decide) (by decide)

theorem isCut_listStart : IsCut listStart.toList
    ["<?xml version=\"1.0\" encoding=\"utf-8\"?>\n".toList, "<packages>\n".toList] := by
  have single : ∀ text ∈ ["<?xml version=\"1.0\" encoding=\"utf-8\"?>", "<packages>"],
      '\n' ∉ text.toList := by
    decide
  exact isCut_unlines single

theorem isCut_listEnd : IsCut listEnd.toList [listEnd.toList] :=
  .singleton (by decide) (by decide)

variable {context : GenerationContext} {package : PackageReference}

theorem isCut_packageText (avoids : context.Avoids separators) (framework : String)
    (member : package ∈ packages context) :
    IsCut (packageText framework package).toList [(packageText framework package).toList] := by
  have folder : frameworkScope.Fits separators
      [("framework", .text (frameworkFolder framework))] :=
    .text (avoids_frameworkFolder (List.Subset.refl _) framework) .nil
  have fits := (package_fits (avoids_of_mem_packages avoids member)).append folder
  have isCut := isCut_fill fits (by decide) isCut_packageItem packageItem_closes
  unfold packageText filled
  rwa [String.toList_ofList]

/-- The lines of a list are those of its packages between its first lines and its last. -/
theorem mem_lines_iff (avoids : context.Avoids separators) {framework contents : String}
    {list : Path} (listed : pending context framework = .ok (.shared list contents))
    {line : List Char} :
    line ∈ lines contents.toList ↔
      (line ∈ ["<?xml version=\"1.0\" encoding=\"utf-8\"?>\n".toList, "<packages>\n".toList,
          listEnd.toList] ∨
        ∃ package ∈ packages context, line = packageLine (frameworkFolder framework) package) ∧
      occursIn Value.omitTag.toList line = false := by
  rw [pending_eq (List.Subset.refl _) (by decide) avoids framework] at listed
  split at listed
  · cases listed
  · obtain ⟨rfl, rfl⟩ := PendingOutput.shared.inj (Except.ok.inj listed)
    have areCut : ∀ text ∈ (packages context).map (packageText framework),
        IsCut text.toList [text.toList] := by
      intro text isItem
      obtain ⟨package, isPackage, rfl⟩ := List.mem_map.1 isItem
      exact isCut_packageText avoids framework isPackage
    have isCut := (isCut_listStart.append (IsCut.join areCut)).append isCut_listEnd
    rw [← String.toList_append, ← String.toList_append] at isCut
    rw [mem_lines_removeTaggedLines isCut]
    simp only [List.mem_append, List.mem_flatMap, List.mem_map, List.mem_cons, List.not_mem_nil,
      or_false, exists_exists_and_eq_and, toList_packageText]
    rw [or_right_comm, or_assoc (c := line = listEnd.toList)]

/-- Every package has its line in the list. -/
theorem packageLine_mem (avoids : context.Avoids separators) {framework contents : String}
    {list : Path} (listed : pending context framework = .ok (.shared list contents))
    (member : package ∈ packages context)
    (untagged : ∀ text ∈ package.texts, ¬ Value.omitTag.toList <:+: text.toList) :
    packageLine (frameworkFolder framework) package ∈ lines contents.toList :=
  (mem_lines_iff avoids listed).2
    ⟨.inr ⟨package, member, rfl⟩, untagged_packageLine framework untagged⟩

/-- Only packages have lines in the list. -/
theorem exists_of_packageLine_mem (avoids : context.Avoids separators)
    {framework contents folder : String} {list : Path}
    (listed : pending context framework = .ok (.shared list contents))
    (listedLine : packageLine folder package ∈ lines contents.toList) :
    ∃ other ∈ packages context,
      packageLine folder package = packageLine (frameworkFolder framework) other := by
  rcases ((mem_lines_iff avoids listed).1 listedLine).1 with isFrame | isPackage
  · have begins : (packageLine folder package).head? = some ' ' := rfl
    have apart : ∀ line ∈ ["<?xml version=\"1.0\" encoding=\"utf-8\"?>\n".toList,
        "<packages>\n".toList, listEnd.toList], line.head? ≠ some ' ' := by
      decide
    exact absurd begins (apart _ isFrame)
  · exact isPackage

end ProjectFiles.Format.PackageList
