import ProjectFiles.Proofs.Format.MSBuild
import ProjectFiles.Proofs.Template.Embedded
import ProjectFiles.Proofs.Template.LiveScopes

/-!
# Items of source files

The name of a source file is a value like any other: what stands in it for a placeholder
or for an escape is resolved, and the marker of omitted values drops its line.  A C++
project file has one item for every other source file, in order, and a name without
placeholders and escapes stands in its item as it is.
-/

namespace ProjectFiles

open Template Text

namespace Resolver

/-! ## Bound texts -/

theorem mem_stack_foldl_push {resolver : Resolver} {scope : Nat}
    {assignments : List (String × Value)} {probe : String} {binding : Binding}
    (member : binding ∈ (assignments.foldl
      (fun current assignment => current.push scope assignment) resolver).stack probe) :
    binding ∈ resolver.stack probe ∨ ∃ assignment ∈ assignments, binding.value = assignment.2 := by
  induction assignments generalizing resolver with
  | nil => exact .inl member
  | cons first rest ih =>
      rcases ih member with isOuter | ⟨assignment, isAssigned, same⟩
      · rw [stack_push] at isOuter
        split at isOuter
        · rcases List.mem_cons.1 isOuter with rfl | isBelow
          · exact .inr ⟨first, List.mem_cons_self, rfl⟩
          · rename_i isFirst
            exact .inl (isFirst ▸ isBelow)
        · exact .inl isOuter
      · exact .inr ⟨assignment, .tail _ isAssigned, same⟩

/-- Where only texts are bound, every placeholder stands for one of them. -/
theorem rendering?_of_texts {caseSensitive : Bool} (texts : List (String × String))
    {inner : Resolver} {guard : ScopeGuard}
    (opened : (new caseSensitive).declareAll (texts.map fun bound => (bound.1, .text bound.2)) =
      .ok (inner, guard)) {path rendered : String}
    (isText : inner.rendering? path = some rendered) : ∃ bound ∈ texts, rendered = bound.2 := by
  obtain ⟨value, found, isRendered⟩ := Option.bind_eq_some_iff.1 isText
  unfold lookup? at found
  split at found
  · cases found
  · rename_i root fields _
    obtain ⟨binding, isHead, leads⟩ := Option.bind_eq_some_iff.1 found
    have member := List.mem_of_mem_head? isHead
    rcases (new caseSensitive).declareAll_eq (texts.map fun bound => (bound.1, .text bound.2)) with
      ⟨_, entered⟩ | ⟨_, _, refused⟩
    · rw [opened] at entered
      cases entered
      rcases mem_stack_foldl_push member with isOuter | ⟨assignment, isAssigned, same⟩
      · cases isOuter
      · obtain ⟨_, isBound, rfl⟩ := List.mem_map.1 isAssigned
        obtain ⟨bound, isThere, rfl⟩ := List.mem_map.1 isBound
        refine ⟨bound, isThere, ?_⟩
        rw [same] at leads
        cases fields with
        | nil =>
            cases leads
            exact (Option.some.inj isRendered).symm
        | cons => cases leads
    · rw [opened] at refused
      cases refused

end Resolver

namespace Format.MSBuild

/-! ## One item -/

/-- The item of a source file. -/
def sourceLine (element path : String) : String :=
  "    <" ++ element ++ " Include=\"" ++ path ++ "\" />\n"

theorem toList_sourceLine (element path : String) : (sourceLine element path).toList =
    ("    <" ++ element ++ " Include=\"" ++ path ++ "\" />").toList ++ ['\n'] := by
  simp [sourceLine]

theorem tokens_sourceItem : tokens sourceItem.toList =
    "    <".toList.map .plain ++ (.placeholder "element".toList ::
      (" Include=\"".toList.map .plain ++ (.placeholder "include".toList ::
        "\" />\n".toList.map .plain))) := by
  decide

/-- Both placeholders of an item are replaced in one pass. -/
theorem substitute_sourceItem {resolver : Resolver} {element path : String}
    (shows : resolver.Shows [("element", .text element), ("include", .text path)]) :
    resolver.substitute sourceItem none sourceItem.toList =
      .ok ⟨"    <".toList ++ (element.toList ++ (" Include=\"".toList ++
        (path.toList ++ "\" />\n".toList))), 2, false⟩ := by
  have replaced {name text : String} (segments : Resolver.pathSegments name = [name])
      (found : [("element", Value.text element), ("include", Value.text path)].lookup name =
        some (.text text)) :
      resolver.replacement sourceItem none (String.ofList name.toList) = .ok text := by
    have leads : Template.lookup? [("element", .text element), ("include", .text path)] name =
        some (.text text) := by
      rw [Template.lookup?, segments]
      exact congrArg (·.bind (Value.lookup? [])) found
    rw [String.ofList_toList, Resolver.replacement, shows.lookup? leads]
    rfl
  have elementText : resolver.replacement sourceItem none (String.ofList "element".toList) =
      .ok element := replaced (by decide) rfl
  have pathText : resolver.replacement sourceItem none (String.ofList "include".toList) =
      .ok path := replaced (by decide) rfl
  rw [Resolver.substitute, tokens_sourceItem, Resolver.replaceTokens_plain_append,
    Resolver.replaceTokens, elementText, Resolver.replaceTokens_plain_append,
    Resolver.replaceTokens, pathText, Resolver.replaceTokens_plain]
  simp [Except.map, Resolver.Pass.within, bind_ok]

/-- An attribute keeps its text apart from the rest of the item. -/
theorem isFrame_sourceItem {element : String} (bracketless : '[' ∉ element.toList) :
    IsFrame ("    <".toList ++ (element.toList ++ " Include=\"".toList)) "\" />\n".toList := by
  have quote : " Include=\"".toList.getLast? = some '"' := by decide
  refine ⟨?_, by decide, ?_, ?_⟩
  · rw [List.mem_append, List.mem_append, not_or, not_or]
    exact ⟨by decide, bracketless, by decide⟩
  · intro c isLast
    rw [← List.append_assoc, List.getLast?_append, quote, Option.some_or] at isLast
    cases isLast
    decide
  · intro c isFirst
    cases isFirst
    decide

/-- The item of a source file has what its name is resolved to. -/
theorem resolve_sourceItem {resolver : Resolver} {element path : String}
    (shows : resolver.Shows [("element", .text element), ("include", .text path)])
    (bracketless : '[' ∉ element.toList) :
    resolver.resolve sourceItem =
      (resolver.resolvePasses sourceItem none 15 false path.toList).map (sourceLine element) := by
  have framed := resolver.resolvePasses_frame sourceItem none (isFrame_sourceItem bracketless) 15
    false path.toList
  rw [List.append_assoc, List.append_assoc] at framed
  have line : (fun text =>
      String.ofList ("    <".toList ++ (element.toList ++ " Include=\"".toList)) ++ text ++
        String.ofList "\" />\n".toList) = sourceLine element := by
    funext text
    rw [← String.toList_inj]
    simp [sourceLine]
  rw [line] at framed
  rw [Resolver.resolve, Resolver.passLimit,
    Resolver.resolvePasses_of_substitute (substitute_sourceItem shows)]
  exact framed

/-- `Includes resolver elementFor entry text` means that the include path of an entry, as a
template that may refer to what its item binds, is resolved to a text. -/
def Includes (resolver : Resolver) (elementFor : String → String) (entry : String × String)
    (text : String) : Prop :=
  ∃ inner guard, resolver.declareAll (sourceBindings elementFor entry) = .ok (inner, guard) ∧
    inner.resolve entry.1 = .ok text

/-- A name without placeholders and escapes stays as it is. -/
theorem Includes.eq_of_isPlain {resolver : Resolver} {elementFor : String → String}
    {entry : String × String} {text : String} (includes : Includes resolver elementFor entry text)
    (plain : IsPlain entry.1.toList) : text = entry.1 := by
  obtain ⟨inner, guard, _, resolved⟩ := includes
  rw [Resolver.resolve_of_isPlain plain] at resolved
  exact (Except.ok.inj resolved).symm

/-- Whether a name of elements has neither brackets nor newlines nor the marker. -/
def IsElement (element : String) : Prop :=
  '[' ∉ element.toList ∧ '\n' ∉ element.toList ∧
    ¬ Value.omitTag.toList <:+: ("    <" ++ element ++ " Include=").toList

variable {caseSensitive : Bool} {elementFor : String → String}

theorem Includes.single {entry : String × String} {text : String}
    (isElement : IsElement (elementFor entry.2))
    (includes : Includes (.new caseSensitive) elementFor entry text)
    (single : '\n' ∉ entry.1.toList) : '\n' ∉ text.toList := by
  obtain ⟨inner, guard, opened, resolved⟩ := includes
  refine Resolver.notMem_resolvePasses single (fun path rendered isText => ?_) resolved
  obtain ⟨bound, isBound, rfl⟩ := Resolver.rendering?_of_texts
    [("element", elementFor entry.2), ("include", entry.1)] opened isText
  rcases List.mem_cons.1 isBound with rfl | isInclude
  · exact isElement.2.1
  · rw [List.mem_singleton.1 isInclude]
    exact single

/-- Writing an item writes its line. -/
theorem writeIn_sourceItem {entry : String × String} (isElement : IsElement (elementFor entry.2))
    {buffer final : OutputBuffer}
    (written : buffer.writeIn (.new caseSensitive) (sourceBindings elementFor entry) sourceItem =
      .ok final) :
    ∃ text, Includes (.new caseSensitive) elementFor entry text ∧
      final = buffer.writeVerbatim (sourceLine (elementFor entry.2) text) := by
  obtain ⟨⟨inner, guard⟩, opened, writtenInner⟩ := ok_of_bind_eq_ok written
  obtain ⟨line, isLine, returned⟩ := ok_of_bind_eq_ok writtenInner
  cases returned
  have names : Apart ["element", "include"] := by decide
  have apart : Apart ((sourceBindings elementFor entry ++ []).map Prod.fst) := names
  obtain ⟨declared, _, isDeclared, shows⟩ :=
    (Resolver.shows_nil (.new caseSensitive)).declareAll apart
  rw [opened] at isDeclared
  cases isDeclared
  rw [resolve_sourceItem shows isElement.1] at isLine
  cases resolved : inner.resolvePasses sourceItem none 15 false entry.1.toList with
  | error error =>
      rw [resolved] at isLine
      cases isLine
  | ok text =>
      rw [resolved] at isLine
      cases isLine
      exact ⟨text, ⟨inner, guard, opened, Resolver.resolvePasses_mono (by decide) _ resolved⟩, rfl⟩

/-! ## All items -/

/-- The lines of resolved entries. -/
def sourceLines (elementFor : String → String) (resolved : List ((String × String) × String)) :
    List String :=
  resolved.map fun item => sourceLine (elementFor item.1.2) item.2

theorem foldlM_sourceItem (isElement : ∀ extension, IsElement (elementFor extension))
    {entries : List (String × String)} {buffer final : OutputBuffer}
    (written : entries.foldlM (fun buffer entry =>
      buffer.writeIn (.new caseSensitive) (sourceBindings elementFor entry) sourceItem) buffer =
        .ok final) :
    ∃ includes, List.Forall₂ (Includes (.new caseSensitive) elementFor) entries includes ∧
      final = buffer.writeVerbatim
        (String.join (sourceLines elementFor (entries.zip includes))) := by
  induction entries generalizing buffer with
  | nil =>
      cases written
      exact ⟨[], .nil, (OutputBuffer.writeVerbatim_empty final).symm⟩
  | cons entry rest ih =>
      obtain ⟨next, isNext, writtenRest⟩ := ok_of_bind_eq_ok written
      obtain ⟨text, isText, rfl⟩ := writeIn_sourceItem (isElement entry.2) isNext
      obtain ⟨includes, areIncludes, rfl⟩ := ih writtenRest
      refine ⟨text :: includes, .cons isText areIncludes, ?_⟩
      have lines : sourceLines elementFor ((entry, text) :: rest.zip includes) =
          sourceLine (elementFor entry.2) text :: sourceLines elementFor (rest.zip includes) := rfl
      rw [OutputBuffer.writeVerbatim_writeVerbatim, List.zip_cons_cons, lines, String.join_cons]

/-- The group of all resolved entries, without those whose text has the marker. -/
def sourceGroup (elementFor : String → String) (resolved : List ((String × String) × String)) :
    String :=
  if resolved.isEmpty then ""
  else
    itemGroupStart ++
      String.join (sourceLines elementFor
        (resolved.filter fun item => !occursIn Value.omitTag.toList item.2.toList)) ++
      itemGroupEnd

theorem occursIn_sourceLine {element : String} (isElement : IsElement element) (text : String) :
    occursIn Value.omitTag.toList (sourceLine element text).toList =
      occursIn Value.omitTag.toList text.toList := by
  have spelled : (sourceLine element text).toList =
      ("    <" ++ element ++ " Include=").toList ++
        '"' :: (text.toList ++ '"' :: " />\n".toList) := by
    simp [sourceLine]
  have quote : '"' ∉ Value.omitTag.toList := by decide
  have behind : ¬ Value.omitTag.toList <:+: " />\n".toList := by
    rw [← occursIn_iff]
    decide
  rw [Bool.eq_iff_iff, occursIn_iff, occursIn_iff, spelled, infix_append_cons_iff quote,
    infix_append_cons_iff quote, or_iff_right isElement.2.2, or_iff_left behind]

/-- Dropping the tagged lines leaves the other items. -/
theorem removeTaggedLines_sourceLines (isElement : ∀ extension, IsElement (elementFor extension))
    {resolved : List ((String × String) × String)}
    (single : ∀ item ∈ resolved, '\n' ∉ item.2.toList) :
    OutputBuffer.removeTaggedLines (String.join (sourceLines elementFor resolved)) =
      String.join (sourceLines elementFor
        (resolved.filter fun item => !occursIn Value.omitTag.toList item.2.toList)) := by
  have isCut : IsCut (String.join (sourceLines elementFor resolved)).toList
      ((sourceLines elementFor resolved).flatMap fun line => [line.toList]) := by
    refine IsCut.join fun line member => ?_
    obtain ⟨item, isItem, rfl⟩ := List.mem_map.1 member
    obtain ⟨_, elementSingle, _⟩ := isElement item.1.2
    refine ⟨by simp, fun own isOwn => ?_⟩
    rw [List.mem_singleton.1 isOwn]
    refine ⟨_, toList_sourceLine _ _, ?_⟩
    simp [elementSingle, single item isItem]
  rw [← String.toList_inj, (isCut_removeTaggedLines isCut).1, String.toList_join,
    ← List.map_eq_flatMap, sourceLines, sourceLines, List.map_map, List.filter_map,
    List.flatMap_map, List.flatten_eq_flatMap, List.flatMap_map]
  have kept : (fun line => !occursIn Value.omitTag.toList line) ∘ String.toList ∘
      (fun item : (String × String) × String => sourceLine (elementFor item.1.2) item.2) =
      fun item => !occursIn Value.omitTag.toList item.2.toList := by
    funext item
    rw [Function.comp_apply, Function.comp_apply, occursIn_sourceLine (isElement item.1.2)]
  rw [kept]
  rfl

theorem isTerminated_sourceLines (elementFor : String → String)
    (resolved : List ((String × String) × String)) :
    IsTerminated (String.join (sourceLines elementFor resolved)).toList := by
  refine .join fun line member => ?_
  obtain ⟨item, _, rfl⟩ := List.mem_map.1 member
  intro c isLast
  rw [toList_sourceLine, List.getLast?_concat] at isLast
  exact (Option.some.inj isLast).symm

/-- The lines around a group are kept. -/
theorem removeTaggedLines_group {items : String} (terminated : IsTerminated items.toList) :
    OutputBuffer.removeTaggedLines (itemGroupStart ++ (items ++ itemGroupEnd)) =
      itemGroupStart ++ (OutputBuffer.removeTaggedLines items ++ itemGroupEnd) := by
  have start : OutputBuffer.removeTaggedLines itemGroupStart = itemGroupStart := by decide
  have stop : OutputBuffer.removeTaggedLines itemGroupEnd = itemGroupEnd := by decide
  have terminatedStart : IsTerminated itemGroupStart.toList := by
    intro c isLast
    cases isLast
    rfl
  rw [removeTaggedLines_append_of_isTerminated terminatedStart,
    removeTaggedLines_append_of_isTerminated terminated, start, stop]

/-- Writing the source files writes their group. -/
theorem finalize_writeSourceFiles (isElement : ∀ extension, IsElement (elementFor extension))
    {context : GenerationContext} (single : ∀ entry ∈ context.sourceFiles, '\n' ∉ entry.1.toList)
    {own : OutputBuffer}
    (written : writeSourceFiles .empty (.new caseSensitive) context elementFor = .ok own) :
    ∃ includes, List.Forall₂ (Includes (.new caseSensitive) elementFor) context.sourceFiles
        includes ∧
      own.finalize = sourceGroup elementFor (context.sourceFiles.zip includes) := by
  unfold writeSourceFiles at written
  split at written
  · rename_i none
    cases written
    rw [List.isEmpty_iff.1 none]
    exact ⟨[], .nil, rfl⟩
  · rename_i some
    obtain ⟨items, writtenItems, returned⟩ := ok_of_bind_eq_ok written
    obtain ⟨includes, areIncludes, rfl⟩ := foldlM_sourceItem isElement writtenItems
    cases returned
    refine ⟨includes, areIncludes, ?_⟩
    have singleItems : ∀ item ∈ context.sourceFiles.zip includes, '\n' ∉ item.2.toList := by
      intro item member
      have isIncluded := List.forall₂_zip areIncludes member
      exact isIncluded.single (isElement _) (single _ (List.of_mem_zip member).1)
    have nonempty : (context.sourceFiles.zip includes).isEmpty = false := by
      generalize context.sourceFiles = entries at some areIncludes
      cases areIncludes with
      | nil => exact absurd rfl some
      | cons => rfl
    rw [sourceGroup, nonempty, if_neg Bool.false_ne_true,
      ← removeTaggedLines_sourceLines isElement singleItems, String.append_assoc,
      ← removeTaggedLines_group (isTerminated_sourceLines _ _),
      OutputBuffer.writeVerbatim_writeVerbatim, OutputBuffer.writeVerbatim_writeVerbatim,
      OutputBuffer.finalize_empty_writeVerbatim]

/-- Where all names are plain and none has the marker, the items have the names as they
are. -/
theorem sourceGroup_of_isPlain {resolver : Resolver} {entries : List (String × String)}
    {includes : List String}
    (areIncludes : List.Forall₂ (Includes resolver elementFor) entries includes)
    (plain : ∀ entry ∈ entries, IsPlain entry.1.toList)
    (untagged : ∀ entry ∈ entries, occursIn Value.omitTag.toList entry.1.toList = false) :
    sourceGroup elementFor (entries.zip includes) =
      itemGroup (entries.map fun entry => sourceLine (elementFor entry.2) entry.1) := by
  have zipped : entries.zip includes = entries.map fun entry => (entry, entry.1) := by
    clear untagged
    induction areIncludes with
    | nil => rfl
    | cons isInclude _ ih =>
        obtain ⟨isPlain, arePlain⟩ := List.forall_mem_cons.1 plain
        rw [List.zip_cons_cons, List.map_cons, ih arePlain, isInclude.eq_of_isPlain isPlain]
  have kept : (entries.map fun entry => (entry, entry.1)).filter
      (fun item => !occursIn Value.omitTag.toList item.2.toList) =
        entries.map fun entry => (entry, entry.1) := by
    rw [List.filter_eq_self]
    intro item member
    obtain ⟨entry, isEntry, rfl⟩ := List.mem_map.1 member
    rw [untagged entry isEntry]
    rfl
  rw [sourceGroup, itemGroup, zipped, kept, sourceLines, List.map_map, List.isEmpty_map,
    List.isEmpty_map]
  rfl

end Format.MSBuild

end ProjectFiles
