import ProjectFiles.Proofs.Format.VisualCppSources
import ProjectFiles.Proofs.Validation.Dependencies

/-!
# Configurations of C++ project files

Every configuration has an item in the list of configurations and three blocks of its own
in a C++ project file.  They are written from the configuration alone, so they are the same
whichever other configurations the file has.  What stands around them depends on the
configurations only through the first one and through the projects that are referred to.
-/

namespace ProjectFiles

open Template Text

/-! ## Configurations in the place of others -/

/-- Whether a configuration differs from another one at most in what it builds with and in
where that goes. -/
def Configuration.Rebuilds (configuration other : Configuration) : Prop :=
  other =
    { configuration with
      settings := other.settings
      defines := other.defines
      targetPath := other.targetPath
      intermediatePath := other.intermediatePath
      targetFileName := other.targetFileName }

section Rebuilding

variable {project : Project} {file : Path} {settings : Settings}
variable {before after declared : List Configuration} {configuration other : Configuration}
variable {context changed : GenerationContext}

theorem Configuration.Rebuilds.identity (rebuilds : configuration.Rebuilds other) :
    other.identity = configuration.identity := by
  rw [rebuilds]
  rfl

theorem Configuration.Rebuilds.dependencies (rebuilds : configuration.Rebuilds other) :
    other.dependencies = configuration.dependencies := by
  rw [rebuilds]

/-- The order of configurations depends on their identities only. -/
theorem pairwise_compareIdentity_congr {configurations others : List Configuration}
    (same : configurations.map Configuration.identity = others.map Configuration.identity)
    (increasing : configurations.Pairwise fun left right =>
      Configuration.compareIdentity left right = .lt) :
    others.Pairwise fun left right => Configuration.compareIdentity left right = .lt := by
  have ofIdentities (members : List Configuration) :
      (members.Pairwise fun left right => Configuration.compareIdentity left right = .lt) ↔
        (members.map Configuration.identity).Pairwise fun left right =>
          compareLex (compareOn Prod.fst) (compareOn Prod.snd) left right = .lt := by
    rw [List.pairwise_map]
    rfl
  rw [ofIdentities] at increasing ⊢
  rwa [← same]

/-- A configuration that is put in the place of another one stands where that one stands
among the sorted configurations. -/
theorem Configuration.sortAndValidate_of_rebuilds {front back sorted : List Configuration}
    (isSorted : sortAndValidate file (before ++ configuration :: after) =
      .ok (front ++ configuration :: back))
    (rebuilds : configuration.Rebuilds other)
    (alsoSorted : sortAndValidate file (before ++ other :: after) = .ok sorted) :
    sorted = front ++ other :: back := by
  obtain ⟨_, perm, increasing⟩ := sortAndValidate_eq_ok_iff.1 isSorted
  obtain ⟨together, _⟩ := sortAndValidate_eq_ok_iff.1 alsoSorted
  have rest : (front ++ back).Perm (before ++ after) :=
    ((List.perm_middle.symm.trans perm).trans List.perm_middle).cons_inv
  have permOther : (front ++ other :: back).Perm (before ++ other :: after) :=
    (List.perm_middle.trans (rest.cons other)).trans List.perm_middle.symm
  have sameIdentities : (front ++ configuration :: back).map identity =
      (front ++ other :: back).map identity := by
    simp [rebuilds.identity]
  have increasingOther := pairwise_compareIdentity_congr sameIdentities increasing
  refine Except.ok.inj (alsoSorted.symm.trans ?_)
  exact sortAndValidate_eq_ok_iff.2 ⟨together, permOther, increasingOther⟩

/-- A configuration that is put in the place of one behind the first takes its place in the
context, and nothing else of the file changes. -/
theorem GenerationContext.exists_of_rebuilt
    (isNew : new project file (before ++ configuration :: after) settings = .ok context)
    (isLater : configuration ≠ context.first) (rebuilds : configuration.Rebuilds other)
    (isChanged : new { project with configurations := declared } file
      (before ++ other :: after) settings = .ok changed) :
    ∃ former latter, context.others = former ++ configuration :: latter ∧
      changed =
        { context with
          project := { project with configurations := declared }
          others := former ++ other :: latter
          warnings := changed.warnings } := by
  obtain ⟨isSorted, _, isFile, areSettings, areListed, _⟩ := new_eq_ok_iff.1 isNew
  obtain ⟨alsoSorted, isProject, alsoFile, alsoSettings, alsoListed, _⟩ :=
    new_eq_ok_iff.1 isChanged
  have member : configuration ∈ context.others := by
    have perm := (Configuration.sortAndValidate_eq_ok_iff.1 isSorted).2.1
    have among : configuration ∈ context.configurations := perm.mem_iff.2 (by simp)
    exact (List.mem_cons.1 among).resolve_left isLater
  obtain ⟨former, latter, spelled⟩ := List.append_of_mem member
  have inPlace : changed.configurations = context.first :: former ++ other :: latter := by
    rw [GenerationContext.configurations, spelled, ← List.cons_append] at isSorted
    exact Configuration.sortAndValidate_of_rebuilds isSorted rebuilds alsoSorted
  have sameReferences : changed.references = context.references := by
    unfold references
    rw [inPlace, GenerationContext.configurations, spelled]
    simp [rebuilds.dependencies]
  rw [sameReferences, ← areListed] at alsoListed
  refine ⟨former, latter, spelled, ?_⟩
  obtain ⟨sameFirst, areOthers⟩ := List.cons.inj inPlace
  cases changed
  rw [mk.injEq]
  exact ⟨isProject, alsoFile.trans isFile.symm, sameFirst, areOthers, alsoListed,
    alsoSettings.trans areSettings.symm, rfl⟩

end Rebuilding

/-- What is related to a member of a list stands between what is related to the others. -/
theorem exists_of_forall₂_middle {α β : Type} {related : α → β → Prop} {former latter : List α}
    {member : α} {images : List β}
    (all : List.Forall₂ related (former ++ member :: latter) images) :
    ∃ front image back, List.Forall₂ related former front ∧ related member image ∧
      List.Forall₂ related latter back ∧ images = front ++ image :: back := by
  induction former generalizing images with
  | nil =>
      obtain ⟨image, back, isImage, areBack, rfl⟩ := List.forall₂_cons_left_iff.1 all
      exact ⟨[], image, back, .nil, isImage, areBack, rfl⟩
  | cons first former ih =>
      obtain ⟨own, rest, isOwn, areRest, rfl⟩ := List.forall₂_cons_left_iff.1 all
      obtain ⟨front, image, back, areFront, isImage, areBack, rfl⟩ := ih areRest
      exact ⟨own :: front, image, back, .cons isOwn areFront, isImage, areBack, rfl⟩

namespace Format.VisualCpp

open MSBuild OutputBuffer

/-! ## Shares of configurations -/

/-- What a project file has of one configuration: its item in the list of configurations,
its general properties, its paths and how it compiles. -/
structure Share where
  item : String
  general : String
  paths : String
  definition : String

/-- `Fills caseSensitive template configuration text` means that a text is what a template
of a configuration and its options comes to by itself. -/
def Fills (caseSensitive : Bool) (template : String) (configuration : Configuration)
    (text : String) : Prop :=
  ∃ options, ExplicitOptions.ofAxes configuration (axes configuration) = .ok options ∧
    Puts (·.writeIn (.new caseSensitive) (configurationBindings configuration options) template)
      text

/-- `Lists caseSensitive configuration text` means that a text is the item of a
configuration in the list of configurations. -/
def Lists (caseSensitive : Bool) (configuration : Configuration) (text : String) : Prop :=
  Puts (·.writeIn (.new caseSensitive) [("conf", configuration.toValue)] configurationItem) text

/-- `IsShare caseSensitive configuration share` means that a share is written from a
configuration. -/
structure IsShare (caseSensitive : Bool) (configuration : Configuration) (share : Share) :
    Prop where
  item : Lists caseSensitive configuration share.item
  general : Fills caseSensitive generalProperties configuration share.general
  paths : Fills caseSensitive pathProperties configuration share.paths
  definition : Fills caseSensitive itemDefinition configuration share.definition

variable {caseSensitive : Bool} {configuration : Configuration}
variable {configurations : List Configuration}

theorem Fills.unique {template text other : String}
    (fills : Fills caseSensitive template configuration text)
    (fillsOther : Fills caseSensitive template configuration other) : text = other := by
  obtain ⟨options, computed, puts⟩ := fills
  obtain ⟨_, again, putsOther⟩ := fillsOther
  obtain rfl := Except.ok.inj (computed.symm.trans again)
  exact puts.unique putsOther

theorem IsShare.unique {share other : Share} (isShare : IsShare caseSensitive configuration share)
    (isOther : IsShare caseSensitive configuration other) : share = other := by
  cases share
  cases other
  rw [Share.mk.injEq]
  exact ⟨isShare.item.unique isOther.item, isShare.general.unique isOther.general,
    isShare.paths.unique isOther.paths, isShare.definition.unique isOther.definition⟩

/-- The texts of configurations are their shares when they are put together row by row. -/
theorem exists_shares {items generals paths definitions : List String}
    (list : List.Forall₂ (Lists caseSensitive) configurations items)
    (fillGeneral : List.Forall₂ (Fills caseSensitive generalProperties) configurations generals)
    (fillPaths : List.Forall₂ (Fills caseSensitive pathProperties) configurations paths)
    (fillDefinition : List.Forall₂ (Fills caseSensitive itemDefinition) configurations
      definitions) :
    ∃ shares, List.Forall₂ (IsShare caseSensitive) configurations shares ∧
      shares.map Share.item = items ∧ shares.map Share.general = generals ∧
      shares.map Share.paths = paths ∧ shares.map Share.definition = definitions := by
  induction list generalizing generals paths definitions with
  | nil =>
      cases fillGeneral
      cases fillPaths
      cases fillDefinition
      exact ⟨[], .nil, rfl, rfl, rfl, rfl⟩
  | cons lists _ ih =>
      cases fillGeneral with
      | cons isGeneral restGeneral =>
      cases fillPaths with
      | cons isPaths restPaths =>
      cases fillDefinition with
      | cons isDefinition restDefinition =>
      obtain ⟨shares, areShares, rfl, rfl, rfl, rfl⟩ := ih restGeneral restPaths restDefinition
      exact ⟨⟨_, _, _, _⟩ :: shares, .cons ⟨lists, isGeneral, isPaths, isDefinition⟩ areShares,
        rfl, rfl, rfl, rfl⟩

/-! ## What stands around the shares -/

/-- The texts of a project file that belong to no configuration by itself. -/
structure Frame where
  start : String
  globals : String
  sources : String
  references : String

/-- The texts of which a project file is made with shares in their order. -/
def Frame.pieces (frame : Frame) (shares : List Share) : List String :=
  [frame.start, configurationsStart, String.join (shares.map Share.item), itemGroupEnd,
    frame.globals, String.join (shares.map Share.general), afterGeneralProperties,
    String.join (shares.map Share.paths), String.join (shares.map Share.definition),
    frame.sources, frame.references, projectEnd]

/-- The text of a project file with shares in their order. -/
def Frame.text (frame : Frame) (shares : List Share) : String :=
  String.join (frame.pieces shares)

/-- `IsFrameOf context frame` means that a frame is written for a context. -/
structure IsFrameOf (context : GenerationContext) (frame : Frame) : Prop where
  start : Puts (·.writeIn context.resolver [("toolsVersion", .text toolsVersion)] projectStart)
    frame.start
  globals : Puts (·.writeIn context.resolver (globalBindings context) globals) frame.globals
  sources : Puts (writeSourceFiles · context.resolver context elementFor) frame.sources
  references : Puts (writeReferences · context.resolver context projectReference) frame.references

theorem IsFrameOf.unique {context : GenerationContext} {frame other : Frame}
    (isFrame : IsFrameOf context frame) (isOther : IsFrameOf context other) : frame = other := by
  cases frame
  cases other
  rw [Frame.mk.injEq]
  exact ⟨isFrame.start.unique isOther.start, isFrame.globals.unique isOther.globals,
    isFrame.sources.unique isOther.sources, isFrame.references.unique isOther.references⟩

/-! ## Composition -/

/-- `Composes context frame shares outputs` means that a project file is put out for a
context, and that it is made of a frame and of the shares of the configurations. -/
structure Composes (context : GenerationContext) (frame : Frame) (shares : List Share)
    (outputs : List PendingOutput) : Prop where
  isFrame : IsFrameOf context frame
  areShares : List.Forall₂ (IsShare context.settings.caseSensitivePlaceholders)
    context.configurations shares
  areOutputs : outputs = [.file context.file (frame.text shares)]

variable {context : GenerationContext} {options : List ExplicitOptions}
variable {outputs : List PendingOutput} {text : String}

/-- The options of configurations are computed from each by itself. -/
theorem computeOptions_eq_ok_iff :
    (context.computeOptions fun configuration => .ok (axes configuration)) = .ok options ↔
      List.Forall₂ (fun configuration own =>
        ExplicitOptions.ofAxes configuration (axes configuration) = .ok own)
        context.configurations options :=
  mapM_eq_ok_iff

theorem exists_options {shares : List Share}
    (areShares : List.Forall₂ (IsShare caseSensitive) configurations shares) :
    ∃ options, List.Forall₂ (fun configuration own =>
      ExplicitOptions.ofAxes configuration (axes configuration) = .ok own)
      configurations options := by
  induction areShares with
  | nil => exact ⟨[], .nil⟩
  | cons isShare _ ih =>
      obtain ⟨own, isOwn, _⟩ := isShare.general
      obtain ⟨others, areOthers⟩ := ih
      exact ⟨own :: others, .cons isOwn areOthers⟩

/-- Filling a template with a configuration and its options is filling it for the
configuration. -/
theorem forall₂_fills_iff {template : String} {texts : List String}
    (computed : List.Forall₂ (fun configuration own =>
      ExplicitOptions.ofAxes configuration (axes configuration) = .ok own) configurations options) :
    List.Forall₂ (fun (entry : Configuration × ExplicitOptions) own =>
      Puts (·.writeIn (.new caseSensitive) (configurationBindings entry.1 entry.2) template) own)
      (configurations.zip options) texts ↔
        List.Forall₂ (Fills caseSensitive template) configurations texts := by
  induction computed generalizing texts with
  | nil => simp
  | @cons configuration own _ _ isOwn _ ih =>
      rw [List.zip_cons_cons, List.forall₂_cons_left_iff, List.forall₂_cons_left_iff]
      have fills : ∀ text, Fills caseSensitive template configuration text ↔
          Puts (·.writeIn (.new caseSensitive) (configurationBindings configuration own) template)
            text := by
        intro text
        simp [Fills, isOwn]
      simp only [fills, ih]

/-- A template of terminated lines is put once for every configuration. -/
theorem puts_writeConfigurations_iff {template : String}
    (ends : template.toList.getLast? = some '\n')
    (computed : List.Forall₂ (fun configuration own =>
      ExplicitOptions.ofAxes configuration (axes configuration) = .ok own)
      context.configurations options) :
    Puts (writeConfigurations · context.resolver template (context.configurations.zip options))
        text ↔
      ∃ texts, List.Forall₂ (Fills context.settings.caseSensitivePlaceholders template)
          context.configurations texts ∧ text = String.join texts := by
  refine (puts_foldlM_iff fun _ _ => .templateIn _ _ ends).trans (exists_congr fun texts => ?_)
  exact and_congr_left fun _ => forall₂_fills_iff computed

/-- An item is written for every configuration. -/
theorem puts_writeEachConfiguration_iff :
    Puts (writeEachConfiguration · context.resolver configurationItem context.configurations)
        text ↔
      ∃ items, List.Forall₂ (Lists context.settings.caseSensitivePlaceholders)
          context.configurations items ∧ text = String.join items :=
  puts_foldlM_iff fun _ _ => .templateIn _ _ (getLast?_unlines (List.cons_ne_nil _ _))

/-- The parts of a project file, one behind the other. -/
def parts (context : GenerationContext) (options : List ExplicitOptions) :
    List (OutputBuffer → Except GenerationError OutputBuffer) :=
  [(·.writeIn context.resolver [("toolsVersion", .text toolsVersion)] projectStart),
    fun buffer => .ok (buffer.writeVerbatim configurationsStart),
    (writeEachConfiguration · context.resolver configurationItem context.configurations),
    fun buffer => .ok (buffer.writeVerbatim itemGroupEnd),
    (·.writeIn context.resolver (globalBindings context) globals),
    (writeConfigurations · context.resolver generalProperties
      (context.configurations.zip options)),
    fun buffer => .ok (buffer.writeVerbatim afterGeneralProperties),
    (writeConfigurations · context.resolver pathProperties (context.configurations.zip options)),
    (writeConfigurations · context.resolver itemDefinition (context.configurations.zip options)),
    (writeSourceFiles · context.resolver context elementFor),
    (writeReferences · context.resolver context projectReference),
    fun buffer => .ok (buffer.writeVerbatim projectEnd)]

theorem appendsLines_of_mem_parts {part : OutputBuffer → Except GenerationError OutputBuffer}
    (isPart : part ∈ parts context options) : AppendsLines part := by
  have ends {first : String} {rest : List String} :
      (unlines (first :: rest)).toList.getLast? = some '\n' :=
    getLast?_unlines (List.cons_ne_nil first rest)
  have starts : configurationsStart.toList.getLast? = some '\n' := by simp [configurationsStart]
  revert part
  simp only [parts, List.forall_mem_cons]
  refine ⟨.templateIn _ _ ends, .verbatim starts, .foldlM fun _ _ => .templateIn _ _ ends,
    .verbatim (by decide), .templateIn _ _ ends, appendsLines_writeConfigurations _ ends _,
    .verbatim ends, appendsLines_writeConfigurations _ ends _,
    appendsLines_writeConfigurations _ ends _, appendsLines_writeSourceFiles _ _ _,
    appendsLines_writeReferences _ _ ends, .verbatim ends, List.forall_mem_nil _⟩

/-- A project file is what its parts put one behind the other. -/
theorem render_eq_ok_iff : render context options = .ok text ↔
    ∃ texts, List.Forall₂ Puts (parts context options) texts ∧ text = String.join texts := by
  -- rewriting with these keeps the templates closed, which unfolding would render
  have map_bind (first : Except GenerationError OutputBuffer)
      (next : OutputBuffer → Except GenerationError OutputBuffer) :
      (first >>= next).map finalize = first >>= fun buffer => (next buffer).map finalize := by
    cases first <;> rfl
  have map_pure (own : OutputBuffer) :
      (pure own : Except GenerationError OutputBuffer).map finalize = pure own.finalize := rfl
  have ok_bind (own : OutputBuffer) (next : OutputBuffer → Except GenerationError OutputBuffer) :
      (Except.ok own >>= next) = next own := rfl
  have inParts : render context options = .ok text ↔
      Puts (writeParts (parts context options)) text := by
    unfold Puts writeParts parts render writeConfigurationList
    simp only [List.foldlM_cons, List.foldlM_nil, map_bind, map_pure, ok_bind, pure_bind,
      bind_assoc]
  rw [inParts]
  exact puts_writeParts_iff fun part isPart => appendsLines_of_mem_parts isPart

/-! None of the constant parts has the tag in it that takes lines out. -/

theorem untagged_configurationsStart :
    occursIn Value.omitTag.toList configurationsStart.toList = false := by
  decide +kernel

theorem untagged_itemGroupEnd : occursIn Value.omitTag.toList itemGroupEnd.toList = false := by
  decide +kernel

theorem untagged_afterGeneralProperties :
    occursIn Value.omitTag.toList afterGeneralProperties.toList = false := by
  unfold afterGeneralProperties
  repeat rw [toList_unlines_cons]
  decide +kernel

theorem untagged_projectEnd : occursIn Value.omitTag.toList projectEnd.toList = false := by
  unfold projectEnd
  repeat rw [toList_unlines_cons]
  decide +kernel

/-- The texts of the parts are those of a frame and of one share of every configuration. -/
theorem forall₂_puts_parts_iff {texts : List String}
    (computed : List.Forall₂ (fun configuration own =>
      ExplicitOptions.ofAxes configuration (axes configuration) = .ok own)
      context.configurations options) :
    List.Forall₂ Puts (parts context options) texts ↔
      ∃ frame shares, IsFrameOf context frame ∧
        List.Forall₂ (IsShare context.settings.caseSensitivePlaceholders)
          context.configurations shares ∧
        texts = frame.pieces shares := by
  have general : generalProperties.toList.getLast? = some '\n' :=
    getLast?_unlines (List.cons_ne_nil _ _)
  have path : pathProperties.toList.getLast? = some '\n' :=
    getLast?_unlines (List.cons_ne_nil _ _)
  have definition : itemDefinition.toList.getLast? = some '\n' :=
    getLast?_unlines (List.cons_ne_nil _ _)
  simp only [parts, List.forall₂_cons_left_iff, List.forall₂_nil_left_iff,
    puts_verbatim_iff untagged_configurationsStart, puts_verbatim_iff untagged_itemGroupEnd,
    puts_verbatim_iff untagged_afterGeneralProperties, puts_verbatim_iff untagged_projectEnd,
    puts_writeEachConfiguration_iff, puts_writeConfigurations_iff general computed,
    puts_writeConfigurations_iff path computed, puts_writeConfigurations_iff definition computed,
    ↓existsAndEq, and_true, true_and, exists_and_left, and_assoc]
  constructor
  · rintro ⟨start, isStart, items, areItems, globals, areGlobals, generals, areGenerals, paths,
      arePaths, definitions, areDefinitions, sources, areSources, references, areReferences, rfl⟩
    obtain ⟨shares, areShares, rfl, rfl, rfl, rfl⟩ :=
      exists_shares areItems areGenerals arePaths areDefinitions
    exact ⟨⟨start, globals, sources, references⟩,
      ⟨isStart, areGlobals, areSources, areReferences⟩, shares, areShares, rfl⟩
  · rintro ⟨frame, isFrame, shares, areShares, rfl⟩
    have column {fills : Configuration → String → Prop} {read : Share → String}
        (each : ∀ configuration share, IsShare context.settings.caseSensitivePlaceholders
          configuration share → fills configuration (read share)) :
        List.Forall₂ fills context.configurations (shares.map read) :=
      List.forall₂_map_right_iff.2 (areShares.imp each)
    exact ⟨frame.start, isFrame.start, _, column fun _ _ own => own.item, frame.globals,
      isFrame.globals, _, column fun _ _ own => own.general, _, column fun _ _ own => own.paths, _,
      column fun _ _ own => own.definition, frame.sources, isFrame.sources, frame.references,
      isFrame.references, rfl⟩

/-- A C++ project file is made of a frame and of one share of every configuration, and
it is put out when these can be written. -/
theorem generate_eq_ok_iff : generator.generate context = .ok outputs ↔
    ∃ frame shares, Composes context frame shares outputs := by
  constructor
  · intro generated
    obtain ⟨options, computed, afterOptions⟩ := ok_of_bind_eq_ok generated
    obtain ⟨contents, rendered, returned⟩ := ok_of_bind_eq_ok afterOptions
    cases returned
    obtain ⟨texts, putParts, rfl⟩ := render_eq_ok_iff.1 rendered
    obtain ⟨frame, shares, isFrame, areShares, rfl⟩ :=
      (forall₂_puts_parts_iff (computeOptions_eq_ok_iff.1 computed)).1 putParts
    exact ⟨frame, shares, isFrame, areShares, rfl⟩
  · rintro ⟨frame, shares, isFrame, areShares, rfl⟩
    obtain ⟨options, computed⟩ := exists_options areShares
    have putParts := (forall₂_puts_parts_iff computed).2 ⟨frame, shares, isFrame, areShares, rfl⟩
    have rendered : render context options = .ok (frame.text shares) :=
      render_eq_ok_iff.2 ⟨_, putParts, rfl⟩
    unfold generator
    dsimp only
    rw [computeOptions_eq_ok_iff.2 computed, bind_ok, rendered]
    rfl

/-- A file is made of one frame and of one share of every configuration. -/
theorem Composes.unique {frame otherFrame : Frame} {shares otherShares : List Share}
    (composes : Composes context frame shares outputs)
    (composesOther : Composes context otherFrame otherShares outputs) :
    frame = otherFrame ∧ shares = otherShares :=
  ⟨composes.isFrame.unique composesOther.isFrame,
    List.right_unique_forall₂' (fun _ _ _ isShare isOther => isShare.unique isOther)
      composes.areShares composesOther.areShares⟩

/-! ## Items of configurations -/

theorem rendering?_conf {resolver : Resolver}
    (shows : resolver.Shows [("conf", configuration.toValue)]) :
    resolver.rendering? "conf.name" = some configuration.name ∧
      resolver.rendering? "conf.platform" = some configuration.platform := by
  constructor
  · exact Option.bind_eq_some_iff.2 ⟨.text configuration.name, shows.lookup? rfl, rfl⟩
  · exact Option.bind_eq_some_iff.2 ⟨.text configuration.platform, shows.lookup? rfl, rfl⟩

/-- The item of a configuration is written from the name and the platform, when these refer
to nothing else. -/
theorem Lists.of_same {other : Configuration} {item : String}
    (lists : Lists caseSensitive configuration item) (sameName : other.name = configuration.name)
    (samePlatform : other.platform = configuration.platform)
    (name : IsUnplaced configuration.name.toList)
    (platform : IsUnplaced configuration.platform.toList) : Lists caseSensitive other item := by
  have names : Apart ["conf"] := by decide
  have apart (configuration : Configuration) :
      Apart (([("conf", configuration.toValue)] ++ []).map Prod.fst) := names
  have showsNone := Resolver.shows_nil (.new caseSensitive)
  obtain ⟨own, _, isOwn, showsOwn⟩ := showsNone.declareAll (apart configuration)
  obtain ⟨others, _, isOther, showsOther⟩ := showsNone.declareAll (apart other)
  have fenced : isFenced (tokens configurationItem.toList) = true := by
    unfold configurationItem
    repeat rw [toList_unlines_cons]
    decide +kernel
  have refers : paths (tokens configurationItem.toList) =
      ["conf.name", "conf.platform", "conf.name", "conf.platform"] := by
    unfold configurationItem
    repeat rw [toList_unlines_cons]
    decide +kernel
  have same : others.resolve configurationItem = own.resolve configurationItem := by
    refine Resolver.resolve_congr_of_isFenced fenced fun path member => ?_
    obtain ⟨ownName, ownPlatform⟩ := rendering?_conf showsOwn
    obtain ⟨otherName, otherPlatform⟩ := rendering?_conf showsOther
    rw [sameName] at otherName
    rw [samePlatform] at otherPlatform
    rw [refers] at member
    simp only [List.mem_cons, List.not_mem_nil, or_false] at member
    rcases member with rfl | rfl | rfl | rfl
    · exact ⟨_, ownName, otherName, name⟩
    · exact ⟨_, ownPlatform, otherPlatform, platform⟩
    · exact ⟨_, ownName, otherName, name⟩
    · exact ⟨_, ownPlatform, otherPlatform, platform⟩
  unfold Lists at lists ⊢
  rw [puts_writeIn_iff isOwn] at lists
  rwa [puts_writeIn_iff isOther, same]

/-! ## Configurations side by side -/

section Independence

variable {project : Project} {file : Path} {settings : Settings} {outputs : List PendingOutput}

/-- The share of a configuration is the same when it is the only one of a file. -/
theorem Composes.alone {frame : Frame} {shares : List Share} {share : Share}
    {alone : GenerationContext} {others : List PendingOutput}
    (composes : Composes context frame shares outputs)
    (member : (configuration, share) ∈ context.configurations.zip shares)
    (sameCase : alone.settings.caseSensitivePlaceholders =
      context.settings.caseSensitivePlaceholders)
    (isAlone : alone.configurations = [configuration])
    (generated : generator.generate alone = .ok others) :
    ∃ frame, Composes alone frame [share] others := by
  obtain ⟨own, single, composesAlone⟩ := generate_eq_ok_iff.1 generated
  have areShares := composesAlone.areShares
  rw [isAlone, sameCase, List.forall₂_cons_left_iff] at areShares
  obtain ⟨sole, _, isSole, none, rfl⟩ := areShares
  rw [List.forall₂_nil_left_iff.1 none] at composesAlone
  rw [(List.forall₂_zip composes.areShares member).unique isSole]
  exact ⟨own, composesAlone⟩

/-- When a configuration is put in the place of one behind the first, its share takes the
place of that one's, and the item in it is the same when the name and the platform have no
placeholders. -/
theorem Composes.rebuilt {frame : Frame} {shares : List Share} {changed : GenerationContext}
    {others : List PendingOutput} {before after declared : List Configuration}
    {other : Configuration} (composes : Composes context frame shares outputs)
    (isNew : GenerationContext.new project file (before ++ configuration :: after) settings =
      .ok context)
    (isLater : configuration ≠ context.first) (rebuilds : configuration.Rebuilds other)
    (isChanged : GenerationContext.new { project with configurations := declared } file
      (before ++ other :: after) settings = .ok changed)
    (generated : generator.generate changed = .ok others) :
    ∃ former own latter replaced, former ≠ [] ∧ shares = former ++ own :: latter ∧
      IsShare settings.caseSensitivePlaceholders configuration own ∧
      Composes changed frame (former ++ replaced :: latter) others ∧
      (IsUnplaced configuration.name.toList → IsUnplaced configuration.platform.toList →
        replaced.item = own.item) := by
  obtain ⟨former, latter, spelled, isContext⟩ :=
    GenerationContext.exists_of_rebuilt isNew isLater rebuilds isChanged
  obtain ⟨_, isProject, _, areSettings, _⟩ := GenerationContext.new_eq_ok_iff.1 isNew
  have unique {configurations : List Configuration} {shares others : List Share}
      (areShares : List.Forall₂ (IsShare context.settings.caseSensitivePlaceholders) configurations
        shares)
      (areOthers : List.Forall₂ (IsShare context.settings.caseSensitivePlaceholders) configurations
        others) : others = shares :=
    List.right_unique_forall₂' (fun _ _ _ isShare isOther => isShare.unique isOther) areOthers
      areShares
  have areShares := composes.areShares
  rw [GenerationContext.configurations, spelled, ← List.cons_append] at areShares
  obtain ⟨front, own, back, areFront, isOwn, areBack, rfl⟩ := exists_of_forall₂_middle areShares
  obtain ⟨otherFrame, otherShares, composesChanged⟩ := generate_eq_ok_iff.1 generated
  have areOthers := composesChanged.areShares
  rw [isContext, GenerationContext.configurations, ← List.cons_append] at areOthers
  obtain ⟨_, replaced, _, alsoFront, isReplaced, alsoBack, rfl⟩ :=
    exists_of_forall₂_middle areOthers
  rw [unique areFront alsoFront, unique areBack alsoBack] at composesChanged
  have isFrame : IsFrameOf changed frame := by
    rw [isContext, ← isProject]
    exact ⟨composes.isFrame.start, composes.isFrame.globals, composes.isFrame.sources,
      composes.isFrame.references⟩
  rw [composesChanged.isFrame.unique isFrame] at composesChanged
  refine ⟨front, own, back, replaced, ?_, rfl, areSettings ▸ isOwn, composesChanged,
    fun name platform => ?_⟩
  · rintro rfl
    cases areFront
  · have sameItem : Lists _ other own.item :=
      isOwn.item.of_same (by rw [rebuilds]) (by rw [rebuilds]) name platform
    exact isReplaced.item.unique sameItem

/-- A C++ project file is made of a frame and of one share of every configuration.  The
share of a configuration is the one it has as the only configuration of the file.  A
configuration behind the first can so be rebuilt without a change outside of its own share,
and, when its name and platform have no placeholders, outside of its three blocks. -/
theorem shares_of_generate {configurations : List Configuration}
    (isNew : GenerationContext.new project file configurations settings = .ok context)
    (generated : generator.generate context = .ok outputs) :
    ∃ frame shares, Composes context frame shares outputs ∧
      (∀ configuration share, (configuration, share) ∈ context.configurations.zip shares →
        ∀ (sole : Project) (alone : GenerationContext) (others : List PendingOutput),
          GenerationContext.new sole file [configuration] settings = .ok alone →
          generator.generate alone = .ok others →
          ∃ frame, Composes alone frame [share] others) ∧
      ∀ (before after declared : List Configuration) (configuration other : Configuration)
        (changed : GenerationContext) (others : List PendingOutput),
        configurations = before ++ configuration :: after → configuration ≠ context.first →
        configuration.Rebuilds other →
        GenerationContext.new { project with configurations := declared } file
          (before ++ other :: after) settings = .ok changed →
        generator.generate changed = .ok others →
        ∃ former own latter replaced, former ≠ [] ∧ shares = former ++ own :: latter ∧
          IsShare settings.caseSensitivePlaceholders configuration own ∧
          Composes changed frame (former ++ replaced :: latter) others ∧
          (IsUnplaced configuration.name.toList → IsUnplaced configuration.platform.toList →
            replaced.item = own.item) := by
  obtain ⟨frame, shares, composes⟩ := generate_eq_ok_iff.1 generated
  obtain ⟨_, _, _, areSettings, _⟩ := GenerationContext.new_eq_ok_iff.1 isNew
  refine ⟨frame, shares, composes, ?_, ?_⟩
  · intro configuration share member sole alone others isSole isGenerated
    obtain ⟨isSorted, _, _, soleSettings, _⟩ := GenerationContext.new_eq_ok_iff.1 isSole
    obtain ⟨_, perm, _⟩ := Configuration.sortAndValidate_eq_ok_iff.1 isSorted
    refine composes.alone member ?_ (List.perm_singleton.1 perm) isGenerated
    rw [soleSettings, areSettings]
  · rintro before after declared configuration other changed others rfl isLater rebuilds isChanged
      isGenerated
    exact composes.rebuilt isNew isLater rebuilds isChanged isGenerated

end Independence

/-! ## Two configurations of an application -/

/-- A configuration of an application with a name and the file that it builds. -/
def applicationVariant (name target : String) : Configuration :=
  { Configuration.new "App" name "x64" with projectGuid := ⟨1⟩, targetFileName := target }

/-- The context of the file of an application with a debug configuration before another
one. -/
def variantContext (name target : String) : GenerationContext where
  project :=
    { name := "App"
      kind := .cpp
      sourceRoot := ⟨"/w"⟩
      sourceFiles := []
      configurations := [applicationVariant "Debug" "App", applicationVariant name target] }
  file := ⟨"/w/App.vcxproj"⟩
  first := applicationVariant "Debug" "App"
  others := [applicationVariant name target]
  dependencies := []
  settings := {}
  warnings := []

theorem new_variantContext (name target : String) (isBehind : compare "Debug" name = .lt) :
    GenerationContext.new (variantContext name target).project ⟨"/w/App.vcxproj"⟩
      ([applicationVariant "Debug" "App"] ++ applicationVariant name target :: []) {} =
      .ok (variantContext name target) := by
  have differ : "Debug" ≠ name := by
    rintro rfl
    cases Std.ReflCmp.compare_self.symm.trans isBehind
  refine GenerationContext.new_eq_ok_iff.2 ⟨Configuration.sortAndValidate_eq_ok_iff.2
    ⟨?_, .refl _, ?_⟩, rfl, rfl, rfl, rfl, .new, rfl, rfl⟩
  · refine ⟨List.cons_ne_nil _ _, ?_, ?_, ?_⟩
    · simp [Configuration.Agree, applicationVariant, Configuration.new]
    · simp [Configuration.Agree, applicationVariant]
    · simp [applicationVariant, Configuration.new, Configuration.identity, differ]
  · refine List.pairwise_pair.2 ?_
    exact Ordering.then_eq_lt.2 (.inl isBehind)

theorem sourceFiles_variantContext (name target : String) :
    (variantContext name target).sourceFiles = [] := by
  unfold GenerationContext.sourceFiles
  rw [show (variantContext name target).project.sourceFiles = [] from rfl, List.map_nil,
    List.mergeSort_nil]
  rfl

/-- Without brackets in the names an application of two configurations is put out. -/
theorem exists_generate_variantContext (name target : String)
    (fixed : ∀ text ∈ (variantContext name target).project.texts, isFixed text.toList = true)
    (computes : ((variantContext name target).computeOptions fun configuration =>
      .ok (axes configuration)).isOk = true) :
    ∃ outputs, generator.generate (variantContext name target) = .ok outputs := by
  have avoids : ∀ text ∈ (variantContext name target).project.texts, Avoids separators text :=
    fun text isText => .of_isFixed_toList (List.Subset.refl _) (fixed text isText)
  have avoidsContext : (withoutSources (variantContext name target)).Avoids separators :=
    ⟨fun _ member => Project.avoids_of_mem_configurations avoids member, nofun, avoids⟩
  have noSources : writeSourceFiles .empty (variantContext name target).resolver
      (variantContext name target) elementFor = .ok .empty := by
    unfold writeSourceFiles
    rw [sourceFiles_variantContext]
    rfl
  cases computed : (variantContext name target).computeOptions fun configuration =>
      .ok (axes configuration) with
  | error =>
      rw [computed] at computes
      cases computes
  | ok options =>
      obtain ⟨outputs, generated, _⟩ := exists_generate avoidsContext computed noSources
      exact ⟨outputs, generated⟩

/-- The release configuration is rebuilt without a change outside of its three blocks. -/
theorem shares_of_generate_release :
    ∃ outputs others frame former own latter replaced,
      generator.generate (variantContext "Release" "Game") = .ok outputs ∧
      generator.generate (variantContext "Release" "Tool") = .ok others ∧
      former ≠ [] ∧
      Composes (variantContext "Release" "Game") frame (former ++ own :: latter) outputs ∧
      Composes (variantContext "Release" "Tool") frame (former ++ replaced :: latter) others ∧
      replaced.item = own.item := by
  obtain ⟨outputs, generated⟩ := exists_generate_variantContext "Release" "Game"
    (by decide +kernel) (by decide +kernel)
  obtain ⟨others, alsoGenerated⟩ := exists_generate_variantContext "Release" "Tool"
    (by decide +kernel) (by decide +kernel)
  have isNew := new_variantContext "Release" "Game" (by decide)
  have isChanged := new_variantContext "Release" "Tool" (by decide)
  obtain ⟨frame, shares, composes, _, rebuilt⟩ := shares_of_generate isNew generated
  have rebuilds : (applicationVariant "Release" "Game").Rebuilds
      (applicationVariant "Release" "Tool") := rfl
  obtain ⟨former, own, latter, replaced, nonempty, rfl, _, composesOther, sameItem⟩ :=
    rebuilt _ _ _ _ _ _ _ rfl (by decide) rebuilds isChanged alsoGenerated
  exact ⟨outputs, others, frame, former, own, latter, replaced, generated, alsoGenerated, nonempty,
    composes, composesOther, sameItem (by decide) (by decide)⟩

/-- A name that refers to the file that the configuration builds. -/
def leakingName : String := "[conf.target_file_name]"

/-- The item of a configuration of this name. -/
def leakingItem (target : String) : String :=
  unlines
    ["    <ProjectConfiguration Include=\"" ++ target ++ "|x64\">",
      "      <Configuration>" ++ target ++ "</Configuration>",
      "      <Platform>x64</Platform>",
      "    </ProjectConfiguration>"]

theorem underscore_notMem_leakingItem {target : String} (ordinary : '_' ∉ target.toList) :
    '_' ∉ (leakingItem target).toList := by
  simp [leakingItem, unlines, ordinary]

/-- The options of a configuration of this name. -/
def leakingOptions (target : String) : ExplicitOptions :=
  ((ExplicitOptions.ofAxes (applicationVariant leakingName target)
    (axes (applicationVariant leakingName target))).toOption).getD .empty

theorem exists_fills_leaking {target template : String}
    (computed : (ExplicitOptions.ofAxes (applicationVariant leakingName target)
      (axes (applicationVariant leakingName target))).isOk = true)
    (writes : (empty.writeIn (.new true) (configurationBindings
      (applicationVariant leakingName target) (leakingOptions target)) template).isOk = true) :
    ∃ text, Fills true template (applicationVariant leakingName target) text := by
  obtain ⟨own, isOwn⟩ := exists_eq_ok_of_isOk writes
  obtain ⟨options, areOptions⟩ := exists_eq_ok_of_isOk computed
  refine ⟨own.finalize, options, areOptions, puts_iff.2 ⟨own, ?_, rfl⟩⟩
  rw [leakingOptions, areOptions] at isOwn
  exact isOwn

/-- The item of a configuration of this name has the target in it. -/
theorem lists_leaking : ∀ target ∈ ["Game", "Tool"],
    Lists true (applicationVariant leakingName target) (leakingItem target) := by
  have written : ∀ target ∈ ["Game", "Tool"],
      empty.writeIn (.new true) [("conf", (applicationVariant leakingName target).toValue)]
        configurationItem = .ok ⟨leakingItem target⟩ := by
    simp only [writeIn, write, Resolver.resolve, configurationItem]
    repeat rw [toList_unlines_cons]
    decide +kernel
  have ordinary : ∀ target ∈ ["Game", "Tool"], '_' ∉ target.toList := by decide
  intro target member
  have untagged : occursIn Value.omitTag.toList (leakingItem target).toList = false := by
    rw [← Bool.not_eq_true, occursIn_iff]
    exact untagged_of_notMem (underscore_notMem_leakingItem (ordinary target member))
  refine puts_iff.2 ⟨_, written target member, ?_⟩
  simp [finalize, removeTaggedLines, untagged]

theorem exists_isShare_leaking : ∀ target ∈ ["Game", "Tool"], ∃ share,
    IsShare true (applicationVariant leakingName target) share ∧
      share.item = leakingItem target := by
  have computed : ∀ target ∈ ["Game", "Tool"],
      (ExplicitOptions.ofAxes (applicationVariant leakingName target)
        (axes (applicationVariant leakingName target))).isOk = true := by decide +kernel
  have general : ∀ target ∈ ["Game", "Tool"], (empty.writeIn (.new true)
      (configurationBindings (applicationVariant leakingName target) (leakingOptions target))
      generalProperties).isOk = true := by
    simp only [writeIn, write, Resolver.resolve, generalProperties]
    repeat rw [toList_unlines_cons]
    decide +kernel
  have path : ∀ target ∈ ["Game", "Tool"], (empty.writeIn (.new true)
      (configurationBindings (applicationVariant leakingName target) (leakingOptions target))
      pathProperties).isOk = true := by
    simp only [writeIn, write, Resolver.resolve, pathProperties]
    repeat rw [toList_unlines_cons]
    decide +kernel
  have definition : ∀ target ∈ ["Game", "Tool"], (empty.writeIn (.new true)
      (configurationBindings (applicationVariant leakingName target) (leakingOptions target))
      itemDefinition).isOk = true := by
    simp only [writeIn, write, Resolver.resolve, itemDefinition]
    repeat rw [toList_unlines_cons]
    decide +kernel
  intro target member
  have isComputed := computed target member
  obtain ⟨ownGeneral, isGeneral⟩ := exists_fills_leaking isComputed (general target member)
  obtain ⟨ownPaths, arePaths⟩ := exists_fills_leaking isComputed (path target member)
  obtain ⟨ownDefinition, isDefinition⟩ :=
    exists_fills_leaking isComputed (definition target member)
  exact ⟨⟨leakingItem target, ownGeneral, ownPaths, ownDefinition⟩,
    ⟨lists_leaking target member, isGeneral, arePaths, isDefinition⟩, rfl⟩

/-- A configuration whose name refers to the file that it builds is rebuilt to build another
file, and its item in the list of configurations changes. -/
theorem item_changes_of_leakingName :
    GenerationContext.new (variantContext leakingName "Game").project ⟨"/w/App.vcxproj"⟩
        ([applicationVariant "Debug" "App"] ++ applicationVariant leakingName "Game" :: []) {} =
      .ok (variantContext leakingName "Game") ∧
    GenerationContext.new (variantContext leakingName "Tool").project ⟨"/w/App.vcxproj"⟩
        ([applicationVariant "Debug" "App"] ++ applicationVariant leakingName "Tool" :: []) {} =
      .ok (variantContext leakingName "Tool") ∧
    (applicationVariant leakingName "Game").Rebuilds (applicationVariant leakingName "Tool") ∧
    ∃ outputs others frame debug own replaced,
      generator.generate (variantContext leakingName "Game") = .ok outputs ∧
      generator.generate (variantContext leakingName "Tool") = .ok others ∧
      Composes (variantContext leakingName "Game") frame [debug, own] outputs ∧
      Composes (variantContext leakingName "Tool") frame [debug, replaced] others ∧
      own.item ≠ replaced.item := by
  refine ⟨new_variantContext _ _ (by decide), new_variantContext _ _ (by decide), rfl, ?_⟩
  -- the frame and the debug configuration are those of an application with ordinary names
  obtain ⟨_, ordinary⟩ := exists_generate_variantContext "Release" "Game"
    (by decide +kernel) (by decide +kernel)
  obtain ⟨frame, _, composes⟩ := generate_eq_ok_iff.1 ordinary
  obtain ⟨debug, _, isDebug, _, _⟩ := List.forall₂_cons_left_iff.1 composes.areShares
  have isFrame (target : String) : IsFrameOf (variantContext leakingName target) frame :=
    ⟨composes.isFrame.start, composes.isFrame.globals, composes.isFrame.sources,
      composes.isFrame.references⟩
  obtain ⟨own, isOwn, ownItem⟩ := exists_isShare_leaking "Game" (by simp)
  obtain ⟨replaced, isReplaced, replacedItem⟩ := exists_isShare_leaking "Tool" (by simp)
  have composesGame : Composes (variantContext leakingName "Game") frame [debug, own] _ :=
    ⟨isFrame "Game", .cons isDebug (.cons isOwn .nil), rfl⟩
  have composesTool : Composes (variantContext leakingName "Tool") frame [debug, replaced] _ :=
    ⟨isFrame "Tool", .cons isDebug (.cons isReplaced .nil), rfl⟩
  refine ⟨_, _, frame, debug, own, replaced, generate_eq_ok_iff.2 ⟨_, _, composesGame⟩,
    generate_eq_ok_iff.2 ⟨_, _, composesTool⟩, composesGame, composesTool, ?_⟩
  rw [ownItem, replacedItem]
  decide +kernel

end Format.VisualCpp

end ProjectFiles
