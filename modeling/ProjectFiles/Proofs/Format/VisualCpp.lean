import ProjectFiles.Format.VisualCpp
import ProjectFiles.Proofs.Format.MSBuild

/-!
# Visual C++ project files are always rendered

The templates of C++ project files keep to what is bound around them, and the axes of
a configuration set different keys.
-/

namespace ProjectFiles.Format.VisualCpp

open MSBuild Template Text

/-! ## Scopes -/

/-- What the template of the start of a project file may refer to. -/
def startScope : Scope :=
  [("toolsVersion", .scalar)]

/-- What the template of the whole project may refer to. -/
def globalScope : Scope :=
  [("guid", .scalar), ("projectName", .scalar), ("windowsTargetPlatformVersion", .scalar)]

/-- The options of a configuration. -/
def optionKeys : List String :=
  ["ConfigurationType", "UseDebugLibraries", "CharacterSet", "WarningLevel", "Optimization",
    "PlatformToolset", "PreprocessorDefinitions", "TargetName", "OutputDirectory",
    "IntermediateDirectory"]

theorem projectStart_closes : startScope.closes projectStart.toList = true := by
  unfold projectStart
  repeat with_reducible refine Scope.closes_unlines_cons (by decide) ?_
  exact Scope.closes_unlines_nil

theorem globals_closes : globalScope.closes globals.toList = true := by
  unfold globals
  repeat with_reducible refine Scope.closes_unlines_cons (by decide) ?_
  exact Scope.closes_unlines_nil

theorem generalProperties_closes :
    (configurationScope optionKeys).closes generalProperties.toList = true := by
  unfold generalProperties
  repeat with_reducible refine Scope.closes_unlines_cons (by decide) ?_
  exact Scope.closes_unlines_nil

theorem pathProperties_closes :
    (configurationScope optionKeys).closes pathProperties.toList = true := by
  unfold pathProperties
  repeat with_reducible refine Scope.closes_unlines_cons (by decide) ?_
  exact Scope.closes_unlines_nil

theorem itemDefinition_closes :
    (configurationScope optionKeys).closes itemDefinition.toList = true := by
  unfold itemDefinition
  repeat with_reducible refine Scope.closes_unlines_cons (by decide) ?_
  exact Scope.closes_unlines_nil

/-! ## Options -/

variable {avoided : List Char}

theorem hasTexts_of_mem_axes (within : avoided ⊆ separators) {configuration : Configuration}
    (avoids : configuration.Avoids avoided) :
    ∀ axis ∈ axes configuration, axis.HasTexts avoided := by
  have definitions : (preprocessorDefinitions configuration).HasText avoided := by
    unfold preprocessorDefinitions
    split
    · exact Value.hasText_omit within
    · refine Value.hasText_text (.append (.intercalate ?_ ?_) ?_)
      · exact Avoids.of_isFixed within (by decide)
      · exact fun define member => avoids.define member
      · exact Avoids.of_isFixed within (by decide)
  have fixed : ∀ axis ∈ [configurationType, debugLibraries, characterSet, warningLevel,
      optimization], axis.HasTexts avoided :=
    fun axis member => OptionAxis.hasTexts_of_isFixedValue within (by
      revert axis
      decide)
  intro axis member
  rw [show axes configuration = [configurationType, debugLibraries, characterSet, warningLevel,
    optimization] ++ _ from rfl, List.mem_append] at member
  rcases member with isFixed | isAssigned
  · exact fixed axis isFixed
  · simp only [List.mem_cons, List.not_mem_nil, or_false] at isAssigned
    rcases isAssigned with rfl | rfl | rfl | rfl | rfl
    · exact OptionAxis.hasTexts_assign (avoids.settingOrOmit within _)
    · exact OptionAxis.hasTexts_assign definitions
    · exact OptionAxis.hasTexts_assign (Value.hasText_text avoids.targetFileName)
    · exact OptionAxis.hasTexts_assign
        (Value.hasText_text (avoids_relativeText within _ avoids.targetPath))
    · exact OptionAxis.hasTexts_assign
        (Value.hasText_text (avoids_relativeText within _ avoids.intermediatePath))

theorem yields_ofAxes (within : avoided ⊆ separators) {configuration : Configuration}
    (avoids : configuration.Avoids avoided) :
    Yields (fun options => options.Sets avoided optionKeys)
      (ExplicitOptions.ofAxes configuration (axes configuration)) :=
  ExplicitOptions.yields_ofAxes rfl (by decide) rfl (hasTexts_of_mem_axes within avoids)

/-! ## Rendering -/

theorem avoids_elementFor (within : avoided ⊆ separators) (extension : String) :
    Avoids avoided (elementFor extension) := by
  unfold elementFor
  split
  · exact Avoids.of_isFixed within (by decide)
  · split
    · exact Avoids.of_isFixed within (by decide)
    · split <;> exact Avoids.of_isFixed within (by decide)

theorem exists_render_eq (within : avoided ⊆ separators) (bracket : '[' ∈ avoided)
    {context : GenerationContext} (avoids : context.Avoids avoided)
    {options : List ExplicitOptions} (sets : ∀ own ∈ options, own.Sets avoided optionKeys) :
    ∃ contents, render context options = .ok contents := by
  have provides := Resolver.Provides.of_no_bindings within bracket context.resolver
  have apart : Apart (partNames ++ ([] : Scope).map (·.1)) := by decide
  have startFits : startScope.Fits avoided [("toolsVersion", .text toolsVersion)] :=
    .text (Avoids.of_isFixed within (by decide)) .nil
  have globalFits : globalScope.Fits avoided (globalBindings context) :=
    .text (Guid.avoids_braced within _) (.text avoids.first.projectName
      (.scalar (avoids.first.settingOrOmit within _) .nil))
  have configured : ∀ entry ∈ context.configurations.zip options,
      entry.1.Avoids avoided ∧ entry.2.Sets avoided optionKeys := fun entry member =>
    ⟨avoids.configurations _ (List.of_mem_zip member).1, sets _ (List.of_mem_zip member).2⟩
  have start := provides.writeIn_eq startFits (by decide)
    (Scope.closes_append_scope projectStart_closes)
  have list := writeConfigurationList_eq provides apart avoids
  have globals := provides.writeIn_eq globalFits (by decide)
    (Scope.closes_append_scope globals_closes)
  have general := writeConfigurations_eq provides apart
    (Scope.closes_append_scope generalProperties_closes) configured
  have paths := writeConfigurations_eq provides apart
    (Scope.closes_append_scope pathProperties_closes) configured
  have items := writeConfigurations_eq provides apart
    (Scope.closes_append_scope itemDefinition_closes) configured
  have sources := writeSourceFiles_eq provides apart (avoids_elementFor within) avoids
  have references := writeReferences_eq provides apart projectReference_closes avoids
  unfold render
  simp only [start, list, globals, general, paths, items, sources, references, bind_ok]
  exact ⟨_, rfl⟩

theorem yields_computeOptions (within : avoided ⊆ separators) {context : GenerationContext}
    (avoids : context.Avoids avoided) :
    Yields (fun options => ∀ own ∈ options, own.Sets avoided optionKeys)
      (context.computeOptions fun configuration => .ok (axes configuration)) :=
  GenerationContext.yields_computeOptions fun configuration member =>
    .ok (yields_ofAxes within (avoids.configurations configuration member))

/-- Only what the model leaves undecided keeps a C++ project file from being rendered. -/
theorem yields_generate (within : avoided ⊆ separators) (bracket : '[' ∈ avoided)
    {context : GenerationContext} (avoids : context.Avoids avoided) :
    Yields (fun _ => True) (generator.generate context) := by
  refine (yields_computeOptions within avoids).bind fun options sets => ?_
  exact (Yields.of_exists_eq_ok (exists_render_eq within bracket avoids sets)).bind
    fun _ _ => .ok trivial

end ProjectFiles.Format.VisualCpp
