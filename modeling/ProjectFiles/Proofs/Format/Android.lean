import ProjectFiles.Format.Android
import ProjectFiles.Proofs.Format.MSBuild

/-!
# Android packaging project files are always rendered

The version of the tools is bound around the whole file, and the directory of the
package around the item definitions.  The templates keep to these and to their own
bindings; what can fail besides the options is the choice of the library that the
activity loads.
-/

namespace ProjectFiles.Format.Android

open MSBuild Template Text

/-! ## Scopes -/

/-- What is bound around all templates. -/
def toolsScope : Scope :=
  [("toolsVersion", .scalar)]

/-- What is bound around the item definitions. -/
def packageScope : Scope :=
  ("androidPackageDirectory", .scalar) :: toolsScope

/-- What the template of the whole project may refer to. -/
def globalScope : Scope :=
  [("projectName", .scalar), ("guid", .scalar), ("androidTargetsPath", .scalar)]

/-- What the template of the package's files may refer to. -/
def fileScope : Scope :=
  [("antBuildXml", .scalar), ("androidManifest", .scalar), ("antProjectPropertiesFile", .scalar)]

/-- The options of a configuration. -/
def optionKeys : List String :=
  ["UseDebugLibraries", "ShowAndroidPathsVerbosity", "AndroidAPILevel", "OutputFile",
    "AndroidAppLibName", "OutputDirectory", "IntermediateDirectory", "AndroidTargetsPath"]

theorem projectStart_closes : toolsScope.closes projectStart.toList = true := by
  unfold projectStart
  repeat with_reducible refine Scope.closes_unlines_cons (by decide) ?_
  exact Scope.closes_unlines_nil

theorem globals_closes : (globalScope ++ toolsScope).closes globals.toList = true := by
  unfold globals
  repeat with_reducible refine Scope.closes_unlines_cons (by decide) ?_
  exact Scope.closes_unlines_nil

theorem generalProperties_closes :
    (configurationScope optionKeys).closes generalProperties.toList = true := by
  unfold generalProperties
  repeat with_reducible refine Scope.closes_unlines_cons (by decide) ?_
  exact Scope.closes_unlines_nil

theorem itemDefinition_closes :
    (configurationScope optionKeys ++ packageScope).closes itemDefinition.toList = true := by
  unfold itemDefinition
  repeat with_reducible refine Scope.closes_unlines_cons (by decide) ?_
  exact Scope.closes_unlines_nil

theorem androidFiles_closes : fileScope.closes androidFiles.toList = true := by
  unfold androidFiles
  repeat with_reducible refine Scope.closes_unlines_cons (by decide) ?_
  exact Scope.closes_unlines_nil

/-! ## Options -/

variable {avoided : List Char}

theorem avoids_closed (within : avoided ⊆ separators) {directory : String}
    (avoids : Avoids avoided directory) : Avoids avoided (closed directory) := by
  unfold closed
  split
  · exact avoids
  · exact avoids.append (Avoids.of_isFixed within (by decide))

/-- The library is missing or of the wrong kind only by the model's own doing. -/
theorem yields_appLibName (within : avoided ⊆ separators) {configuration : Configuration}
    (avoids : configuration.Avoids avoided) (package : AndroidPackage) :
    Yields (fun value => value.HasText avoided) (appLibName configuration package) := by
  unfold appLibName
  split
  · exact .ok (Value.hasText_omit within)
  · split
    · exact .error ⟨rfl, rfl⟩
    · rename_i reference found
      split
      · exact .ok (Value.hasText_text (avoids.dependency (List.mem_of_find?_eq_some found)
          (by simp [ProjectReference.texts])))
      · exact .error ⟨rfl, rfl⟩

/-- The axes of a configuration for which the library is known. -/
theorem yields_options (within : avoided ⊆ separators) {configuration : Configuration}
    (avoids : configuration.Avoids avoided) (package : AndroidPackage) :
    Yields (fun axes => Yields (fun options => options.Sets avoided optionKeys)
      (ExplicitOptions.ofAxes configuration axes)) (axes package configuration) := by
  refine (yields_appLibName within avoids package).bind fun appLib hasAppLib => ?_
  refine .ok (ExplicitOptions.yields_ofAxes rfl (by decide) rfl fun axis member => ?_)
  have targetsPath : (Value.ofText?
      ((configuration.chosen? "AndroidTargetsPath").map closed)).HasText avoided := by
    refine Value.hasText_ofText? within fun text isText => ?_
    obtain ⟨directory, isChosen, rfl⟩ := Option.map_eq_some_iff.1 isText
    exact avoids_closed within (avoids.chosen isChosen)
  simp only [List.mem_cons, List.not_mem_nil, or_false] at member
  rcases member with rfl | rfl | rfl | rfl | rfl | rfl | rfl | rfl
  · exact OptionAxis.hasTexts_of_isFixedValue within (by decide)
  · exact OptionAxis.hasTexts_of_isFixedValue within (by decide)
  · exact OptionAxis.hasTexts_assign (avoids.settingOrOmit within _)
  · exact OptionAxis.hasTexts_assign (Value.hasText_text avoids.targetFileName)
  · exact OptionAxis.hasTexts_assign hasAppLib
  · exact OptionAxis.hasTexts_assign
      (Value.hasText_text (avoids_relativeText within _ avoids.targetPath))
  · exact OptionAxis.hasTexts_assign
      (Value.hasText_text (avoids_relativeText within _ avoids.intermediatePath))
  · exact OptionAxis.hasTexts_assign targetsPath

/-! ## Rendering -/

theorem avoids_elementFor (within : avoided ⊆ separators) (extension : String) :
    Avoids avoided (elementFor extension) := by
  unfold elementFor
  split <;> exact Avoids.of_isFixed within (by decide)

theorem fileBindings_fits (within : avoided ⊆ separators) {context : GenerationContext}
    {package : AndroidPackage} (avoids : ∀ text ∈ package.texts, Avoids avoided text) :
    fileScope.Fits avoided (fileBindings context package) := by
  have seen : ∀ {path : Path}, path.text ∈ package.texts →
      Avoids avoided (context.relative path) := fun isText =>
    GenerationContext.Avoids.relative within context (avoids _ isText)
  exact .text (seen (by simp [AndroidPackage.texts])) (.text (seen (by simp [AndroidPackage.texts]))
    (.text (seen (by simp [AndroidPackage.texts])) .nil))

/-- Only configurations that contradict each other keep the file from being rendered
once the options are there. -/
theorem yields_render (within : avoided ⊆ separators) (bracket : '[' ∈ avoided)
    {context : GenerationContext} (avoids : context.Avoids avoided)
    {options : List ExplicitOptions} (sets : ∀ own ∈ options, own.Sets avoided optionKeys)
    {package : AndroidPackage} (avoidsPackage : ∀ text ∈ package.texts, Avoids avoided text) :
    Yields (fun _ => True) (render context options package) := by
  have toolsText : (Value.text toolsVersion).HasText avoided :=
    Value.hasText_text (Avoids.of_isFixed within (by decide))
  have provides := (Resolver.Provides.of_no_bindings within bracket context.resolver).declare
    "toolsVersion" toolsText (by decide)
  have apart : Apart (partNames ++ toolsScope.map (·.1)) := by decide
  have configured : ∀ entry ∈ context.configurations.zip options,
      entry.1.Avoids avoided ∧ entry.2.Sets avoided optionKeys := fun entry member =>
    ⟨avoids.configurations _ (List.of_mem_zip member).1, sets _ (List.of_mem_zip member).2⟩
  have start := provides.write_eq projectStart_closes
  have list := writeConfigurationList_eq provides apart avoids
  have isTargetsPath : "AndroidTargetsPath" ∈ optionKeys := by decide
  have targetsPaths := ExplicitOptions.yields_uniform sets isTargetsPath context.file
    (Value.hasText_omit within)
  have general := writeConfigurations_eq provides apart
    (Scope.closes_append_scope generalProperties_closes) configured
  have directory := GenerationContext.Avoids.relative within context
    (avoidsPackage package.antBuildRoot.text (by simp [AndroidPackage.texts]))
  have providesPackage := provides.declare "androidPackageDirectory"
    (Value.hasText_text directory) (by decide)
  have items := writeConfigurations_eq providesPackage (by decide) itemDefinition_closes
    configured
  have sources := writeSourceFiles_eq provides apart (avoids_elementFor within) avoids
  have fileFits : fileScope.Fits avoided (fileBindings context package) :=
    fileBindings_fits within avoidsPackage
  have files := provides.writeIn_eq fileFits (by decide)
    (Scope.closes_append_scope androidFiles_closes)
  have references := writeReferences_eq provides apart projectReference_closes avoids
  unfold render
  dsimp only
  simp only [start, list, bind_ok]
  refine targetsPaths.bind fun targetsPath hasTargetsPath => ?_
  have globalFits : globalScope.Fits avoided (globalBindings context targetsPath) :=
    .text avoids.first.projectName (.text (Guid.avoids_braced within _)
      (.scalar hasTargetsPath .nil))
  have globals := provides.writeIn_eq globalFits (by decide) globals_closes
  simp only [globals, general, items, sources, files, references, bind_ok]
  exact .ok trivial

/-- Only what the model leaves undecided or contradicts keeps an Android project file
from being rendered. -/
theorem yields_generate (within : avoided ⊆ separators) (bracket : '[' ∈ avoided)
    {context : GenerationContext} (avoids : context.Avoids avoided) :
    Yields (fun _ => True) (generator.generate context) := by
  have generates : ∀ package : AndroidPackage, (∀ text ∈ package.texts, Avoids avoided text) →
      Yields (fun _ => True) (do
        let options ← context.computeOptions (axes package)
        let contents ← render context options package
        return [PendingOutput.file context.file contents]) := by
    intro package avoidsPackage
    have computes := GenerationContext.yields_computeOptions fun configuration member =>
      yields_options within (avoids.configurations configuration member) package
    refine computes.bind fun options sets => ?_
    exact (yields_render within bracket avoids sets avoidsPackage).bind fun _ _ => .ok trivial
  refine generates _ fun text member => ?_
  split at member
  · rename_i package isKind
    exact avoids.kind (by rw [isKind]; exact member)
  · have empty : text = "" := by
      simpa [AndroidPackage.texts, defaultPackage] using member
    rw [empty]
    exact Avoids.of_isFixed within (by decide)

end ProjectFiles.Format.Android
