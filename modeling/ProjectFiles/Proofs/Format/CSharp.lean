import ProjectFiles.Format.CSharp
import ProjectFiles.Proofs.Format.MSBuild
import ProjectFiles.Proofs.Format.PackageList

/-!
# C# project files are always rendered

The templates of C# project files keep to what is bound around them, and the axes of
a configuration set different keys.  For a model without brackets, all that can
fail is what the model itself leaves undecided or contradicts.
-/

namespace ProjectFiles.Format.CSharp

open MSBuild Template Text

/-! ## Scopes -/

/-- What the template of the start of a project file may refer to. -/
def startScope : Scope :=
  [("toolsVersion", .scalar)]

/-- What the template of the whole project may refer to. -/
def globalScope : Scope :=
  [("first", .record ["name", "platform"]), ("guid", .scalar), ("outputType", .scalar),
    ("rootNamespace", .scalar), ("assemblyName", .scalar), ("targetFramework", .scalar)]

/-- The options of a configuration. -/
def optionKeys : List String :=
  ["OutputType", "DebugSymbols", "DebugType", "Optimize", "WarningLevel",
    "TreatWarningsAsErrors", "TargetFrameworkVersion", "DefineConstants", "OutputPath",
    "IntermediateOutputPath"]

set_option maxRecDepth 2048 in
theorem projectStart_closes : startScope.closes projectStart.toList = true := by
  unfold projectStart
  repeat with_reducible refine Scope.closes_unlines_cons (by decide) ?_
  exact Scope.closes_unlines_nil

theorem globals_closes : globalScope.closes globals.toList = true := by
  unfold globals
  repeat with_reducible refine Scope.closes_unlines_cons (by decide) ?_
  exact Scope.closes_unlines_nil

theorem configurationProperties_closes :
    (configurationScope optionKeys).closes configurationProperties.toList = true := by
  unfold configurationProperties
  repeat with_reducible refine Scope.closes_unlines_cons (by decide) ?_
  exact Scope.closes_unlines_nil

/-! ## Options -/

variable {avoided : List Char}

theorem hasTexts_of_mem_axes (within : avoided ⊆ separators) {configuration : Configuration}
    (avoids : configuration.Avoids avoided) :
    ∀ axis ∈ axes configuration, axis.HasTexts avoided := by
  have frameworkText : Avoids avoided (framework configuration) := by
    unfold framework
    cases chosen : configuration.chosen? "TargetFramework" with
    | none => exact Avoids.of_isFixed within (by decide)
    | some value => exact avoids.chosen chosen
  have constants : (defineConstants configuration).HasText avoided := by
    unfold defineConstants
    split
    · exact Value.hasText_omit within
    · refine Value.hasText_text (.intercalate (Avoids.of_isFixed within (by decide)) ?_)
      exact fun define member => avoids.define member
  have fixed : ∀ axis ∈ [outputType, debugInformation, optimize, warningLevel,
      treatWarningsAsErrors], axis.HasTexts avoided :=
    fun axis member => OptionAxis.hasTexts_of_isFixedValue within (by
      revert axis
      decide)
  intro axis member
  rw [show axes configuration = [outputType, debugInformation, optimize, warningLevel,
    treatWarningsAsErrors] ++ _ from rfl, List.mem_append] at member
  rcases member with isFixed | isAssigned
  · exact fixed axis isFixed
  · simp only [List.mem_cons, List.not_mem_nil, or_false] at isAssigned
    rcases isAssigned with rfl | rfl | rfl | rfl
    · exact OptionAxis.hasTexts_assign (Value.hasText_text frameworkText)
    · exact OptionAxis.hasTexts_assign constants
    · exact OptionAxis.hasTexts_assign
        (Value.hasText_text (avoids_relativeText within _ avoids.targetPath))
    · exact OptionAxis.hasTexts_assign
        (Value.hasText_text (avoids_relativeText within _ avoids.intermediatePath))

theorem yields_ofAxes (within : avoided ⊆ separators) {configuration : Configuration}
    (avoids : configuration.Avoids avoided) :
    Yields (fun options => options.Sets avoided optionKeys)
      (ExplicitOptions.ofAxes configuration (axes configuration)) :=
  ExplicitOptions.yields_ofAxes rfl (by decide) rfl (hasTexts_of_mem_axes within avoids)

/-! ## Rendering -/

/-- What is written before the item of the package list. -/
def beforePackages (context : GenerationContext) (options : List ExplicitOptions)
    (header : ProjectHeader) : String :=
  filled [("toolsVersion", .text toolsVersion)] projectStart ++
    filled (globalBindings context header) globals ++
    configurationsText [] configurationProperties (context.configurations.zip options) ++
    sourceFilesText [] context elementFor

/-- What is written behind the item of the package list. -/
def behindPackages (context : GenerationContext) : String :=
  referencesText [] projectReference context ++ projectEnd

theorem avoids_elementFor (within : avoided ⊆ separators) (extension : String) :
    Avoids avoided (elementFor extension) := by
  unfold elementFor
  split
  · exact Avoids.of_isFixed within (by decide)
  · split
    · exact Avoids.of_isFixed within (by decide)
    · split <;> exact Avoids.of_isFixed within (by decide)

theorem globalBindings_fits (within : avoided ⊆ separators) {context : GenerationContext}
    (avoids : context.Avoids avoided) {header : ProjectHeader}
    (outputType : header.outputType.HasText avoided)
    (framework : header.framework.HasText avoided)
    (rootNamespace : Avoids avoided header.rootNamespace) :
    globalScope.Fits avoided (globalBindings context header) :=
  .cons avoids.first.fits (.text (Guid.avoids_braced within _) (.scalar outputType
    (.text rootNamespace (.text avoids.first.targetFileName (.scalar framework .nil)))))

/-- A C# project file is its templates filled, without the tagged lines. -/
theorem render_eq (within : avoided ⊆ separators) (bracket : '[' ∈ avoided)
    {context : GenerationContext} (avoids : context.Avoids avoided)
    {options : List ExplicitOptions} (sets : ∀ own ∈ options, own.Sets avoided optionKeys)
    {header : ProjectHeader} (fits : globalScope.Fits avoided (globalBindings context header))
    (hasPackages : Bool) :
    render context options header hasPackages =
      .ok (OutputBuffer.removeTaggedLines
        (beforePackages context options header ++ (if hasPackages then packagesItem else "") ++
          behindPackages context)) := by
  have provides := Resolver.Provides.of_no_bindings within bracket context.resolver
  have apart : Apart (partNames ++ ([] : Scope).map (·.1)) := by decide
  have startFits : startScope.Fits avoided [("toolsVersion", .text toolsVersion)] :=
    .text (Avoids.of_isFixed within (by decide)) .nil
  have start := provides.writeIn_eq startFits (by decide)
    (Scope.closes_append_scope projectStart_closes)
  have globals := provides.writeIn_eq fits (by decide)
    (Scope.closes_append_scope globals_closes)
  have configurations := writeConfigurations_eq provides apart
    (Scope.closes_append_scope configurationProperties_closes)
    fun entry member =>
      ⟨avoids.configurations _ (List.of_mem_zip member).1, sets _ (List.of_mem_zip member).2⟩
  have sources := writeSourceFiles_eq provides apart (avoids_elementFor within) avoids
  have packages : ∀ buffer : OutputBuffer,
      (if hasPackages then buffer.writeVerbatim packagesItem else buffer) =
        buffer.writeVerbatim (if hasPackages then packagesItem else "") := by
    intro buffer
    split
    · rfl
    · rw [OutputBuffer.writeVerbatim_empty]
  have references := writeReferences_eq provides apart projectReference_closes avoids
  unfold render
  simp only [start, globals, configurations, sources, packages, references, bind_ok,
    OutputBuffer.writeVerbatim_writeVerbatim, List.append_nil]
  rw [OutputBuffer.finalize_empty_writeVerbatim]
  simp only [beforePackages, behindPackages, String.append_assoc]
  rfl

/-! ## Generating -/

theorem rootNamespace_avoids {context : GenerationContext} (avoids : context.Avoids avoided) :
    Avoids avoided (rootNamespace context) := by
  unfold rootNamespace
  split
  · rename_i isKind
    exact avoids.kind (by simp [isKind, ProjectKind.texts])
  · exact avoids.first.projectName

/-- The properties of the whole project fit the template, unless the configurations
contradict each other. -/
theorem yields_header (within : avoided ⊆ separators) {context : GenerationContext}
    (avoids : context.Avoids avoided) {options : List ExplicitOptions}
    (sets : ∀ own ∈ options, own.Sets avoided optionKeys) :
    Yields (fun header => globalScope.Fits avoided (globalBindings context header))
      (ProjectHeader.ofOptions context options) := by
  have isOutputType : "OutputType" ∈ optionKeys := by decide
  have isFramework : "TargetFrameworkVersion" ∈ optionKeys := by decide
  have fixed : Avoids avoided defaultFramework := Avoids.of_isFixed within (by decide)
  have outputTypes := ExplicitOptions.yields_uniform sets isOutputType context.file
    (Value.hasText_omit within)
  have frameworks := ExplicitOptions.yields_uniform sets isFramework context.file
    (Value.hasText_text fixed)
  refine outputTypes.bind fun outputType hasOutputType => ?_
  refine frameworks.bind fun framework hasFramework => ?_
  have fits : globalScope.Fits avoided
      (globalBindings context ⟨outputType, framework, rootNamespace context⟩) :=
    globalBindings_fits within avoids hasOutputType hasFramework (rootNamespace_avoids avoids)
  exact .ok fits

theorem yields_computeOptions (within : avoided ⊆ separators) {context : GenerationContext}
    (avoids : context.Avoids avoided) :
    Yields (fun options => ∀ own ∈ options, own.Sets avoided optionKeys)
      (context.computeOptions fun configuration => .ok (axes configuration)) :=
  GenerationContext.yields_computeOptions fun configuration member =>
    .ok (yields_ofAxes within (avoids.configurations configuration member))

/-- Only what the model leaves undecided or contradicts keeps a C# project file and its
package list from being rendered. -/
theorem yields_generate (within : avoided ⊆ separators) (bracket : '[' ∈ avoided)
    {context : GenerationContext} (avoids : context.Avoids avoided) :
    Yields (fun _ => True) (generator.generate context) := by
  refine (yields_computeOptions within avoids).bind fun options sets => ?_
  refine (yields_header within avoids sets).bind fun header fits => ?_
  have rendered := render_eq within bracket avoids sets fits
    (!(PackageList.packages context).isEmpty)
  have pending := PackageList.pending_eq within bracket avoids header.framework.display
  dsimp only
  rw [rendered, bind_ok, pending, bind_ok]
  exact .ok trivial

end ProjectFiles.Format.CSharp
