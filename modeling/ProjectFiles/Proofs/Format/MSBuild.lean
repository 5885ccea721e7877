import ProjectFiles.Format.MSBuild
import ProjectFiles.Proofs.Model.Texts

/-!
# Parts of MSBuild files are always written

The parts that project files have in common keep to what is bound around them.
So writing them cannot fail for a model without brackets, and the text of each
part is its templates filled, one after the other.
-/

namespace ProjectFiles.Format.MSBuild

open Template Text

/-! ## Scopes -/

/-- What the templates of a configuration may refer to. -/
def configurationScope (keys : List String) : Scope :=
  [("conf", .record ["name", "platform"]), ("options", .record keys)]

/-- What the templates of a configuration by itself may refer to. -/
def soleScope : Scope :=
  [("conf", .record ["name", "platform"])]

/-- What the template of a reference may refer to. -/
def referenceScope : Scope :=
  [("include", .scalar), ("projectGuid", .scalar), ("projectName", .scalar)]

/-- What the template of a source file may refer to. -/
def sourceScope : Scope :=
  [("element", .scalar), ("include", .scalar)]

/-- The names that the parts bind. -/
def partNames : List String :=
  ["conf", "options", "element", "include", "projectGuid", "projectName"]

variable {avoided : List Char}

theorem configurationBindings_fits {configuration : Configuration} {options : ExplicitOptions}
    {keys : List String} (avoids : configuration.Avoids avoided)
    (sets : options.Sets avoided keys) :
    (configurationScope keys).Fits avoided (configurationBindings configuration options) :=
  .cons avoids.fits (.cons sets.fits .nil)

theorem referenceBindings_fits (within : avoided ⊆ separators) {context : GenerationContext}
    {reference : ProjectReference} (avoids : ∀ text ∈ reference.texts, Avoids avoided text) :
    referenceScope.Fits avoided (referenceBindings context reference) := by
  have file := GenerationContext.Avoids.relative within context
    (avoids reference.projectFile.text (by simp [ProjectReference.texts]))
  have name := avoids reference.projectName (by simp [ProjectReference.texts])
  exact .text file (.text (Guid.avoids_braced within _) (.text name .nil))

theorem projectReference_closes : referenceScope.closes projectReference.toList = true := by
  unfold projectReference
  repeat with_reducible refine Scope.closes_unlines_cons (by decide) ?_
  exact Scope.closes_unlines_nil

theorem configurationItem_closes : soleScope.closes configurationItem.toList = true := by
  unfold configurationItem
  repeat with_reducible refine Scope.closes_unlines_cons (by decide) ?_
  exact Scope.closes_unlines_nil

theorem sourceItem_closes : sourceScope.closes sourceItem.toList = true := by
  decide

/-- Paths look from a project file as they are. -/
theorem avoids_relativeText (within : avoided ⊆ separators) (configuration : Configuration)
    {path : Path} (avoids : Avoids avoided path.text) :
    Avoids avoided (relativeText configuration path) :=
  Path.avoids_windowsText within (Path.avoids_relativeTo within _ avoids)

/-! ## Texts of the parts -/

/-- A template filled once for every configuration and its options. -/
def configurationsText (bindings : List (String × Value)) (template : String)
    (configured : List (Configuration × ExplicitOptions)) : String :=
  String.join (configured.map fun entry =>
    filled (configurationBindings entry.1 entry.2 ++ bindings) template)

/-- A template filled once for every configuration by itself. -/
def eachConfigurationText (bindings : List (String × Value)) (template : String)
    (configurations : List Configuration) : String :=
  String.join (configurations.map fun configuration =>
    filled ([("conf", configuration.toValue)] ++ bindings) template)

/-- The list of configurations. -/
def configurationListText (bindings : List (String × Value)) (context : GenerationContext) :
    String :=
  configurationsStart ++
    eachConfigurationText bindings configurationItem context.configurations ++ itemGroupEnd

/-- Items between the start and the end of their group, if there are any. -/
def itemGroup (items : List String) : String :=
  if items.isEmpty then "" else itemGroupStart ++ String.join items ++ itemGroupEnd

/-- The references to projects. -/
def referencesText (bindings : List (String × Value)) (template : String)
    (context : GenerationContext) : String :=
  itemGroup (context.dependencies.map fun reference =>
    filled (referenceBindings context reference ++ bindings) template)

/-- What the template of a source file may refer to. -/
def sourceBindings (elementFor : String → String) (file : String × String) :
    List (String × Value) :=
  [("element", .text (elementFor file.2)), ("include", .text file.1)]

/-- The source files. -/
def sourceFilesText (bindings : List (String × Value)) (context : GenerationContext)
    (elementFor : String → String) : String :=
  itemGroup (context.sourceFiles.map fun file =>
    filled (sourceBindings elementFor file ++ bindings) sourceItem)

/-! ## Writing the parts -/

section Writing

variable {scope : Scope} {bindings : List (String × Value)} {resolver : Resolver}
variable {context : GenerationContext}

theorem apart_inner {inner : Scope} (apart : Apart (partNames ++ scope.map (·.1)))
    (within : (inner.map (·.1)).Sublist partNames) : Apart ((inner ++ scope).map (·.1)) := by
  rw [List.map_append]
  exact apart.sublist (within.append_right _)

theorem writeConfigurations_eq {keys : List String} {template : String}
    {configured : List (Configuration × ExplicitOptions)}
    (provides : resolver.Provides avoided scope bindings)
    (apart : Apart (partNames ++ scope.map (·.1)))
    (closes : (configurationScope keys ++ scope).closes template.toList = true)
    (fits : ∀ entry ∈ configured, entry.1.Avoids avoided ∧ entry.2.Sets avoided keys)
    (buffer : OutputBuffer) :
    writeConfigurations buffer resolver template configured =
      .ok (buffer.writeVerbatim (configurationsText bindings template configured)) := by
  have inner : ["conf", "options"].Sublist partNames := by decide
  refine OutputBuffer.foldlM_eq (fun buffer entry member => ?_) buffer
  obtain ⟨avoids, sets⟩ := fits entry member
  exact provides.writeIn_eq (configurationBindings_fits avoids sets) (apart_inner apart inner)
    closes buffer

theorem writeEachConfiguration_eq {template : String} {configurations : List Configuration}
    (provides : resolver.Provides avoided scope bindings)
    (apart : Apart (partNames ++ scope.map (·.1)))
    (closes : (soleScope ++ scope).closes template.toList = true)
    (avoids : ∀ configuration ∈ configurations, configuration.Avoids avoided)
    (buffer : OutputBuffer) :
    writeEachConfiguration buffer resolver template configurations =
      .ok (buffer.writeVerbatim (eachConfigurationText bindings template configurations)) := by
  refine OutputBuffer.foldlM_eq (fun buffer configuration member => ?_) buffer
  exact provides.writeIn_eq (.cons (avoids configuration member).fits .nil)
    (apart_inner apart (by decide)) closes buffer

theorem writeConfigurationList_eq (provides : resolver.Provides avoided scope bindings)
    (apart : Apart (partNames ++ scope.map (·.1))) (avoids : context.Avoids avoided)
    (buffer : OutputBuffer) :
    writeConfigurationList buffer resolver context =
      .ok (buffer.writeVerbatim (configurationListText bindings context)) := by
  have written := writeEachConfiguration_eq provides apart
    (Scope.closes_append_scope configurationItem_closes) avoids.configurations
    (buffer.writeVerbatim configurationsStart)
  unfold writeConfigurationList configurationListText
  dsimp only
  rw [written, bind_ok]
  simp only [OutputBuffer.writeVerbatim_writeVerbatim]
  rfl

theorem writeReferences_eq {template : String}
    (provides : resolver.Provides avoided scope bindings)
    (apart : Apart (partNames ++ scope.map (·.1)))
    (closes : referenceScope.closes template.toList = true) (avoids : context.Avoids avoided)
    (buffer : OutputBuffer) :
    writeReferences buffer resolver context template =
      .ok (buffer.writeVerbatim (referencesText bindings template context)) := by
  have written : ∀ buffer, ∀ reference ∈ context.dependencies,
      OutputBuffer.writeIn buffer resolver (referenceBindings context reference) template =
        .ok (buffer.writeVerbatim (filled (referenceBindings context reference ++ bindings)
          template)) :=
    fun buffer reference member =>
      provides.writeIn_eq
        (referenceBindings_fits provides.within (avoids.dependencies reference member))
        (apart_inner apart (by decide)) (Scope.closes_append_scope closes) buffer
  unfold writeReferences referencesText itemGroup
  rw [List.isEmpty_map]
  split
  · rw [OutputBuffer.writeVerbatim_empty]
    rfl
  · dsimp only
    rw [OutputBuffer.foldlM_eq written, bind_ok]
    simp only [OutputBuffer.writeVerbatim_writeVerbatim]
    rfl

theorem writeSourceFiles_eq {elementFor : String → String}
    (provides : resolver.Provides avoided scope bindings)
    (apart : Apart (partNames ++ scope.map (·.1)))
    (fixed : ∀ extension, Avoids avoided (elementFor extension)) (avoids : context.Avoids avoided)
    (buffer : OutputBuffer) :
    writeSourceFiles buffer resolver context elementFor =
      .ok (buffer.writeVerbatim (sourceFilesText bindings context elementFor)) := by
  have written : ∀ buffer, ∀ file ∈ context.sourceFiles,
      OutputBuffer.writeIn buffer resolver (sourceBindings elementFor file) sourceItem =
        .ok (buffer.writeVerbatim (filled (sourceBindings elementFor file ++ bindings)
          sourceItem)) :=
    fun buffer file member =>
      provides.writeIn_eq
        (.text (fixed file.2) (.text (avoids.sourceFile provides.within member) .nil))
        (apart_inner apart (by decide)) (Scope.closes_append_scope sourceItem_closes) buffer
  unfold writeSourceFiles sourceFilesText itemGroup
  rw [List.isEmpty_map]
  split
  · rw [OutputBuffer.writeVerbatim_empty]
    rfl
  · dsimp only
    unfold sourceBindings at written
    rw [OutputBuffer.foldlM_eq written, bind_ok]
    simp only [OutputBuffer.writeVerbatim_writeVerbatim]
    rfl

end Writing

end ProjectFiles.Format.MSBuild
