import ProjectFiles.Format.Python
import ProjectFiles.Proofs.Format.MSBuild

/-!
# Python project files are always rendered

The templates of Python project files keep to what is bound around them, and no
options have to be chosen for them.
-/

namespace ProjectFiles.Format.Python

open MSBuild Template Text

/-- What the template of the whole project may refer to. -/
def globalScope : Scope :=
  [("first", .record ["name", "platform"]), ("guid", .scalar), ("projectHome", .scalar),
    ("startupFile", .scalar), ("searchPath", .scalar), ("interpreterId", .scalar),
    ("interpreterVersion", .scalar)]

theorem globals_closes : globalScope.closes globals.toList = true := by
  unfold globals
  repeat with_reducible refine Scope.closes_unlines_cons (by decide) ?_
  exact Scope.closes_unlines_nil

theorem configurationProperties_closes :
    soleScope.closes configurationProperties.toList = true := by
  decide

theorem projectReference_closes : referenceScope.closes projectReference.toList = true := by
  unfold projectReference
  repeat with_reducible refine Scope.closes_unlines_cons (by decide) ?_
  exact Scope.closes_unlines_nil

variable {avoided : List Char}

theorem avoids_elementFor (within : avoided ⊆ separators) (extension : String) :
    Avoids avoided (elementFor extension) := by
  unfold elementFor
  split <;> exact Avoids.of_isFixed within (by decide)

theorem avoids_backslashed (within : avoided ⊆ separators) {path : Path}
    (avoids : Avoids avoided path.text) : Avoids avoided (backslashed path) := by
  intro c member
  rw [backslashed, String.toList_map] at member
  obtain ⟨original, inPath, rfl⟩ := List.mem_map.1 member
  split
  · exact Avoids.of_character within (by decide) (by decide)
  · exact avoids original inPath

theorem searchPath_hasText (within : avoided ⊆ separators) {context : GenerationContext}
    (avoids : context.Avoids avoided) {settings : PythonProject}
    (avoidsSettings : ∀ text ∈ settings.texts, Avoids avoided text) :
    (searchPath context settings).HasText avoided := by
  unfold searchPath
  split
  · exact Value.hasText_omit within
  · refine Value.hasText_list within fun path member => ?_
    have isText : path.text ∈ settings.texts := by
      simp only [PythonProject.texts, List.mem_append]
      exact .inl (.inl (List.mem_map_of_mem member))
    exact GenerationContext.Avoids.relative within context
      (Path.avoids_join within avoids.sourceRoot (avoidsSettings _ isText))

theorem globalBindings_fits (within : avoided ⊆ separators) {context : GenerationContext}
    (avoids : context.Avoids avoided) {settings : PythonProject}
    (avoidsSettings : ∀ text ∈ settings.texts, Avoids avoided text) :
    globalScope.Fits avoided (globalBindings context settings) := by
  have home := GenerationContext.Avoids.relative within context avoids.sourceRoot
  have startup : (Value.ofText? (settings.startupFile.map backslashed)).HasText avoided := by
    refine Value.hasText_ofText? within fun text member => ?_
    obtain ⟨path, isPath, rfl⟩ := Option.map_eq_some_iff.1 member
    exact avoids_backslashed within (avoidsSettings _ (by simp [PythonProject.texts, isPath]))
  have identifier : (Value.ofText? (settings.interpreterId.map Guid.braced)).HasText avoided := by
    refine Value.hasText_ofText? within fun text member => ?_
    obtain ⟨guid, _, rfl⟩ := Option.map_eq_some_iff.1 member
    exact Guid.avoids_braced within guid
  have version : (Value.ofText? settings.interpreterVersion).HasText avoided :=
    Value.hasText_ofText? within fun text member =>
      avoidsSettings _ (by simp [PythonProject.texts, Option.mem_def.1 member])
  exact .cons avoids.first.fits (.text (Guid.avoids_braced within _) (.text home
    (.scalar startup (.scalar (searchPath_hasText within avoids avoidsSettings)
      (.scalar identifier (.scalar version .nil))))))

theorem exists_render_eq (within : avoided ⊆ separators) (bracket : '[' ∈ avoided)
    {context : GenerationContext} (avoids : context.Avoids avoided) {settings : PythonProject}
    (avoidsSettings : ∀ text ∈ settings.texts, Avoids avoided text) :
    ∃ contents, render context settings = .ok contents := by
  have provides := Resolver.Provides.of_no_bindings within bracket context.resolver
  have apart : Apart (partNames ++ ([] : Scope).map (·.1)) := by decide
  have globals := provides.writeIn_eq (globalBindings_fits within avoids avoidsSettings)
    (by decide) (Scope.closes_append_scope globals_closes)
  have configurations := writeEachConfiguration_eq provides apart
    (Scope.closes_append_scope configurationProperties_closes) avoids.configurations
  have sources := writeSourceFiles_eq provides apart (avoids_elementFor within) avoids
  have references := writeReferences_eq provides apart projectReference_closes avoids
  unfold render
  simp only [globals, configurations, sources, references, bind_ok]
  exact ⟨_, rfl⟩

/-- Nothing keeps a Python project file from being rendered. -/
theorem exists_generate_eq (within : avoided ⊆ separators) (bracket : '[' ∈ avoided)
    {context : GenerationContext} (avoids : context.Avoids avoided) :
    ∃ outputs, generator.generate context = .ok outputs := by
  have renders : ∀ settings : PythonProject, (∀ text ∈ settings.texts, Avoids avoided text) →
      ∃ outputs, (render context settings >>= fun contents =>
        (pure [.file context.file contents] : Except GenerationError (List PendingOutput))) =
          .ok outputs := by
    intro settings avoidsSettings
    obtain ⟨contents, rendered⟩ := exists_render_eq within bracket avoids avoidsSettings
    exact ⟨_, by rw [rendered, bind_ok]; rfl⟩
  refine renders _ fun text member => ?_
  split at member
  · rename_i settings isKind
    exact avoids.kind (by rw [isKind]; exact member)
  · cases member

theorem yields_generate (within : avoided ⊆ separators) (bracket : '[' ∈ avoided)
    {context : GenerationContext} (avoids : context.Avoids avoided) :
    Yields (fun _ => True) (generator.generate context) :=
  .of_exists_eq_ok (exists_generate_eq within bracket avoids)

end ProjectFiles.Format.Python
