import ProjectFiles.Proofs.Format.Android
import ProjectFiles.Proofs.Format.CSharp
import ProjectFiles.Proofs.Format.Python
import ProjectFiles.Proofs.Format.SolutionFile
import ProjectFiles.Proofs.Format.VisualCpp

/-!
# What an author meets is the author's to mend

For a model without brackets, finding a generator, validating the configurations,
choosing the options and rendering fail only with errors that the author of the
model can mend.  No error of a template or of a generator ever comes out of a
project or a solution.
-/

namespace ProjectFiles

open Text

/-- Brackets are what texts have to avoid. -/
def brackets : List Char := ['[']

theorem brackets_subset : brackets ⊆ separators := by
  decide

theorem avoids_brackets {text : String} (bracketless : '[' ∉ text.toList) :
    Avoids brackets text := by
  intro c member isBracket
  rw [brackets, List.mem_singleton] at isBracket
  exact bracketless (isBracket ▸ member)

theorem GeneratorRegistry.yields_forFile (registry : GeneratorRegistry) (file : Path)
    (kind : ProjectKind) :
    Yields (fun generator => registry.get? file.extension = some generator)
      (registry.forFile file kind) := by
  unfold forFile
  split
  · exact .error (GenerationError.isMendable_invalidModel _)
  · rename_i generator found
    split
    · exact .ok found
    · exact .error (GenerationError.isMendable_invalidModel _)

/-- Every standard generator fails only where the model is at fault. -/
theorem Generator.yields_of_mem_standard {avoided : List Char} (within : avoided ⊆ separators)
    (bracket : '[' ∈ avoided) {extension : String} {generator : Generator}
    (registered : GeneratorRegistry.standard.get? extension = some generator)
    {context : GenerationContext} (avoids : context.Avoids avoided) :
    Yields (fun _ => True) (generator.generate context) := by
  obtain ⟨_, rfl | rfl | rfl | rfl⟩ := GeneratorRegistry.cases_of_get?_standard registered
  · exact Format.VisualCpp.yields_generate within bracket avoids
  · exact Format.CSharp.yields_generate within bracket avoids
  · exact Format.Python.yields_generate within bracket avoids
  · exact Format.Android.yields_generate within bracket avoids

namespace Builder

variable {avoided : List Char}

theorem yields_renderFile (within : avoided ⊆ separators) (bracket : '[' ∈ avoided)
    (settings : Settings) {project : Project} (file : Path) {configurations : List Configuration}
    (avoidsProject : ∀ text ∈ project.texts, Avoids avoided text)
    (avoids : ∀ configuration ∈ configurations, configuration.Avoids avoided) :
    Yields (fun _ => True) ((Builder.new settings).renderFile project file configurations) := by
  refine (GeneratorRegistry.standard.yields_forFile file project.kind).bind
    fun generator registered => ?_
  refine (GenerationContext.yields_new avoidsProject avoids).bind fun context avoidsContext => ?_
  exact (Generator.yields_of_mem_standard within bracket registered avoidsContext).bind
    fun _ _ => .ok trivial

theorem isMendable_of_renderFiles (within : avoided ⊆ separators) (bracket : '[' ∈ avoided)
    {settings : Settings} {project : Project} {groups : List (Path × List Configuration)}
    {failure : ProjectFailure} (avoidsProject : ∀ text ∈ project.texts, Avoids avoided text)
    (avoids : ∀ group ∈ groups, ∀ configuration ∈ group.2, configuration.Avoids avoided)
    (failed : (Builder.new settings).renderFiles project groups = .error failure) :
    failure.error.IsMendable := by
  induction groups with
  | nil => cases failed
  | cons group rest ih =>
      obtain ⟨file, configurations⟩ := group
      have yields := yields_renderFile within bracket settings file avoidsProject
        (avoids _ List.mem_cons_self)
      unfold renderFiles at failed
      split at failed
      · rename_i error isError
        cases failed
        rw [isError] at yields
        exact yields.isMendable_of_error
      · cases others : (Builder.new settings).renderFiles project rest with
        | ok rendered => rw [others] at failed; cases failed
        | error failure =>
            rw [others] at failed
            cases failed
            exact ih (fun group inRest => avoids group (List.mem_cons_of_mem _ inRest)) others

end Builder

/-- A C# project that chooses debug information of no known kind. -/
def Project.undecided : Project where
  name := "App"
  kind := .cSharp "App"
  sourceRoot := ⟨"src"⟩
  sourceFiles := []
  configurations :=
    [{ (Configuration.new "App" "Debug" "AnyCPU").withSetting "DebugInformation" "Loud" with
      projectFile := ⟨"/w/App.csproj"⟩
      output := .dotNetClassLibrary }]

namespace Builder

end Builder

end ProjectFiles
