import ProjectFiles.Proofs.Format.CSharp
import ProjectFiles.Proofs.Format.VisualCpp
import ProjectFiles.Proofs.Generation.Authoring
import ProjectFiles.Proofs.Options.Demands
import ProjectFiles.Proofs.Validation.Dependencies

/-!
# The models that C++ and C# project files express

A C++ project file is generated just when every configuration meets the demands of its axes: a
binary that does not run on .NET, and values that are known where the rules of an axis have to
apply.  A C# project file asks for the opposite and for other values, and the configurations
have to agree on the kind of binary and on the framework.  Whatever a model cannot be generated
for is reported, unmet demands before contradictions and the kind of binary before the framework.
-/

namespace ProjectFiles.Format

open MSBuild Text

variable {avoided : List Char} {context : GenerationContext}

namespace VisualCpp

/-- What the axes of a C++ project file demand. -/
def demands : List Demand :=
  [{ axis := "ConfigurationType", isMet := fun configuration => !configuration.output.isDotNet },
    .choice "DebugLibraries" ["Enabled", "Disabled"],
    .choice "WarningLevel" ["Level0", "Level1", "Level2", "Level3", "Level4", "All"]]

theorem axes_makeDemands : MakeDemands axes demands where
  uniform _ := rfl
  nodup _ := show optionKeys.Nodup by decide
  made _ := by
    -- all other axes have a fallback
    refine .cons (OptionAxis.makes_of_iff rfl rfl fun own => ?_)
      (.cons (OptionAxis.makes_of_iff rfl rfl fun own => ?_)
        (.cons (OptionAxis.makes_of_iff rfl rfl fun own => ?_) .nil))
    · cases kind : own.output <;>
        simp [configurationType, OptionAxis.select, OutputKind.isDotNet, kind]
    · cases chosen : own.chosen? "DebugLibraries" <;>
        simp [debugLibraries, OptionAxis.select, Demand.choice, chosen]
    · cases chosen : own.chosen? "WarningLevel" <;>
        simp [warningLevel, OptionAxis.select, Demand.choice, chosen]

/-- The first offence keeps a project file from being generated. -/
theorem generate_of_offence {configuration : Configuration} {demand : Demand}
    (offence : Demand.firstOffence? demands context.configurations =
      some (configuration, demand)) :
    generator.generate context = .error (.noOptionMatch configuration.display demand.axis) := by
  have failed := axes_makeDemands.computeOptions_eq_error offence
  unfold generator
  dsimp only
  rw [failed]
  rfl

/-- Without an offence it is generated. -/
theorem exists_generate_eq_ok (within : avoided ⊆ separators) (bracket : '[' ∈ avoided)
    (avoids : context.Avoids avoided)
    (met : Demand.AreMetByAll demands context.configurations) :
    ∃ outputs, generator.generate context = .ok outputs := by
  obtain ⟨options, computed, _⟩ := axes_makeDemands.exists_computeOptions_eq_ok met
  have computes := yields_computeOptions within avoids
  rw [computed] at computes
  obtain ⟨contents, rendered⟩ := exists_render_eq within bracket avoids computes.meets_of_ok
  refine ⟨[.file context.file contents], ?_⟩
  unfold generator
  dsimp only
  rw [computed, bind_ok, rendered]
  rfl

/-- Whether a project file is generated for a context just when all demands are met, and the
first offence is reported otherwise. -/
structure GeneratesExpressible (context : GenerationContext) : Prop where
  succeeds_iff : (∃ outputs, generator.generate context = .ok outputs) ↔
    Demand.AreMetByAll demands context.configurations
  unmet : ¬ Demand.AreMetByAll demands context.configurations →
    ∃ configuration demand,
      Demand.firstOffence? demands context.configurations = some (configuration, demand) ∧
      generator.generate context = .error (.noOptionMatch configuration.display demand.axis)

theorem generatesExpressible (within : avoided ⊆ separators) (bracket : '[' ∈ avoided)
    (avoids : context.Avoids avoided) : GeneratesExpressible context where
  succeeds_iff := by
    refine ⟨fun ⟨outputs, generated⟩ => ?_, exists_generate_eq_ok within bracket avoids⟩
    by_contra unmet
    obtain ⟨configuration, demand, offence⟩ := Demand.exists_firstOffence? unmet
    rw [generate_of_offence offence] at generated
    cases generated
  unmet unmet := by
    obtain ⟨configuration, demand, offence⟩ := Demand.exists_firstOffence? unmet
    exact ⟨configuration, demand, offence, generate_of_offence offence⟩

end VisualCpp

namespace CSharp

/-- What the axes of a C# project file demand. -/
def demands : List Demand :=
  [{ axis := "OutputType", isMet := fun configuration => configuration.output.isDotNet },
    .choice "DebugInformation" ["Full", "PdbOnly", "None"],
    .choice "Optimize" ["Enabled", "Disabled"]]

theorem axes_makeDemands : MakeDemands axes demands where
  uniform _ := rfl
  nodup _ := show optionKeys.Nodup by decide
  made _ := by
    refine .cons (OptionAxis.makes_of_iff rfl rfl fun own => ?_)
      (.cons (OptionAxis.makes_of_iff rfl rfl fun own => ?_)
        (.cons (OptionAxis.makes_of_iff rfl rfl fun own => ?_) .nil))
    · cases kind : own.output <;>
        simp [outputType, OptionAxis.select, OutputKind.isDotNet, kind]
    · cases chosen : own.chosen? "DebugInformation" <;>
        simp [debugInformation, OptionAxis.select, Demand.choice, chosen]
    · cases chosen : own.chosen? "Optimize" <;>
        simp [optimize, OptionAxis.select, Demand.choice, chosen]

/-! ## Properties of the whole file -/

/-- A binary as C# project files name it. -/
def binaryName? : OutputKind → Option String
  | .dotNetConsoleApp => some "Exe"
  | .dotNetWindowsApp => some "WinExe"
  | .dotNetClassLibrary => some "Library"
  | _ => none

theorem exists_binaryName? {kind : OutputKind} (isDotNet : kind.isDotNet = true) :
    ∃ name, binaryName? kind = some name := by
  cases kind <;> first | exact ⟨_, rfl⟩ | cases isDotNet

theorem binaryName?_injective {left right : OutputKind} {name : String}
    (isLeft : binaryName? left = some name) (isRight : binaryName? right = some name) :
    left = right := by
  cases left <;> cases isLeft <;> cases right <;> first | rfl | simp [binaryName?] at isRight

variable {configuration : Configuration} {own : ExplicitOptions} {options : List ExplicitOptions}

theorem effectFor?_outputType {name : String}
    (named : binaryName? configuration.output = some name) :
    outputType.effectFor? configuration = some [("OutputType", .text name)] := by
  cases kind : configuration.output <;> rw [kind] at named <;> cases named <;>
    simp [outputType, OptionAxis.select, OptionAxis.effectFor?, OptionRule.output, kind]

/-- The kind of binary that a configuration that meets all demands has in its options. -/
theorem exists_get?_outputType (met : Demand.AreMet demands configuration)
    (follow : own.Follow configuration (axes configuration)) :
    ∃ name, binaryName? configuration.output = some name ∧
      own.get? "OutputType" = some (.text name) := by
  obtain ⟨name, named⟩ := exists_binaryName? (met _ List.mem_cons_self)
  obtain ⟨effect, chosen, reads⟩ := follow outputType (by simp [axes])
  rw [effectFor?_outputType named] at chosen
  cases chosen
  exact ⟨name, named, reads "OutputType" (by decide)⟩

theorem exists_get?_framework (follow : own.Follow configuration (axes configuration)) :
    ∃ name, some (framework configuration) = some name ∧
      own.get? "TargetFrameworkVersion" = some (.text name) := by
  obtain ⟨effect, chosen, reads⟩ := follow
    (.assign "TargetFrameworkVersion" (.text (framework configuration))) (by simp [axes])
  cases chosen
  exact ⟨_, rfl, reads "TargetFrameworkVersion" (List.mem_singleton.2 rfl)⟩

/-- Whether options have the kind of binary and the framework of every configuration. -/
structure ReadAsChosen (configurations : List Configuration) (options : List ExplicitOptions) :
    Prop where
  outputs : ExplicitOptions.ReadAs (fun configuration => binaryName? configuration.output)
    "OutputType" configurations options
  frameworks : ExplicitOptions.ReadAs (fun configuration => some (framework configuration))
    "TargetFrameworkVersion" configurations options

theorem exists_computeOptions_eq_ok (met : Demand.AreMetByAll demands context.configurations) :
    ∃ options, (context.computeOptions fun configuration => .ok (axes configuration)) =
        .ok options ∧ ReadAsChosen context.configurations options := by
  obtain ⟨options, computed, follow⟩ := axes_makeDemands.exists_computeOptions_eq_ok met
  refine ⟨options, computed, ?_, ?_⟩
  · exact .of_follow follow met exists_get?_outputType
  · exact .of_follow follow met fun _ => exists_get?_framework

/-- Where all demands are met, binaries of one kind have one name. -/
theorem agree_output_of_agree {configurations : List Configuration}
    (met : Demand.AreMetByAll demands configurations)
    (agree : Configuration.Agree (fun configuration => binaryName? configuration.output)
      configurations) :
    Configuration.Agree Configuration.output configurations := by
  intro left isLeft right isRight
  obtain ⟨name, named⟩ := exists_binaryName? (met left isLeft _ List.mem_cons_self)
  exact binaryName?_injective named ((agree right isRight left isLeft).trans named)

/-! ## Generating -/

/-- The first offence keeps a project file from being generated. -/
theorem generate_of_offence {demand : Demand}
    (offence : Demand.firstOffence? demands context.configurations =
      some (configuration, demand)) :
    generator.generate context = .error (.noOptionMatch configuration.display demand.axis) := by
  have failed := axes_makeDemands.computeOptions_eq_error offence
  unfold generator
  dsimp only
  rw [failed]
  rfl

/-- So do binaries of several kinds. -/
theorem generate_of_outputs (met : Demand.AreMetByAll demands context.configurations)
    (disagree : ¬ Configuration.Agree Configuration.output context.configurations) :
    generator.generate context = .error (.configurationConflict context.file
      (.optionValues "OutputType" (context.configurations.filterMap fun configuration =>
        binaryName? configuration.output).eraseDups)) := by
  obtain ⟨options, computed, areRead⟩ := exists_computeOptions_eq_ok met
  have conflict := areRead.outputs.uniform_eq_error
    (fun agree => disagree (agree_output_of_agree met agree)) context.file .omit
  unfold generator ProjectHeader.ofOptions
  dsimp only
  rw [computed, bind_ok, conflict]
  rfl

/-- So do several frameworks. -/
theorem generate_of_frameworks (met : Demand.AreMetByAll demands context.configurations)
    (agree : Configuration.Agree Configuration.output context.configurations)
    (disagree : ¬ Configuration.Agree framework context.configurations) :
    generator.generate context = .error (.configurationConflict context.file
      (.optionValues "TargetFrameworkVersion"
        (context.configurations.map framework).eraseDups)) := by
  obtain ⟨options, computed, areRead⟩ := exists_computeOptions_eq_ok met
  obtain ⟨outputType, isOutputType⟩ :=
    areRead.outputs.exists_uniform_eq_ok (agree.map binaryName?) context.file .omit
  have conflict := areRead.frameworks.uniform_eq_error
    (fun same => disagree fun left isLeft right isRight =>
      Option.some.inj (same left isLeft right isRight)) context.file (.text defaultFramework)
  rw [List.filterMap_eq_map'] at conflict
  unfold generator ProjectHeader.ofOptions
  dsimp only
  rw [computed, bind_ok, isOutputType, bind_ok, conflict]
  rfl

/-- Where all demands are met and configurations agree, a project file is generated. -/
theorem exists_generate_eq_ok (within : avoided ⊆ separators) (bracket : '[' ∈ avoided)
    (avoids : context.Avoids avoided)
    (met : Demand.AreMetByAll demands context.configurations)
    (outputs : Configuration.Agree Configuration.output context.configurations)
    (frameworks : Configuration.Agree framework context.configurations) :
    ∃ outputs, generator.generate context = .ok outputs := by
  obtain ⟨options, computed, areRead⟩ := exists_computeOptions_eq_ok met
  obtain ⟨outputType, isOutputType⟩ :=
    areRead.outputs.exists_uniform_eq_ok (outputs.map binaryName?) context.file .omit
  obtain ⟨version, isVersion⟩ := areRead.frameworks.exists_uniform_eq_ok
    (frameworks.map some) context.file (.text defaultFramework)
  have isHeader : ProjectHeader.ofOptions context options =
      .ok ⟨outputType, version, rootNamespace context⟩ := by
    unfold ProjectHeader.ofOptions
    rw [isOutputType, bind_ok, isVersion, bind_ok]
    rfl
  have computes := yields_computeOptions within avoids
  rw [computed] at computes
  have sets := computes.meets_of_ok
  have fits := yields_header within avoids sets
  rw [isHeader] at fits
  have rendered := render_eq within bracket avoids sets fits.meets_of_ok
    (!(PackageList.packages context).isEmpty)
  have pending := PackageList.pending_eq within bracket avoids version.display
  unfold generator
  dsimp only
  rw [computed, bind_ok, isHeader, bind_ok, rendered, bind_ok, pending]
  exact ⟨_, rfl⟩

/-- Whether a project file is generated for a context just when all demands are met and the
configurations agree on the kind of binary and on the framework; otherwise the first offence is
reported, or else what they have different. -/
structure GeneratesExpressible (context : GenerationContext) : Prop where
  succeeds_iff : (∃ outputs, generator.generate context = .ok outputs) ↔
    Demand.AreMetByAll demands context.configurations ∧
      Configuration.Agree Configuration.output context.configurations ∧
      Configuration.Agree framework context.configurations
  unmet : ¬ Demand.AreMetByAll demands context.configurations →
    ∃ configuration demand,
      Demand.firstOffence? demands context.configurations = some (configuration, demand) ∧
      generator.generate context = .error (.noOptionMatch configuration.display demand.axis)
  outputs : Demand.AreMetByAll demands context.configurations →
    ¬ Configuration.Agree Configuration.output context.configurations →
    generator.generate context = .error (.configurationConflict context.file
      (.optionValues "OutputType" (context.configurations.filterMap fun configuration =>
        binaryName? configuration.output).eraseDups))
  frameworks : Demand.AreMetByAll demands context.configurations →
    Configuration.Agree Configuration.output context.configurations →
    ¬ Configuration.Agree framework context.configurations →
    generator.generate context = .error (.configurationConflict context.file
      (.optionValues "TargetFrameworkVersion" (context.configurations.map framework).eraseDups))

theorem generatesExpressible (within : avoided ⊆ separators) (bracket : '[' ∈ avoided)
    (avoids : context.Avoids avoided) : GeneratesExpressible context where
  succeeds_iff := by
    refine ⟨fun ⟨outputs, generated⟩ => ?_, fun ⟨met, sameOutput, sameFramework⟩ =>
      exists_generate_eq_ok within bracket avoids met sameOutput sameFramework⟩
    -- in the order in which they are reported, each condition fails with an error of its own
    by_cases met : Demand.AreMetByAll demands context.configurations
    · refine ⟨met, ?_⟩
      by_cases sameOutput : Configuration.Agree Configuration.output context.configurations
      · refine ⟨sameOutput, ?_⟩
        by_contra differ
        rw [generate_of_frameworks met sameOutput differ] at generated
        cases generated
      · rw [generate_of_outputs met sameOutput] at generated
        cases generated
    · obtain ⟨configuration, demand, offence⟩ := Demand.exists_firstOffence? met
      rw [generate_of_offence offence] at generated
      cases generated
  unmet offends := by
    obtain ⟨configuration, demand, offence⟩ := Demand.exists_firstOffence? offends
    exact ⟨configuration, demand, offence, generate_of_offence offence⟩
  outputs := generate_of_outputs
  frameworks := generate_of_frameworks

end CSharp

/-! ## Models that are expressed -/

/-- The configurations of an application that build binaries of these kinds. -/
def applicationBuilding (debug release : OutputKind) : List Configuration :=
  [{ Configuration.new "App" "Debug" "AnyCPU" with output := debug },
    { Configuration.new "App" "Release" "AnyCPU" with output := release }]

/-- The context of the file of the application. -/
def contextBuilding (debug release : OutputKind) : GenerationContext where
  project :=
    { name := "App", kind := .cSharp "App", sourceRoot := ⟨"/w"⟩, sourceFiles := [],
      configurations := applicationBuilding debug release }
  file := ⟨"/w/App.csproj"⟩
  first := (applicationBuilding debug release).head (List.cons_ne_nil _ _)
  others := (applicationBuilding debug release).tail
  dependencies := []
  settings := {}
  warnings := []

theorem new_contextBuilding (debug release : OutputKind) :
    GenerationContext.new (contextBuilding debug release).project ⟨"/w/App.csproj"⟩
      (applicationBuilding debug release) {} = .ok (contextBuilding debug release) := by
  refine GenerationContext.new_eq_ok_iff.2 ⟨Configuration.sortAndValidate_eq_ok_iff.2
    ⟨?_, .refl _, ?_⟩, rfl, rfl, rfl, rfl, .new, ?_, rfl⟩
  · exact
      { nonempty := List.cons_ne_nil _ _
        names := by simp [Configuration.Agree, applicationBuilding, Configuration.new]
        guids := by simp [Configuration.Agree, applicationBuilding, Configuration.new]
        apart := by simp [applicationBuilding, Configuration.new, Configuration.identity] }
  · have order : Configuration.compareIdentity (.new "App" "Debug" "AnyCPU")
        (.new "App" "Release" "AnyCPU") = .lt := by decide +kernel
    exact List.pairwise_pair.2 order
  · rfl

end ProjectFiles.Format
