import ProjectFiles.Model.Configuration

/-!
# Building configurations

A configuration is built from its defaults step by step.  Its identifier is set in one of the
steps, or else it comes from the project file.  Where it has come from is not recorded: an
identifier counts as the file's own when it equals the one that comes from the file.  So an
identifier that was set is kept until the configuration leaves a file from which the same
identifier comes.
-/

namespace ProjectFiles.Configuration

/-- One step in which a configuration is built. -/
inductive BuildStep where
  | guid (guid : Guid)
  | projectFile (file : Path)
  | output (kind : OutputKind)
  | target (target : Target)
  | targetPath (path : Path)
  | intermediatePath (path : Path)
  | targetFileName (name : String)
  | define (define : String)
  | setting (axis value : String)
  | nuget (name version : String)
  | dependsOn (other : Configuration)

namespace BuildStep

/-- The configuration after a step. -/
def apply (configuration : Configuration) : BuildStep → Configuration
  | .guid own => configuration.withGuid own
  | .projectFile file => configuration.withProjectFile file
  | .output kind => { configuration with output := kind }
  | .target chosen => { configuration with target := chosen }
  | .targetPath path => { configuration with targetPath := path }
  | .intermediatePath path => { configuration with intermediatePath := path }
  | .targetFileName name => { configuration with targetFileName := name }
  | .define text => configuration.withDefine text
  | .setting axis value => configuration.withSetting axis value
  | .nuget name version => configuration.withNuget name version
  | .dependsOn other => configuration.dependsOn other

/-- The file that a step sets. -/
def file? : BuildStep → Option Path
  | .projectFile file => some file
  | _ => none

/-- The identifier that a step sets. -/
def guid? : BuildStep → Option Guid
  | .guid own => some own
  | _ => none

variable {step : BuildStep} {configuration : Configuration} {file : Path}

theorem apply_of_file? (setsFile : step.file? = some file) :
    step.apply configuration = configuration.withProjectFile file := by
  cases step with
  | projectFile =>
      cases setsFile
      rfl
  | _ => cases setsFile

/-- A step about something else leaves the file and the identifier alone. -/
theorem apply_of_other (setsNoFile : step.file? = none) (setsNoGuid : step.guid? = none)
    (configuration : Configuration) :
    (step.apply configuration).projectFile = configuration.projectFile ∧
      (step.apply configuration).projectGuid = configuration.projectGuid := by
  cases step with
  | guid => cases setsNoGuid
  | projectFile => cases setsNoFile
  | dependsOn other =>
      rw [apply, Configuration.dependsOn]
      split <;> exact ⟨rfl, rfl⟩
  | _ => exact ⟨rfl, rfl⟩

end BuildStep

/-- The configuration after several steps. -/
def build (configuration : Configuration) (steps : List BuildStep) : Configuration :=
  steps.foldl BuildStep.apply configuration

/-- The files that a configuration has one after the other while it is built. -/
def filesDuring (configuration : Configuration) (steps : List BuildStep) : List Path :=
  configuration.projectFile :: steps.filterMap BuildStep.file?

variable {configuration : Configuration} {steps : List BuildStep}

theorem build_cons (step : BuildStep) (rest : List BuildStep) :
    configuration.build (step :: rest) = (step.apply configuration).build rest := rfl

/-- While no identifier is set, the one that is there is kept, unless it comes from one of the
files.  From that file on it follows the file. -/
theorem projectGuid_build_of_guidless (guidless : ∀ step ∈ steps, step.guid? = none) :
    (configuration.build steps).projectGuid =
      if ∃ file ∈ configuration.filesDuring steps, file.projectGuid = configuration.projectGuid then
        (configuration.build steps).projectFile.projectGuid
      else configuration.projectGuid := by
  induction steps generalizing configuration with
  | nil =>
      by_cases derived : configuration.projectFile.projectGuid = configuration.projectGuid <;>
        simp [build, filesDuring, derived]
  | cons step rest ih =>
      rw [List.forall_mem_cons] at guidless
      rw [build_cons, ih guidless.2]
      cases setsFile : step.file? with
      | none =>
          obtain ⟨sameFile, sameGuid⟩ :=
            BuildStep.apply_of_other setsFile guidless.1 configuration
          simp only [filesDuring, List.filterMap_cons_none setsFile, sameFile, sameGuid]
      | some file =>
          rw [BuildStep.apply_of_file? setsFile]
          by_cases derived : configuration.projectFile.projectGuid = configuration.projectGuid
          · have follows : (configuration.withProjectFile file).projectGuid = file.projectGuid :=
              if_pos derived.symm
            rw [if_pos ⟨file, List.mem_cons_self, follows.symm⟩,
              if_pos ⟨configuration.projectFile, List.mem_cons_self, derived⟩]
          · have keeps : (configuration.withProjectFile file).projectGuid =
                configuration.projectGuid := if_neg (Ne.symm derived)
            simp only [filesDuring, List.filterMap_cons_some setsFile, keeps,
              List.mem_cons, exists_eq_or_imp, derived, false_or]
            rfl

/-- An identifier that no step sets comes from the file.  The one that is set last is kept,
unless it comes from a file that the configuration then has or gets; in that case the file
decides in the end, too. -/
theorem projectGuid_build (projectName name platform : String) (steps : List BuildStep) :
    ((∀ step ∈ steps, step.guid? = none) →
      ((new projectName name platform).build steps).projectGuid =
        ((new projectName name platform).build steps).projectFile.projectGuid) ∧
    ∀ former guid latter, steps = former ++ .guid guid :: latter →
      (∀ step ∈ latter, step.guid? = none) →
      ((new projectName name platform).build steps).projectGuid =
        if ∃ file ∈ ((new projectName name platform).build former).filesDuring latter,
            file.projectGuid = guid then
          ((new projectName name platform).build steps).projectFile.projectGuid
        else guid := by
  constructor
  · intro guidless
    have derived : (new projectName name platform).projectFile.projectGuid =
        (new projectName name platform).projectGuid := rfl
    rw [projectGuid_build_of_guidless guidless, if_pos ⟨_, List.mem_cons_self, derived⟩]
  · rintro former guid latter rfl guidless
    have split : (new projectName name platform).build (former ++ .guid guid :: latter) =
        (((new projectName name platform).build former).withGuid guid).build latter := by
      rw [build, List.foldl_append]
      rfl
    rw [split]
    exact projectGuid_build_of_guidless guidless

/-- An identifier that comes from no file of the configuration is kept when the file changes. -/
theorem projectGuid_build_moved :
    ((new "App" "Debug" "x64").build [.guid ⟨1⟩, .guid ⟨2⟩, .projectFile ⟨"/old/App.vcxproj"⟩,
      .define "GAME", .projectFile ⟨"/w/App.vcxproj"⟩]).projectGuid = ⟨2⟩ := by
  have kept := (projectGuid_build "App" "Debug" "x64" _).2 [.guid ⟨1⟩] ⟨2⟩
    [.projectFile ⟨"/old/App.vcxproj"⟩, .define "GAME", .projectFile ⟨"/w/App.vcxproj"⟩] rfl
    (by decide)
  exact kept.trans (if_neg (by decide +kernel))

/-- An identifier that is set to the one that comes from the file is not kept when the file
changes. -/
theorem projectGuid_build_renamed :
    ((new "App" "Debug" "x64").build [.guid (Path.mk "App").projectGuid,
      .projectFile ⟨"/w/App.vcxproj"⟩]).projectGuid ≠ (Path.mk "App").projectGuid := by
  decide +kernel

end ProjectFiles.Configuration
