import ProjectFiles.Model.Encoding
import ProjectFiles.Proofs.Guid
import ProjectFiles.Proofs.Json.Record

/-!
# Reading models back

Whatever is written of a model is read back, with every path spelled as it was.  So
every other form of a model, such as records as arrays, missing parts and other
spellings of identifiers, is brought into one form, which further reading and writing
leaves as it is.
-/

namespace ProjectFiles

open Json

/-! ## Leaves -/

theorem Path.readsBack : ReadsBack toJson ofJson? :=
  fun _ => rfl

theorem Guid.readsBack : ReadsBack toJson ofJson? := by
  intro guid
  rw [toJson, ofJson?, readsBack_text, Option.bind_some]
  exact guid.ofText?_hyphenated

theorem OutputKind.readsBack : ReadsBack toJson ofJson? := by
  intro kind
  cases kind <;> rfl

theorem DependencyCheck.readsBack : ReadsBack toJson ofJson? := by
  intro check
  cases check <;> rfl

theorem Target.readsBack : ReadsBack toJson ofJson? := by
  intro target
  rw [toJson, ofJson?, readsBack_textMap target.fragments]
  rfl

theorem Path.nullable_readsBack :
    ReadsBack (ofNullable Path.toJson) (nullable? Path.ofJson?) :=
  Path.readsBack.nullable fun _ => nofun

theorem nullable_readsBack_text : ReadsBack (ofNullable .text) (nullable? text?) :=
  readsBack_text.nullable fun _ => nofun

theorem Guid.nullable_readsBack :
    ReadsBack (ofNullable Guid.toJson) (nullable? Guid.ofJson?) :=
  Guid.readsBack.nullable fun _ => nofun

/-! ## Configurations -/

theorem ProjectReference.readsBack : ReadsBack toJson ofJson? := by
  intro reference
  unfold ofJson?
  refine (bind_of_eq_some rfl).trans ?_
  refine (bind_of_eq_some (Record.required_eq_some rfl (readsBack_text _))).trans ?_
  refine (bind_of_eq_some (Record.required_eq_some rfl (Path.readsBack _))).trans ?_
  refine (bind_of_eq_some (Record.required_eq_some rfl (Guid.readsBack _))).trans ?_
  refine (bind_of_eq_some (Record.required_eq_some rfl (OutputKind.readsBack _))).trans ?_
  refine (bind_of_eq_some (Record.required_eq_some rfl (readsBack_text _))).trans ?_
  refine (bind_of_eq_some (Record.defaulting_eq_some rfl (readsBack_bool _))).trans ?_
  rfl

theorem PackageReference.readsBack : ReadsBack toJson ofJson? := by
  intro package
  unfold ofJson?
  refine (bind_of_eq_some rfl).trans ?_
  refine (bind_of_eq_some (Record.required_eq_some rfl (readsBack_text _))).trans ?_
  refine (bind_of_eq_some (Record.required_eq_some rfl (readsBack_text _))).trans ?_
  rfl

theorem Configuration.readsBack : ReadsBack toJson ofJson? := by
  intro configuration
  unfold ofJson?
  refine (bind_of_eq_some rfl).trans ?_
  refine (bind_of_eq_some (Record.required_eq_some rfl (readsBack_text _))).trans ?_
  refine (bind_of_eq_some (Record.required_eq_some rfl (readsBack_text _))).trans ?_
  refine (bind_of_eq_some (Record.required_eq_some rfl (Target.readsBack _))).trans ?_
  refine (bind_of_eq_some (Record.required_eq_some rfl (readsBack_text _))).trans ?_
  refine (bind_of_eq_some (Record.required_eq_some rfl (Guid.readsBack _))).trans ?_
  refine (bind_of_eq_some (Record.required_eq_some rfl (Path.readsBack _))).trans ?_
  refine (bind_of_eq_some (Record.required_eq_some rfl (OutputKind.readsBack _))).trans ?_
  refine (bind_of_eq_some (Record.required_eq_some rfl (Path.readsBack _))).trans ?_
  refine (bind_of_eq_some (Record.required_eq_some rfl (Path.readsBack _))).trans ?_
  refine (bind_of_eq_some (Record.required_eq_some rfl (readsBack_text _))).trans ?_
  refine (bind_of_eq_some (Record.defaulting_eq_some rfl (readsBack_text.list _))).trans ?_
  refine (bind_of_eq_some
    (Record.defaulting_eq_some rfl (ProjectReference.readsBack.list _))).trans ?_
  refine (bind_of_eq_some (Record.defaulting_eq_some rfl (readsBack_textMap _))).trans ?_
  refine (bind_of_eq_some
    (Record.defaulting_eq_some rfl (PackageReference.readsBack.list _))).trans ?_
  rfl

/-! ## Projects -/

theorem AndroidPackage.readsBack : ReadsBack toJson ofJson? := by
  intro package
  unfold ofJson?
  refine (bind_of_eq_some rfl).trans ?_
  refine (bind_of_eq_some (Record.required_eq_some rfl (Path.readsBack _))).trans ?_
  refine (bind_of_eq_some (Record.required_eq_some rfl (Path.readsBack _))).trans ?_
  refine (bind_of_eq_some (Record.required_eq_some rfl (Path.readsBack _))).trans ?_
  refine (bind_of_eq_some (Record.required_eq_some rfl (Path.readsBack _))).trans ?_
  refine (bind_of_eq_some (Record.optional_eq_some rfl (nullable_readsBack_text _))).trans ?_
  rfl

theorem PythonProject.readsBack : ReadsBack toJson ofJson? := by
  intro settings
  unfold ofJson?
  refine (bind_of_eq_some rfl).trans ?_
  refine (bind_of_eq_some (Record.required_eq_some rfl (Path.readsBack.list _))).trans ?_
  refine (bind_of_eq_some (Record.optional_eq_some rfl (Path.nullable_readsBack _))).trans ?_
  refine (bind_of_eq_some (Record.optional_eq_some rfl (Guid.nullable_readsBack _))).trans ?_
  refine (bind_of_eq_some (Record.optional_eq_some rfl (nullable_readsBack_text _))).trans ?_
  rfl

theorem ProjectKind.readsBack : ReadsBack toJson ofJson? := by
  intro kind
  cases kind with
  | cpp => rfl
  | cSharp rootNamespace => rfl
  | python settings =>
      have contents := PythonProject.readsBack settings
      show (PythonProject.ofJson? settings.toJson).map python = some (python settings)
      rw [contents, Option.map_some]
  | androidPackage package =>
      have contents := AndroidPackage.readsBack package
      show (AndroidPackage.ofJson? package.toJson).map androidPackage =
        some (androidPackage package)
      rw [contents, Option.map_some]

theorem Project.readsBack : ReadsBack toJson ofJson? := by
  intro project
  unfold ofJson?
  refine (bind_of_eq_some rfl).trans ?_
  refine (bind_of_eq_some (Record.required_eq_some rfl (readsBack_text _))).trans ?_
  refine (bind_of_eq_some (Record.required_eq_some rfl (ProjectKind.readsBack _))).trans ?_
  refine (bind_of_eq_some (Record.required_eq_some rfl (Path.readsBack _))).trans ?_
  refine (bind_of_eq_some (Record.defaulting_eq_some rfl (Path.readsBack.list _))).trans ?_
  refine (bind_of_eq_some (Record.required_eq_some rfl (Configuration.readsBack.list _))).trans ?_
  rfl

/-! ## Solutions -/

theorem IncludedProject.readsBack : ReadsBack toJson ofJson? := by
  intro included
  unfold ofJson?
  refine (bind_of_eq_some rfl).trans ?_
  refine (bind_of_eq_some (Record.required_eq_some rfl (ProjectReference.readsBack _))).trans ?_
  refine (bind_of_eq_some (Record.required_eq_some rfl (readsBack_text _))).trans ?_
  refine (bind_of_eq_some (Record.required_eq_some rfl (readsBack_text _))).trans ?_
  refine (bind_of_eq_some (Record.defaulting_eq_some rfl (readsBack_bool _))).trans ?_
  rfl

theorem SolutionConfiguration.readsBack : ReadsBack toJson ofJson? := by
  intro configuration
  unfold ofJson?
  refine (bind_of_eq_some rfl).trans ?_
  refine (bind_of_eq_some (Record.required_eq_some rfl (readsBack_text _))).trans ?_
  refine (bind_of_eq_some (Record.required_eq_some rfl (readsBack_text _))).trans ?_
  refine (bind_of_eq_some
    (Record.required_eq_some rfl (IncludedProject.readsBack.list _))).trans ?_
  rfl

theorem Solution.readsBack : ReadsBack toJson ofJson? := by
  intro solution
  unfold ofJson?
  refine (bind_of_eq_some rfl).trans ?_
  refine (bind_of_eq_some (Record.required_eq_some rfl (readsBack_text _))).trans ?_
  refine (bind_of_eq_some (Record.required_eq_some rfl (Path.readsBack _))).trans ?_
  refine (bind_of_eq_some
    (Record.required_eq_some rfl (SolutionConfiguration.readsBack.list _))).trans ?_
  rfl

/-! ## Settings -/

theorem Settings.readsBack : ReadsBack toJson ofJson? := by
  intro settings
  unfold ofJson?
  refine (bind_of_eq_some rfl).trans ?_
  refine (bind_of_eq_some (Record.defaulting_eq_some rfl (DependencyCheck.readsBack _))).trans ?_
  refine (bind_of_eq_some (Record.defaulting_eq_some rfl (readsBack_bool _))).trans ?_
  refine (bind_of_eq_some (Record.defaulting_eq_some rfl (readsBack_bool _))).trans ?_
  refine (bind_of_eq_some (Record.defaulting_eq_some rfl (Path.nullable_readsBack _))).trans ?_
  refine (bind_of_eq_some (Record.defaulting_eq_some rfl (readsBack_bool _))).trans ?_
  rfl

/-! ## The whole model -/

/-- Every value of a model is read back from its form, and every form that is read is
brought into the form of its value. -/
theorem model_roundTrips :
    RoundTrips Configuration.toJson Configuration.ofJson? ∧
      RoundTrips Project.toJson Project.ofJson? ∧
      RoundTrips ProjectKind.toJson ProjectKind.ofJson? ∧
      RoundTrips ProjectReference.toJson ProjectReference.ofJson? ∧
      RoundTrips IncludedProject.toJson IncludedProject.ofJson? ∧
      RoundTrips Solution.toJson Solution.ofJson? ∧
      RoundTrips PackageReference.toJson PackageReference.ofJson? ∧
      RoundTrips Settings.toJson Settings.ofJson? := by
  refine ⟨?configurations, ?projects, ?kinds, ?references, ?inclusions, ?solutions, ?packages,
    ?settings⟩
  case configurations => exact Configuration.readsBack.roundTrips
  case projects => exact Project.readsBack.roundTrips
  case kinds => exact ProjectKind.readsBack.roundTrips
  case references => exact ProjectReference.readsBack.roundTrips
  case inclusions => exact IncludedProject.readsBack.roundTrips
  case solutions => exact Solution.readsBack.roundTrips
  case packages => exact PackageReference.readsBack.roundTrips
  case settings => exact Settings.readsBack.roundTrips

/-- An array that ends early is brought into the form with all fields. -/
example : (Settings.ofJson? (.array [.text "error", .bool false])).map Settings.toJson =
    some (.object
      [("case_sensitive_placeholders", .bool true), ("cleanup_database", .null),
        ("dependency_check", .text "error"), ("overwrite_read_only", .bool true),
        ("parallel", .bool false)]) := rfl

end ProjectFiles
