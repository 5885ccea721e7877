import ProjectFiles.Format.PackageList
import ProjectFiles.Proofs.Model.Texts
import ProjectFiles.Proofs.SortedMap

/-!
# Package lists are always rendered

A package list has one line for every package of the configurations, and nothing
keeps it from being rendered for a model without brackets.
-/

namespace ProjectFiles

instance : Std.LawfulEqOrd PackageReference where
  eq_of_compare {left right} equal := by
    obtain ⟨names, versions⟩ := (compareLex_eq_eq ..).1 equal
    cases left
    cases right
    cases Std.LawfulEqOrd.eq_of_compare names
    cases Std.LawfulEqOrd.eq_of_compare versions
    rfl

namespace Format.PackageList

open Template Text

/-! ## Packages -/

/-- The packages of a context are those of its configurations. -/
theorem mem_packages_iff {context : GenerationContext} {package : PackageReference} :
    package ∈ packages context ↔
      ∃ configuration ∈ context.configurations, package ∈ configuration.nugetReferences := by
  unfold packages
  rw [SortedSet.mem_keys_ofList, List.mem_flatMap]

/-! ## Rendering -/

/-- What the template of a package may refer to. -/
def packageScope : Scope :=
  [("package", .record ["name", "version"])]

/-- What is bound around the template of a package. -/
def frameworkScope : Scope :=
  [("framework", .scalar)]

theorem packageItem_closes :
    (packageScope ++ frameworkScope).closes packageItem.toList = true := by
  decide

/-- The line of a package. -/
def packageText (framework : String) (package : PackageReference) : String :=
  filled
    ([("package", Value.ofJson package.toJson)] ++
      [("framework", .text (frameworkFolder framework))])
    packageItem

variable {avoided : List Char}

theorem avoids_frameworkFolder (within : avoided ⊆ separators) (framework : String) :
    Avoids avoided (frameworkFolder framework) := by
  refine (Avoids.of_isFixed within (by decide)).append (Avoids.ofList fun c member => ?_)
  have isDigit := List.of_mem_filter member
  refine Avoids.of_character within ?_ ?_ <;>
  · rintro rfl
    exact absurd isDigit (by decide)

theorem package_fits {package : PackageReference}
    (avoids : ∀ text ∈ package.texts, Avoids avoided text) :
    packageScope.Fits avoided [("package", Value.ofJson package.toJson)] := by
  refine .cons (fun field member => ?_) .nil
  simp only [List.mem_cons, List.not_mem_nil, or_false] at member
  rcases member with rfl | rfl
  · exact ⟨.text package.name, rfl,
      Value.hasText_text (avoids _ (by simp [PackageReference.texts]))⟩
  · exact ⟨.text package.version, rfl,
      Value.hasText_text (avoids _ (by simp [PackageReference.texts]))⟩

theorem avoids_of_mem_packages {context : GenerationContext} (avoids : context.Avoids avoided)
    {package : PackageReference} (member : package ∈ packages context) :
    ∀ text ∈ package.texts, Avoids avoided text := by
  obtain ⟨configuration, isConfiguration, isOwn⟩ := mem_packages_iff.1 member
  intro text isText
  exact (avoids.configurations configuration isConfiguration).package isOwn isText

/-- A package list is the lines of its packages, without the tagged ones. -/
theorem render_eq (within : avoided ⊆ separators) (bracket : '[' ∈ avoided)
    (context : GenerationContext) {packages : List PackageReference}
    (avoids : ∀ package ∈ packages, ∀ text ∈ package.texts, Avoids avoided text)
    (framework : String) :
    render context packages framework =
      .ok (OutputBuffer.removeTaggedLines
        (listStart ++ String.join (packages.map (packageText framework)) ++ listEnd)) := by
  have provides : (context.resolver.declare "framework"
      (.text (frameworkFolder framework))).1.Provides avoided frameworkScope
        [("framework", .text (frameworkFolder framework))] :=
    (Resolver.Provides.of_no_bindings within bracket context.resolver).declare "framework"
      (Value.hasText_text (avoids_frameworkFolder within framework)) (by decide)
  have written : ∀ buffer, ∀ package ∈ packages,
      OutputBuffer.writeIn buffer
        (context.resolver.declare "framework" (.text (frameworkFolder framework))).1
        [("package", Value.ofJson package.toJson)] packageItem =
          .ok (buffer.writeVerbatim (packageText framework package)) :=
    fun buffer package member =>
      provides.writeIn_eq (package_fits (avoids package member)) (by decide)
        packageItem_closes buffer
  unfold render
  dsimp only
  rw [OutputBuffer.foldlM_eq written, bind_ok]
  simp only [OutputBuffer.writeVerbatim_writeVerbatim]
  rw [OutputBuffer.finalize_empty_writeVerbatim]
  rfl

/-- The list of the packages of a context can be written, or asked to be removed. -/
theorem pending_eq (within : avoided ⊆ separators) (bracket : '[' ∈ avoided)
    {context : GenerationContext} (avoids : context.Avoids avoided) (framework : String) :
    pending context framework = .ok
      (if packages context = [] then .staleShared (path context)
      else .shared (path context) (OutputBuffer.removeTaggedLines
        (listStart ++ String.join ((packages context).map (packageText framework)) ++
          listEnd))) := by
  have rendered := render_eq within bracket context
    (fun package member => avoids_of_mem_packages avoids member) framework
  unfold pending
  split
  · rename_i noPackages
    rw [if_pos noPackages]
  · rename_i somePackages
    rw [if_neg somePackages, rendered]
    rfl

end Format.PackageList

end ProjectFiles
