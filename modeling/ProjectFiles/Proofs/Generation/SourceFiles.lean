import Mathlib.Data.List.Destutter
import ProjectFiles.Proofs.Model.Texts
import ProjectFiles.Proofs.Sorting
import ProjectFiles.Proofs.Text.Lowercase

/-!
# Source files of a project

Source files are sorted by the lower-case forms of their include paths, and one is left out
when it differs from the one before it in the case of ASCII letters only.  Every source file is
listed in this way.  It is listed once where include paths of one lower-case form differ in
nothing else, so whenever all of them are ASCII; other letters have a lower-case form, too, and
may stand between two entries with the same include path.
-/

namespace ProjectFiles.GenerationContext

open Text

variable {context : GenerationContext}
variable {entry kept : String × String} {entries : List (String × String)}

/-! ## Order -/

/-- Order by include path, without regard to case. -/
def compareIncludes : String × String → String × String → Ordering :=
  compareOn fun entry => Text.lowercase entry.1

instance : Std.TransCmp compareIncludes :=
  inferInstanceAs (Std.TransCmp (compareOn fun entry : String × String => Text.lowercase entry.1))

theorem includeLE_eq : includeLE = fun left right => (compareIncludes left right).isLE := by
  funext left right
  unfold includeLE compareIncludes compareOn
  cases compare (Text.lowercase left.1) (Text.lowercase right.1) <;> rfl

theorem isLE_compareIncludes_iff {left right : String × String} :
    (compareIncludes left right).isLE = true ↔ lowercase left.1 ≤ lowercase right.1 :=
  isLE_compareOfLessAndEq String.le_antisymm String.not_le String.le_total

theorem compareIncludes_eq_iff {left right : String × String} :
    compareIncludes left right = .eq ↔ lowercase left.1 = lowercase right.1 :=
  Std.LawfulEqOrd.compare_eq_iff_eq (a := lowercase left.1) (b := lowercase right.1)

/-! ## Repetitions -/

/-- Whether the include paths of two entries differ in more than the case of ASCII letters. -/
def Differ (former latter : String × String) : Prop :=
  sameIgnoringAsciiCase former.1 latter.1 = false

instance : DecidableRel Differ := fun former latter =>
  inferInstanceAs (Decidable (sameIgnoringAsciiCase former.1 latter.1 = false))

theorem cons_dropAfter (kept : String × String) (entries : List (String × String)) :
    kept :: dropRepeated.dropAfter kept entries = entries.destutter' Differ kept := by
  induction entries generalizing kept with
  | nil => rfl
  | cons entry rest ih =>
      rw [dropRepeated.dropAfter, sameIgnoringAsciiCase_comm]
      by_cases differ : Differ kept entry
      · rw [List.destutter'_cons_pos rest differ, differ, if_neg nofun, ih]
      · rw [List.destutter'_cons_neg rest differ, if_pos (Bool.not_eq_false _ ▸ differ), ih]

/-- Every entry differs from the one before it, as far as it is kept. -/
theorem dropRepeated_eq_destutter (entries : List (String × String)) :
    dropRepeated entries = entries.destutter Differ := by
  cases entries with
  | nil => rfl
  | cons entry rest => exact cons_dropAfter entry rest

/-- An entry that is left out differs from one that is kept in the case of ASCII letters. -/
theorem exists_same_of_mem_dropAfter (kept : String × String) (member : entry ∈ entries) :
    ∃ other ∈ kept :: dropRepeated.dropAfter kept entries,
      sameIgnoringAsciiCase entry.1 other.1 = true := by
  induction entries generalizing kept with
  | nil => cases member
  | cons first rest ih =>
      rw [dropRepeated.dropAfter]
      cases repeated : sameIgnoringAsciiCase first.1 kept.1 with
      | true =>
          rw [if_pos rfl]
          rcases List.mem_cons.1 member with rfl | inRest
          · exact ⟨kept, List.mem_cons_self, repeated⟩
          · exact ih kept inRest
      | false =>
          rw [if_neg nofun]
          rcases List.mem_cons.1 member with rfl | inRest
          · exact ⟨entry, by simp, sameIgnoringAsciiCase_iff.2 rfl⟩
          · obtain ⟨other, isKept, same⟩ := ih first inRest
            exact ⟨other, List.mem_cons_of_mem _ isKept, same⟩

theorem exists_same_of_mem (member : entry ∈ entries) :
    ∃ other ∈ dropRepeated entries, sameIgnoringAsciiCase entry.1 other.1 = true := by
  cases entries with
  | nil => cases member
  | cons first rest =>
      rcases List.mem_cons.1 member with rfl | inRest
      · exact ⟨entry, List.mem_cons_self, sameIgnoringAsciiCase_iff.2 rfl⟩
      · exact exists_same_of_mem_dropAfter first inRest

/-! ## Source files -/

theorem isLE_sourceFiles (context : GenerationContext) :
    context.sourceFiles.Pairwise fun former latter =>
      (compareIncludes former latter).isLE = true := by
  have sorted : ((context.project.sourceFiles.map context.sourceEntry).mergeSort
      fun left right => (compareIncludes left right).isLE).Pairwise fun former latter =>
        (compareIncludes former latter).isLE = true := Sorting.pairwise_mergeSort_isLE _
  rw [← includeLE_eq] at sorted
  rw [sourceFiles, dropRepeated_eq_destutter]
  exact sorted.sublist (List.destutter_sublist Differ _)

theorem isChain_sourceFiles (context : GenerationContext) :
    context.sourceFiles.IsChain Differ := by
  rw [sourceFiles, dropRepeated_eq_destutter]
  exact List.isChain_destutter Differ _

theorem exists_same_of_mem_sourceFiles {file : Path} (member : file ∈ context.project.sourceFiles) :
    ∃ entry ∈ context.sourceFiles,
      sameIgnoringAsciiCase (context.sourceEntry file).1 entry.1 = true :=
  exists_same_of_mem (List.mem_mergeSort.2 (List.mem_map_of_mem member))

/-- Behind an entry that is listed again there is one of the same lower-case form that differs
from it in more than the case of ASCII letters. -/
theorem exists_between {former between latter : List (String × String)}
    {left right : String × String}
    (listed : context.sourceFiles = former ++ left :: (between ++ right :: latter))
    (repeated : sameIgnoringAsciiCase left.1 right.1 = true) :
    ∃ other ∈ between.head?, lowercase other.1 = lowercase left.1 ∧
      sameIgnoringAsciiCase left.1 other.1 = false := by
  have chain := isChain_sourceFiles context
  have ordered := isLE_sourceFiles context
  rw [listed] at chain ordered
  have chainBehind := (List.isChain_append.1 chain).2.1
  have orderedBehind := (List.pairwise_append.1 ordered).2.1
  cases between with
  | nil =>
      have differ : Differ left right := (List.isChain_cons_cons.1 chainBehind).1
      rw [Differ, repeated] at differ
      cases differ
  | cons other rest =>
      rw [List.cons_append] at chainBehind orderedBehind
      obtain ⟨fromLeft, toRight⟩ := List.pairwise_cons.1 orderedBehind
      have above := isLE_compareIncludes_iff.1 (fromLeft other List.mem_cons_self)
      have below := isLE_compareIncludes_iff.1
        ((List.pairwise_cons.1 toRight).1 right (by simp))
      rw [← lowercase_eq_of_same repeated] at below
      exact ⟨other, rfl, String.le_antisymm below above, (List.isChain_cons_cons.1 chainBehind).1⟩

/-- Entries differ where include paths of one lower-case form differ in nothing but the case of
ASCII letters. -/
theorem pairwise_differ_sourceFiles
    (alike : ∀ left ∈ context.project.sourceFiles, ∀ right ∈ context.project.sourceFiles,
      lowercase (context.sourceEntry left).1 = lowercase (context.sourceEntry right).1 →
        sameIgnoringAsciiCase (context.sourceEntry left).1 (context.sourceEntry right).1 = true) :
    context.sourceFiles.Pairwise fun former latter =>
      sameIgnoringAsciiCase former.1 latter.1 = false := by
  have apart : context.sourceFiles.IsChain fun former latter =>
      compareIncludes former latter ≠ .eq := by
    refine (isChain_sourceFiles context).imp_of_mem_imp fun former latter isFormer isLatter differ
      equal => ?_
    obtain ⟨left, isLeft, rfl⟩ := mem_sourceFiles isFormer
    obtain ⟨right, isRight, rfl⟩ := mem_sourceFiles isLatter
    rw [Differ, alike left isLeft right isRight (compareIncludes_eq_iff.1 equal)] at differ
    cases differ
  refine (Sorting.increasing_of_neighbours (isLE_sourceFiles context) apart).imp ?_
  intro former latter below
  rw [← Bool.not_eq_true]
  intro same
  rw [compareIncludes_eq_iff.2 (lowercase_eq_of_same same)] at below
  cases below

/-- How the source files of a project are listed: in the order of their lower-case forms, and
every file up to the case of ASCII letters.  An entry that is listed again has one behind it of
the same lower-case form that differs in other letters; so each file is listed once where there
are no such files. -/
structure ListsSourceFiles (context : GenerationContext) : Prop where
  ordered : context.sourceFiles.Pairwise fun former latter =>
    lowercase former.1 ≤ lowercase latter.1
  complete : ∀ file ∈ context.project.sourceFiles, ∃ entry ∈ context.sourceFiles,
    sameIgnoringAsciiCase (context.sourceEntry file).1 entry.1 = true
  sound : ∀ entry ∈ context.sourceFiles, ∃ file ∈ context.project.sourceFiles,
    context.sourceEntry file = entry
  interrupted : ∀ former left between right latter,
    context.sourceFiles = former ++ left :: (between ++ right :: latter) →
    sameIgnoringAsciiCase left.1 right.1 = true →
    ∃ other ∈ between.head?, lowercase other.1 = lowercase left.1 ∧
      sameIgnoringAsciiCase left.1 other.1 = false
  apart : (∀ left ∈ context.project.sourceFiles, ∀ right ∈ context.project.sourceFiles,
      lowercase (context.sourceEntry left).1 = lowercase (context.sourceEntry right).1 →
        sameIgnoringAsciiCase (context.sourceEntry left).1 (context.sourceEntry right).1 = true) →
    context.sourceFiles.Pairwise fun former latter =>
      sameIgnoringAsciiCase former.1 latter.1 = false

theorem lists_sourceFiles (context : GenerationContext) : ListsSourceFiles context where
  ordered := (isLE_sourceFiles context).imp isLE_compareIncludes_iff.1
  complete _ := exists_same_of_mem_sourceFiles
  sound _ := mem_sourceFiles
  interrupted _ _ _ _ _ := exists_between
  apart := pairwise_differ_sourceFiles

/-- The context of a library with these source files. -/
def libraryContext (files : List Path) : GenerationContext where
  project :=
    { name := "Lib", kind := .cpp, sourceRoot := ⟨"/w"⟩, sourceFiles := files,
      configurations := [] }
  file := ⟨"/w/Lib.vcxproj"⟩
  first := (Configuration.new "Lib" "Debug" "x64").withProjectFile ⟨"/w/Lib.vcxproj"⟩
  others := []
  dependencies := []
  settings := {}
  warnings := []

/-- With ASCII names a file is listed once, in whatever cases it is given. -/
theorem lists_sourceFiles_ascii :
    (libraryContext [⟨"list.h"⟩, ⟨"hash.h"⟩, ⟨"List.h"⟩]).sourceFiles.Pairwise
      fun former latter => sameIgnoringAsciiCase former.1 latter.1 = false := by
  refine (lists_sourceFiles _).apart fun left isLeft right isRight => ?_
  have entries : (libraryContext [⟨"list.h"⟩, ⟨"hash.h"⟩, ⟨"List.h"⟩]).project.sourceFiles.map
      (libraryContext []).sourceEntry = [("list.h", "h"), ("hash.h", "h"), ("List.h", "h")] := by
    decide +kernel
  have ascii : ∀ entry ∈ [("list.h", "h"), ("hash.h", "h"), ("List.h", "h")],
      IsAscii entry.1 := by
    decide
  rw [← entries] at ascii
  exact same_of_lowercase_eq (ascii _ (List.mem_map_of_mem isLeft))
    (ascii _ (List.mem_map_of_mem isRight))

/-- A file with an accented capital is listed twice when one with the small letter comes
between. -/
theorem sourceFiles_of_accentedCapital :
    (libraryContext [⟨"É.h"⟩, ⟨"é.h"⟩, ⟨"É.h"⟩]).sourceFiles =
      [("É.h", "h"), ("é.h", "h"), ("É.h", "h")] := by
  have entries : (libraryContext [⟨"É.h"⟩, ⟨"é.h"⟩, ⟨"É.h"⟩]).project.sourceFiles.map
      (libraryContext [⟨"É.h"⟩, ⟨"é.h"⟩, ⟨"É.h"⟩]).sourceEntry =
      [("É.h", "h"), ("é.h", "h"), ("É.h", "h")] := by
    decide +kernel
  have sorted : [("É.h", "h"), ("é.h", "h"), ("É.h", "h")].Pairwise
      fun former latter => includeLE former latter = true := by
    decide +kernel
  rw [sourceFiles, entries, List.mergeSort_of_pairwise sorted]
  decide +kernel

end ProjectFiles.GenerationContext
