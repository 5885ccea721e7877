import ProjectFiles.Path.Basic

/-!
# Settings of generation
-/

namespace ProjectFiles

/-- How configurations that disagree on dependencies are reported. -/
inductive DependencyCheck where
  | ignore
  | warn
  | error
  deriving DecidableEq, Repr

/-- Settings of a generation run. -/
structure Settings where
  dependencyCheck : DependencyCheck := .warn
  /-- Whether independent projects may be generated at the same time. -/
  parallel : Bool := true
  /-- Whether changed outputs that are read-only are made writable and
  replaced. -/
  overwriteReadOnly : Bool := true
  /-- Where the outputs of a run are recorded, so that a later run can remove
  those it no longer produces. -/
  cleanupDatabase : Option Path := none
  caseSensitivePlaceholders : Bool := true
  deriving DecidableEq, Repr, Inhabited

end ProjectFiles
