import ProjectFiles.Output.Store
import ProjectFiles.Path.Lexical
import ProjectFiles.Timestamp

/-!
# Sessions of generation

A session is what the projects of one run share.  It knows which shared outputs
have been claimed, which shared outputs are to be removed unless they are
claimed, and which files the run has produced.  Paths count as absolute paths
here, so two spellings of a path are one output.
-/

namespace ProjectFiles

/-- The state shared by the projects of a run. -/
structure Session where
  /-- The time that outputs are recorded with. -/
  clock : Timestamp
  /-- The shared outputs that somebody produces. -/
  claimed : SortedSet Path
  /-- The shared outputs to be removed unless somebody claims them. -/
  stale : SortedSet Path
  /-- The outputs produced, with their times. -/
  outputs : SortedMap Path Timestamp

namespace Session

/-- A session in which nothing has happened. -/
def new (clock : Timestamp) : Session := ⟨clock, .empty, .empty, .empty⟩

/-- Whether a shared output is claimed. -/
def isClaimed (session : Session) (path : Path) : Bool :=
  session.claimed.contains path.absolute

/-- Claim a shared output.  Only a claim on an output that nobody holds
succeeds. -/
def claim (session : Session) (path : Path) : Session × Bool :=
  if session.isClaimed path then (session, false)
  else ({ session with claimed := session.claimed.insert path.absolute () }, true)

/-- Give a claim back. -/
def release (session : Session) (path : Path) : Session :=
  { session with claimed := session.claimed.erase path.absolute }

/-- Ask for a shared output to be removed unless it is claimed. -/
def deferStale (session : Session) (path : Path) : Session :=
  { session with stale := session.stale.insert path.absolute () }

/-- Take the outputs to be removed that nobody claims, in order.  Afterwards
nothing is waiting for removal. -/
def takeUnclaimed (session : Session) : Session × List Path :=
  ({ session with stale := .empty },
    session.stale.keys.filter fun path => !session.claimed.contains path)

/-- Record an output. -/
def recordOutput (session : Session) (path : Path) : Session :=
  { session with outputs := session.outputs.insert path.absolute session.clock }

/-- Whether an output has been recorded. -/
def produced (session : Session) (path : Path) : Bool :=
  session.outputs.contains path.absolute

end Session

end ProjectFiles
