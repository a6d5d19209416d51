import Ratchet.Check.Event

namespace Ratchet

/-!
# The state of a check

What a check has found out so far.  Exclusions are a set: only which files
they hold counts, not their order.
-/

namespace Check

/-- What a check has found out so far. -/
structure State where
  sinceRevision : Option Revision := none
  exclusions : List String := []
  changedFiles : List String := []
  includedFiles : List String := []
  diagnosticLines : List String := []
  errorCount : Int := 0
  events : List Event := []
  status : String := "pending"
  deriving DecidableEq

/-- Nothing found out yet. -/
def State.fresh : State := {}

/-- The status of a check that is under way. -/
def running : String := "running"

/-- The status of a check that has come to its end. -/
def complete : String := "complete"

end Check

end Ratchet
