import Ratchet.Compiler.Match
import Ratchet.Compiler.Toggle

namespace Ratchet

/-!
# Requests

A request says what one check is about.  It names branches, not revisions:
finding the point at which the work left its target is part of the check.
-/

/-- What is to be checked: under which switches, against which branch, without
the files of which other branches, and how lines are attributed to files. -/
structure Request where
  options : Strictness := .full
  targetBranch : String
  ignoreBranches : List String := []
  matchMode : MatchMode := .substring

end Ratchet
