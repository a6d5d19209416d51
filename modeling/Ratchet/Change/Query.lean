import Ratchet.Change.Revision

namespace Ratchet

/-!
# Queries

The three questions that are put to version control.
-/

/-- A question to version control. -/
inductive Query where
  /-- Where did a branch fork from its target? -/
  | forkPoint (branch target : String)
  /-- Which paths does the working tree touch? -/
  | workingTree
  /-- Which files differ between a revision and a head? -/
  | diff (base : Revision) (head : String)
  deriving DecidableEq

end Ratchet
