import Ratchet.Change.Status
import Ratchet.Template
import Ratchet.Timing

namespace Ratchet

/-!
# Version control

What the check asks of version control, whatever answers it.  Each answer is
a function of its question, and each may fail for a reason of its own.  So a
question that is put twice in one check, as about a branch that is listed twice,
is answered alike both times; version control that changes in between is not
covered.  When the answers come is told beside them.
-/

namespace Vcs

/-- Why a question was not answered. -/
inductive Failure where
  /-- No command is known for a question of this name. -/
  | unknownCommand (name : String)
  /-- The command for a question could not be built. -/
  | template (error : Template.Error)
  /-- The command failed. -/
  | refused (command : String) (exited : Int) (detail : String)
  /-- The answer has not the form of an answer. -/
  | malformed
  /-- Some other reason. -/
  | stated (reason : String)
  deriving DecidableEq

def Failure.message : Failure → String
  | .unknownCommand name => Text.quoted name
  | .template error => error.message
  | .refused command exited detail => s!"{command} exited with {exited}: {detail}"
  | .malformed => "malformed answer"
  | .stated reason => reason

end Vcs

/-- Answers to the questions of the check. -/
structure Vcs where
  forkPoint : (branch target : String) → Answered (Except Vcs.Failure (Option Revision))
  workingTree : Answered (Except Vcs.Failure Status)
  diff : (base : Revision) → (head : String) → Answered (Except Vcs.Failure (List String))
  timing : Timing := {}

end Ratchet
