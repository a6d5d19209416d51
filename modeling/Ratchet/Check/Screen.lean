import Ratchet.Check.Event
import Ratchet.Text.Cut

namespace Ratchet

/-!
# The screen

What a user reads while a check runs: where changes are measured from, how
many files changed, and for each checked file the lines about it and a mark.
-/

namespace Screen

/-- The mark of a file with or without diagnostics. -/
def mark (failing : Bool) : String :=
  if failing then "✗" else "✓"

/-- The lines shown for an event. -/
def lines : Event → List String
  | .since none => ["Could not find the fork point; checking uncommitted changes only"]
  | .since (some revision) => ["Checking files changed since " ++ revision.sha]
  | .changed files => [s!"Found {files.length} changed file(s)"]
  | .examine _ => []
  | .verdict file failing diagnostics => diagnostics ++ [mark failing ++ " " ++ file]

/-- The text shown for some events. -/
def text (events : List Event) : String :=
  String.join ((events.flatMap lines).map (· ++ "\n"))

end Screen

end Ratchet
