import Ratchet.Check.Event

namespace Ratchet

/-!
# Reports

What a finished check says: how many lines of diagnostics hit included files,
and the events that led there.
-/

/-- The result of a check in one number: lines of diagnostics, not files. -/
structure Outcome where
  errorCount : Int
  deriving DecidableEq, Inhabited

namespace Outcome

/-- A check succeeds when no diagnostic hits an included file. -/
def success (o : Outcome) : Bool :=
  o.errorCount == 0

end Outcome

/-- An outcome and the events that led to it. -/
structure Report where
  outcome : Outcome
  events : List Event
  deriving DecidableEq

namespace Report

/-- Sets the verdict on a file, which keeps its place if it has one. -/
def setVerdict (file : String) (failing : Bool) : List (String × Bool) → List (String × Bool)
  | [] => [(file, failing)]
  | (name, verdict) :: rest =>
    if name = file then (file, failing) :: rest
    else (name, verdict) :: setVerdict file failing rest

/-- The verdicts among events, the last one on a file counting. -/
def verdicts (events : List Event) : List (String × Bool) :=
  events.foldl (fun built event =>
    match event with
    | .verdict file failing _ => setVerdict file failing built
    | _ => built) []

/-- For every included file whether it has a diagnostic. -/
def fileResults (r : Report) : List (String × Bool) :=
  verdicts r.events

end Report

end Ratchet
