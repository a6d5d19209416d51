import Ratchet.Text.Case

namespace Ratchet

/-!
# Levels

Seven levels of importance, each with the number at which it starts.  A name
in any case names its level and every other name counts as `info`; a number
belongs to the most important level whose start it reaches.
-/

/-- How important a record is. -/
inductive Level where
  | spew
  | trace
  | debug
  | info
  | warn
  | error
  | fatal
  deriving DecidableEq, Inhabited

namespace Level

/-- Every level, the least important one first. -/
def all : List Level :=
  [.spew, .trace, .debug, .info, .warn, .error, .fatal]

def name : Level → String
  | .spew => "spew"
  | .trace => "trace"
  | .debug => "debug"
  | .info => "info"
  | .warn => "warn"
  | .error => "error"
  | .fatal => "fatal"

/-- The number at which a level starts. -/
def severity : Level → Int
  | .spew => 1
  | .trace => 3
  | .debug => 5
  | .info => 9
  | .warn => 13
  | .error => 17
  | .fatal => 21

/-- The level that a name stands for in any case of its letters. -/
def named? (name : String) : Option Level :=
  all.find? fun level => level.name == Text.lower name

/-- The level of a name, `info` if it is no level's. -/
def ofName (name : String) : Level :=
  (named? name).getD .info

/-- The most important level whose start a number reaches. -/
def ofSeverity (number : Int) : Level :=
  (all.reverse.find? fun level => level.severity ≤ number).getD .spew

end Level

end Ratchet
