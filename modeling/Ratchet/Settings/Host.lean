import Ratchet.Path

namespace Ratchet

/-!
# The host

What settings may depend on besides documents: the working directory, the home
directories, the environment variables, and what the machine has to say of names
that no place and no fact is known under.
-/

/-- Why a machine does not say what a name stands for. -/
structure Host.Refusal where
  message : String
  /-- True if the fault lies in the name. -/
  isMalformed : Bool
  deriving DecidableEq

/-- Where a program runs. -/
structure Host where
  directory : Path
  home : Path
  environment : List (String × String) := []
  /-- The home directories of other users. -/
  accounts : List (String × Path) :=
    [("root", .ofText "/root"), ("daemon", .ofText "/usr/sbin"), ("bin", .ofText "/bin"),
      ("nobody", .ofText "/nonexistent")]
  /-- True if log files are opened.  Where another log stands in for the program's
  own, as in a trial, none is. -/
  opensLogs : Bool := true
  /-- The text that a further name of the machine stands for, if it stands for
  one. -/
  further : String → Except Host.Refusal (Option String) := fun _ => .ok none

namespace Host

/-- The name of the program that settings are for. -/
def programName : String := "strictify"

/-- The value of an environment variable. -/
def valueOf? (host : Host) (name : String) : Option String :=
  host.environment.lookup name

/-- A path whose first component starts with `~` taken from a home directory:
one's own, or that of the user whose name follows. -/
def expandHome? (host : Host) (p : Path) : Option Path :=
  match p.root, p.parts with
  | .none, first :: rest =>
    match first.toList with
    | ['~'] => some ⟨host.home.root, host.home.parts ++ rest⟩
    | '~' :: user =>
      (host.accounts.lookup (String.ofList user)).map fun home => ⟨home.root, home.parts ++ rest⟩
    | _ => some p
  | _, _ => some p

end Host

end Ratchet
