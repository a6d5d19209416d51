import Ratchet.Check.Verdict
import Ratchet.Settings.Load

namespace Ratchet

/-!
# The program

One run from the command line: settings are loaded, and the check command, if
it is given, decides the exit code.  A command line that asks for help or
gives no command ends well, one that is not understood does not.
-/

namespace Program

/-- How a run ends. -/
inductive End where
  | exit (code : Nat)
  | failed (failure : Launch.Failure)

/-- The exit code of a command line that is not understood. -/
def misused : Nat := 2

/-- A run by way of a shell. -/
def run (host : Host) (disk : Disk) (arguments : List String) (shell : Shell) : Noted End :=
  match Launch.load { host, disk, arguments, mayCheck := true } with
  | .error (.commandLine .help) => pure (.exit 0)
  | .error (.commandLine .wrong) => pure (.exit misused)
  | .error failure => pure (.failed failure)
  | .ok settings =>
    match settings.check with
    | none => pure (.exit 0)
    | some command => do return .exit (← Verdict.run settings.config command shell)

/-! ## Replies that come one by one -/

/-- The reply to a command that nobody answers. -/
def unanswered : Reply where
  stdout := ""
  stderr := "command not found"
  exited := 127
  timedOut := false

/-- A shell that has the replies to some commands. -/
def shellOf (replies : List (String × Reply)) : Shell := fun command =>
  (replies.lookup command).getD unanswered

/-- The first command of a run to which there is no reply yet. -/
def pending? (replies : List (String × Reply)) (journal : Journal) : Option String :=
  journal.commands.find? fun command => (replies.lookup command).isNone

/-- A run by way of known replies. -/
def runWith (host : Host) (disk : Disk) (arguments : List String)
    (replies : List (String × Reply)) : Noted End :=
  run host disk arguments (shellOf replies)

/-- The reply that a mapping describes.  What it leaves out is empty, zero or
false. -/
def replyOf (v : Value) : Reply :=
  let part? (name : String) : Option Value :=
    match v with
    | .map entries => Mapping.field? name entries
    | _ => none
  let text (name : String) : String :=
    match part? name with
    | some (.scalar (.text s)) => s
    | _ => ""
  { stdout := text "stdout"
    stderr := text "stderr"
    exited := match part? "exited" with
      | some (.scalar (.int n)) => n
      | _ => 0
    timedOut := match part? "timed_out" with
      | some (.scalar (.bool b)) => b
      | _ => false }

/-- The file that a run needs next, if it failed for want of one. -/
def wanted? : End → Option Path
  | .failed (.documents (.disk (.missing path))) => some path
  | _ => none

/-- What is wrong with the settings, a line for each issue. -/
def explanation : Launch.Failure → List String
  | .documents error => [error.message]
  | .commandLine (.help) | .commandLine .wrong => []
  | .commandLine fault => [fault.message]
  | .namedValue fault => [fault.message]
  | .nameWithoutLetters type => [s!"'{type}' object has no attribute 'lower'"]
  | .nameNotText => ["keywords must be strings"]
  | .invalid issues => issues.map fun issue =>
      String.intercalate "." (issue.location.map fun place => match place with
        | .field name => name
        | .index n => toString n) ++ ": " ++ issue.fault.message
  | .reference failure => [failure.message]
  | .logFile fault => [fault.message]

end Program

end Ratchet
