import Ratchet.Change.NameList
import Ratchet.Change.Vcs
import Ratchet.Shell.Command
import Ratchet.Shell.Word

namespace Ratchet

/-!
# Version control by commands

Each question has a command template, whose fields are filled with the values
of the question, each quoted as one shell word.  A command that fails leaves
the question unanswered, whatever it wrote, with one exception: the command
for the fork point says by exit code 1 and no output that there is none.

Commands run beside the check, so whoever has given one waits for its end.
Only a question whose command cannot be built fails at once.
-/

namespace Git

/-- Command templates by the names of their questions. -/
abbrev Templates := List (String × String)

/-- The templates used where none are given. -/
def defaults : Templates := [
  ("fork_point", "git merge-base --fork-point \x7btarget\x7d \x7bref\x7d"),
  ("status", "git status --porcelain -z --untracked-files=all"),
  ("diff_names", "git diff --name-only -z --diff-filter=d \x7bbase\x7d \x7bhead\x7d")]

/-- The exit code that says that there is no fork point. -/
def noForkPoint : Int := 1

/-- Command line version control in a directory. -/
structure Setup where
  directory : Path
  templates : Templates := []
  timeout : Option Int := none

/-- The template of a question. -/
def Setup.template? (setup : Setup) (name : String) : Option String :=
  setup.templates.lookup name <|> defaults.lookup name

/-- The command for a question, with the values of its fields quoted. -/
def Setup.command (setup : Setup) (name : String) (values : List (String × String)) :
    Except Vcs.Failure String :=
  match setup.template? name with
  | none => .error (.unknownCommand name)
  | some template =>
    match Template.fill (values.map fun (key, value) => (key, .text (Text.asWord value)))
        template with
    | .ok command => .ok command
    | .error error => .error (.template error)

/-- The command that puts a question, if its template can be filled. -/
def Setup.commandFor (setup : Setup) : Query → Except Vcs.Failure String
  | .forkPoint branch target => setup.command "fork_point" [("ref", branch), ("target", target)]
  | .workingTree => setup.command "status" []
  | .diff base head => setup.command "diff_names" [("base", base.sha), ("head", head)]

/-- Runs the command for a question and reads its outcome; the reader is given
the command's text for its complaints. -/
def Setup.ask {α : Type} (setup : Setup) (shell : Shell) (name : String)
    (values : List (String × String))
    (read : String → Shell.Outcome → Noted (Except Vcs.Failure α)) :
    Noted (Except Vcs.Failure α) :=
  match setup.command name values with
  | .error failure => pure (.error failure)
  | .ok command => do
    let result ← Shell.execute shell
      { command, directory := some setup.directory, timeout := setup.timeout, check := false }
    match result with
    | .error (.exit code) => pure (.error (.refused command code ""))
    | .ok outcome => read command outcome

theorem Setup.dealings_ask {α : Type} (setup : Setup) (shell : Shell) (name : String)
    (values : List (String × String))
    {read : String → Shell.Outcome → Noted (Except Vcs.Failure α)}
    (reads : ∀ command outcome, (read command outcome).journal.dealings = []) :
    (setup.ask shell name values read).journal.dealings = [] := by
  unfold ask
  split
  · rfl
  · simp only [Noted.journal_bind, Journal.dealings_append, Shell.dealings_execute,
      List.nil_append]
    split
    · rfl
    · exact reads _ _

/-- The complaint about a failed command. -/
def refusal (command : String) (outcome : Shell.Outcome) : Vcs.Failure :=
  .refused command outcome.exited (Text.strip outcome.stderr)

/-- The revision that the first line of an output names.  If there is no first
line, or a blank one, the output is no answer. -/
def firstRevision (output : String) : Except Vcs.Failure Revision :=
  match (Text.lines output).head?.bind Revision.ofText? with
  | some revision => .ok revision
  | none => .error .malformed

/-- What the command for the fork point says. -/
def readForkPoint (command : String) (outcome : Shell.Outcome) :
    Except Vcs.Failure (Option Revision) :=
  let output := Text.strip outcome.stdout
  if outcome.exited == noForkPoint && output == "" then .ok none
  else if outcome.exited != 0 then .error (refusal command outcome)
  else if output == "" then .ok none
  else (firstRevision output).map some

/-- What the status command says. -/
def readStatus (command : String) (outcome : Shell.Outcome) : Except Vcs.Failure Status :=
  if outcome.exited != 0 then .error (refusal command outcome)
  else .ok (Status.parse outcome.stdout)

/-- What the command for differing files says. -/
def readNames (command : String) (outcome : Shell.Outcome) :
    Except Vcs.Failure (List String) :=
  if outcome.exited != 0 then .error (refusal command outcome)
  else .ok (NameList.parse outcome.stdout)

/-- Counts the paths of a status in the log. -/
def logStatus (status : Status) : Noted Unit :=
  .log .debug "Working tree status"
    [("created", .int status.created.length), ("modified", .int status.modified.length),
      ("untracked", .int status.untracked.length)]

/-- Says what the status command says, and counts its paths in the log. -/
def reportStatus (command : String) (outcome : Shell.Outcome) :
    Noted (Except Vcs.Failure Status) := do
  let result := readStatus command outcome
  match result with
  | .ok status => logStatus status
  | .error _ => pure ()
  pure result

theorem dealings_reportStatus (command : String) (outcome : Shell.Outcome) :
    (reportStatus command outcome).journal.dealings = [] := by
  unfold reportStatus
  cases readStatus command outcome <;> rfl

/-- Version control answered by commands, which end in some order. -/
def Setup.vcs (setup : Setup) (shell : Shell)
    (order : List (List Query) → List Nat := fun _ => []) : Vcs where
  forkPoint branch target :=
    ⟨setup.ask shell "fork_point" [("ref", branch), ("target", target)] fun command outcome =>
      pure (readForkPoint command outcome), setup.dealings_ask shell _ _ fun _ _ => rfl⟩
  workingTree :=
    ⟨setup.ask shell "status" [] reportStatus,
      setup.dealings_ask shell _ _ dealings_reportStatus⟩
  diff base head :=
    ⟨setup.ask shell "diff_names" [("base", base.sha), ("head", head)] fun command outcome =>
      pure (readNames command outcome), setup.dealings_ask shell _ _ fun _ _ => rfl⟩
  timing := { atOnce := fun question => (setup.commandFor question).toOption.isNone, order }

end Git

end Ratchet
