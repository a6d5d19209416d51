import Ratchet.Compiler.Toggle
import Ratchet.Shell.Command
import Ratchet.Shell.Word

namespace Ratchet

/-!
# Invoking the compiler

The compiler is run once over the whole project.  Exit code 0 means that
there is nothing to report; certain other codes mean that diagnostics were
reported, on both streams; every other end, and the end of the time limit, is
a failure of the compiler itself.
-/

namespace Compiler

/-- Why the compiler did not do its work. -/
inductive Failure where
  /-- It ended with a code that reports no diagnostics. -/
  | exited (command : String) (code : Int) (detail : String)
  /-- It ran out of its time. -/
  | timedOut (command : String) (limit : Option Int) (detail : String)
  /-- Some other reason. -/
  | stated (reason : String)
  deriving DecidableEq

def Failure.message : Failure → String
  | .exited command code detail => s!"{command} exited with {code}: {detail}"
  | .timedOut command limit detail =>
    let limit := match limit with
      | some seconds => s!"{seconds}"
      | none => "None"
    s!"{command} timed out after {limit}s: {detail}"
  | .stated reason => reason

end Compiler

/-- Something that checks the project under given arguments: the combined
output if there are diagnostics, and an empty text otherwise. -/
abbrev Compiler := (arguments : List String) → Answered (Except Compiler.Failure String)

namespace Compiler

/-- The exit codes that usually mean that diagnostics were reported. -/
def usualCodes : List Int := [1, 2]

/-- A compiler command in a directory. -/
structure Setup where
  directory : Path
  command : String := "tsc"
  codes : List Int := usualCodes
  timeout : Option Int := none

/-- The compiler's command with arguments, each quoted as one word. -/
def commandLine (command : String) (arguments : List String) : String :=
  Text.join " " (command :: arguments.map Text.asWord)

/-- Two streams as one text, the second one on a line of its own. -/
def combine (stdout stderr : String) : String :=
  if stdout != "" && stderr != "" && stdout.toList.getLast? != some '\n' then
    stdout ++ "\n" ++ stderr
  else stdout ++ stderr

/-- What is said about a failure: the error stream, or else the output. -/
def detail (outcome : Shell.Outcome) : String :=
  let stderr := Text.strip outcome.stderr
  if stderr = "" then Text.strip outcome.stdout else stderr

/-- What the end of the compiler's command means. -/
def Setup.read (setup : Setup) (command : String) (outcome : Shell.Outcome) :
    Except Failure String :=
  if outcome.exited == 0 then .ok ""
  else if setup.codes.contains outcome.exited then .ok (combine outcome.stdout outcome.stderr)
  else if outcome.exited == -1 then .error (.timedOut command setup.timeout (detail outcome))
  else .error (.exited command outcome.exited (detail outcome))

/-- How the compiler's command is run. -/
def Setup.call (setup : Setup) (arguments : List String) : Shell.Call where
  command := commandLine setup.command arguments
  directory := some setup.directory
  timeout := setup.timeout
  check := false

/-- Runs the compiler's command and says what its end means. -/
def Setup.compile (setup : Setup) (shell : Shell) (arguments : List String) :
    Noted (Except Failure String) := do
  let call := setup.call arguments
  .log .info "Running compiler" [("command", .text call.command)]
  match ← Shell.execute shell call with
  | .error (.exit code) => pure (.error (.exited call.command code ""))
  | .ok outcome => pure (setup.read call.command outcome)

theorem Setup.dealings_compile (setup : Setup) (shell : Shell) (arguments : List String) :
    (setup.compile shell arguments).journal.dealings = [] := by
  simp only [compile, Noted.journal_bind, Noted.journal_log, Journal.dealings_append,
    Journal.dealings_cons_record, Journal.dealings_nil, Shell.dealings_execute, List.nil_append]
  split <;> rfl

/-- The compiler as a command of a shell. -/
def Setup.compiler (setup : Setup) (shell : Shell) : Compiler := fun arguments =>
  ⟨setup.compile shell arguments, setup.dealings_compile shell arguments⟩

/-- The lines that the compiler writes about the project. -/
def diagnosticLines (compiler : Compiler) (strictness : Strictness) :
    Noted (Except Failure (List String)) := do
  let arguments := strictness.arguments
  .note (.compile arguments)
  match ← (compiler arguments).toNoted with
  | .error failure => pure (.error failure)
  | .ok output =>
    let lines := Text.lines output
    .log .info "Compiler finished" [("diagnostic_lines", .int lines.length)]
    pure (.ok lines)

end Compiler

end Ratchet
