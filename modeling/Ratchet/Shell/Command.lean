import Ratchet.Journal
import Ratchet.Path
import Ratchet.Text.Blank
import Ratchet.Text.Lines

namespace Ratchet

/-!
# Commands

A shell answers the full text of a command with what the command wrote and
how it ended.  Running a command in a directory puts a change of directory in
front of it, in which only the blanks of the directory are protected.  A
command that runs out of its time ends with exit code -1, which is never an
error by itself; any other nonzero code is one unless the caller says
otherwise.
-/

/-- What a shell has to say about one command. -/
structure Reply where
  stdout : String
  stderr : String
  exited : Int
  timedOut : Bool
  deriving DecidableEq, Inhabited

/-- Something that answers full command texts. -/
abbrev Shell := String → Reply

namespace Shell

/-- What is written and how it ended. -/
structure Outcome where
  stdout : String
  stderr : String
  exited : Int
  deriving DecidableEq, Inhabited

/-- A command that must not fail failed. -/
inductive Failure where
  | exit (code : Int)
  deriving DecidableEq

/-- How a command is to be run. -/
structure Call where
  command : String
  directory : Option Path := none
  timeout : Option Int := none
  /-- The level at which every line of output is repeated in the log. -/
  echo : Option String := none
  check : Bool := true
  environment : List (String × String) := []

namespace Call

/-- A blank of a directory, protected. -/
def protectBlank (c : Char) : List Char :=
  if c = ' ' then ['\\', ' '] else [c]

/-- The text that changes to a directory before a command. -/
def changeTo (directory : Path) : String :=
  "cd " ++ String.ofList (directory.text.toList.flatMap protectBlank) ++ " && "

/-- The full text given to the shell. -/
def fullText (call : Call) : String :=
  match call.directory with
  | some directory => changeTo directory ++ call.command
  | none => call.command

/-- The time limit that the shell is told, if there is one. -/
def limit? (call : Call) : Option Int :=
  match call.timeout with
  | some 0 | none => none
  | some limit => some limit

/-- What the log calls the directory. -/
def directoryText (call : Call) : String :=
  match call.directory with
  | some directory => directory.text
  | none => ""

/-- The command ran out of its time. -/
def expired (call : Call) (reply : Reply) : Bool :=
  reply.timedOut && call.limit?.isSome

/-- The exit code under which a reply counts. -/
def exited (call : Call) (reply : Reply) : Int :=
  if call.expired reply then -1 else reply.exited

theorem exited_ne_zero {call : Call} {reply : Reply}
    (failed : reply.exited ≠ 0 ∨ call.expired reply = true) : call.exited reply ≠ 0 := by
  unfold exited
  split
  · decide
  · next unexpired => exact failed.resolve_right unexpired

/-- What a command writes has no part in its exit code. -/
theorem exited_congr {call : Call} {reply other : Reply} (code : other.exited = reply.exited)
    (timedOut : other.timedOut = reply.timedOut) : call.exited other = call.exited reply := by
  rw [exited, expired, code, timedOut, exited, expired]

/-- What is known of the command when it has ended. -/
def outcome (call : Call) (reply : Reply) : Outcome :=
  ⟨reply.stdout, reply.stderr, call.exited reply⟩

/-- The reply counts as a failure. -/
def refuses (call : Call) (reply : Reply) : Bool :=
  call.check && !call.expired reply && call.exited reply != 0

end Call

/-- Repeats the lines of an output in the log. -/
def echoLines (level : String) (output : String) : Noted Unit := do
  let _ ← Noted.each (fun line =>
    Noted.note (.record ⟨level, "\x7bline\x7d", [("line", .text (Text.stripEnd line))]⟩))
    (Text.lines output)

/-- Repeats both outputs in the log if the call asks for it. -/
def echo (call : Call) (reply : Reply) : Noted Unit :=
  match call.echo with
  | none | some "" => pure ()
  | some level => echoLines level (reply.stdout ++ reply.stderr)

/-- Warns of a command that ran out of its time. -/
def warnIfExpired (call : Call) (reply : Reply) : Noted Unit :=
  if call.expired reply then
    .log .warn "Command timed out"
      [("command", .text call.command), ("timeout", .int (call.limit?.getD 0))]
  else pure ()

/-- What a reply amounts to. -/
def conclude (call : Call) (reply : Reply) : Noted (Except Failure Outcome) :=
  if call.refuses reply then pure (.error (.exit (call.exited reply)))
  else do
    .log .spew "Command exited"
      [("command", .text call.command), ("exited", .int (call.exited reply))]
    echo call reply
    pure (.ok (call.outcome reply))

/-- Runs a command. -/
def execute (shell : Shell) (call : Call) : Noted (Except Failure Outcome) := do
  .log .spew "Running command"
    [("command", .text call.command), ("cwd", .text call.directoryText)]
  Noted.note (.command call.fullText call.environment)
  let reply := shell call.fullText
  warnIfExpired call reply
  conclude call reply

/-- A command that may fail has an outcome however it ends. -/
theorem value_execute_of_unchecked (shell : Shell) (call : Call) (unchecked : call.check = false) :
    (execute shell call).value = .ok (call.outcome (shell call.fullText)) := by
  have accepted : call.refuses (shell call.fullText) = false := by
    rw [Call.refuses, unchecked]
    rfl
  simp only [execute, conclude, accepted, Noted.value_bind, Bool.false_eq_true, if_false,
    Noted.value_pure]

theorem chats_echoLines (level output : String) : (echoLines level output).journal.Chats := by
  simp only [echoLines, Noted.journal_bind, Noted.journal_each, Noted.journal_note,
    Noted.journal_pure, List.append_nil]
  induction Text.lines output with
  | nil => exact .nil
  | cons line rest ih => exact .cons ih

theorem chats_echo (call : Call) (reply : Reply) : (echo call reply).journal.Chats := by
  unfold echo
  split
  · exact .nil
  · exact .nil
  · exact chats_echoLines _ _

theorem chats_warnIfExpired (call : Call) (reply : Reply) :
    (warnIfExpired call reply).journal.Chats := by
  unfold warnIfExpired
  split
  · exact .cons .nil
  · exact .nil

theorem chats_conclude (call : Call) (reply : Reply) : (conclude call reply).journal.Chats := by
  unfold conclude
  split
  · exact .nil
  · exact .cons ((chats_echo call reply).append .nil)

/-- Running a command takes messages and the command. -/
theorem journal_execute (shell : Shell) (call : Call) :
    ∃ before after : Journal, before.Chats ∧ after.Chats ∧
      (execute shell call).journal =
        before ++ .command call.fullText call.environment :: after := by
  let reply := shell call.fullText
  exact ⟨_, _, .cons .nil, (chats_warnIfExpired call reply).append (chats_conclude call reply), rfl⟩

theorem dealings_execute (shell : Shell) (call : Call) :
    (execute shell call).journal.dealings = [] := by
  rcases journal_execute shell call with ⟨before, after, first, last, whole⟩
  rw [whole, Journal.dealings_append, Journal.dealings_cons_command, first.dealings, last.dealings]
  rfl

theorem commands_execute (shell : Shell) (call : Call) :
    (execute shell call).journal.commands = [call.fullText] := by
  rcases journal_execute shell call with ⟨before, after, first, last, whole⟩
  rw [whole, Journal.commands_append, Journal.commands_cons_command, first.commands, last.commands]
  rfl

end Shell

end Ratchet
