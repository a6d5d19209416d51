import Ratchet.Proofs.Text.Lines
import Ratchet.Shell.Command

namespace Ratchet

namespace Shell

/-!
# Output repeated in the log

A call may ask for the lines of its output to be repeated in the log.  They
follow the message that tells how the command has ended, one message for each
line, and there are no others behind that message.

The lines are those of both streams put together as they are, with nothing
between them.  So the log has the lines of the one stream and then those of the
other exactly if the streams stand apart.  If they do not, one message takes
the place of two: it has the last line of the one and the first line of the
other.
-/

/-- The message that tells how a command has ended. -/
def Call.endMessage (call : Call) (outcome : Outcome) : Record :=
  .ofLevel .spew "Command exited"
    [("command", .text call.command), ("exited", .int outcome.exited)]

/-- The message that repeats a line. -/
def repeated (level line : String) : Record :=
  ⟨level, "\x7bline\x7d", [("line", .text (Text.stripEnd line))]⟩

theorem records_echoLines (level output : String) :
    (echoLines level output).journal.records = (Text.lines output).map (repeated level) := by
  simp only [echoLines, Noted.journal_bind, Noted.journal_each, Noted.journal_note,
    Noted.journal_pure, List.append_nil, Journal.records]
  induction Text.lines output with
  | nil => rfl
  | cons line rest ih => exact congrArg (repeated level line :: ·) ih

theorem records_echo {call : Call} {level : String} (asked : call.echo = some level)
    (named : level ≠ "") (reply : Reply) :
    (echo call reply).journal.records =
      (Text.lines (reply.stdout ++ reply.stderr)).map (repeated level) := by
  rw [← records_echoLines, echo, asked]
  split
  · next none => cases none
  · next empty =>
    cases empty
    contradiction
  · next same =>
    cases same
    rfl

/-- A reply that is no refusal has its outcome, and is repeated. -/
theorem conclude_of_accepted {call : Call} {reply : Reply} (accepted : call.refuses reply = false) :
    (conclude call reply).value = .ok (call.outcome reply) ∧
      (conclude call reply).journal.records =
        call.endMessage (call.outcome reply) :: (echo call reply).journal.records := by
  rw [conclude, accepted]
  refine ⟨rfl, ?_⟩
  simp only [Bool.false_eq_true, if_false, Noted.journal_bind, Noted.journal_log,
    Noted.journal_pure, List.append_nil]
  rfl

/-- What a call says before its command has ended. -/
def preamble (call : Call) (reply : Reply) : List Record :=
  .ofLevel .spew "Running command"
      [("command", .text call.command), ("cwd", .text call.directoryText)] ::
    (warnIfExpired call reply).journal.records

theorem message_of_mem_preamble {call : Call} {reply : Reply} {record : Record}
    (member : record ∈ preamble call reply) : record.message ≠ "Command exited" := by
  rcases List.mem_cons.mp member with rfl | warned
  · exact (by decide : "Running command" ≠ "Command exited")
  · unfold warnIfExpired at warned
    split at warned
    · rcases List.mem_singleton.mp warned with rfl
      exact (by decide : "Command timed out" ≠ "Command exited")
    · cases warned

/-- What a call says behind the message that tells how its command has ended
is what it repeats of the output. -/
theorem records_execute {shell : Shell} {call : Call} {outcome : Outcome}
    (ended : (execute shell call).value = .ok outcome) :
    outcome = call.outcome (shell call.fullText) ∧
      (execute shell call).journal.records =
        preamble call (shell call.fullText) ++
          call.endMessage outcome :: (echo call (shell call.fullText)).journal.records := by
  let reply := shell call.fullText
  have concludes : (conclude call reply).value = .ok outcome := ended
  have accepted : call.refuses reply = false := by
    cases refused : call.refuses reply with
    | false => rfl
    | true =>
      rw [conclude, if_pos refused] at concludes
      cases concludes
  rcases conclude_of_accepted accepted with ⟨value, records⟩
  have same : outcome = call.outcome reply := Except.ok.inj (concludes.symm.trans value)
  refine ⟨same, ?_⟩
  rw [same, ← records, preamble, List.cons_append, ← Journal.records_append]
  rfl

/-- A call that asks for it has the lines of both streams repeated in the log,
behind the message that tells how its command has ended.  There is one message
for each line of the one stream and then one for each line of the other exactly
if the streams stand apart.  Otherwise one message has the last line of the one
together with the first line of the other. -/
theorem execute_repeats_iff (shell : Shell) (call : Call) {level : String} {outcome : Outcome}
    (asked : call.echo = some level) (named : level ≠ "")
    (ended : (execute shell call).value = .ok outcome) :
    ∃ before after : List Record,
      (∀ record ∈ before, record.message ≠ "Command exited") ∧
      (execute shell call).journal.records = before ++ call.endMessage outcome :: after ∧
      (after = (Text.lines outcome.stdout ++ Text.lines outcome.stderr).map (repeated level) ↔
        Text.standApart outcome.stdout outcome.stderr = true) ∧
      (Text.standApart outcome.stdout outcome.stderr = false →
        ∃ earlier last first later,
          Text.lines outcome.stdout = earlier ++ [last] ∧
          Text.lines outcome.stderr = first :: later ∧
          after = (earlier ++ (last ++ first) :: later).map (repeated level)) := by
  rcases records_execute ended with ⟨same, records⟩
  rw [records_echo asked named] at records
  have stdout : (shell call.fullText).stdout = outcome.stdout := by rw [same]; rfl
  have stderr : (shell call.fullText).stderr = outcome.stderr := by rw [same]; rfl
  rw [stdout, stderr] at records
  refine ⟨_, _, fun record => message_of_mem_preamble, records, ⟨?_, ?_⟩, ?_⟩
  · intro separate
    have lengths := congrArg List.length separate
    rw [List.length_map, List.length_map, List.length_append] at lengths
    exact Text.standApart_of_length_lines lengths
  · intro apart
    rw [Text.lines_append_of_standApart apart]
  · intro joined
    rcases Text.exists_joined_lines joined with
      ⟨earlier, last, first, later, whole, wholeRest, both⟩
    exact ⟨earlier, last, first, later, whole, wholeRest, congrArg _ both⟩

/-- The command has run out of its time, and both streams have several lines. -/
theorem execute_repeats_iff_expired :
    let shell : Shell := fun _ => ⟨"a  \r\nb\x0c", "\tc\t\n\n", 7, true⟩
    let call : Call := { command := "slow", timeout := some 1, echo := some "info" }
    let outcome : Outcome := ⟨"a  \r\nb\x0c", "\tc\t\n\n", -1⟩
    (execute shell call).value = .ok outcome ∧
      (∃ before, (∀ record ∈ before, record.message ≠ "Command exited") ∧
        (execute shell call).journal.records =
          before ++
            call.endMessage outcome :: ["a  ", "b", "\tc\t", ""].map (repeated "info")) ∧
      ["a  ", "b", "\tc\t", ""].map Text.stripEnd = ["a", "b", "\tc", ""] := by
  intro shell call outcome
  have ended : (execute shell call).value = .ok outcome := rfl
  have apart : Text.standApart outcome.stdout outcome.stderr = true := by decide
  have lines : Text.lines outcome.stdout ++ Text.lines outcome.stderr =
      ["a  ", "b", "\tc\t", ""] := by
    decide +kernel
  rcases execute_repeats_iff shell call rfl (by decide) ended with
    ⟨before, after, quiet, records, separate, _⟩
  refine ⟨ended, ⟨before, quiet, ?_⟩, by decide +kernel⟩
  rw [records, separate.mpr apart, lines]

/-- The one stream leaves its line open, and there is one message for two
lines. -/
theorem execute_repeats_joined :
    let shell : Shell := fun _ => ⟨"out", "err", 0, false⟩
    let call : Call := { command := "build", echo := some "info" }
    (execute shell call).value = .ok ⟨"out", "err", 0⟩ ∧
      (execute shell call).journal.records =
        preamble call (shell call.fullText) ++
          [call.endMessage ⟨"out", "err", 0⟩, repeated "info" "outerr"] ∧
      Text.lines "out" ++ Text.lines "err" = ["out", "err"] :=
  ⟨rfl, rfl, by decide⟩

end Shell

end Ratchet
