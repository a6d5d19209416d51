import Ratchet.Proofs.Check.Tally

namespace Ratchet

namespace Check

/-!
# The commands of a check

A check gives no commands of its own.  Each command is given to answer one of
its questions or to compile, and which commands that takes depends on the
question alone, since answers are functions of their questions.  So the
commands of a check can be read off what it asks for.
-/

/-- The commands that it takes to deal with an entry of a check's journal.  Those
that answer a question have been given when the answer comes. -/
def Setting.commandsFor (setting : Setting) : Journal.Entry → List String
  | .answered question => setting.vcs.commands question
  | .compile arguments => (setting.compiler arguments).journal.commands
  | .record _ | .command .. | .query _ | .heard _ => []

variable (setting : Setting)

/-- Commands, and those that it takes to deal with something. -/
def Setting.commandTally : Tally String := ⟨Journal.Entry.command?, setting.commandsFor⟩

theorem asked_commands {α β : Type} {timing : Timing} {question : Query} {answer : Answered α}
    {f : α → Noted β} (takes : answer.journal.commands = setting.vcs.commands question)
    (chats : ∀ a, (f a).journal.Chats) :
    Journal.InTurns (Accounted setting.commandTally) timing
      (Discovery.asking question answer >>= f).journal := by
  refine inTurns_asking (chats _) rfl
    (Accounted.of_entry (show _ = [Journal.Entry.answered question] from ?_) ?_)
  · simp [(chats _).dealings]
  · change Journal.commands _ = setting.vcs.commands question
    rw [Journal.commands_append, takes, Journal.commands, List.filterMap_cons_none rfl]
    exact (congrArg _ (chats _).commands).trans (List.append_nil _)

theorem commandTally_fits : setting.commandTally.Fits setting where
  forkPoint branch target :=
    asked_commands setting rfl (Discovery.chats_settleForkPoint branch target)
  workingTree := asked_commands setting rfl Discovery.chats_settleWorkingTree
  diff base head := asked_commands setting rfl (Discovery.chats_settleDiff base head)
  compile := by
    apply Accounted.of_entry (dealings_diagnosticLines setting)
    change Journal.commands _ = _
    simp only [Compiler.diagnosticLines, Noted.journal_bind, Noted.journal_note,
      Journal.commands_append]
    cases (setting.compiler setting.request.options.arguments).value <;>
      exact List.append_nil _
  event _ := rfl
  progress _ _ := rfl

/-- The commands of a run are those that its answers and its compilation take. -/
theorem commands_run :
    (run setting).journal.commands =
      (run setting).journal.dealings.flatMap setting.commandsFor := by
  refine (commandTally_fits setting).throughout.run fun revision => ?_
  have chats := chats_logForkPoint setting.request.targetBranch revision
  unfold Accounted
  rw [chats.dealings]
  exact chats.commands

end Check

end Ratchet
