import Ratchet.Proofs.Change.Commands
import Ratchet.Proofs.Check.Alike
import Ratchet.Proofs.Check.Commands
import Ratchet.Proofs.Check.ExitCode

namespace Ratchet

/-!
# Output of failed commands

A command of version control that fails, or that runs out of its time, may
have written a part of its answer before.  A check never looks at it: not at
the error stream, which goes to the log, and not at the output, not even where
exit code 1 has a meaning of its own.  Two shells that differ only in such
output make no difference to which commands are run, to the screen and to the
exit code.
-/

namespace Git

/-- Shells that give the same replies, except that a command of version control
that fails or runs out of its time may write something else. -/
def Setup.SameButRefused (setup : Setup) (first second : Shell) : Prop :=
  ∀ text, second text = first text ∨
    ∃ question command, setup.commandFor question = .ok command ∧
      text = (setup.call command).fullText ∧
      ((first text).exited ≠ 0 ∨ (setup.call command).expired (first text) = true) ∧
      (second text).exited = (first text).exited ∧
      (second text).timedOut = (first text).timedOut

variable {setup : Setup} {first second : Shell}

/-- A command ends in the same way in both shells, or it fails in both. -/
theorem sameEnd_of_sameButRefused (same : setup.SameButRefused first second) (command : String) :
    SameEnd (setup.ending first command) (setup.ending second command) := by
  rcases same (setup.call command).fullText with equal | ⟨_, other, _, _, failed, code, timedOut⟩
  · exact Or.inl (congrArg (setup.call command).outcome equal)
  · -- The time limit is that of the setup, so the other command has run out of it too.
    have fails : (setup.call command).exited (first (setup.call command).fullText) ≠ 0 :=
      Shell.Call.exited_ne_zero failed
    have failsToo : (setup.call command).exited (second (setup.call command).fullText) ≠ 0 := by
      rw [Shell.Call.exited_congr code timedOut]
      exact fails
    exact Or.inr ⟨fails, failsToo⟩

end Git

namespace Verdict

variable (config : Config) (command : Override)

/-! ## Commands and the shell -/

/-- What it takes to deal with a question does not depend on the shell that is
asked. -/
theorem commandsFor_setting (first second : Shell) :
    (setting config command second).commandsFor = (setting config command first).commandsFor := by
  funext entry
  cases entry with
  | answered question =>
    exact (config.gitSetup.commands_vcs second question).trans
      (config.gitSetup.commands_vcs first question).symm
  | compile arguments =>
    exact (config.compilerSetup.commands_compile second arguments).trans
      (config.compilerSetup.commands_compile first arguments).symm
  | record | command | query | heard => exact Eq.refl []

theorem commands_run (shell : Shell) {order : List (List Query) → List Nat} :
    (run config command shell order).journal.commands =
      (Check.run (setting config command shell order)).journal.dealings.flatMap
        (setting config command shell order).commandsFor := by
  rcases journal_run config command shell with ⟨rest, chats, whole⟩
  rw [whole, Journal.commands_append, chats.commands, List.append_nil, Check.commands_run]

/-! ## Output that is not looked at -/

section Refused

variable {first second : Shell} (same : config.gitSetup.SameButRefused first second)

include same

theorem alike_of_sameButRefused :
    (setting config command first).Alike (setting config command second) where
  request := rfl
  listener := rfl
  vcs := Git.Setup.agrees_vcs (Git.sameEnd_of_sameButRefused same)

variable (apart : ∀ question text, config.gitSetup.commandFor question = .ok text →
  text ≠ Compiler.commandLine config.compiler.command config.compiler.options.arguments)

include apart

/-- The compiler's command is no command of version control, so it has the same
reply. -/
theorem ending_eq : ending config command second = ending config command first := by
  let call := config.compilerSetup.call config.compiler.options.arguments
  rcases same call.fullText with equal | ⟨question, text, known, whole, _⟩
  · exact congrArg call.outcome equal
  · -- Both commands are run in the same directory, so only their own texts can differ.
    have texts : Shell.Call.changeTo config.git.directory ++ call.command =
        Shell.Call.changeTo config.git.directory ++ text := whole
    exact absurd ((String.append_right_inj _).mp texts).symm (apart question text known)

theorem check_of_sameButRefused :
    (Check.run (setting config command second)).value =
        (Check.run (setting config command first)).value ∧
      (Check.run (setting config command second)).journal.dealings =
        (Check.run (setting config command first)).journal.dealings := by
  have alike := alike_of_sameButRefused config command same
  apply alike.run
  rw [compiled_eq, compiled_eq, alike.request, ending_eq config command same apart]

end Refused

/-- What failing commands of version control write makes no difference to the
commands that a check runs, to what it shows and to its exit code. -/
theorem run_sameButRefused {first second : Shell}
    (apart : ∀ question text, config.gitSetup.commandFor question = .ok text →
      text ≠ Compiler.commandLine config.compiler.command config.compiler.options.arguments)
    (same : config.gitSetup.SameButRefused first second) :
    (run config command second).journal.commands = (run config command first).journal.commands ∧
      screen (run config command second).journal = screen (run config command first).journal ∧
      (run config command second).value = (run config command first).value := by
  rcases check_of_sameButRefused config command same apart with ⟨value, dealings⟩
  refine ⟨?_, ?_, ?_⟩
  · rw [commands_run, commands_run, dealings, commandsFor_setting config command first second]
  · have heard := congrArg Journal.heard dealings
    rw [Journal.heard_dealings, Journal.heard_dealings] at heard
    rw [screen, screen, heard_eq_check, heard_eq_check, heard]
  · rw [value_run, value_run, value]

/-! ## A branch without a fork point -/

/-- A configuration that says nothing. -/
def plain : Config where
  logger := {}
  git := {}
  compiler := {}
  logLevel := "info"
  logRoot := .ofText "."
  commands := []

/-- A shell in which nothing fails but the command for the fork point, which
may have written something before. -/
def rootless (written : String) : Shell := fun text =>
  if text = "cd . && git merge-base --fork-point master HEAD" then ⟨written, written, 1, false⟩
  else if text = "cd . && git status --porcelain -z --untracked-files=all" then
    ⟨"?? a.ts\x00", "", 0, false⟩
  else ⟨"", "", 0, false⟩

theorem sameButRefused_rootless (written other : String) :
    plain.gitSetup.SameButRefused (rootless written) (rootless other) := by
  intro text
  by_cases asked : text = "cd . && git merge-base --fork-point master HEAD"
  · right
    have known := plain.gitSetup.commandFor_usual rfl (.forkPoint "HEAD" "master")
    refine ⟨_, _, known, ?_, ?_⟩
    · rw [asked]
      decide +kernel
    · simp [rootless, asked]
  · left
    simp only [rootless, if_neg asked]

theorem apart_plain (question : Query) (text : String)
    (known : plain.gitSetup.commandFor question = .ok text) :
    text ≠ Compiler.commandLine plain.compiler.command plain.compiler.options.arguments := by
  rw [plain.gitSetup.commandFor_usual rfl question] at known
  cases known
  intro same
  have initial := Git.Setup.head?_usualCommand question
  rw [same] at initial
  revert initial
  decide +kernel

theorem run_sameButRefused_plain :
    plain.gitSetup.SameButRefused (rootless "") (rootless "1f2e3d\n") ∧
      (∀ question text, plain.gitSetup.commandFor question = .ok text →
        text ≠ Compiler.commandLine plain.compiler.command plain.compiler.options.arguments) ∧
      screen (run plain {} (rootless "1f2e3d\n")).journal =
        "Could not find the fork point; checking uncommitted changes only\n" ++
          "Found 1 changed file(s)\n✓ a.ts\n" ∧
      (run plain {} (rootless "1f2e3d\n")).value = clean := by
  have same := sameButRefused_rootless "" "1f2e3d\n"
  rcases run_sameButRefused plain {} apart_plain same with ⟨_, screens, codes⟩
  have shown : screen (run plain {} (rootless "")).journal =
      "Could not find the fork point; checking uncommitted changes only\n" ++
        "Found 1 changed file(s)\n✓ a.ts\n" := by decide +kernel
  have exits : (run plain {} (rootless "")).value = clean := by decide +kernel
  exact ⟨same, apart_plain, screens.trans shown, codes.trans exits⟩

end Verdict

end Ratchet
