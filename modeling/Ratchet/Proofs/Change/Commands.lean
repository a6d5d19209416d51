import Ratchet.Change.Git
import Ratchet.Proofs.Change.Knowledge
import Ratchet.Proofs.Template.Filling

namespace Ratchet

namespace Git

/-!
# Questions and their commands

Each question to version control is put by one command, if its template can be
filled, and the command depends on nothing but the question.  What the command
writes counts only if it ends with exit code 0.  A command that fails may still
say that there is no fork point, but that is no more than the check assumes
when it knows nothing, so its output makes no difference there either.
-/

/-- Two ends of a command that differ at most in what it wrote before it
failed. -/
def SameEnd (first second : Shell.Outcome) : Prop :=
  second = first ∨ first.exited ≠ 0 ∧ second.exited ≠ 0

/-- What is the same for all failing ends is the same for both. -/
theorem SameEnd.congr {α : Type} {first second : Shell.Outcome} (same : SameEnd first second)
    {f : Shell.Outcome → α} {a : α} (failed : ∀ outcome, outcome.exited ≠ 0 → f outcome = a) :
    f second = f first := by
  rcases same with rfl | ⟨left, right⟩
  · rfl
  · rw [failed first left, failed second right]

/-! ## Ends of failing commands -/

section Failing

variable (command : String) (outcome : Shell.Outcome) (failed : outcome.exited ≠ 0)

include failed

/-- A failing command names no fork point, whether it denies that there is one
or not. -/
theorem join_readForkPoint_of_failed :
    (readForkPoint command outcome).toOption.join = none := by
  unfold readForkPoint
  dsimp only
  split
  · rfl
  · rw [if_pos (bne_iff_ne.mpr failed)]
    rfl

theorem toOption_readStatus_of_failed : (readStatus command outcome).toOption = none := by
  rw [readStatus, if_pos (bne_iff_ne.mpr failed)]
  rfl

theorem toOption_readNames_of_failed : (readNames command outcome).toOption = none := by
  rw [readNames, if_pos (bne_iff_ne.mpr failed)]
  rfl

end Failing

theorem value_reportStatus (command : String) (outcome : Shell.Outcome) :
    (reportStatus command outcome).value = readStatus command outcome := by
  unfold reportStatus
  cases readStatus command outcome <;> rfl

theorem chats_reportStatus (command : String) (outcome : Shell.Outcome) :
    (reportStatus command outcome).journal.Chats := by
  unfold reportStatus
  cases readStatus command outcome
  · exact .nil
  · exact .cons .nil

namespace Setup

variable (setup : Setup)

/-! ## The command for a question -/

theorem command_eq {name template : String} (known : setup.template? name = some template)
    (values : List (String × String)) :
    setup.command name values =
      (Template.fill (Template.ofTexts (values.map fun entry => (entry.1, Text.asWord entry.2)))
        template).mapError .template := by
  rw [Setup.command, known, Template.ofTexts, List.map_map]
  dsimp only [Function.comp_def]
  split
  · next filled =>
    rw [filled]
    rfl
  · next fails =>
    rw [fails]
    rfl

/-- A plain template is filled with the quoted values. -/
theorem command_of_plain {name template command : String} {values : List (String × String)}
    (known : setup.template? name = some template)
    (plain : Template.plain? (values.map fun entry => (entry.1, Text.asWord entry.2))
      (Template.pieces template.toList) = some command.toList) :
    setup.command name values = .ok command := by
  rw [setup.command_eq known, Template.fill_of_plain plain]
  rfl

/-- The command for a question where no templates are given. -/
def usualCommand : Query → String
  | .forkPoint branch target =>
    "git merge-base --fork-point " ++ Text.asWord target ++ " " ++ Text.asWord branch
  | .workingTree => "git status --porcelain -z --untracked-files=all"
  | .diff base head =>
    "git diff --name-only -z --diff-filter=d " ++ Text.asWord base.sha ++ " " ++ Text.asWord head

/-- The fork point is asked for with both names quoted. -/
theorem command_forkPoint (usual : setup.template? "fork_point" = defaults.lookup "fork_point")
    (branch target : String) :
    setup.command "fork_point" [("ref", branch), ("target", target)] =
      .ok ("git merge-base --fork-point " ++ Text.asWord target ++ " " ++ Text.asWord branch) := by
  have listed : defaults.lookup "fork_point" =
      some "git merge-base --fork-point \x7btarget\x7d \x7bref\x7d" := by
    decide +kernel
  have fields : Template.pieces
      "git merge-base --fork-point \x7btarget\x7d \x7bref\x7d".toList =
        [.literal "git merge-base --fork-point ".toList, .field ⟨"target".toList, none, []⟩,
          .literal " ".toList, .field ⟨"ref".toList, none, []⟩] := by
    decide +kernel
  apply setup.command_of_plain (usual.trans listed)
  rw [fields]
  exact Template.plain_pair rfl rfl

/-- The differing files are asked for with both revisions quoted. -/
theorem command_diffNames (usual : setup.template? "diff_names" = defaults.lookup "diff_names")
    (base head : String) :
    setup.command "diff_names" [("base", base), ("head", head)] =
      .ok ("git diff --name-only -z --diff-filter=d " ++ Text.asWord base ++ " " ++
        Text.asWord head) := by
  have listed : defaults.lookup "diff_names" =
      some "git diff --name-only -z --diff-filter=d \x7bbase\x7d \x7bhead\x7d" := by
    decide +kernel
  have fields : Template.pieces
      "git diff --name-only -z --diff-filter=d \x7bbase\x7d \x7bhead\x7d".toList =
        [.literal "git diff --name-only -z --diff-filter=d ".toList,
          .field ⟨"base".toList, none, []⟩, .literal " ".toList,
          .field ⟨"head".toList, none, []⟩] := by
    decide +kernel
  apply setup.command_of_plain (usual.trans listed)
  rw [fields]
  exact Template.plain_pair rfl rfl

theorem commandFor_usual (usual : setup.templates = []) (question : Query) :
    setup.commandFor question = .ok (usualCommand question) := by
  have known (name : String) : setup.template? name = defaults.lookup name := by
    rw [template?, usual]
    rfl
  cases question with
  | forkPoint branch target => exact setup.command_forkPoint (known _) branch target
  | workingTree =>
    have listed : defaults.lookup "status" =
        some "git status --porcelain -z --untracked-files=all" := by
      decide +kernel
    have fields : Template.pieces "git status --porcelain -z --untracked-files=all".toList =
        [.literal "git status --porcelain -z --untracked-files=all".toList] := by
      decide +kernel
    apply setup.command_of_plain ((known _).trans listed)
    rw [fields]
    rfl
  | diff base head => exact setup.command_diffNames (known _) base.sha head

theorem head?_usualCommand (question : Query) :
    (usualCommand question).toList.head? = some 'g' := by
  have kept {s : String} (starts : s.toList.head? = some 'g') (t : String) :
      (s ++ t).toList.head? = some 'g' := by
    rw [String.toList_append, List.head?_append, starts]
    rfl
  cases question with
  | forkPoint branch target =>
    have starts : "git merge-base --fork-point ".toList.head? = some 'g' := by decide +kernel
    exact kept (kept (kept starts _) _) _
  | workingTree => decide +kernel
  | diff base head =>
    have starts : "git diff --name-only -z --diff-filter=d ".toList.head? = some 'g' := by
      decide +kernel
    exact kept (kept (kept starts _) _) _

/-! ## Asking -/

/-- How a command is run. -/
def call (command : String) : Shell.Call where
  command := command
  directory := some setup.directory
  timeout := setup.timeout
  check := false

/-- How a command ends in a shell. -/
def ending (shell : Shell) (command : String) : Shell.Outcome :=
  (setup.call command).outcome (shell (setup.call command).fullText)

section Asking

variable {α : Type} (shell : Shell) (name : String) (values : List (String × String))
  (read : String → Shell.Outcome → Noted (Except Vcs.Failure α))

theorem value_ask :
    (setup.ask shell name values read).value =
      (setup.command name values).bind fun command =>
        (read command (setup.ending shell command)).value := by
  unfold ask
  cases setup.command name values with
  | error failure => rfl
  | ok command =>
    have ends := Shell.value_execute_of_unchecked shell (setup.call command) rfl
    rw [call] at ends
    simp only [Noted.value_bind, ends]
    rfl

theorem commands_ask (quiet : ∀ command outcome, (read command outcome).journal.commands = []) :
    (setup.ask shell name values read).journal.commands =
      (setup.command name values).toOption.toList.map fun command =>
        (setup.call command).fullText := by
  unfold ask
  cases setup.command name values with
  | error failure => rfl
  | ok command =>
    have gives := Shell.commands_execute shell (setup.call command)
    rw [call] at gives
    simp only [Noted.journal_bind, Journal.commands_append, gives]
    split
    · rfl
    · rw [quiet]
      rfl

end Asking

/-- A question takes its command, whatever the shell says to it. -/
theorem commands_vcs (shell : Shell) (question : Query) :
    (setup.vcs shell).commands question =
      (setup.commandFor question).toOption.toList.map fun command =>
        (setup.call command).fullText := by
  cases question with
  | forkPoint branch target => exact setup.commands_ask shell _ _ _ fun _ _ => rfl
  | workingTree =>
    exact setup.commands_ask shell _ _ _ fun command outcome =>
      (chats_reportStatus command outcome).commands
  | diff base head => exact setup.commands_ask shell _ _ _ fun _ _ => rfl

/-! ## Answers -/

theorem base?_vcs (shell : Shell) (branch target : String) :
    (setup.vcs shell).base? branch target =
      (setup.commandFor (.forkPoint branch target)).toOption.bind fun command =>
        (readForkPoint command (setup.ending shell command)).toOption.join := by
  simp only [Vcs.base?, vcs, value_ask, commandFor, Noted.value_pure]
  cases setup.command "fork_point" [("ref", branch), ("target", target)] with
  | error failure => rfl
  | ok command =>
    simp only [Except.bind, Except.toOption, Option.bind_some]
    cases readForkPoint command (setup.ending shell command) <;> rfl

theorem status_vcs (shell : Shell) :
    (setup.vcs shell).status =
      ((setup.commandFor .workingTree).toOption.bind fun command =>
        (readStatus command (setup.ending shell command)).toOption).getD .clean := by
  simp only [Vcs.status, vcs, value_ask, commandFor, value_reportStatus]
  cases setup.command "status" [] with
  | error failure => rfl
  | ok command =>
    simp only [Except.bind, Except.toOption, Option.bind_some]
    cases readStatus command (setup.ending shell command) <;> rfl

theorem differing_vcs (shell : Shell) (base : Revision) (head : String) :
    (setup.vcs shell).differing (some base) head =
      ((setup.commandFor (.diff base head)).toOption.bind fun command =>
        (readNames command (setup.ending shell command)).toOption).getD [] := by
  simp only [Vcs.differing, vcs, value_ask, commandFor, Noted.value_pure]
  cases setup.command "diff_names" [("base", base.sha), ("head", head)] with
  | error failure => rfl
  | ok command =>
    simp only [Except.bind, Except.toOption, Option.bind_some]
    cases readNames command (setup.ending shell command) <;> rfl

variable {setup} {first second : Shell}

/-- What failing commands write lets the check know nothing. -/
theorem agrees_vcs
    (same : ∀ command, SameEnd (setup.ending first command) (setup.ending second command)) :
    (setup.vcs first).Agrees (setup.vcs second) where
  base? branch target := by
    rw [base?_vcs, base?_vcs]
    exact Option.bind_congr fun command _ =>
      (same command).congr (join_readForkPoint_of_failed command)
  status := by
    have read := Option.bind_congr (o := (setup.commandFor .workingTree).toOption)
      fun command _ => (same command).congr (toOption_readStatus_of_failed command)
    rw [status_vcs, status_vcs, read]
  differing base head := by
    cases base with
    | none => rfl
    | some base =>
      have read := Option.bind_congr (o := (setup.commandFor (.diff base head)).toOption)
        fun command _ => (same command).congr (toOption_readNames_of_failed command)
      rw [differing_vcs, differing_vcs, read]
  timing := rfl

end Setup

end Git

end Ratchet
