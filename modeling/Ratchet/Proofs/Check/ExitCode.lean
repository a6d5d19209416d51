import Mathlib.Data.List.Basic
import Ratchet.Check.Verdict
import Ratchet.Proofs.Check.Account
import Ratchet.Proofs.Check.Calls
import Ratchet.Proofs.Check.Delivery
import Ratchet.Proofs.Check.Views
import Ratchet.Proofs.Compiler.Invocation

namespace Ratchet

namespace Verdict

/-!
# The exit code

A check of a configured project by way of a shell exits with one of three
codes.  Only the compiler's own command decides whether the check could be
done, and it is not consulted if no file has changed.  Commands of version
control can fail, run out of their time or write nonsense: that changes which
files are checked, but stops nothing.

The listener of such a check is the screen, which never objects.  So the check
comes to the conclusion of its script, and the screen hears all of it.
-/

variable (config : Config) (command : Override) (shell : Shell)

/-- How the compiler's command ends, whether or not it is run. -/
def ending : Shell.Outcome :=
  let request := command.request config.git config.compiler
  let call := config.compilerSetup.call request.options.arguments
  call.outcome (shell call.fullText)

/-- The lines that are captured of the compiler. -/
def capturedLines : List String :=
  Text.lines (Compiler.captured (ending config command shell))

/-- The captured lines that are about a file. -/
def about (file : String) : List String :=
  (setting config command shell).request.matchMode.linesAbout file
    (capturedLines config command shell)

theorem about_ne_nil_iff {file : String} :
    about config command shell file ≠ [] ↔
      ∃ line ∈ capturedLines config command shell,
        (setting config command shell).request.matchMode.accepts file line = true := by
  rw [about, MatchMode.linesAbout, Ne, List.filter_eq_nil_iff]
  simp only [not_forall, exists_prop, not_not]

/-- The compiler's command ended with a code that means neither success nor
diagnostics. -/
def Breaks : Prop :=
  (ending config command shell).exited ≠ 0 ∧
    (ending config command shell).exited ∉ config.compiler.codes

/-! ## The conclusion of the script -/

theorem compiled_eq :
    (setting config command shell).compiled =
      (config.compilerSetup.read
        (config.compilerSetup.call
          (setting config command shell).request.options.arguments).command
        (ending config command shell)).map Text.lines :=
  congrArg (Except.map Text.lines) (config.compilerSetup.value_compile shell _)

theorem compiled_cases :
    (Breaks config command shell ∧
      ∃ failure, (setting config command shell).compiled = .error failure) ∨
    (¬Breaks config command shell ∧
      (setting config command shell).compiled = .ok (capturedLines config command shell)) := by
  have compiled := compiled_eq config command shell
  rcases config.compilerSetup.read_cases _ (ending config command shell) with
    ⟨failed, unknown, failure, read⟩ | ⟨done, read⟩
  · rw [read] at compiled
    exact Or.inl ⟨⟨failed, unknown⟩, failure, compiled⟩
  · rw [read] at compiled
    refine Or.inr ⟨?_, compiled⟩
    rintro ⟨failed, unknown⟩
    rcases done with zero | known
    · exact failed zero
    · exact unknown known

/-- A check concludes that the compiler failed, or it comes to an outcome.  In
the latter case the lines about included files are taken from those that were
captured. -/
theorem conclusion_cases :
    (((setting config command shell).changed ≠ [] ∧ Breaks config command shell) ∧
      ∃ failure, (setting config command shell).conclusion = .error (.compiler failure)) ∨
    (¬((setting config command shell).changed ≠ [] ∧ Breaks config command shell) ∧
      (∃ outcome, (setting config command shell).conclusion = .ok outcome) ∧
      ∀ file ∈ (setting config command shell).included,
        (setting config command shell).about file = about config command shell file) := by
  rcases Check.course (setting config command shell) with ⟨unchanged, _, zero⟩ |
    ⟨found, failure, fails, _, broken⟩ | ⟨_, lines, compiles, _, counted⟩
  · refine Or.inr ⟨fun breaks => breaks.1 unchanged, ⟨_, zero⟩, ?_⟩
    intro file member
    rw [Check.Setting.included, unchanged] at member
    cases member
  · rcases compiled_cases config command shell with ⟨breaks, _⟩ | ⟨_, compiles⟩
    · exact Or.inl ⟨⟨found, breaks⟩, failure, broken⟩
    · rw [fails] at compiles
      cases compiles
  · rcases compiled_cases config command shell with ⟨_, failure, fails⟩ | ⟨works, captures⟩
    · rw [compiles] at fails
      cases fails
    · refine Or.inr ⟨fun breaks => works breaks.2, ⟨_, counted⟩, ?_⟩
      intro file _
      rw [Check.Setting.about, Check.Setting.lines, captures, about]

/-! ## What becomes of it -/

/-- The screen disturbs no check. -/
theorem undisturbed :
    (Check.perform (setting config command shell).listener []
      (setting config command shell).script).2 = none := by
  apply Check.undisturbed_of_patient
  intro listener present earlier event
  cases present
  rfl

theorem value_check :
    (Check.run (setting config command shell)).value =
      (setting config command shell).conclusion.map fun outcome =>
        ⟨outcome, (setting config command shell).events⟩ :=
  Check.value_run_of_undisturbed _ (undisturbed config command shell)

theorem value_run {order : List (List Query) → List Nat} :
    (run config command shell order).value =
      match (Check.run (setting config command shell order)).value with
      | .error _ => compilerFailed
      | .ok report => if report.outcome.success then clean else diagnostics := by
  simp only [run, Noted.value_bind]
  rcases (Check.run (setting config command shell order)).value with (_ | _) | report
  · rfl
  · rfl
  · dsimp only
    split <;> rfl

/-- A check is followed by messages alone. -/
theorem journal_run {order : List (List Query) → List Nat} :
    ∃ rest : Journal, rest.Chats ∧
      (run config command shell order).journal =
        (Check.run (setting config command shell order)).journal ++ rest := by
  refine ⟨_, ?_, rfl⟩
  rcases (Check.run (setting config command shell order)).value with (_ | _) | report
  · exact .cons .nil
  · exact .cons .nil
  · dsimp only
    split
    · exact .cons .nil
    · exact .cons .nil

theorem heard_eq_check {order : List (List Query) → List Nat} :
    (run config command shell order).journal.heard =
      (Check.run (setting config command shell order)).journal.heard := by
  rcases journal_run config command shell with ⟨rest, chats, whole⟩
  rw [whole, Journal.heard_append, chats.heard, List.append_nil]

theorem heard_run :
    (run config command shell).journal.heard = (setting config command shell).script.heard := by
  have told := Check.heard_run_of_undisturbed (setting config command shell) rfl
    (undisturbed config command shell)
  rw [heard_eq_check, told]

/-- A check that could not be done: it ends after the changed files were told,
and the failure is one of the compiler. -/
structure Refused : Prop where
  code : (run config command shell).value = compilerFailed
  failed : ∃ failure,
    (Check.run (setting config command shell)).value = .error (.compiler failure)
  told : (run config command shell).journal.heard =
    [.since (setting config command shell).revision,
      .changed (setting config command shell).changed]

/-- A check that was done: all its events were told, and its report counts the
captured lines about the included files. -/
structure Done : Prop where
  code : (run config command shell).value =
    if (setting config command shell).included.flatMap (about config command shell) = [] then clean
    else diagnostics
  reported : ∃ report, (Check.run (setting config command shell)).value = .ok report ∧
    report.outcome.errorCount =
      ((setting config command shell).included.flatMap (about config command shell)).length
  told : (run config command shell).journal.heard = (setting config command shell).events
  same : ∀ file ∈ (setting config command shell).included,
    (setting config command shell).about file = about config command shell file

variable {config command shell} in
theorem Done.unbroken (done : Done config command shell) :
    (run config command shell).value ≠ compilerFailed := by
  rw [done.code]
  split <;> decide

/-- Which of the two it is, is up to the changed files and the compiler. -/
theorem refused_or_done :
    (((setting config command shell).changed ≠ [] ∧ Breaks config command shell) ∧
      Refused config command shell) ∨
    (¬((setting config command shell).changed ≠ [] ∧ Breaks config command shell) ∧
      Done config command shell) := by
  have value := value_check config command shell
  have told := heard_run config command shell
  rcases conclusion_cases config command shell with ⟨breaks, failure, fails⟩ |
    ⟨works, ⟨outcome, fine⟩, same⟩
  · rw [fails] at value
    rw [Check.heard_script_of_error _ fails] at told
    exact Or.inl ⟨breaks, by rw [value_run, value]; rfl, ⟨failure, value⟩, told⟩
  · have counted := Check.errorCount_of_ok _ fine
    rw [List.flatMap_congr same] at counted
    rw [fine] at value
    rw [Check.heard_script_of_ok _ fine] at told
    refine Or.inr ⟨works, ?_, ⟨_, value, counted⟩, told, same⟩
    rw [value_run, value]
    have success : outcome.success = true ↔
        (setting config command shell).included.flatMap (about config command shell) = [] := by
      rw [Outcome.success, beq_iff_eq, counted, Int.natCast_eq_zero, List.length_eq_zero_iff]
    simp only [← success]
    rfl

/-! ## The exit code -/

theorem code_eq_compilerFailed_iff :
    (run config command shell).value = compilerFailed ↔
      (setting config command shell).changed ≠ [] ∧ Breaks config command shell := by
  rcases refused_or_done config command shell with ⟨breaks, refused⟩ | ⟨works, done⟩
  · exact iff_of_true refused.code breaks
  · exact iff_of_false done.unbroken works

theorem code_eq_diagnostics_iff :
    (run config command shell).value = diagnostics ↔
      (run config command shell).value ≠ compilerFailed ∧
        ∃ file ∈ (setting config command shell).included,
          about config command shell file ≠ [] := by
  rcases refused_or_done config command shell with ⟨_, refused⟩ | ⟨_, done⟩
  · rw [refused.code]
    exact iff_of_false (by decide) fun impossible => impossible.1 rfl
  · have failing : (∃ file ∈ (setting config command shell).included,
        about config command shell file ≠ []) ↔
        (setting config command shell).included.flatMap (about config command shell) ≠ [] := by
      simp only [ne_eq, List.flatMap_eq_nil_iff, not_forall, exists_prop]
    rw [done.code, failing]
    split
    · next nothing => exact iff_of_false (by decide) fun both => both.2 nothing
    · next lines => exact iff_of_true rfl ⟨by decide, lines⟩

/-! ## The screen -/

theorem changed_told_iff (files : List String) :
    .changed files ∈ (run config command shell).journal.heard ↔
      files = (setting config command shell).changed := by
  rcases refused_or_done config command shell with ⟨_, refused⟩ | ⟨_, done⟩
  · rw [refused.told]
    simp
  · rw [done.told]
    exact Check.changed_mem_events _ files

/-- A file is shown with a cross exactly in a check that exits for
diagnostics. -/
theorem code_eq_diagnostics_iff_told :
    (run config command shell).value = diagnostics ↔
      ∃ file lines, .verdict file true lines ∈ (run config command shell).journal.heard := by
  rw [code_eq_diagnostics_iff]
  rcases refused_or_done config command shell with ⟨_, refused⟩ | ⟨_, done⟩
  · rw [refused.code, refused.told]
    simp
  · simp only [done.told, Check.verdict_mem_events]
    constructor
    · rintro ⟨_, file, member, lines⟩
      refine ⟨file, _, member, ?_, rfl⟩
      rw [done.same file member, List.isEmpty_eq_false_iff.mpr lines]
      rfl
    · rintro ⟨file, lines, member, failing, _⟩
      refine ⟨done.unbroken, file, member, ?_⟩
      rw [← done.same file member]
      intro nothing
      rw [nothing] at failing
      cases failing

/-- A file has a cross exactly if there are lines about it. -/
theorem mark_line (file : String) (lines : List String) :
    Screen.mark (!lines.isEmpty) ++ " " ++ file =
      (if lines = [] then "✓ " else "✗ ") ++ file := by
  cases lines <;> rfl

/-- The lines that the screen shows: where changes are measured from, how many
there are, and for each included file the captured lines about it and a
mark. -/
theorem shown_lines :
    (run config command shell).journal.heard.flatMap Screen.lines =
      Screen.lines (.since (setting config command shell).revision) ++
        Screen.lines (.changed (setting config command shell).changed) ++
        if (run config command shell).value = compilerFailed then []
        else (setting config command shell).included.flatMap fun file =>
          about config command shell file ++
            [(if about config command shell file = [] then "✓ " else "✗ ") ++ file] := by
  rcases refused_or_done config command shell with ⟨_, refused⟩ | ⟨_, done⟩
  · rw [refused.code, refused.told, if_pos rfl, List.append_nil]
    simp only [List.flatMap_cons, List.flatMap_nil, List.append_nil]
  · rw [if_neg done.unbroken, done.told, Check.events_eq_about, List.flatMap_cons,
      List.flatMap_cons, List.flatMap_assoc, List.append_assoc]
    congr 2
    apply List.flatMap_congr
    intro file member
    rw [done.same file member, List.flatMap_cons, List.flatMap_cons, List.flatMap_nil]
    simp only [Screen.lines, mark_line, List.nil_append, List.append_nil]

/-- The exit code of a check, and what its screen shows, for every shell. -/
theorem run_exits :
    let setting := setting config command shell
    let exited := (ending config command shell).exited
    let result := run config command shell
    (result.value = compilerFailed ↔
      setting.changed ≠ [] ∧ exited ≠ 0 ∧ exited ∉ config.compiler.codes) ∧
    (result.value = diagnostics ↔ result.value ≠ compilerFailed ∧
      ∃ file ∈ setting.included, ∃ line ∈ capturedLines config command shell,
        setting.request.matchMode.accepts file line = true) ∧
    (result.value = clean ∨ result.value = diagnostics ∨ result.value = compilerFailed) ∧
    (∀ files, .changed files ∈ result.journal.heard ↔ files = setting.changed) ∧
    (result.value = diagnostics ↔
      ∃ file lines, .verdict file true lines ∈ result.journal.heard ∧
        Screen.lines (.verdict file true lines) = lines ++ ["✗ " ++ file]) ∧
    screen result.journal = String.join
      ((Screen.lines (.since setting.revision) ++ Screen.lines (.changed setting.changed) ++
        if result.value = compilerFailed then []
        else setting.included.flatMap fun file =>
          about config command shell file ++
            [(if about config command shell file = [] then "✓ " else "✗ ") ++ file]).map
        (· ++ "\n")) ∧
    ((∃ report, (Check.run setting).value = .ok report ∧ result.value ≠ compilerFailed ∧
        report.outcome.errorCount =
          (setting.included.flatMap (about config command shell)).length) ∨
      ∃ failure, (Check.run setting).value = .error (.compiler failure) ∧
        result.value = compilerFailed) := by
  have crossed (file : String) (lines : List String) :
      Screen.lines (.verdict file true lines) = lines ++ ["✗ " ++ file] := rfl
  refine ⟨code_eq_compilerFailed_iff config command shell, ?_, ?_,
    changed_told_iff config command shell, ?_, ?_, ?_⟩
  · simp only [← about_ne_nil_iff]
    exact code_eq_diagnostics_iff config command shell
  · rcases refused_or_done config command shell with ⟨_, refused⟩ | ⟨_, done⟩
    · exact Or.inr (Or.inr refused.code)
    · rw [done.code]
      split
      · exact Or.inl rfl
      · exact Or.inr (Or.inl rfl)
  · simp only [crossed, and_true]
    exact code_eq_diagnostics_iff_told config command shell
  · rw [screen, Screen.text, shown_lines]
  · rcases refused_or_done config command shell with ⟨_, refused⟩ | ⟨_, done⟩
    · rcases refused.failed with ⟨failure, fails⟩
      exact Or.inr ⟨failure, fails, refused.code⟩
    · rcases done.reported with ⟨report, returned, counted⟩
      exact Or.inl ⟨report, returned, done.unbroken, counted⟩

end Verdict

end Ratchet
