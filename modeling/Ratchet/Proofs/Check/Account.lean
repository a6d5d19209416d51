import Ratchet.Proofs.Check.Run

namespace Ratchet

namespace Check

/-!
# What a report accounts for

The number in a report is a sum over files.  Each changed file of a supported
kind that no ignored branch has changed counts the lines of the compiler that
are about it.  A file counts once, even if both the working tree and the
commits since the fork point touch it.
-/

variable (setting : Setting)

/-- The files that a run tells as changed are the changed files. -/
theorem changed_mem_events (files : List String) :
    .changed files ∈ setting.events ↔ files = setting.changed := by
  constructor
  · intro told
    rcases List.mem_cons.mp told with impossible | told
    · cases impossible
    · rcases List.mem_cons.mp told with same | about
      · exact Event.changed.inj same
      · rcases List.mem_flatMap.mp about with ⟨file, _, told⟩
        simp [Setting.fileEvents] at told
  · rintro rfl
    exact List.mem_cons_of_mem _ List.mem_cons_self

/-- A report about changed files was made from an output of the compiler, and
counts its lines. -/
theorem counted_of_ok {outcome : Outcome} (fine : setting.conclusion = .ok outcome)
    (found : setting.changed ≠ []) :
    ∃ output, (setting.compiler setting.request.options.arguments).value = .ok output ∧
      outcome.errorCount = setting.lineCount (Text.lines output) setting.included := by
  rcases course setting with ⟨unchanged, _, _⟩ | ⟨_, failure, _, _, broken⟩ |
    ⟨_, lines, compiles, _, counted⟩
  · exact absurd unchanged found
  · rw [broken] at fine
    cases fine
  · rw [counted] at fine
    cases fine
    rcases output_of_compiled setting compiles with ⟨output, answer, rfl⟩
    exact ⟨output, answer, rfl⟩

/-- A report about no changed files counts nothing. -/
theorem none_counted_of_ok {outcome : Outcome} (fine : setting.conclusion = .ok outcome)
    (unchanged : setting.changed = []) : outcome.errorCount = 0 := by
  rcases course setting with ⟨_, _, zero⟩ | ⟨found, _⟩ | ⟨found, _⟩
  · rw [zero] at fine
    cases fine
    rfl
  · exact absurd unchanged found
  · exact absurd unchanged found

/-- What every report says about the changes.  The files of the working tree
come before those of the commits, and each keeps its first place only. -/
theorem report_accounts {report : Report} (returned : (run setting).value = .ok report) :
    let target := setting.request.targetBranch
    let status := setting.vcs.status
    let tree := status.created ++ status.modified ++ status.untracked
    let diff := setting.vcs.differing (setting.vcs.base? Discovery.head target) Discovery.head
    let changed := ((tree ++ diff).filter Extension.isSupported).eraseDups
    let excluded := setting.request.ignoreBranches.flatMap fun branch =>
      setting.vcs.differing (setting.vcs.base? branch target) branch
    (∀ files, .changed files ∈ report.events ↔ files = changed) ∧
    (changed = [] → report.outcome.errorCount = 0) ∧
    (changed ≠ [] → ∃ output,
      (setting.compiler setting.request.options.arguments).value = .ok output ∧
      report.outcome.errorCount =
        ((changed.filter fun file => !excluded.contains file).map fun file =>
          (Text.lines output).countP (setting.request.matchMode.accepts file)).sum) ∧
    (report.outcome.success = true ↔ report.outcome.errorCount = 0) := by
  rcases undisturbed_of_report setting returned with ⟨_, fine, told⟩
  refine ⟨?_, ?_, ?_, beq_iff_eq⟩
  · rw [told]
    exact changed_mem_events setting
  · exact none_counted_of_ok setting fine
  · exact counted_of_ok setting fine

theorem report_accounts_sample :
    (run .sample).value = .ok ⟨⟨1⟩, Setting.sample.events⟩ ∧
      (∀ files, .changed files ∈ Setting.sample.events ↔ files = ["a.ts", "b.ts"]) ∧
      ∃ output, (Setting.sample.compiler Setting.sample.request.options.arguments).value =
          .ok output ∧
        (1 : Int) = (["a.ts"].map fun file =>
          (Text.lines output).countP (MatchMode.substring.accepts file)).sum := by
  have returned : (run .sample).value = .ok ⟨⟨1⟩, Setting.sample.events⟩ := rfl
  have accounts := report_accounts .sample returned
  exact ⟨returned, accounts.1, accounts.2.2.1 (List.cons_ne_nil _ _)⟩

end Check

end Ratchet
