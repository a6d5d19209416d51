import Ratchet.Proofs.Check.Run

namespace Ratchet

namespace Check

/-!
# Checks that are alike

Two checks of the same request with the same listener look at the same changes
if version control lets them know the same, however it comes by what it tells
and whatever becomes of the questions that it does not answer.  They part only
where the compiler is called.  If they go on from there in the same way, nobody
outside can tell one from the other.
-/

/-! ## Runs of the same script -/

/-- Runs that would tell the same events and come to the same conclusion have
the same result, whatever they ask and in which order. -/
theorem value_run_congr {setting other : Setting} (listener : other.listener = setting.listener)
    (told : other.script.heard = setting.script.heard)
    (conclusion : other.conclusion = setting.conclusion) :
    (run other).value = (run setting).value := by
  have objections : (perform other.listener [] other.script).2 =
      (perform setting.listener [] setting.script).2 := by
    rw [perform_snd_eq_of_heard, perform_snd_eq_of_heard setting.script, listener, told]
  cases ends : (perform setting.listener [] setting.script).2 with
  | none =>
    rw [(run_performs setting).undisturbed ends,
      (run_performs other).undisturbed (objections.trans ends), told, conclusion]
  | some failure =>
    rw [(run_performs setting).objected failure ends,
      (run_performs other).objected failure (objections.trans ends)]

/-- Two settings with the same listener, script and conclusion run alike. -/
theorem run_congr {setting other : Setting} (listener : other.listener = setting.listener)
    (script : other.script = setting.script) (conclusion : other.conclusion = setting.conclusion) :
    (run other).value = (run setting).value ∧
      (run other).journal.dealings = (run setting).journal.dealings := by
  refine ⟨value_run_congr listener (congrArg Journal.heard script) conclusion, ?_⟩
  rw [(run_performs other).dealings, (run_performs setting).dealings, listener, script]

/-! ## Settings that look at the same changes -/

/-- A setting with the request and the listener of another one, and with
version control that agrees with that of the other one. -/
structure Setting.Alike (setting other : Setting) : Prop where
  request : other.request = setting.request
  listener : other.listener = setting.listener
  vcs : setting.vcs.Agrees other.vcs

namespace Setting.Alike

variable {setting other : Setting} (alike : setting.Alike other)

include alike

theorem revision : other.revision = setting.revision := by
  rw [Setting.revision, alike.request, alike.vcs.base?, Setting.revision]

theorem changed : other.changed = setting.changed := by
  rw [Setting.changed, revision alike, alike.vcs.changedSince, Setting.changed]

theorem excluded : other.excluded = setting.excluded := by
  rw [Setting.excluded, alike.request, alike.vcs.branchFiles, Setting.excluded]

theorem included : other.included = setting.included := by
  rw [Setting.included, changed alike, excluded alike, Setting.included]

theorem questions : other.questions = setting.questions := by
  rw [Setting.questions, alike.request, alike.vcs.branchExchanges, alike.vcs.changeExchanges,
    revision alike, Setting.questions]

theorem overture : other.overture = setting.overture := by
  rw [Setting.overture, alike.request, revision alike, questions alike, changed alike,
    Setting.overture]

theorem fileEvents : other.fileEvents = setting.fileEvents := by
  funext lines file
  rw [Setting.fileEvents, alike.request, Setting.fileEvents]

theorem lineCount : other.lineCount = setting.lineCount := by
  funext lines files
  rw [Setting.lineCount, alike.request, Setting.lineCount]

/-- What comes after the changed files is all that can make a difference. -/
theorem run_of_remainder (remainder : other.remainder = setting.remainder)
    (conclusion : other.conclusion = setting.conclusion) :
    (run other).value = (run setting).value ∧
      (run other).journal.dealings = (run setting).journal.dealings := by
  apply run_congr alike.listener _ conclusion
  rw [script_eq, script_eq, overture alike, remainder]

section Compiled

variable (compiled : other.compiled = setting.compiled)

include compiled

theorem remainder : other.remainder = setting.remainder := by
  rw [Setting.remainder, changed alike, compiled, alike.request, included alike, fileEvents alike,
    Setting.remainder]

theorem script : other.script = setting.script := by
  rw [script_eq, script_eq, overture alike, remainder alike compiled]

theorem conclusion : other.conclusion = setting.conclusion := by
  rw [conclusion_eq, conclusion_eq, changed alike, compiled, included alike, lineCount alike]

/-- If the compiler says the same as well, the runs are alike. -/
theorem run :
    (Check.run other).value = (Check.run setting).value ∧
      (Check.run other).journal.dealings = (Check.run setting).journal.dealings :=
  run_of_remainder alike (remainder alike compiled) (conclusion alike compiled)

end Compiled

end Setting.Alike

end Check

end Ratchet
