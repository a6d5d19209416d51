import Ratchet.Proofs.Check.Alike
import Ratchet.Proofs.Check.Delivery

namespace Ratchet

/-!
# Questions without an answer

A failing question is as good as one that brings no information: a fork point
that nobody knows, a clean working tree, no differing files.  Replacing every
failure by such an answer, wherever the failures are, changes nothing that can
be seen from outside.

The two runs are compared through their scripts.  A script depends on version
control only through what it lets the check know, and that is the same.
-/

/-- The same answer, unless it is a failure; then one that is given instead. -/
def Answered.recover {α ε : Type} (fallback : α) (answer : Answered (Except ε α)) :
    Answered (Except ε α) :=
  match answer.value with
  | .ok _ => answer
  | .error _ => pure (.ok fallback)

theorem Answered.value_recover {α ε : Type} (fallback : α) (answer : Answered (Except ε α)) :
    (answer.recover fallback).value = .ok (answer.value.toOption.getD fallback) := by
  unfold Answered.recover
  split
  · next known => rw [known]; rfl
  · next failed => rw [failed]; rfl

namespace Vcs

/-- Answers every question that fails by the answer that brings no
information, and the others as before. -/
def degraded (vcs : Vcs) : Vcs where
  forkPoint branch target := (vcs.forkPoint branch target).recover none
  workingTree := vcs.workingTree.recover .clean
  diff base head := (vcs.diff base head).recover []
  timing := vcs.timing

variable (vcs : Vcs)

theorem base?_degraded (branch target : String) :
    vcs.degraded.base? branch target = vcs.base? branch target := by
  unfold base? degraded
  rw [Answered.value_recover]
  cases (vcs.forkPoint branch target).value <;> rfl

theorem status_degraded : vcs.degraded.status = vcs.status := by
  unfold status degraded
  rw [Answered.value_recover]
  cases vcs.workingTree.value <;> rfl

theorem differing_degraded (base : Option Revision) (head : String) :
    vcs.degraded.differing base head = vcs.differing base head := by
  cases base with
  | none => rfl
  | some base =>
    simp only [differing, degraded, Answered.value_recover]
    cases (vcs.diff base head).value <;> rfl

/-- The degraded answers tell the check what the others let it know. -/
theorem agrees_degraded : vcs.Agrees vcs.degraded where
  base? := vcs.base?_degraded
  status := vcs.status_degraded
  differing := vcs.differing_degraded
  timing := rfl

end Vcs

namespace Check

/-! ## The two runs -/

/-- The setting whose version control never fails. -/
def Setting.degraded (setting : Setting) : Setting :=
  { setting with vcs := setting.vcs.degraded }

variable (setting : Setting)

theorem alike_degraded : setting.Alike setting.degraded where
  request := rfl
  listener := rfl
  vcs := setting.vcs.agrees_degraded

theorem script_degraded : setting.degraded.script = setting.script :=
  (alike_degraded setting).script rfl

theorem conclusion_degraded : setting.degraded.conclusion = setting.conclusion :=
  (alike_degraded setting).conclusion rfl

/-- No failure of version control makes a difference to the questions, the
calls of the compiler, the events or the result; and the failures that reach
the caller are those of the compiler and of the listener. -/
theorem run_degraded :
    (run setting.degraded).value = (run setting).value ∧
    (run setting.degraded).journal.dealings = (run setting).journal.dealings ∧
    ∀ failure, (run setting).value = .error failure →
      (∃ reason, (setting.compiler setting.request.options.arguments).value = .error reason ∧
        failure = .compiler reason) ∨
      (∃ listener earlier event reason, setting.listener = some listener ∧
        (run setting).journal.heard = earlier ++ [event] ∧
        listener earlier event = some reason ∧ failure = .listener reason) := by
  have listener : setting.degraded.listener = setting.listener := rfl
  have alike := run_congr listener (script_degraded setting) (conclusion_degraded setting)
  exact ⟨alike.1, alike.2, fun failure => cause_of_failure setting⟩

end Check

end Ratchet
