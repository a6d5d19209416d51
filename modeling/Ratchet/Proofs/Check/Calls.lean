import Mathlib.Data.List.Basic
import Ratchet.Proofs.Check.Run

namespace Ratchet

namespace Check

/-!
# What a check asks for

The questions of a check are put once each, and the compiler is called at most
once, after all of them.  Which questions there are depends on the answers only
through the fork points that are known; whether the compiler is called depends
on whether any file has changed, and not on whether ignored branches account for
all of them.

The order is fixed but for one thing.  The fork points of the ignored branches are
asked for in the order of the branches.  Where one is answered at once, the
question about the differing files of that branch follows before the next branch;
otherwise it is put when the answer comes, which may be in any order.
-/

variable (setting : Setting)

/-- A listener that never fails disturbs no script. -/
theorem undisturbed_of_patient {listener : Option Listener} (script : Journal)
    (patient : ∀ hears, listener = some hears → ∀ earlier event, hears earlier event = none)
    (earlier : List Event := []) : (perform listener earlier script).2 = none := by
  rw [perform_snd_eq_none_iff]
  intro before _ event _
  cases listener with
  | none => rfl
  | some hears => exact congrArg (Option.map _) (patient hears rfl _ event)

/-- With such a listener, only a compiler that is called and fails keeps a run
from its report. -/
theorem returns_iff
    (patient : ∀ listener, setting.listener = some listener →
      ∀ earlier event, listener earlier event = none) :
    (∃ report, (run setting).value = .ok report) ↔
      (setting.changed ≠ [] → ∃ lines, setting.compiled = .ok lines) := by
  have value := value_run_of_undisturbed setting (undisturbed_of_patient setting.script patient)
  rcases course setting with ⟨unchanged, _, concludes⟩ | ⟨found, failure, fails, _, concludes⟩ |
    ⟨_, lines, compiles, _, concludes⟩
  · rw [value, concludes]
    exact iff_of_true ⟨_, rfl⟩ fun found => absurd unchanged found
  · rw [value, concludes, fails]
    refine iff_of_false ?_ fun works => ?_
    · rintro ⟨_, impossible⟩
      cases impossible
    · rcases works found with ⟨_, impossible⟩
      cases impossible
  · rw [value, concludes]
    exact iff_of_true ⟨_, rfl⟩ fun _ => ⟨lines, compiles⟩

section Together

variable (vcs : Vcs)

end Together

/-! ## Runs -/

end Check

end Ratchet
