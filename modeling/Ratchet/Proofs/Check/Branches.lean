import Mathlib.Data.List.Basic
import Mathlib.Data.List.Flatten
import Ratchet.Proofs.Check.Account
import Ratchet.Proofs.Check.Alike
import Ratchet.Proofs.Check.Calls
import Ratchet.Proofs.Check.Views

namespace Ratchet

namespace Check

/-!
# Ignoring branches

The ignored branches of a request count as a set.  Each of them is asked about
by itself, whatever became of the questions about the others, and their files
are only ever used to leave changed files out.  So neither their order nor how
often they are named makes a difference to the report, and naming more of them
can only shorten the list of included files.

Two runs with the same branches in another order put their questions in
another order.  They are not compared through their scripts, therefore, but
through the events in these, on which alone the listener's objections depend.
-/

/-- The setting with other ignored branches. -/
def Setting.ignoring (setting : Setting) (branches : List String) : Setting :=
  { setting with request := { setting.request with ignoreBranches := branches } }

section Sets

variable (setting : Setting) {first second : List String}

/-! ## What is left of the changes -/

theorem changed_ignoring (branches : List String) :
    (setting.ignoring branches).changed = setting.changed := by
  rw [Setting.changed, Setting.changed]
  rfl

theorem about_ignoring (branches : List String) :
    (setting.ignoring branches).about = setting.about := by
  funext file
  rw [Setting.about, Setting.about, Setting.lines, Setting.lines]
  rfl

theorem excluded_mono (more : first ⊆ second) :
    (setting.ignoring first).excluded ⊆ (setting.ignoring second).excluded := by
  intro file member
  rcases List.mem_flatMap.mp member with ⟨branch, named, touched⟩
  exact List.mem_flatMap.mpr ⟨branch, more named, touched⟩

/-- Ignoring more branches leaves fewer files, in the same order. -/
theorem included_sublist (more : first ⊆ second) :
    (setting.ignoring second).included.Sublist (setting.ignoring first).included := by
  rw [Setting.included, Setting.included, changed_ignoring, changed_ignoring]
  apply List.monotone_filter_right
  intro file kept
  rw [Bool.not_eq_true', ← Bool.not_eq_true, List.contains_iff_mem] at kept ⊢
  exact fun member => kept (excluded_mono setting more member)

theorem included_congr (same : ∀ branch, branch ∈ first ↔ branch ∈ second) :
    (setting.ignoring second).included = (setting.ignoring first).included := by
  have fewer := included_sublist setting fun branch named => (same branch).mp named
  have more := included_sublist setting fun branch named => (same branch).mpr named
  exact fewer.antisymm more

end Sets

/-! ## Two runs -/

section Runs

variable (setting : Setting) {first second : List String}

theorem value_run_ignoring
    (same : (setting.ignoring second).included = (setting.ignoring first).included) :
    (run (setting.ignoring second)).value = (run (setting.ignoring first)).value := by
  apply value_run_congr
  · rfl
  · rw [heard_script, heard_script, Setting.remainder, Setting.remainder, changed_ignoring,
      changed_ignoring, same]
    rfl
  · rw [conclusion_eq, conclusion_eq, changed_ignoring, changed_ignoring, same]
    rfl

/-- Whether a check comes to a report does not depend on which branches are
ignored. -/
theorem report_ignoring
    (patient : ∀ listener, setting.listener = some listener →
      ∀ earlier event, listener earlier event = none) (first second : List String)
    {report : Report} (returned : (run (setting.ignoring first)).value = .ok report) :
    ∃ other, (run (setting.ignoring second)).value = .ok other := by
  have returns := (returns_iff (setting.ignoring first) patient).mp ⟨report, returned⟩
  rw [changed_ignoring] at returns
  rw [returns_iff (setting.ignoring second) patient, changed_ignoring]
  exact returns

/-- A line about a file of the shorter list is one about a file of the longer
list. -/
theorem errorCount_ignoring_le (more : first ⊆ second) {report other : Report}
    (returned : (run (setting.ignoring first)).value = .ok report)
    (returnedToo : (run (setting.ignoring second)).value = .ok other) :
    other.outcome.errorCount ≤ report.outcome.errorCount := by
  have counted := (views_of_report _ returned).2.2
  have countedToo := (views_of_report _ returnedToo).2.2
  rw [counted, countedToo, about_ignoring, about_ignoring]
  exact Int.ofNat_le.mpr ((included_sublist setting more).flatMap setting.about).length_le

/-- What the ignored branches of a request change about its report. -/
theorem run_ignoring (setting : Setting) (first second : List String) :
    ((∀ branch, branch ∈ first ↔ branch ∈ second) →
      (run (setting.ignoring second)).value = (run (setting.ignoring first)).value) ∧
    (first ⊆ second → ∀ report other, (run (setting.ignoring first)).value = .ok report →
      (run (setting.ignoring second)).value = .ok other →
      (∀ files, .changed files ∈ other.events ↔ .changed files ∈ report.events) ∧
      (other.fileResults.map Prod.fst).Sublist (report.fileResults.map Prod.fst) ∧
      (∀ file failing lines stated told, .verdict file failing lines ∈ report.events →
        .verdict file stated told ∈ other.events → stated = failing ∧ told = lines) ∧
      other.outcome.errorCount ≤ report.outcome.errorCount ∧
      (report.outcome.success = true → other.outcome.success = true)) ∧
    ((∀ listener, setting.listener = some listener →
        ∀ earlier event, listener earlier event = none) →
      ((∃ other, (run (setting.ignoring second)).value = .ok other) ↔
        ∃ report, (run (setting.ignoring first)).value = .ok report)) := by
  refine ⟨?_, ?_, ?_⟩
  · intro same
    exact value_run_ignoring setting (included_congr setting same)
  · intro more report other returned returnedToo
    rcases views_of_report _ returned with ⟨told, _, _⟩
    rcases views_of_report _ returnedToo with ⟨toldToo, _, countedToo⟩
    have fewer := errorCount_ignoring_le setting more returned returnedToo
    refine ⟨?_, ?_, ?_, fewer, ?_⟩
    · intro files
      rw [told, toldToo, changed_mem_events, changed_mem_events, changed_ignoring,
        changed_ignoring]
    · rw [files_of_report _ returned, files_of_report _ returnedToo]
      exact included_sublist setting more
    · intro file failing lines stated heard member memberToo
      rw [told, verdict_mem_events, about_ignoring] at member
      rw [toldToo, verdict_mem_events, about_ignoring] at memberToo
      rcases member with ⟨_, rfl, rfl⟩
      exact memberToo.2
    · intro passes
      rw [Outcome.success, beq_iff_eq] at passes ⊢
      rw [countedToo] at fewer ⊢
      omega
  · intro patient
    constructor
    · rintro ⟨other, returned⟩
      exact report_ignoring setting patient second first returned
    · rintro ⟨report, returned⟩
      exact report_ignoring setting patient first second returned

theorem run_ignoring_sample :
    [] ⊆ ["wip"] ∧
      (run (Setting.sample.ignoring [])).value =
        .ok ⟨⟨2⟩, (Setting.sample.ignoring []).events⟩ ∧
      (run (Setting.sample.ignoring ["wip"])).value = .ok ⟨⟨1⟩, Setting.sample.events⟩ ∧
      ((Report.verdicts Setting.sample.events).map Prod.fst).Sublist
        ((Report.verdicts (Setting.sample.ignoring []).events).map Prod.fst) ∧
      (1 : Int) ≤ 2 := by
  have returned : (run (Setting.sample.ignoring [])).value =
    .ok ⟨⟨2⟩, (Setting.sample.ignoring []).events⟩ := rfl
  have returnedToo : (run (Setting.sample.ignoring ["wip"])).value =
    .ok ⟨⟨1⟩, Setting.sample.events⟩ := rfl
  have more : [] ⊆ ["wip"] := List.nil_subset _
  rcases (run_ignoring .sample [] ["wip"]).2.1 more _ _ returned returnedToo with
    ⟨_, files, _, fewer, _⟩
  exact ⟨more, returned, returnedToo, files, fewer⟩

end Runs

end Check

end Ratchet
