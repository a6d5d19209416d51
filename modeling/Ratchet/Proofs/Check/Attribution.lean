import Mathlib.Algebra.Order.BigOperators.Group.List
import Mathlib.Algebra.Order.Ring.Nat
import Ratchet.Proofs.Check.Calls
import Ratchet.Proofs.Compiler.Match

namespace Ratchet

/-!
# Counting lines by files and by headers

A check counts file by file: for each included file the lines about it.  The
exact way of attributing lines allows another account of the same number, line
by line.  A header counts for the files that its name is the normal form of,
and a line that is no header counts for nothing.  If the included files have
normal forms of their own, a header counts at most once.
-/

/-! ## Two ways to count -/

/-- Counting is adding up ones. -/
theorem countP_eq_sum {α : Type} (test : α → Bool) (items : List α) :
    items.countP test = (items.map fun item => if test item = true then 1 else 0).sum := by
  induction items with
  | nil => rfl
  | cons item rest ih => rw [List.countP_cons, List.map_cons, List.sum_cons, ih, Nat.add_comm]

/-- Related pairs may be counted from either side. -/
theorem sum_countP_comm {α β : Type} (related : α → β → Bool) (left : List α) (right : List β) :
    (left.map fun a => right.countP (related a)).sum =
      (right.map fun b => left.countP fun a => related a b).sum := by
  induction left with
  | nil => simp
  | cons a rest ih =>
    have each : (fun b => (a :: rest).countP fun a => related a b) =
        fun b => (rest.countP fun a => related a b) + if related a b = true then 1 else 0 := by
      funext b
      exact List.countP_cons
    rw [List.map_cons, List.sum_cons, ih, each, List.sum_map_add, ← countP_eq_sum, Nat.add_comm]

namespace Check

/-- The files named by the headers among some lines, one for each header. -/
def named (lines : List String) : List String :=
  lines.filterMap Diagnostic.file?

/-- How many files have a normal form. -/
def bearers (files : List String) (name : String) : Nat :=
  files.countP fun file => FileName.normalize file == name

/-- A line is about as many files as bear the name in its header. -/
theorem sum_countP_exact (files lines : List String) :
    (lines.map fun line => files.countP fun file => MatchMode.exact.accepts file line).sum =
      ((named lines).map (bearers files)).sum := by
  induction lines with
  | nil => rw [named, List.filterMap_nil, List.map_nil, List.map_nil]
  | cons line rest ih =>
    rw [List.map_cons, List.sum_cons, ih]
    cases header : Diagnostic.file? line with
    | none =>
      have nothing : (files.countP fun file => MatchMode.exact.accepts file line) = 0 := by
        simp [MatchMode.accepts_exact_of_no_header header]
      rw [nothing, Nat.zero_add, named, named, List.filterMap_cons_none header]
    | some name =>
      have bearing : (files.countP fun file => MatchMode.exact.accepts file line) =
          bearers files name := by
        simp only [MatchMode.accepts_exact_of_header header, bearers]
      rw [bearing, named, named, List.filterMap_cons_some header, List.map_cons, List.sum_cons]

/-- Files with different normal forms do not share a name. -/
theorem bearers_le_one {files : List String} (distinct : (files.map FileName.normalize).Nodup)
    (name : String) : bearers files name ≤ 1 := by
  have once := List.nodup_iff_count.mp distinct name
  rw [List.count_eq_countP, List.countP_map] at once
  exact once

theorem sum_bearers_le {files : List String} (distinct : (files.map FileName.normalize).Nodup)
    (names : List String) : (names.map (bearers files)).sum ≤ names.length := by
  have each : ∀ count ∈ names.map (bearers files), count ≤ 1 := by
    intro count member
    rcases List.mem_map.mp member with ⟨name, _, rfl⟩
    exact bearers_le_one distinct name
  calc (names.map (bearers files)).sum
      ≤ (names.map (bearers files)).length • 1 := List.sum_le_card_nsmul _ 1 each
    _ = names.length := by rw [nsmul_one, Nat.cast_id, List.length_map]

/-- A line is about one file at most if no two files have the same normal
form. -/
theorem countP_exact_le_one {files : List String} (distinct : (files.map FileName.normalize).Nodup)
    (line : String) : (files.countP fun file => MatchMode.exact.accepts file line) ≤ 1 := by
  cases header : Diagnostic.file? line with
  | none => simp [MatchMode.accepts_exact_of_no_header header]
  | some name =>
    simp only [MatchMode.accepts_exact_of_header header]
    exact bearers_le_one distinct name

/-! ## The number of a check -/

variable (setting : Setting) (state : State)

theorem lineCount_exact (exact : setting.request.matchMode = .exact) (lines files : List String) :
    setting.lineCount lines files = ((named lines).map (bearers files)).sum := by
  rw [Setting.lineCount, exact, sum_countP_comm]
  exact sum_countP_exact files lines

/-- The last step either is stopped by the listener or ends where it should. -/
theorem correlateAndAggregate_cases :
    (∃ failure, (perform setting.listener state.events
        (Step.script setting state .correlateAndAggregate)).2 = some failure ∧
      (correlateAndAggregate setting state).value.2 = .failed failure) ∨
    (correlateAndAggregate setting state).value =
      Step.after setting state .correlateAndAggregate := by
  have taken := correlateAndAggregate_performs setting state
  cases ends : (perform setting.listener state.events
      (Step.script setting state .correlateAndAggregate)).2 with
  | some failure => exact Or.inl ⟨failure, rfl, taken.objected failure ends⟩
  | none => exact Or.inr (taken.undisturbed ends)

/-- The number of a check in the exact mode, counted by the headers among the
lines of the compiler. -/
theorem errorCount_exact (exact : setting.request.matchMode = .exact) :
    let files := state.includedFiles
    let headers := state.diagnosticLines.filterMap Diagnostic.file?
    let total := (headers.map fun name =>
      files.countP fun file => FileName.normalize file == name).sum
    (∀ after outcome, (correlateAndAggregate setting state).value = (after, .finished outcome) →
      outcome.errorCount = total ∧ after.errorCount = total) ∧
    ((∀ listener, setting.listener = some listener →
        ∀ earlier event, listener earlier event = none) →
      ∃ after, (correlateAndAggregate setting state).value = (after, .finished ⟨total⟩)) ∧
    (∀ line, Diagnostic.file? line = none → ∀ file, MatchMode.exact.accepts file line = false) ∧
    ((files.map FileName.normalize).Nodup →
      (∀ line, (files.countP fun file => MatchMode.exact.accepts file line) ≤ 1) ∧
        total ≤ headers.length) := by
  have counted := lineCount_exact setting exact state.diagnosticLines state.includedFiles
  refine ⟨?_, ?_, ?_, ?_⟩
  · intro after outcome finished
    rcases correlateAndAggregate_cases setting state with ⟨failure, _, stopped⟩ | ends
    · rw [finished] at stopped
      cases stopped
    · rw [finished, Step.after, counted] at ends
      cases ends
      exact ⟨rfl, rfl⟩
  · intro patient
    rcases correlateAndAggregate_cases setting state with ⟨failure, objected, _⟩ | ends
    · rw [undisturbed_of_patient _ patient state.events] at objected
      cases objected
    · rw [ends, Step.after, counted]
      exact ⟨_, rfl⟩
  · intro line noHeader file
    exact MatchMode.accepts_exact_of_no_header noHeader file
  · intro distinct
    exact ⟨countP_exact_le_one distinct, sum_bearers_le distinct _⟩

/-- Two files, two headers and a line that only mentions a file. -/
theorem errorCount_exact_sample :
    let setting : Setting :=
      { Setting.sample with request := { targetBranch := "main", matchMode := .exact } }
    let state : State :=
      { includedFiles := ["./a.ts", "b.ts"]
        diagnosticLines := ["a.ts(1,1): error TS1", "  a.ts", "b.ts:2:2 - error TS2"] }
    setting.request.matchMode = .exact ∧
      (state.includedFiles.map FileName.normalize).Nodup ∧
      (∀ line, (state.includedFiles.countP fun file => MatchMode.exact.accepts file line) ≤ 1) ∧
      ∃ after, (correlateAndAggregate setting state).value = (after, .finished ⟨2⟩) := by
  intro setting state
  rcases errorCount_exact setting state rfl with ⟨_, finishes, _, once⟩
  have distinct : (state.includedFiles.map FileName.normalize).Nodup := by decide +kernel
  have total : ((state.diagnosticLines.filterMap Diagnostic.file?).map fun name =>
      state.includedFiles.countP fun file => FileName.normalize file == name).sum = 2 := by
    decide +kernel
  rw [total] at finishes
  exact ⟨rfl, distinct, (once distinct).1, finishes fun _ present => by cases present⟩

end Check

end Ratchet
