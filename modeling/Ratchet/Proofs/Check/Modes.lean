import Mathlib.Algebra.Order.BigOperators.Group.List
import Mathlib.Algebra.Order.Ring.Nat
import Ratchet.Proofs.Check.Calls
import Ratchet.Proofs.Check.Views
import Ratchet.Proofs.Compiler.Match

namespace Ratchet

namespace Check

/-!
# Exact and lenient checks

A request chooses how lines are attributed to files, and nothing but that
depends on the choice: both ways find the same changes, include the same files
and read the same lines.  If the lines hold no backslashes and the files are
in normal form, the exact check is the milder one, file by file and in its
number.
-/

/-- The setting with another way of attributing lines. -/
def Setting.matching (setting : Setting) (mode : MatchMode) : Setting :=
  { setting with request := { setting.request with matchMode := mode } }

/-- The lines hold no backslashes, and the included files are in normal form. -/
structure Setting.Comparable (setting : Setting) : Prop where
  plain : ∀ line ∈ setting.lines, '\\' ∉ line.toList
  normal : ∀ file ∈ setting.included, FileName.normalize file = file

variable {setting : Setting}

theorem included_matching (mode : MatchMode) :
    (setting.matching mode).included = setting.included := rfl

theorem about_matching (mode : MatchMode) (file : String) :
    (setting.matching mode).about file = mode.linesAbout file setting.lines := rfl

theorem returns_matching
    (patient : ∀ listener, setting.listener = some listener →
      ∀ earlier event, listener earlier event = none) (mode : MatchMode) :
    (∃ report, (run (setting.matching mode)).value = .ok report) ↔
      (setting.changed ≠ [] → ∃ lines, setting.compiled = .ok lines) :=
  returns_iff (setting.matching mode) patient

namespace Setting.Comparable

variable (comparable : setting.Comparable)

include comparable

theorem about_sublist {file : String} (included : file ∈ setting.included) :
    ((setting.matching .exact).about file).Sublist ((setting.matching .substring).about file) := by
  rw [about_matching, about_matching]
  exact MatchMode.linesAbout_exact_sublist (comparable.normal file included) comparable.plain

theorem failing_of_exact {file : String} (included : file ∈ setting.included)
    (failing : (!((setting.matching .exact).about file).isEmpty) = true) :
    (!((setting.matching .substring).about file).isEmpty) = true := by
  have fewer := about_sublist comparable included
  rw [Bool.not_eq_true', List.isEmpty_eq_false_iff] at failing ⊢
  intro nothing
  rw [nothing, List.sublist_nil] at fewer
  exact failing fewer

theorem length_flatMap_about_le :
    (setting.included.flatMap (setting.matching .exact).about).length ≤
      (setting.included.flatMap (setting.matching .substring).about).length := by
  rw [List.length_flatMap, List.length_flatMap]
  apply List.sum_le_sum
  intro file included
  exact (about_sublist comparable included).length_le

end Setting.Comparable

/-- What the exact way of attributing lines finds, the lenient way finds as
well: on a line, in a list of lines, and in a check. -/
theorem exact_refines_substring :
    (∀ file line, FileName.normalize file = file → '\\' ∉ line.toList →
      MatchMode.exact.accepts file line = true → MatchMode.substring.accepts file line = true) ∧
    (∀ file lines, FileName.normalize file = file → (∀ line ∈ lines, '\\' ∉ line.toList) →
      (MatchMode.exact.linesAbout file lines).Sublist
        (MatchMode.substring.linesAbout file lines)) ∧
    (∀ setting : Setting, setting.Comparable → ∀ strict lenient,
      (run (setting.matching .exact)).value = .ok strict →
      (run (setting.matching .substring)).value = .ok lenient →
      strict.fileResults.map Prod.fst = lenient.fileResults.map Prod.fst ∧
      (∀ file failing lines stated told, .verdict file failing lines ∈ strict.events →
        .verdict file stated told ∈ lenient.events → lines.Sublist told) ∧
      (∀ file, strict.fileResults.lookup file = some true →
        lenient.fileResults.lookup file = some true) ∧
      strict.outcome.errorCount ≤ lenient.outcome.errorCount) ∧
    (∀ setting : Setting, (∀ listener, setting.listener = some listener →
        ∀ earlier event, listener earlier event = none) →
      ((∃ strict, (run (setting.matching .exact)).value = .ok strict) ↔
        ∃ lenient, (run (setting.matching .substring)).value = .ok lenient)) := by
  refine ⟨?_, ?_, ?_, ?_⟩
  · intro file line normal plain about
    exact MatchMode.accepts_substring_of_exact normal plain about
  · intro file lines normal plain
    exact MatchMode.linesAbout_exact_sublist normal plain
  · intro setting comparable strict lenient returned returnedToo
    rcases views_of_report _ returned with ⟨told, results, counted⟩
    rcases views_of_report _ returnedToo with ⟨toldToo, resultsToo, countedToo⟩
    refine ⟨?_, ?_, ?_, ?_⟩
    · rw [files_of_report _ returned, files_of_report _ returnedToo, included_matching,
        included_matching]
    · intro file failing lines stated others member memberToo
      rw [told, verdict_mem_events] at member
      rw [toldToo, verdict_mem_events] at memberToo
      rcases member with ⟨included, _, rfl⟩
      rcases memberToo with ⟨_, _, rfl⟩
      exact comparable.about_sublist included
    · intro file fails
      rw [results, lookup_map_eq_some_iff] at fails
      rw [resultsToo, lookup_map_eq_some_iff]
      exact ⟨fails.1, (comparable.failing_of_exact fails.1 fails.2.symm).symm⟩
    · rw [counted, countedToo]
      exact Int.ofNat_le.mpr comparable.length_flatMap_about_le
  · intro setting patient
    rw [returns_matching patient, returns_matching patient]

/-- Two lines mention a file, and one of them is a header with its name. -/
def Setting.mentioning : Setting :=
  { Setting.sample with
    compiler := fun _ => pure (.ok "data.ts(1,1): error TS1\n./a.ts:2:2 - error TS2\n") }

theorem exact_refines_substring_sample :
    Setting.mentioning.Comparable ∧
      (run (Setting.mentioning.matching .exact)).value =
        .ok ⟨⟨1⟩, (Setting.mentioning.matching .exact).events⟩ ∧
      (run (Setting.mentioning.matching .substring)).value =
        .ok ⟨⟨2⟩, (Setting.mentioning.matching .substring).events⟩ ∧
      ["./a.ts:2:2 - error TS2"].Sublist ["data.ts(1,1): error TS1", "./a.ts:2:2 - error TS2"] ∧
      (1 : Int) ≤ 2 := by
  have comparable : Setting.mentioning.Comparable := ⟨by decide +kernel, by decide +kernel⟩
  have returned : (run (Setting.mentioning.matching .exact)).value =
    .ok ⟨⟨1⟩, (Setting.mentioning.matching .exact).events⟩ := rfl
  have returnedToo : (run (Setting.mentioning.matching .substring)).value =
    .ok ⟨⟨2⟩, (Setting.mentioning.matching .substring).events⟩ := rfl
  rcases exact_refines_substring.2.2.1 .mentioning comparable _ _ returned returnedToo with
    ⟨_, verdicts, _, fewer⟩
  refine ⟨comparable, returned, returnedToo, ?_, fewer⟩
  apply verdicts "a.ts" true _ true
  · rw [verdict_mem_events]
    decide +kernel
  · rw [verdict_mem_events]
    decide +kernel

end Check

end Ratchet
