import Ratchet.Proofs.Check.Run

namespace Ratchet

/-!
# The views of a report

A report tells about a run in three ways: a number of lines, the events, and a
list of files with a verdict on each.  The number is a running total, the
events are recorded one by one, and the list is rebuilt from the events by
file name, which lets a later verdict on a file replace an earlier one.  That
nothing is ever replaced is due to the changed files, which were freed of
repetitions when they were collected.

The results join all three to the files that are included in the check and the
lines about each of them.
-/

/-! ## Verdicts among events -/

namespace Event

/-- The entry that a verdict makes in the list of results. -/
def entry? : Event → Option (String × Bool)
  | .verdict file failing _ => some (file, failing)
  | .since _ | .changed _ | .examine _ => none

/-- The lines of diagnostics that a verdict tells. -/
def diagnostics : Event → List String
  | .verdict _ _ diagnostics => diagnostics
  | .since _ | .changed _ | .examine _ => []

end Event

namespace Report

theorem setVerdict_of_absent {file : String} {failing : Bool} {built : List (String × Bool)}
    (absent : file ∉ built.map Prod.fst) :
    setVerdict file failing built = built ++ [(file, failing)] := by
  induction built with
  | nil => rfl
  | cons entry rest ih =>
    rw [List.map_cons, List.mem_cons, not_or] at absent
    rw [setVerdict, if_neg (Ne.symm absent.1), ih absent.2, List.cons_append]

/-- The list of results is built from the entries of the verdicts alone. -/
theorem verdicts_eq_foldl (events : List Event) :
    verdicts events =
      (events.filterMap Event.entry?).foldl (fun built entry => setVerdict entry.1 entry.2 built)
        [] := by
  rw [verdicts, List.foldl_filterMap]
  congr 1
  funext built event
  cases event <;> rfl

/-- Entries for files that are all different are put one after the other. -/
theorem foldl_setVerdict_of_distinct {entries built : List (String × Bool)}
    (distinct : ((built ++ entries).map Prod.fst).Nodup) :
    entries.foldl (fun built entry => setVerdict entry.1 entry.2 built) built =
      built ++ entries := by
  induction entries generalizing built with
  | nil => exact (List.append_nil built).symm
  | cons entry rest ih =>
    have absent : entry.1 ∉ built.map Prod.fst := by
      rw [List.map_append, List.map_cons] at distinct
      intro member
      exact (List.nodup_append.mp distinct).2.2 entry.1 member entry.1 List.mem_cons_self rfl
    rw [← List.singleton_append, ← List.append_assoc] at distinct ⊢
    rw [List.singleton_append, List.foldl_cons, setVerdict_of_absent absent]
    exact ih distinct

theorem verdicts_of_distinct {events : List Event}
    (distinct : ((events.filterMap Event.entry?).map Prod.fst).Nodup) :
    verdicts events = events.filterMap Event.entry? := by
  rw [verdicts_eq_foldl]
  exact foldl_setVerdict_of_distinct distinct

end Report

namespace Check

variable (setting : Setting)

/-! ## Included files -/

/-- The lines that are about a file. -/
def Setting.about (file : String) : List String :=
  setting.request.matchMode.linesAbout file setting.lines

theorem nodup_included : setting.included.Nodup :=
  (setting.vcs.nodup_changedSince setting.revision).filter _

/-- A check that comes to an outcome has chosen the included files. -/
theorem includedFiles_endFrom {outcome : Outcome} (fine : setting.conclusion = .ok outcome) :
    (endFrom setting Step.all .fresh).state.includedFiles = setting.included := by
  simp only [Setting.conclusion, Step.all, endFrom, Step.after, State.fresh,
    base?_head, changedSince_revision, flatMap_branchFiles] at fine ⊢
  rw [included_eq_filter_firsts]
  cases unchanged : setting.changed with
  | nil => rfl
  | cons file rest =>
    rw [unchanged] at fine
    cases compiles : setting.compiled with
    | error failure =>
      rw [compiles] at fine
      cases fine
    | ok lines => rfl

theorem includedFiles_of_report {report : Report} (returned : (run setting).value = .ok report) :
    (runFrom setting .resolveRevision .fresh).value.state.includedFiles = setting.included := by
  rcases undisturbed_of_report setting returned with ⟨undisturbed, fine, _⟩
  have ending := (runSteps_performs setting Step.all .fresh).undisturbed undisturbed
  rw [← includedFiles_endFrom setting fine, ← ending]
  rfl

/-- The events of a run, file by file. -/
theorem events_eq_about :
    setting.events = .since setting.revision :: .changed setting.changed ::
      setting.included.flatMap fun file =>
        [.examine file, .verdict file (!(setting.about file).isEmpty) (setting.about file)] :=
  rfl

theorem filterMap_entry?_events :
    setting.events.filterMap Event.entry? =
      setting.included.map fun file => (file, !(setting.about file).isEmpty) := by
  rw [events_eq_about]
  exact (List.filterMap_flatMap ..).trans List.map_eq_flatMap.symm

/-- A list of values by file has the value of each of its files. -/
theorem lookup_map_eq_some_iff {files : List String} {value : String → Bool} {file : String}
    {found : Bool} :
    (files.map fun file => (file, value file)).lookup file = some found ↔
      file ∈ files ∧ found = value file := by
  induction files with
  | nil => simp
  | cons first rest ih =>
    rw [List.map_cons, List.lookup_cons]
    by_cases same : file = first
    · subst same
      simp [eq_comm]
    · rw [beq_false_of_ne same, ih]
      simp [same]

/-- The list of results has an entry for each included file. -/
theorem verdicts_events :
    Report.verdicts setting.events =
      setting.included.map fun file => (file, !(setting.about file).isEmpty) := by
  have files : (setting.included.map fun file => (file, !(setting.about file).isEmpty)).map
      Prod.fst = setting.included := by
    rw [List.map_map]
    exact List.map_id _
  rw [Report.verdicts_of_distinct, filterMap_entry?_events]
  rw [filterMap_entry?_events, files]
  exact nodup_included setting

theorem verdict_mem_events {file : String} {failing : Bool} {lines : List String} :
    .verdict file failing lines ∈ setting.events ↔
      file ∈ setting.included ∧ failing = !(setting.about file).isEmpty ∧
        lines = setting.about file := by
  rw [events_eq_about]
  simp only [List.mem_cons, reduceCtorEq, false_or, List.mem_flatMap, List.not_mem_nil, or_false,
    Event.verdict.injEq]
  constructor
  · rintro ⟨_, member, rfl, same⟩
    exact ⟨member, same⟩
  · rintro ⟨member, same⟩
    exact ⟨file, member, rfl, same⟩

/-! ## Numbers of lines -/

theorem lineCount_eq_length (lines files : List String) :
    setting.lineCount lines files =
      (files.flatMap fun file => setting.request.matchMode.linesAbout file lines).length := by
  rw [List.length_flatMap, Setting.lineCount]
  simp only [List.countP_eq_length_filter, MatchMode.linesAbout]

/-- The number of a report counts the lines about each included file. -/
theorem errorCount_of_ok {outcome : Outcome} (fine : setting.conclusion = .ok outcome) :
    outcome.errorCount = (setting.included.flatMap setting.about).length := by
  rcases course setting with ⟨unchanged, _, zero⟩ | ⟨_, failure, _, _, broken⟩ |
    ⟨_, lines, compiles, _, counted⟩
  · rw [zero] at fine
    cases fine
    rw [Setting.included, unchanged]
    rfl
  · rw [broken] at fine
    cases fine
  · rw [counted, lineCount_eq_length] at fine
    cases fine
    have about : setting.about =
        fun file => setting.request.matchMode.linesAbout file lines := by
      funext file
      rw [Setting.about, Setting.lines, compiles]
    rw [about]

theorem flatMap_diagnostics_events :
    setting.events.flatMap Event.diagnostics = setting.included.flatMap setting.about := by
  rw [events_eq_about, List.flatMap_cons, List.flatMap_cons, List.flatMap_assoc]
  simp [Event.diagnostics]

/-- Each file with a line about it takes at least one of the lines. -/
theorem countP_failing_le (files : List String) :
    files.countP (fun file => !(setting.about file).isEmpty) ≤
      (files.flatMap setting.about).length := by
  induction files with
  | nil => exact Nat.le_refl 0
  | cons file rest ih =>
    rw [List.flatMap_cons, List.length_append, List.countP_cons, Nat.add_comm]
    refine Nat.add_le_add ?_ ih
    cases setting.about file <;> simp

/-! ## The report as a whole -/

/-- What a report says about a run, in terms of the files included in it. -/
theorem views_of_report {report : Report} (returned : (run setting).value = .ok report) :
    report.events = setting.events ∧
    report.fileResults =
      setting.included.map (fun file => (file, !(setting.about file).isEmpty)) ∧
    report.outcome.errorCount = (setting.included.flatMap setting.about).length := by
  rcases undisturbed_of_report setting returned with ⟨_, fine, told⟩
  refine ⟨told, ?_, errorCount_of_ok setting fine⟩
  rw [Report.fileResults, told, verdicts_events]

/-- The files of the results are the included ones. -/
theorem files_of_report {report : Report} (returned : (run setting).value = .ok report) :
    report.fileResults.map Prod.fst = setting.included := by
  rw [(views_of_report setting returned).2.1, List.map_map]
  exact List.map_id _

/-- If a report is about any file, the lines about it are lines of the
compiler. -/
theorem about_sublist_output {report : Report} (returned : (run setting).value = .ok report)
    {file : String} (included : file ∈ setting.included) :
    ∃ output, (setting.compiler setting.request.options.arguments).value = .ok output ∧
      (setting.about file).Sublist (Text.lines output) := by
  rcases undisturbed_of_report setting returned with ⟨_, fine, _⟩
  rcases course setting with ⟨unchanged, _, _⟩ | ⟨_, failure, _, _, broken⟩ |
    ⟨_, lines, compiles, _, _⟩
  · rw [Setting.included, unchanged] at included
    cases included
  · rw [broken] at fine
    cases fine
  · rcases output_of_compiled setting compiles with ⟨output, answer, rfl⟩
    refine ⟨output, answer, ?_⟩
    rw [Setting.about, Setting.lines, compiles]
    exact List.filter_sublist

/-- The views that a report gives of a run agree. -/
theorem report_views {report : Report} (returned : (run setting).value = .ok report) :
    report.fileResults.map Prod.fst =
      (runFrom setting .resolveRevision .fresh).value.state.includedFiles ∧
    report.fileResults.map Prod.fst = setting.included ∧ setting.included.Nodup ∧
    (∀ file failing, report.fileResults.lookup file = some failing ↔
      ∃ lines, .verdict file failing lines ∈ report.events) ∧
    (∀ file failing lines, .verdict file failing lines ∈ report.events →
      (failing = true ↔ lines ≠ []) ∧
      ∃ output, (setting.compiler setting.request.options.arguments).value = .ok output ∧
        lines.Sublist (Text.lines output)) ∧
    report.outcome.errorCount = (report.events.map fun event => event.diagnostics.length).sum ∧
    report.fileResults.countP Prod.snd ≤ report.outcome.errorCount ∧
    (report.outcome.success = true ↔ ∀ entry ∈ report.fileResults, entry.2 = false) := by
  rcases views_of_report setting returned with ⟨told, results, counted⟩
  have keys := files_of_report setting returned
  refine ⟨?_, keys, nodup_included setting, ?_, ?_, ?_, ?_, ?_⟩
  · rw [keys, includedFiles_of_report setting returned]
  · intro file failing
    rw [results, lookup_map_eq_some_iff, told]
    simp only [verdict_mem_events, exists_and_left, exists_eq, and_true]
  · intro file failing lines member
    rw [told, verdict_mem_events] at member
    rcases member with ⟨included, rfl, rfl⟩
    exact ⟨by simp, about_sublist_output setting returned included⟩
  · rw [counted, told, ← flatMap_diagnostics_events, List.length_flatMap]
  · rw [counted, results, List.countP_map]
    exact Int.ofNat_le.mpr (countP_failing_le setting setting.included)
  · rw [Outcome.success, beq_iff_eq, counted, results, Int.natCast_eq_zero,
      List.length_eq_zero_iff, List.flatMap_eq_nil_iff, List.forall_mem_map]
    simp only [Bool.not_eq_false', List.isEmpty_iff]

theorem report_views_sample :
    (run .sample).value = .ok ⟨⟨1⟩, Setting.sample.events⟩ ∧
      (Report.verdicts Setting.sample.events).map Prod.fst = Setting.sample.included ∧
      ((Report.verdicts Setting.sample.events).lookup "a.ts" = some true ↔
        ∃ lines, .verdict "a.ts" true lines ∈ Setting.sample.events) ∧
      (Report.verdicts Setting.sample.events).countP Prod.snd ≤ (1 : Int) := by
  have returned : (run .sample).value = .ok ⟨⟨1⟩, Setting.sample.events⟩ := rfl
  rcases report_views .sample returned with ⟨_, keys, _, entries, _, _, fewer, _⟩
  exact ⟨returned, keys, entries "a.ts" true, fewer⟩

end Check

end Ratchet
