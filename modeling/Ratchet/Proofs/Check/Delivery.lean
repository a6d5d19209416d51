import Ratchet.Proofs.Check.Run

namespace Ratchet

namespace Check

/-!
# What the listener hears

A listener hears a beginning of the events of the run, in their order, and
nothing else.  It hears all of them if a report is returned.  If the compiler
fails, it has heard of the fork point and the changed files, and nothing is
said about any file.  If the listener itself fails, the event that it failed
on is the last thing that the check does.
-/

variable (setting : Setting)

theorem heard_run :
    (run setting).journal.heard =
      (noted setting.listener (perform setting.listener [] setting.script).1).heard := by
  rw [← Journal.heard_dealings, (run_performs setting).dealings]

theorem heard_run_of_isSome (present : setting.listener.isSome = true) :
    (run setting).journal.heard = (perform setting.listener [] setting.script).1.heard := by
  rw [heard_run, noted_of_isSome present]

theorem heard_run_prefix_events : (run setting).journal.heard <+: setting.events := by
  have told := heard_noted_prefix_heard setting.listener
    (perform setting.listener [] setting.script).1
  have performed := (perform_prefix_script setting.listener [] setting.script).filterMap
    Journal.Entry.heard?
  rw [heard_run]
  exact told.trans (performed.trans (heard_script_prefix_events setting))

/-- A listener that never objects hears the whole script. -/
theorem heard_run_of_undisturbed (present : setting.listener.isSome = true)
    (undisturbed : (perform setting.listener [] setting.script).2 = none) :
    (run setting).journal.heard = setting.script.heard := by
  rw [heard_run_of_isSome setting present, perform_undisturbed undisturbed]

/-! ## Failures of the compiler -/

theorem compiles_run :
    (run setting).journal.compiles =
      (perform setting.listener [] setting.script).1.compiles := by
  rw [← Journal.compiles_dealings, (run_performs setting).dealings, compiles_noted]

theorem compiles_perform_overture :
    (perform setting.listener [] setting.overture).1.compiles = [] := by
  have part := (perform_prefix_script setting.listener [] setting.overture).filterMap
    Journal.Entry.compile?
  have none : setting.overture.filterMap Journal.Entry.compile? = [] := compiles_overture setting
  rw [none] at part
  exact List.prefix_nil.mp part

/-- When a failing compiler is called at all, nobody objects: all events were
told before, and the failure ends the run. -/
theorem undisturbed_of_called {failure : Compiler.Failure}
    (fails : setting.compiled = .error failure) (called : (run setting).journal.compiles ≠ []) :
    (perform setting.listener [] setting.script).2 = none ∧
      setting.conclusion = .error (.compiler failure) := by
  rw [compiles_run, script_eq] at called
  rw [script_eq]
  rcases course setting with ⟨_, idle, _⟩ | ⟨_, reason, reasonFails, broken, concludes⟩ |
    ⟨_, lines, compiles, _⟩
  · rw [idle, List.append_nil] at called
    exact absurd (compiles_perform_overture setting) called
  · cases fails.symm.trans reasonFails
    cases ends : (perform setting.listener [] setting.overture).2 with
    | some objection =>
      rw [perform_append_objected _ ends] at called
      exact absurd (compiles_perform_overture setting) called
    | none =>
      refine ⟨?_, concludes⟩
      have silent : setting.remainder.heard = [] := by
        rw [broken]
        rfl
      rw [perform_append_undisturbed _ ends, perform_silent silent]
  · rw [fails] at compiles
    cases compiles

/-- The lines of the compiler are missing exactly when it fails. -/
theorem compiled_eq_error_iff {failure : Compiler.Failure} :
    setting.compiled = .error failure ↔
      (setting.compiler setting.request.options.arguments).value = .error failure := by
  rw [Setting.compiled]
  cases (setting.compiler setting.request.options.arguments).value with
  | error reason =>
    constructor
    · intro same
      cases same
      rfl
    · intro same
      cases same
      rfl
  | ok output =>
    constructor
    · intro impossible
      cases impossible
    · intro impossible
      cases impossible

/-! ## Failures of the listener -/

theorem objection?_eq_some_iff {listener : Option Listener} {earlier : List Event} {event : Event}
    {failure : Failure} :
    objection? listener earlier event = some failure ↔
      ∃ hears reason, listener = some hears ∧ hears earlier event = some reason ∧
        failure = .listener reason := by
  cases listener with
  | none =>
    constructor
    · intro impossible
      cases impossible
    · rintro ⟨_, _, impossible, _⟩
      cases impossible
  | some hears =>
    constructor
    · intro objects
      rcases Option.map_eq_some_iff.mp objects with ⟨reason, stated, rfl⟩
      exact ⟨hears, reason, rfl, stated, rfl⟩
    · rintro ⟨_, reason, same, stated, rfl⟩
      cases same
      exact Option.map_eq_some_iff.mpr ⟨reason, stated, rfl⟩

/-- The first objection ends a run, and with its event the journal of what the
check does. -/
theorem run_of_objection {listener : Listener} {earlier later : List Event} {event : Event}
    {reason : String} (present : setting.listener = some listener)
    (told : (run setting).journal.heard = earlier ++ event :: later)
    (objects : listener earlier event = some reason) :
    (run setting).value = .error (.listener reason) ∧ later = [] ∧
      ∃ before, (run setting).journal.dealings = before ++ [.heard event] := by
  have isSome : setting.listener.isSome = true := by
    rw [present]
    rfl
  rw [heard_run_of_isSome setting isSome] at told
  rcases Journal.split_of_heard told with ⟨before, after, done, same⟩
  have failed : objection? setting.listener ([] ++ before.heard) event =
      some (.listener reason) :=
    objection?_eq_some_iff.mpr ⟨listener, reason, present, same.symm ▸ objects, rfl⟩
  rcases perform_of_objection done failed with ⟨ends, rfl⟩
  refine ⟨(run_performs setting).objected _ ends, ?_, before, ?_⟩
  · rw [done, Journal.heard_append, same] at told
    exact (List.cons.inj (List.append_cancel_left told)).2.symm
  · rw [(run_performs setting).dealings, noted_of_isSome isSome, done]

/-- Whatever ends a run without a report was stated by the compiler or by the
listener, about the last event that it heard. -/
theorem cause_of_failure {failure : Failure} (failed : (run setting).value = .error failure) :
    (∃ reason, (setting.compiler setting.request.options.arguments).value = .error reason ∧
      failure = .compiler reason) ∨
    (∃ listener earlier event reason, setting.listener = some listener ∧
      (run setting).journal.heard = earlier ++ [event] ∧
      listener earlier event = some reason ∧ failure = .listener reason) := by
  cases ends : (perform setting.listener [] setting.script).2 with
  | some objection =>
    rw [(run_performs setting).objected objection ends] at failed
    cases failed
    rcases perform_objected ends with ⟨before, _, event, _, done, _, objects⟩
    rcases objection?_eq_some_iff.mp objects with ⟨listener, reason, present, stated, rfl⟩
    have isSome : setting.listener.isSome = true := by
      rw [present]
      rfl
    refine Or.inr ⟨listener, before.heard, event, reason, present, ?_, stated, rfl⟩
    rw [heard_run_of_isSome setting isSome, done, Journal.heard_append]
    rfl
  | none =>
    rw [value_run_of_undisturbed setting ends] at failed
    rcases course setting with ⟨_, _, fine⟩ | ⟨_, reason, fails, _, broken⟩ |
      ⟨_, _, _, _, fine⟩
    · rw [fine] at failed
      cases failed
    · rw [broken] at failed
      cases failed
      exact Or.inl ⟨reason, (compiled_eq_error_iff setting).mp fails, rfl⟩
    · rw [fine] at failed
      cases failed

/-! ## Every run -/

/-- What the listener hears, and when, in every run. -/
theorem run_delivers :
    (run setting).journal.heard <+: setting.events ∧
    (∀ report, (run setting).value = .ok report →
      report.events = setting.events ∧
      (setting.listener.isSome = true → (run setting).journal.heard = setting.events)) ∧
    (∀ failure, (run setting).journal.compiles ≠ [] →
      (setting.compiler setting.request.options.arguments).value = .error failure →
      (run setting).value = .error (.compiler failure) ∧
      (setting.listener.isSome = true →
        (run setting).journal.heard = [.since setting.revision, .changed setting.changed])) ∧
    (∀ listener earlier event later reason, setting.listener = some listener →
      (run setting).journal.heard = earlier ++ event :: later →
      listener earlier event = some reason →
      (run setting).value = .error (.listener reason) ∧ later = [] ∧
      ∃ before, (run setting).journal.dealings = before ++ [.heard event]) := by
  refine ⟨heard_run_prefix_events setting, ?_, ?_, ?_⟩
  · intro report returned
    rcases undisturbed_of_report setting returned with ⟨undisturbed, fine, told⟩
    refine ⟨told, fun present => ?_⟩
    rw [heard_run_of_undisturbed setting present undisturbed, heard_script_of_ok setting fine]
  · intro failure called answer
    have fails := (compiled_eq_error_iff setting).mpr answer
    rcases undisturbed_of_called setting fails called with ⟨undisturbed, concludes⟩
    refine ⟨?_, fun present => ?_⟩
    · rw [value_run_of_undisturbed setting undisturbed, concludes]
      rfl
    · rw [heard_run_of_undisturbed setting present undisturbed,
        heard_script_of_error setting concludes]
  · intro listener earlier event later reason present told objects
    exact run_of_objection setting present told objects

/-- A listener that hears of the changes and will not hear of any file. -/
def Setting.impatient : Setting :=
  { Setting.sample with
    listener := some fun _ event =>
      match event with
      | .examine _ => some "enough"
      | _ => none }

theorem run_delivers_impatient :
    (run .impatient).journal.heard =
      [.since Setting.sample.revision, .changed ["a.ts", "b.ts"]] ++ [.examine "a.ts"] ∧
    (run .impatient).value = .error (.listener "enough") := by
  have told : (run .impatient).journal.heard =
    [.since Setting.sample.revision, .changed ["a.ts", "b.ts"]] ++ .examine "a.ts" :: [] := rfl
  exact ⟨told, ((run_delivers .impatient).2.2.2 _ _ _ _ _ rfl told rfl).1⟩

end Check

end Ratchet
