import Ratchet.Proofs.Check.Run

namespace Ratchet

namespace Check

/-!
# Ending early

A check is over when it turns out that nothing has changed.  The steps that it is
spared would come to the same: no file would be included, the compiler would be
called for nothing, and none of its lines would be counted.

The two ends are written in different places.  The early one marks the check as
complete and names the outcome zero, and leaves the included files and the number
as they are.  The other one writes all of these.  So the two agree on the included
files and the number if there are none and it is zero beforehand, which is how the
steps before leave them, and on everything else in any case but for the lines of the
compiler.
-/

variable (setting : Setting)

/-- A state in which it has just been found and told that nothing has changed. -/
def State.nothingChanged (before : State) : State :=
  { before with changedFiles := [], events := before.events ++ [.changed []] }

/-- A check ends early exactly if nothing has changed and the listener puts up with
being told so. -/
theorem computeChangeSet_finished_iff {before ended : State} {outcome : Outcome} :
    (computeChangeSet setting before).value = (ended, .finished outcome) ↔
      setting.vcs.changedSince before.sinceRevision = [] ∧
      objection? setting.listener before.events (.changed []) = none ∧
      ended = { before.nothingChanged with status := complete } ∧ outcome = ⟨0⟩ := by
  simp only [computeChangeSet, Noted.value_bind, value_emit, Discovery.value_collectChangeSet]
  cases setting.vcs.changedSince before.sinceRevision with
  | nil =>
    cases objection? setting.listener before.events (.changed []) with
    | none => simp [State.nothingChanged, eq_comm]
    | some failure => simp
  | cons file rest =>
    cases objection? setting.listener before.events (.changed (file :: rest)) with
    | none => simp
    | some failure => simp

/-- The steps that an early end leaves out. -/
theorem Step.onwards_applyExclusion :
    Step.onwards .applyExclusion = [.applyExclusion, .runCompiler, .correlateAndAggregate] :=
  rfl

section Onward

variable {state : State} (nothing : state.changedFiles = []) {lines : List String}
  (compiles : setting.compiled = .ok lines)

include nothing compiles

/-- The steps after the changed files are collected call the compiler, and do no
more than that if nothing has changed. -/
theorem scriptFrom_of_nothing :
    scriptFrom setting (Step.onwards .applyExclusion) state =
      [.compile setting.request.options.arguments] := by
  simp only [Step.onwards_applyExclusion, scriptFrom, Step.script, Step.after, nothing, compiles,
    List.filter_nil, List.flatMap_nil, List.map_nil, List.nil_append, List.append_nil]

theorem endFrom_of_nothing :
    let ending := endFrom setting (Step.onwards .applyExclusion) state
    ending.result = .ok ⟨0⟩ ∧
    ending.state =
      { state with
        includedFiles := []
        diagnosticLines := lines
        errorCount := 0
        status := complete } ∧
    ending.finished.map Finished.step = Step.onwards .applyExclusion := by
  simp only [Step.onwards_applyExclusion, endFrom, Step.after, nothing, compiles,
    List.filter_nil, List.flatMap_nil, List.append_nil]
  exact ⟨rfl, rfl, rfl⟩

/-- Where nothing has changed, the steps after that have nothing to tell, so whether
the listener fails makes no difference to them. -/
theorem runFrom_of_nothing :
    let onward := runFrom setting .applyExclusion state
    onward.value = endFrom setting (Step.onwards .applyExclusion) state ∧
      onward.journal.dealings = [.compile setting.request.options.arguments] := by
  have performs := runSteps_performs setting (Step.onwards .applyExclusion) state
  rw [scriptFrom_of_nothing setting nothing compiles] at performs
  have silent : Journal.heard [.compile setting.request.options.arguments] = [] := rfl
  have undisturbed := @perform_silent setting.listener state.events _ silent
  refine ⟨performs.undisturbed (congrArg Prod.snd undisturbed), ?_⟩
  have does := performs.dealings
  rw [undisturbed, noted_silent setting.listener silent] at does
  exact does

end Onward

/-- If a check that ends early went on instead, it would come to the same outcome
and the same state but for the lines of the compiler, and all that it would do is call
the compiler.  The status that the check has before does not matter, nor do the
exclusions and the events. -/
theorem early_end_agrees {before ended : State} {outcome : Outcome} {output : String}
    (ends : (computeChangeSet setting before).value = (ended, .finished outcome))
    (unchosen : before.includedFiles = []) (uncounted : before.errorCount = 0)
    (answers : (setting.compiler setting.request.options.arguments).value = .ok output) :
    let onward := runFrom setting .applyExclusion before.nothingChanged
    ended = { before.nothingChanged with status := complete } ∧
    onward.value.result = .ok outcome ∧
    onward.value.state = { ended with diagnosticLines := Text.lines output } ∧
    onward.value.finished.map Finished.step =
      [.applyExclusion, .runCompiler, .correlateAndAggregate] ∧
    onward.journal.dealings = [.compile setting.request.options.arguments] := by
  have compiles : setting.compiled = .ok (Text.lines output) := by
    rw [Setting.compiled, answers]
    rfl
  have nothing : before.nothingChanged.changedFiles = [] := rfl
  rcases (computeChangeSet_finished_iff setting).mp ends with ⟨_, _, rfl, rfl⟩
  rcases runFrom_of_nothing setting nothing compiles with ⟨value, does⟩
  rcases endFrom_of_nothing setting nothing compiles with ⟨result, state, finished⟩
  rw [← value] at result state finished
  refine ⟨rfl, result, ?_, finished, does⟩
  rw [state, ← unchosen, ← uncounted]
  rfl

/-- The working tree is clean and only a text has been committed.  The compiler
complains all the same, and exclusions, events and a line are left from before. -/
theorem early_end_agrees_sample :
    let setting := { Setting.sample with
      vcs := { Setting.sample.vcs with
        workingTree := pure (.ok .clean)
        diff := fun _ _ => pure (.ok ["notes.md"]) } }
    let before : State :=
      { exclusions := ["b.ts"], diagnosticLines := ["before"], events := [.since none],
        status := running }
    let onward := runFrom setting .applyExclusion before.nothingChanged
    onward.value.result = .ok ⟨0⟩ ∧ onward.value.state.events = [.since none, .changed []] ∧
      onward.value.state.diagnosticLines =
        ["a.ts(1,1): error TS7006", "b.ts(2,2): error TS7006"] := by
  intro setting before onward
  have ends : (computeChangeSet setting before).value =
      ({ before.nothingChanged with status := complete }, .finished ⟨0⟩) := rfl
  rcases early_end_agrees setting ends rfl rfl rfl with ⟨_, result, state, _, _⟩
  refine ⟨result, ?_, ?_⟩
  · rw [state]
    rfl
  · rw [state]
    decide +kernel

end Check

end Ratchet
