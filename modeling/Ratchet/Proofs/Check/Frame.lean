import Ratchet.Proofs.Check.Calls

namespace Ratchet

namespace Check

/-!
# What a step leaves alone

Every step has its own part of the state and leaves the rest as it was.  It is not
the part alone that counts but how the step goes on: a step that ends the check
also closes it, and a compiler that fails has changed nothing.  Events are in
nobody's part, and a step can only put its own behind those that are there.

None of this depends on how the state came about.  A check may be entered at any
step, with files listed twice, a count from before, or any status.  So
`Step.Touches` relates an arbitrary state to what a step makes of it, and `Trail`
follows the states of a run from an arbitrary one.
-/

/-! ## The part of a step -/

/-- What a step may make of a state, and how the check may go on: everything but
the part of the step is as before. -/
def Step.Touches (before : State) (result : State × Progress) : Step → Prop
  | .resolveRevision => ∃ revision, result =
      ({ before with
          status := running
          sinceRevision := revision
          events := before.events ++ [.since revision] }, .proceed)
  | .computeExclusions => ∃ exclusions, result = ({ before with exclusions }, .proceed)
  | .computeChangeSet => ∃ changed,
      let found :=
        { before with changedFiles := changed, events := before.events ++ [.changed changed] }
      result =
        if changed = [] then ({ found with status := complete }, .finished ⟨0⟩)
        else (found, .proceed)
  | .applyExclusion => ∃ included, result = ({ before with includedFiles := included }, .proceed)
  | .runCompiler =>
      (∃ lines, result = ({ before with diagnosticLines := lines }, .proceed)) ∨
      ∃ failure, result = (before, .failed (.compiler failure))
  | .correlateAndAggregate => ∃ (total : Int) (about : String → List String), result =
      ({ before with
          errorCount := total
          status := complete
          events := before.events ++ before.includedFiles.flatMap fun file =>
            [.examine file, .verdict file (!(about file).isEmpty) (about file)] },
        .finished ⟨total⟩)

section Steps

variable (setting : Setting)

theorem Step.touches_after (step : Step) (before : State) :
    step.Touches before (step.after setting before) := by
  cases step with
  | resolveRevision | computeExclusions | applyExclusion => exact ⟨_, rfl⟩
  | computeChangeSet =>
    refine ⟨setting.vcs.changedSince before.sinceRevision, ?_⟩
    simp only [Step.after, List.isEmpty_iff]
  | runCompiler =>
    rw [Step.after]
    cases setting.compiled with
    | ok lines => exact Or.inl ⟨lines, rfl⟩
    | error failure => exact Or.inr ⟨failure, rfl⟩
  | correlateAndAggregate => exact ⟨_, _, rfl⟩

/-- A listener that never fails lets every step keep to its part. -/
theorem Step.touches_run
    (patient : ∀ listener, setting.listener = some listener →
      ∀ earlier event, listener earlier event = none) (step : Step) (before : State) :
    step.Touches before (step.run setting before).value := by
  have performs := step.performs setting before
  have leads := performs.undisturbed (undisturbed_of_patient _ patient before.events)
  rw [leads]
  exact step.touches_after setting before

/-- Whatever the listener says, a step puts its events behind those before. -/
theorem Step.events_prefix_run (step : Step) (before : State) :
    before.events <+: (step.run setting before).value.1.events := by
  cases step with
  | computeExclusions | applyExclusion => exact List.prefix_rfl
  | resolveRevision =>
    simp only [Step.run, Check.resolveRevision, Noted.value_bind, value_emit]
    exact List.prefix_append _ _
  | computeChangeSet =>
    simp only [Step.run, Check.computeChangeSet, Noted.value_bind, value_emit]
    split
    · exact List.prefix_append _ _
    · split
      · exact List.prefix_append _ _
      · exact List.prefix_append _ _
  | runCompiler =>
    simp only [Step.run, Check.runCompiler, Noted.value_bind]
    split
    · exact List.prefix_rfl
    · exact List.prefix_rfl
  | correlateAndAggregate =>
    rcases examineFiles_extends setting before before.includedFiles with ⟨told, left⟩
    have kept : before.events <+:
        (examineFiles setting before before.includedFiles).value.1.events := by
      rw [left]
      exact List.prefix_append _ _
    simp only [Step.run, Check.correlateAndAggregate, Noted.value_bind]
    split
    · exact kept
    · exact kept

end Steps

/-! ## Runs -/

/-- Runs of steps in a row, each of which keeps to its part. -/
inductive Trail : List Step → State → End → Prop
  | nil (state : State) : Trail [] state ⟨state, [], .ok ⟨state.errorCount⟩⟩
  | failed {step : Step} {rest : List Step} {before after : State} {failure : Failure}
      (touches : step.Touches before (after, .failed failure)) :
      Trail (step :: rest) before ⟨after, [], .error failure⟩
  | finished {step : Step} {rest : List Step} {before after : State} {outcome : Outcome}
      (touches : step.Touches before (after, .finished outcome)) :
      Trail (step :: rest) before ⟨after, [⟨step, none, after⟩], .ok outcome⟩
  | proceed {step : Step} {rest : List Step} {before after : State} {ending : End}
      (touches : step.Touches before (after, .proceed)) (later : Trail rest after ending) :
      Trail (step :: rest) before
        { ending with finished := ⟨step, step.next?, after⟩ :: ending.finished }

section Runs

variable (setting : Setting)

theorem endFrom_trail (steps : List Step) (before : State) :
    Trail steps before (endFrom setting steps before) := by
  induction steps generalizing before with
  | nil => exact .nil before
  | cons step rest ih =>
    have touches := step.touches_after setting before
    unfold endFrom
    generalize step.after setting before = result at touches
    rcases result with ⟨after, _ | outcome | failure⟩
    · exact .proceed touches (ih after)
    · exact .finished touches
    · exact .failed touches

/-- Whatever the listener says, no step of a run takes back an event. -/
theorem runSteps_events_prefix (steps : List Step) (before : State) :
    let ending := (runSteps setting steps before).value
    before.events <+: ending.state.events ∧
      ∀ done ∈ ending.finished, before.events <+: done.state.events := by
  induction steps generalizing before with
  | nil => exact ⟨List.prefix_rfl, List.forall_mem_nil _⟩
  | cons step rest ih =>
    have first := step.events_prefix_run setting before
    simp only [runSteps, Noted.value_bind]
    generalize (step.run setting before).value = result at first
    rcases result with ⟨after, _ | outcome | failure⟩
    · rcases ih after with ⟨last, each⟩
      refine ⟨first.trans last, List.forall_mem_cons.mpr ⟨first, ?_⟩⟩
      exact fun done member => first.trans (each done member)
    · exact ⟨first, List.forall_mem_cons.mpr ⟨first, List.forall_mem_nil _⟩⟩
    · exact ⟨first, List.forall_mem_nil _⟩

/-- Each step keeps to its own part of the state, taken by itself and in every
run, from any step and any state on.  The events before a run stay in front of all
that come after. -/
theorem runFrom_frame
    (patient : ∀ listener, setting.listener = some listener →
      ∀ earlier event, listener earlier event = none) :
    (∀ (step : Step) (before : State), step.Touches before (step.run setting before).value) ∧
    ∀ (start : Step) (before : State),
      let ending := (runFrom setting start before).value
      Trail start.onwards before ending ∧
      before.events <+: ending.state.events ∧
      ∀ done ∈ ending.finished, before.events <+: done.state.events := by
  refine ⟨Step.touches_run setting patient, fun start before => ⟨?_, ?_⟩⟩
  · have performs := runSteps_performs setting start.onwards before
    have leads := performs.undisturbed (undisturbed_of_patient _ patient before.events)
    have trail := endFrom_trail setting start.onwards before
    rw [← leads] at trail
    exact trail
  · exact runSteps_events_prefix setting start.onwards before

end Runs

/-- A state that no run from the beginning passes through: a file is included twice,
an event and a count are left from before, and the status means nothing. -/
def State.stale : State :=
  { changedFiles := ["z.ts"], includedFiles := ["b.ts", "b.ts"], errorCount := 7,
    events := [.examine "z.ts"], status := "stale" }

/-- From the compiler on, such a state keeps its changed files and its event. -/
theorem runFrom_frame_stale :
    let setting := { Setting.sample with listener := some Listener.patient }
    let ending := (runFrom setting .runCompiler State.stale).value
    Trail [.runCompiler, .correlateAndAggregate] State.stale ending ∧
      ending.state.changedFiles = ["z.ts"] ∧ ending.state.errorCount = 2 ∧
      [.examine "z.ts"] <+: ending.state.events ∧ ending.state.events.length = 5 := by
  intro setting ending
  have patient : ∀ listener, setting.listener = some listener →
      ∀ earlier event, listener earlier event = none := by
    intro listener present earlier event
    cases present
    rfl
  rcases (runFrom_frame setting patient).2 .runCompiler State.stale with ⟨trail, kept, _⟩
  exact ⟨trail, rfl, rfl, kept, rfl⟩

end Check

end Ratchet
