import Ratchet.Proofs.Check.Run

namespace Ratchet

namespace Check

/-!
# The state between steps

The steps of a check pass one state on to each other.  Some of what can be
relied on in that state is the work of several steps: the included files are
drawn from the changed ones and avoid the exclusions, although the changed
files and the exclusions are written by earlier steps.  It is true before the
files are chosen because none are included yet, and the steps after that write
neither list.

`State.Awaits` says what is true while certain steps are still to be taken,
and `Finished.Sound` what is true of a step that has been finished.  The
former is kept by every step after which the check goes on.  The results about
runs follow by induction over the steps to be taken.
-/

/-! ## What can be relied on -/

/-- The changed files are distinct files of a supported kind; the included
ones are among them, in their order, and none of them is excluded. -/
structure State.Sound (state : State) : Prop where
  distinct : state.changedFiles.Nodup
  supported : ∀ file ∈ state.changedFiles, Extension.isSupported file = true
  drawn : state.includedFiles.Sublist state.changedFiles
  apart : ∀ file ∈ state.includedFiles, file ∉ state.exclusions

/-- No changed file is left out unless it is excluded. -/
def State.Whole (state : State) : Prop :=
  ∀ file ∈ state.changedFiles, file ∉ state.exclusions → file ∈ state.includedFiles

/-- A state from which some steps are still to be taken. -/
structure State.Awaits (ahead : List Step) (state : State) : Prop extends State.Sound state where
  unchosen : .applyExclusion ∈ ahead → state.includedFiles = []
  whole : .applyExclusion ∉ ahead → state.Whole
  uncounted : state.errorCount = 0
  underWay : .resolveRevision ∉ ahead → state.status = running

/-- A finished step.  The check is complete if nothing comes after it, and
under way otherwise. -/
structure Finished.Sound (done : Finished) : Prop extends State.Sound done.state where
  whole : done.step ∈ Step.onwards .applyExclusion → done.state.Whole
  uncounted : done.step ≠ .correlateAndAggregate → done.state.errorCount = 0
  status : done.state.status = if done.next = none then complete else running

theorem Finished.Sound.status_eq_running_iff {done : Finished} (sound : done.Sound) :
    done.state.status = running ↔ done.next ≠ none := by
  rw [sound.status]
  by_cases last : done.next = none <;> simp [last, running, complete]

theorem Finished.Sound.status_eq_complete_iff {done : Finished} (sound : done.Sound) :
    done.state.status = complete ↔ done.next = none := by
  rw [sound.status]
  by_cases last : done.next = none <;> simp [last, running, complete]

theorem State.awaits_all_fresh : State.fresh.Awaits Step.all where
  distinct := List.nodup_nil
  supported _ impossible := by cases impossible
  drawn := List.Sublist.refl []
  apart _ impossible := by cases impossible
  unchosen _ := rfl
  whole absent := absurd (by decide) absent
  uncounted := rfl
  underWay absent := absurd (by decide) absent

/-- The changed files can be relied on as they are collected, if no file has
been chosen before. -/
theorem State.sound_of_unchosen {state : State} (nothing : state.includedFiles = []) (vcs : Vcs)
    (revision : Option Revision) :
    State.Sound { state with changedFiles := vcs.changedSince revision } where
  distinct := vcs.nodup_changedSince revision
  supported _ member := vcs.isSupported_of_mem_changedSince revision member
  drawn := by rw [nothing]; exact List.nil_sublist _
  apart file member := by rw [nothing] at member; cases member

/-! ## Single steps -/

/-- In the order of all steps, a step determines those after it. -/
theorem Step.tail_of_suffix {step : Step} {rest : List Step} (order : step :: rest <:+ Step.all) :
    rest = step.onwards.tail := by
  simp only [Step.all, List.suffix_cons_iff, List.suffix_nil, List.cons.injEq, reduceCtorEq,
    or_false] at order
  rcases order with ⟨rfl, rfl⟩ | ⟨rfl, rfl⟩ | ⟨rfl, rfl⟩ | ⟨rfl, rfl⟩ | ⟨rfl, rfl⟩ | ⟨rfl, rfl⟩
  all_goals rfl

theorem Step.applyExclusion_notMem_tail {step : Step}
    (chosen : step ∈ Step.onwards .applyExclusion) : .applyExclusion ∉ step.onwards.tail := by
  revert chosen
  cases step <;> decide

theorem Step.resolveRevision_notMem_tail (step : Step) :
    .resolveRevision ∉ step.onwards.tail := by
  cases step <;> decide

theorem Step.tail_ne_nil {step : Step} (goesOn : step.next? ≠ none) : step.onwards.tail ≠ [] := by
  revert goesOn
  cases step <;> decide

section Steps

variable (setting : Setting) {state : State} {rest : List Step}

/-- A step that does not fail leads where its script does. -/
theorem Step.after_eq_run (step : Step) (state : State)
    (fine : ∀ failure, (step.run setting state).value.2 ≠ .failed failure) :
    step.after setting state = (step.run setting state).value := by
  have performs := step.performs setting state
  cases ends : (perform setting.listener state.events (step.script setting state)).2 with
  | none => exact (performs.undisturbed ends).symm
  | some failure => exact absurd (performs.objected failure ends) (fine failure)

/-- What a step leaves behind after which the check goes on. -/
theorem Step.awaits_after (step : Step) (order : step :: rest <:+ Step.all)
    (ready : state.Awaits (step :: rest)) {after : State}
    (leads : step.after setting state = (after, .proceed)) : after.Awaits rest := by
  cases Step.tail_of_suffix order
  cases step with
  | resolveRevision =>
    cases leads
    exact
      { ready with
        unchosen := fun _ => ready.unchosen (by decide)
        whole := fun absent => absurd (by decide) absent
        underWay := fun _ => rfl }
  | computeExclusions =>
    cases leads
    have nothing : state.includedFiles = [] := ready.unchosen (by decide)
    exact
      { ready with
        apart := fun file member => by rw [nothing] at member; cases member
        unchosen := fun _ => nothing
        whole := fun absent => absurd (by decide) absent
        underWay := fun _ => ready.underWay (by decide) }
  | computeChangeSet =>
    have nothing : state.includedFiles = [] := ready.unchosen (by decide)
    simp only [Step.after] at leads
    split at leads
    · cases leads
    · cases leads
      have sound := State.sound_of_unchosen nothing setting.vcs state.sinceRevision
      exact
        { sound with
          unchosen := fun _ => nothing
          whole := fun absent => absurd (by decide) absent
          uncounted := ready.uncounted
          underWay := fun _ => ready.underWay (by decide) }
  | applyExclusion =>
    cases leads
    exact
      { ready with
        drawn := List.filter_sublist
        apart := fun file member => by simpa using (List.mem_filter.mp member).2
        unchosen := fun present => absurd present (by decide)
        whole := fun _ file member free => List.mem_filter.mpr ⟨member, by simpa using free⟩
        underWay := fun _ => ready.underWay (by decide) }
  | runCompiler =>
    simp only [Step.after] at leads
    split at leads
    · cases leads
    · cases leads
      exact
        { ready with
          unchosen := fun present => absurd present (by decide)
          whole := fun _ => ready.whole (by decide)
          underWay := fun _ => ready.underWay (by decide) }
  | correlateAndAggregate => cases leads

/-- A step after which the check goes on is not the last one. -/
theorem Step.next?_ne_none (step : Step) {after : State}
    (leads : step.after setting state = (after, .proceed)) : step.next? ≠ none := by
  cases step with
  | correlateAndAggregate => cases leads
  | resolveRevision | computeExclusions | computeChangeSet | applyExclusion | runCompiler =>
    exact Option.some_ne_none _

theorem Step.sound_of_proceed (step : Step) (order : step :: rest <:+ Step.all)
    (ready : state.Awaits (step :: rest)) {after : State}
    (leads : step.after setting state = (after, .proceed)) :
    Finished.Sound ⟨step, step.next?, after⟩ := by
  have awaits := step.awaits_after setting order ready leads
  have goesOn := step.next?_ne_none setting leads
  cases Step.tail_of_suffix order
  exact
    { awaits with
      whole := fun chosen => awaits.whole (Step.applyExclusion_notMem_tail chosen)
      uncounted := fun _ => awaits.uncounted
      status := by rw [if_neg goesOn]; exact awaits.underWay step.resolveRevision_notMem_tail }

/-- A step that ends the check leaves everything in place, and the number of
its outcome. -/
theorem Step.sound_of_finished (step : Step) (order : step :: rest <:+ Step.all)
    (ready : state.Awaits (step :: rest)) {after : State} {outcome : Outcome}
    (leads : step.after setting state = (after, .finished outcome)) :
    Finished.Sound ⟨step, none, after⟩ ∧ after.errorCount = outcome.errorCount := by
  cases Step.tail_of_suffix order
  cases step with
  | resolveRevision | computeExclusions | applyExclusion => cases leads
  | runCompiler =>
    simp only [Step.after] at leads
    split at leads <;> cases leads
  | computeChangeSet =>
    have nothing : state.includedFiles = [] := ready.unchosen (by decide)
    have zero := ready.uncounted
    have early : Step.computeChangeSet ∉ Step.onwards .applyExclusion := by decide
    simp only [Step.after] at leads
    split at leads
    · cases leads
      refine ⟨?_, zero⟩
      have sound := State.sound_of_unchosen nothing setting.vcs state.sinceRevision
      exact
        { sound with
          whole := fun chosen => absurd chosen early
          uncounted := fun _ => zero
          status := rfl }
    · cases leads
  | correlateAndAggregate =>
    cases leads
    refine ⟨?_, rfl⟩
    exact
      { ready with
        whole := fun _ => ready.whole (by decide)
        uncounted := fun impossible => absurd rfl impossible
        status := rfl }

end Steps

/-! ## Steps that fail -/

section Failures

variable (setting : Setting) (state : State)

theorem status_examineFiles (files : List String) :
    (examineFiles setting state files).value.1.status = state.status := by
  rcases examineFiles_extends setting state files with ⟨_, left⟩
  rw [left]

/-- A step that fails leaves the check under way. -/
theorem Step.running_of_failed (step : Step)
    (underWay : step ≠ .resolveRevision → state.status = running) {failure : Failure}
    (fails : (step.run setting state).value.2 = .failed failure) :
    (step.run setting state).value.1.status = running := by
  cases step with
  | resolveRevision =>
    simp only [Step.run, Check.resolveRevision, Noted.value_bind, value_emit]
    rfl
  | computeExclusions | applyExclusion => cases fails
  | computeChangeSet =>
    have before := underWay (by decide)
    simp only [Step.run, Check.computeChangeSet, Noted.value_bind, value_emit] at fails ⊢
    split at fails
    · exact before
    · split at fails <;> cases fails
  | runCompiler =>
    have before := underWay (by decide)
    simp only [Step.run, Check.runCompiler, Noted.value_bind] at fails ⊢
    split at fails
    · exact before
    · cases fails
  | correlateAndAggregate =>
    have before := underWay (by decide)
    have kept := status_examineFiles setting state state.includedFiles
    simp only [Step.run, Check.correlateAndAggregate, Noted.value_bind] at fails ⊢
    split at fails
    · exact kept.trans before
    · cases fails

end Failures

/-! ## Runs -/

/-- An end of a run in which some steps were to be taken.  A run that comes to
an outcome is complete with its last finished step and not before; any other
is left under way. -/
structure End.Sound (ahead : List Step) (ending : End) : Prop where
  order : ending.finished.map Finished.step <+: ahead
  each : ∀ done ∈ ending.finished, done.Sound
  concluded : ∀ outcome, ending.result = .ok outcome →
    ∃ before last, ending.finished = before ++ [last] ∧ last.next = none ∧
      (∀ done ∈ before, done.next ≠ none) ∧ last.state = ending.state ∧
      ending.state.errorCount = outcome.errorCount
  stopped : ∀ failure, ending.result = .error failure →
    ending.state.status = running ∧ ∀ done ∈ ending.finished, done.next ≠ none

/-- The step before sound ones is added to them. -/
theorem End.Sound.cons {ahead : List Step} {ending : End} {done : Finished}
    (sound : ending.Sound ahead) (first : done.Sound) (goesOn : done.next ≠ none) :
    End.Sound (done.step :: ahead) { ending with finished := done :: ending.finished } where
  order := List.cons_prefix_cons.mpr ⟨rfl, sound.order⟩
  each := List.forall_mem_cons.mpr ⟨first, sound.each⟩
  concluded outcome fine := by
    rcases sound.concluded outcome fine with ⟨before, last, whole, ends, earlier, same, counted⟩
    exact ⟨done :: before, last, congrArg (done :: ·) whole, ends,
      List.forall_mem_cons.mpr ⟨goesOn, earlier⟩, same, counted⟩
  stopped failure fails := by
    rcases sound.stopped failure fails with ⟨underWay, earlier⟩
    exact ⟨underWay, List.forall_mem_cons.mpr ⟨goesOn, earlier⟩⟩

theorem End.sound_of_failed {step : Step} {rest : List Step} {state : State} {failure : Failure}
    (underWay : state.status = running) :
    End.Sound (step :: rest) ⟨state, [], .error failure⟩ where
  order := List.nil_prefix
  each := List.forall_mem_nil _
  concluded _ impossible := by cases impossible
  stopped _ _ := ⟨underWay, List.forall_mem_nil _⟩

theorem End.sound_of_finished {step : Step} {rest : List Step} {state : State} {outcome : Outcome}
    (last : Finished.Sound ⟨step, none, state⟩) (counted : state.errorCount = outcome.errorCount) :
    End.Sound (step :: rest) ⟨state, [⟨step, none, state⟩], .ok outcome⟩ where
  order := List.cons_prefix_cons.mpr ⟨rfl, List.nil_prefix⟩
  each _ member := by cases List.mem_singleton.mp member; exact last
  concluded _ fine := by
    cases fine
    exact ⟨[], _, rfl, rfl, List.forall_mem_nil _, rfl, counted⟩
  stopped _ impossible := by cases impossible

theorem runSteps_sound (setting : Setting) {ahead : List Step} {state : State}
    (order : ahead <:+ Step.all) (left : ahead ≠ []) (ready : state.Awaits ahead) :
    (runSteps setting ahead state).value.Sound ahead := by
  induction ahead generalizing state with
  | nil => exact absurd rfl left
  | cons step rest ih =>
    have underWay : step ≠ .resolveRevision → state.status = running := by
      intro later
      apply ready.underWay
      rw [List.mem_cons, not_or, Step.tail_of_suffix order]
      exact ⟨later.symm, step.resolveRevision_notMem_tail⟩
    have leads := step.after_eq_run setting state
    have stops : ∀ failure, (step.run setting state).value.2 = .failed failure →
        (step.run setting state).value.1.status = running :=
      fun _ => step.running_of_failed setting state underWay
    simp only [runSteps, Noted.value_bind]
    rcases taken : (step.run setting state).value with ⟨after, _ | outcome | failure⟩
    · rw [taken] at leads
      have proceeds := leads fun _ impossible => by cases impossible
      have goesOn := step.next?_ne_none setting proceeds
      have more : rest ≠ [] := by
        rw [Step.tail_of_suffix order]
        exact Step.tail_ne_nil goesOn
      have others := ih ((List.suffix_cons step rest).trans order) more
        (step.awaits_after setting order ready proceeds)
      exact others.cons (step.sound_of_proceed setting order ready proceeds) goesOn
    · rw [taken] at leads
      have finishes := leads fun _ impossible => by cases impossible
      rcases step.sound_of_finished setting order ready finishes with ⟨last, counted⟩
      exact End.sound_of_finished last counted
    · rw [taken] at stops
      exact End.sound_of_failed (stops failure rfl)

/-- Every run from the beginning: what its finished steps were, what was true
after each of them, and that it is complete when it comes to its outcome and
under way whenever it does not. -/
theorem runFrom_sound (setting : Setting) :
    let ending := (runFrom setting .resolveRevision .fresh).value
    ending.finished.map Finished.step <+: Step.all ∧
    (∀ done ∈ ending.finished,
      done.state.changedFiles.Nodup ∧
      (∀ file ∈ done.state.changedFiles, Extension.isSupported file = true) ∧
      done.state.includedFiles.Sublist done.state.changedFiles ∧
      (∀ file ∈ done.state.includedFiles, file ∉ done.state.exclusions) ∧
      (done.step ∈ Step.onwards .applyExclusion →
        ∀ file ∈ done.state.changedFiles, file ∉ done.state.exclusions →
          file ∈ done.state.includedFiles) ∧
      (done.step ≠ .correlateAndAggregate → done.state.errorCount = 0) ∧
      (done.state.status = running ↔ done.next ≠ none) ∧
      (done.state.status = complete ↔ done.next = none)) ∧
    (∀ outcome, ending.result = .ok outcome →
      ∃ before last, ending.finished = before ++ [last] ∧ last.next = none ∧
        (∀ done ∈ before, done.next ≠ none) ∧ last.state = ending.state ∧
        ending.state.errorCount = outcome.errorCount) ∧
    (∀ failure, ending.result = .error failure →
      ending.state.status = running ∧ ∀ done ∈ ending.finished, done.next ≠ none) := by
  have whole : Step.all <:+ Step.all := List.suffix_rfl
  have sound := runSteps_sound setting whole (List.cons_ne_nil _ _) State.awaits_all_fresh
  refine ⟨sound.order, fun done member => ?_, sound.concluded, sound.stopped⟩
  have each := sound.each done member
  exact ⟨each.distinct, each.supported, each.drawn, each.apart, each.whole, each.uncounted,
    each.status_eq_running_iff, each.status_eq_complete_iff⟩

theorem runFrom_sound_sample :
    let ending := (runFrom .sample .resolveRevision .fresh).value
    ending.finished.length = 6 ∧ ending.result = .ok ⟨1⟩ ∧ ending.state.errorCount = 1 := by
  have fine : (runFrom .sample .resolveRevision .fresh).value.result = .ok ⟨1⟩ := rfl
  rcases (runFrom_sound .sample).2.2.1 ⟨1⟩ fine with ⟨_, _, _, _, _, _, counted⟩
  exact ⟨rfl, fine, counted⟩

end Check

end Ratchet
