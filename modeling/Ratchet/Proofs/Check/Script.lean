import Mathlib.Algebra.GroupWithZero.Nat
import Ratchet.Check.Run
import Ratchet.Proofs.Change.Knowledge
import Ratchet.Proofs.Check.Performance

namespace Ratchet

namespace Check

/-!
# The script of a check

What a check does follows from what its ports know, up to the objections of
its listener.  The script of a step says what the step does in a state as long
as nobody objects, and `Step.after` says where it leads.

The results say that a run performs the scripts of its steps.  They are proved
for one step from any state and, by induction over the steps to be taken, for
a run from any step and any state.
-/

/-! ## Scripts of single steps -/

/-- The lines that the compiler writes about the project. -/
def Setting.compiled (setting : Setting) : Except Compiler.Failure (List String) :=
  (setting.compiler setting.request.options.arguments).value.map Text.lines

/-- The events about a file. -/
def Setting.fileEvents (setting : Setting) (lines : List String) (file : String) : List Event :=
  let about := setting.request.matchMode.linesAbout file lines
  [.examine file, .verdict file (!about.isEmpty) about]

/-- How many lines are about some files, a line counting once for each file. -/
def Setting.lineCount (setting : Setting) (lines files : List String) : Nat :=
  (files.map fun file => lines.countP (setting.request.matchMode.accepts file)).sum

namespace Step

/-- What a step does in a state unless somebody objects. -/
def script (setting : Setting) (state : State) : Step → Journal
  | .resolveRevision =>
    (Query.forkPoint Discovery.head setting.request.targetBranch).exchange ++
      [.heard (.since (setting.vcs.base? Discovery.head setting.request.targetBranch))]
  | .computeExclusions =>
    setting.vcs.branchExchanges setting.request.ignoreBranches setting.request.targetBranch
  | .computeChangeSet =>
    setting.vcs.changeExchanges state.sinceRevision ++
      [.heard (.changed (setting.vcs.changedSince state.sinceRevision))]
  | .applyExclusion => []
  | .runCompiler => [.compile setting.request.options.arguments]
  | .correlateAndAggregate =>
    (state.includedFiles.flatMap (setting.fileEvents state.diagnosticLines)).map .heard

/-- Where a step leads from a state unless somebody objects. -/
def after (setting : Setting) (state : State) : Step → State × Progress
  | .resolveRevision =>
    let revision := setting.vcs.base? Discovery.head setting.request.targetBranch
    ({ state with
        status := running
        sinceRevision := revision
        events := state.events ++ [.since revision] }, .proceed)
  | .computeExclusions =>
    ({ state with
        exclusions := Discovery.firsts (setting.request.ignoreBranches.flatMap
          (setting.vcs.branchFiles setting.request.targetBranch)) }, .proceed)
  | .computeChangeSet =>
    let changed := setting.vcs.changedSince state.sinceRevision
    let heard :=
      { state with changedFiles := changed, events := state.events ++ [.changed changed] }
    if changed.isEmpty then ({ heard with status := complete }, .finished ⟨0⟩)
    else (heard, .proceed)
  | .applyExclusion =>
    ({ state with
        includedFiles := state.changedFiles.filter fun file => !state.exclusions.contains file },
      .proceed)
  | .runCompiler =>
    match setting.compiled with
    | .error failure => (state, .failed (.compiler failure))
    | .ok lines => ({ state with diagnosticLines := lines }, .proceed)
  | .correlateAndAggregate =>
    let total := setting.lineCount state.diagnosticLines state.includedFiles
    ({ state with
        events := state.events ++
          state.includedFiles.flatMap (setting.fileEvents state.diagnosticLines)
        errorCount := total
        status := complete }, .finished ⟨total⟩)

end Step

/-! ## Steps perform their scripts -/

section Steps

variable (setting : Setting) (state : State)

theorem examineFile_performs (file : String) :
    Performs setting.listener state.events
      ((setting.fileEvents state.diagnosticLines file).map .heard)
      (examineFile setting state file)
      ({ state with events := state.events ++ setting.fileEvents state.diagnosticLines file },
        .ok (state.diagnosticLines.countP (setting.request.matchMode.accepts file)))
      (fun failure result => result.2 = .error failure) := by
  have examined := Performs.emit setting state (.examine file)
  have reported := Performs.emit setting
    { state with events := state.events ++ [.examine file] }
    (.verdict file (!(setting.request.matchMode.linesAbout file state.diagnosticLines).isEmpty)
      (setting.request.matchMode.linesAbout file state.diagnosticLines))
  have both : setting.fileEvents state.diagnosticLines file =
    [.examine file] ++ [.verdict file
      (!(setting.request.matchMode.linesAbout file state.diagnosticLines).isEmpty)
      (setting.request.matchMode.linesAbout file state.diagnosticLines)] := rfl
  rw [both, List.countP_eq_length_filter, ← List.append_assoc]
  refine examined.bind (Performs.log_bind (reported.bind_last rfl rfl ?_)) ?_
  · rintro failure ⟨halt, _⟩ rfl
    exact ⟨rfl, rfl⟩
  · rintro failure ⟨halt, _⟩ rfl
    exact ⟨rfl, rfl⟩

theorem examineFiles_performs (files : List String) :
    Performs setting.listener state.events
      ((files.flatMap (setting.fileEvents state.diagnosticLines)).map .heard)
      (examineFiles setting state files)
      ({ state with
          events := state.events ++ files.flatMap (setting.fileEvents state.diagnosticLines) },
        .ok (setting.lineCount state.diagnosticLines files))
      (fun failure result => result.2 = .error failure) := by
  induction files generalizing state with
  | nil =>
    rw [List.flatMap_nil, List.append_nil]
    exact Performs.of_silent rfl rfl
  | cons file rest ih =>
    have first := examineFile_performs setting state file
    have others := ih
      { state with events := state.events ++ setting.fileEvents state.diagnosticLines file }
    rw [List.flatMap_cons, List.map_append, ← List.append_assoc]
    rw [← Journal.heard_map_heard (setting.fileEvents state.diagnosticLines file)] at others
    refine first.bind (others.bind_last rfl rfl ?_) ?_
    · rintro failure ⟨halt, _⟩ rfl
      exact ⟨rfl, rfl⟩
    · rintro failure ⟨halt, _⟩ rfl
      exact ⟨rfl, rfl⟩

/-- Whatever the listener says, examining a file adds events to the state and does
nothing else to it. -/
theorem examineFile_extends (file : String) :
    ∃ told, (examineFile setting state file).value.1 =
      { state with events := state.events ++ told } := by
  simp only [examineFile, Noted.value_bind, value_emit]
  split
  · exact ⟨[.examine file], rfl⟩
  · simp only [Noted.value_bind, value_emit, List.append_assoc]
    split
    · exact ⟨_, rfl⟩
    · exact ⟨_, rfl⟩

theorem examineFiles_extends (files : List String) :
    ∃ told, (examineFiles setting state files).value.1 =
      { state with events := state.events ++ told } := by
  induction files generalizing state with
  | nil => exact ⟨[], by rw [List.append_nil]; rfl⟩
  | cons file rest ih =>
    rcases examineFile_extends setting state file with ⟨first, left⟩
    simp only [examineFiles, Noted.value_bind]
    split
    · exact ⟨first, left⟩
    · rw [left]
      rcases ih { state with events := state.events ++ first } with ⟨others, leftBehind⟩
      refine ⟨first ++ others, ?_⟩
      rw [← List.append_assoc]
      exact leftBehind

theorem chats_logForkPoint (target : String) (revision : Option Revision) :
    (logForkPoint target revision).journal.Chats := by
  cases revision <;> exact .cons .nil

theorem chats_logExclusions (branches exclusions : List String) :
    (logExclusions branches exclusions).journal.Chats := by
  unfold logExclusions
  split
  · exact .nil
  · exact .cons .nil

theorem chats_logSkipped (skipped : Int) : (logSkipped skipped).journal.Chats := by
  unfold logSkipped
  split
  · exact .nil
  · exact .cons .nil

theorem resolveRevision_performs :
    Performs setting.listener state.events (Step.script setting state .resolveRevision)
      (resolveRevision setting state) (Step.after setting state .resolveRevision)
      (fun failure result => result.2 = .failed failure) := by
  unfold resolveRevision
  refine Performs.silent_bind (Query.inquires_exchange _).heard
    (Discovery.dealings_findForkPoint _ _ _) ?_
  rw [Discovery.value_findForkPoint]
  refine Performs.idle_bind (chats_logForkPoint _ _).dealings ?_
  refine (Performs.emit setting { state with status := running, sinceRevision := _ } _).bind_last
    rfl rfl ?_
  rintro failure ⟨halt, _⟩ rfl
  exact ⟨rfl, rfl⟩

theorem computeExclusions_performs :
    Performs setting.listener state.events (Step.script setting state .computeExclusions)
      (computeExclusions setting state) (Step.after setting state .computeExclusions)
      (fun failure result => result.2 = .failed failure) := by
  have silent := (Vcs.inquires_branchExchanges setting.vcs setting.request.ignoreBranches
    setting.request.targetBranch).heard
  have asks := Discovery.dealings_computeExclusions setting.vcs setting.request.ignoreBranches
    setting.request.targetBranch
  rw [← List.append_nil (Step.script setting state .computeExclusions)]
  unfold computeExclusions
  refine Performs.silent_bind silent asks ?_
  rw [Discovery.value_computeExclusions]
  exact Performs.idle_bind (chats_logExclusions _ _).dealings
    (Performs.of_silent rfl rfl)

theorem computeChangeSet_performs :
    Performs setting.listener state.events (Step.script setting state .computeChangeSet)
      (computeChangeSet setting state) (Step.after setting state .computeChangeSet)
      (fun failure result => result.2 = .failed failure) := by
  unfold computeChangeSet
  refine Performs.silent_bind (Vcs.inquires_changeExchanges setting.vcs state.sinceRevision).heard
    (Discovery.dealings_collectChangeSet _ _) ?_
  rw [Discovery.value_collectChangeSet]
  have told := Performs.emit setting
    { state with changedFiles := setting.vcs.changedSince state.sinceRevision }
    (.changed (setting.vcs.changedSince state.sinceRevision))
  refine Performs.log_bind (told.bind_last ?_ ?_ ?_)
  · dsimp only
    split <;> rfl
  · simp only [Step.after]
    split <;> rfl
  · rintro failure ⟨halt, _⟩ rfl
    exact ⟨rfl, rfl⟩

theorem applyExclusion_performs :
    Performs setting.listener state.events (Step.script setting state .applyExclusion)
      (applyExclusion state) (Step.after setting state .applyExclusion)
      (fun failure result => result.2 = .failed failure) :=
  Performs.idle_bind (chats_logSkipped _).dealings (Performs.of_silent rfl rfl)

theorem value_diagnosticLines :
    (Compiler.diagnosticLines setting.compiler setting.request.options).value =
      setting.compiled := by
  simp only [Compiler.diagnosticLines, Noted.value_bind, Setting.compiled]
  cases (setting.compiler setting.request.options.arguments).value <;> rfl

theorem dealings_diagnosticLines :
    (Compiler.diagnosticLines setting.compiler setting.request.options).journal.dealings =
      [.compile setting.request.options.arguments] := by
  simp only [Compiler.diagnosticLines, Noted.journal_bind, Noted.journal_note,
    Journal.dealings_append, Answered.apart]
  cases (setting.compiler setting.request.options.arguments).value <;> rfl

theorem runCompiler_performs :
    Performs setting.listener state.events (Step.script setting state .runCompiler)
      (runCompiler setting state) (Step.after setting state .runCompiler)
      (fun failure result => result.2 = .failed failure) := by
  unfold runCompiler
  refine Performs.silent_cons rfl (dealings_diagnosticLines setting) ?_
  rw [value_diagnosticLines]
  unfold Step.after
  cases setting.compiled <;> exact Performs.of_silent rfl rfl

theorem correlateAndAggregate_performs :
    Performs setting.listener state.events (Step.script setting state .correlateAndAggregate)
      (correlateAndAggregate setting state) (Step.after setting state .correlateAndAggregate)
      (fun failure result => result.2 = .failed failure) := by
  unfold correlateAndAggregate
  refine (examineFiles_performs setting state state.includedFiles).bind_last rfl rfl ?_
  rintro failure ⟨halt, _⟩ rfl
  exact ⟨rfl, rfl⟩

/-- Every step performs its script. -/
theorem Step.performs (step : Step) :
    Performs setting.listener state.events (step.script setting state) (step.run setting state)
      (step.after setting state) (fun failure result => result.2 = .failed failure) := by
  cases step with
  | resolveRevision => exact resolveRevision_performs setting state
  | computeExclusions => exact computeExclusions_performs setting state
  | computeChangeSet => exact computeChangeSet_performs setting state
  | applyExclusion => exact applyExclusion_performs setting state
  | runCompiler => exact runCompiler_performs setting state
  | correlateAndAggregate => exact correlateAndAggregate_performs setting state

/-- A step records the events of its script, after those before it. -/
theorem Step.events_after (step : Step) :
    (step.after setting state).1.events = state.events ++ (step.script setting state).heard := by
  cases step with
  | resolveRevision => rfl
  | computeExclusions =>
    have silent := (Vcs.inquires_branchExchanges setting.vcs setting.request.ignoreBranches
      setting.request.targetBranch).heard
    rw [Step.script, silent, List.append_nil]
    rfl
  | computeChangeSet =>
    have silent := (Vcs.inquires_changeExchanges setting.vcs state.sinceRevision).heard
    simp only [Step.after, Step.script, Journal.heard_append, silent, List.nil_append]
    split <;> rfl
  | applyExclusion => exact (List.append_nil _).symm
  | runCompiler =>
    simp only [Step.after]
    split <;> exact (List.append_nil _).symm
  | correlateAndAggregate =>
    simp only [Step.after, Step.script, Journal.heard_map_heard]

end Steps

/-! ## Runs perform the scripts of their steps -/

/-- What the steps of a run do from a state unless somebody objects. -/
def scriptFrom (setting : Setting) : List Step → State → Journal
  | [], _ => []
  | step :: rest, state =>
    step.script setting state ++
      match step.after setting state with
      | (after, .proceed) => scriptFrom setting rest after
      | _ => []

/-- Where the steps of a run lead from a state unless somebody objects. -/
def endFrom (setting : Setting) : List Step → State → End
  | [], state => ⟨state, [], .ok ⟨state.errorCount⟩⟩
  | step :: rest, state =>
    match step.after setting state with
    | (after, .failed failure) => ⟨after, [], .error failure⟩
    | (after, .finished outcome) => ⟨after, [⟨step, none, after⟩], .ok outcome⟩
    | (after, .proceed) =>
      let ending := endFrom setting rest after
      { ending with finished := ⟨step, step.next?, after⟩ :: ending.finished }

theorem runSteps_performs (setting : Setting) (steps : List Step) (state : State) :
    Performs setting.listener state.events (scriptFrom setting steps state)
      (runSteps setting steps state) (endFrom setting steps state)
      (fun failure ending => ending.result = .error failure) := by
  induction steps generalizing state with
  | nil => exact Performs.of_silent rfl rfl
  | cons step rest ih =>
    unfold runSteps scriptFrom endFrom
    have taken := step.performs setting state
    have recorded := step.events_after setting state
    refine taken.bind ?_ ?_
    · rw [← recorded]
      rcases step.after setting state with ⟨after, _ | outcome | failure⟩
      · refine Performs.bind_last (ih after) ?_ ?_ ?_
        · rfl
        · rfl
        · intro failure ending stopped
          exact ⟨rfl, stopped⟩
      · exact Performs.of_silent rfl rfl
      · exact Performs.of_silent rfl rfl
    · rintro failure ⟨halt, _⟩ rfl
      exact ⟨rfl, rfl⟩

end Check

end Ratchet
