import Ratchet.Proofs.Check.Script

namespace Ratchet

namespace Check

/-!
# A whole run

What a run from the beginning finds out, in terms of what its ports answer:
the fork point, the changed files, the files of ignored branches, the files
that are left, and the lines of the compiler.  From these come the script of
the run, its conclusion, and the events that it would tell if nothing stopped
it.

`run_performs` joins these to the run itself.
-/

namespace Setting

variable (setting : Setting)

/-- The commit from which changes are measured, if it is known. -/
def revision : Option Revision :=
  setting.vcs.base? Discovery.head setting.request.targetBranch

/-- The changed files of a supported kind. -/
def changed : List String :=
  setting.vcs.changedSince setting.revision

/-- The files changed on any ignored branch since its own fork point. -/
def excluded : List String :=
  setting.request.ignoreBranches.flatMap (setting.vcs.branchFiles setting.request.targetBranch)

/-- The changed files that belong to no ignored branch. -/
def included : List String :=
  setting.changed.filter fun file => !setting.excluded.contains file

/-- The lines of the compiler, if it does its work. -/
def lines : List String :=
  match setting.compiled with
  | .ok lines => lines
  | .error _ => []

/-- The events of a run that nothing stops. -/
def events : List Event :=
  .since setting.revision :: .changed setting.changed ::
    setting.included.flatMap (setting.fileEvents setting.lines)

/-- What a run does as long as nobody objects. -/
def script : Journal :=
  scriptFrom setting Step.all .fresh

/-- How a run ends as long as nobody objects. -/
def conclusion : Except Failure Outcome :=
  (endFrom setting Step.all .fresh).result

/-- The questions that come before the changed files are told, and their
answers. -/
def questions : Journal :=
  setting.vcs.branchExchanges setting.request.ignoreBranches setting.request.targetBranch ++
    setting.vcs.changeExchanges setting.revision

/-- What is done until the changed files have been told. -/
def overture : Journal :=
  (Query.forkPoint Discovery.head setting.request.targetBranch).exchange ++
    .heard (.since setting.revision) ::
      (setting.questions ++ [.heard (.changed setting.changed)])

/-- What remains to be done when the changed files have been told. -/
def remainder : Journal :=
  if setting.changed.isEmpty then []
  else
    .compile setting.request.options.arguments ::
      match setting.compiled with
      | .error _ => []
      | .ok lines => (setting.included.flatMap (setting.fileEvents lines)).map .heard

end Setting

variable (setting : Setting)

theorem base?_head :
    setting.vcs.base? Discovery.head setting.request.targetBranch = setting.revision := by
  rw [Setting.revision]

theorem changedSince_revision :
    setting.vcs.changedSince setting.revision = setting.changed := by
  rw [Setting.changed]

theorem flatMap_branchFiles :
    setting.request.ignoreBranches.flatMap
      (setting.vcs.branchFiles setting.request.targetBranch) = setting.excluded := by
  rw [Setting.excluded]

/-- A set of files excludes what its first places exclude. -/
theorem filter_not_firsts (files excluded : List String) :
    (files.filter fun file => !(Discovery.firsts excluded).contains file) =
      files.filter fun file => !excluded.contains file := by
  apply List.filter_congr
  intro file _
  simp [Discovery.mem_firsts]

theorem included_eq_filter_firsts :
    setting.included =
      setting.changed.filter fun file => !(Discovery.firsts setting.excluded).contains file :=
  (filter_not_firsts _ _).symm

theorem script_eq : setting.script = setting.overture ++ setting.remainder := by
  simp only [Setting.script, Step.all, scriptFrom, Step.after, Step.script, State.fresh,
    base?_head, changedSince_revision, flatMap_branchFiles]
  rw [Setting.overture, Setting.questions, Setting.remainder, included_eq_filter_firsts]
  cases setting.changed.isEmpty with
  | true => simp
  | false => cases setting.compiled <;> simp

theorem conclusion_eq :
    setting.conclusion =
      if setting.changed.isEmpty then .ok ⟨0⟩
      else
        match setting.compiled with
        | .error failure => .error (.compiler failure)
        | .ok lines => .ok ⟨setting.lineCount lines setting.included⟩ := by
  simp only [Setting.conclusion, Step.all, endFrom, Step.after, State.fresh,
    base?_head, changedSince_revision, flatMap_branchFiles]
  rw [included_eq_filter_firsts]
  cases setting.changed.isEmpty with
  | true => rfl
  | false => cases setting.compiled <;> rfl

/-- How a run goes on when the changed files have been told: nothing has
changed, or the compiler fails, or every included file is examined. -/
theorem course :
    (setting.changed = [] ∧ setting.remainder = [] ∧ setting.conclusion = .ok ⟨0⟩) ∨
    (setting.changed ≠ [] ∧ ∃ failure, setting.compiled = .error failure ∧
      setting.remainder = [.compile setting.request.options.arguments] ∧
      setting.conclusion = .error (.compiler failure)) ∨
    (setting.changed ≠ [] ∧ ∃ lines, setting.compiled = .ok lines ∧
      setting.remainder = .compile setting.request.options.arguments ::
        (setting.included.flatMap (setting.fileEvents lines)).map .heard ∧
      setting.conclusion = .ok ⟨setting.lineCount lines setting.included⟩) := by
  rw [conclusion_eq, Setting.remainder]
  cases setting.changed with
  | nil => exact Or.inl ⟨rfl, rfl, rfl⟩
  | cons file rest =>
    cases setting.compiled with
    | error failure => exact Or.inr (Or.inl ⟨List.cons_ne_nil _ _, failure, rfl, rfl, rfl⟩)
    | ok lines => exact Or.inr (Or.inr ⟨List.cons_ne_nil _ _, lines, rfl, rfl, rfl⟩)

/-- The lines of a compiler that does its work are those of its output. -/
theorem output_of_compiled {lines : List String} (compiles : setting.compiled = .ok lines) :
    ∃ output, (setting.compiler setting.request.options.arguments).value = .ok output ∧
      lines = Text.lines output := by
  rw [Setting.compiled] at compiles
  cases answer : (setting.compiler setting.request.options.arguments).value with
  | error failure =>
    rw [answer] at compiles
    cases compiles
  | ok output =>
    rw [answer] at compiles
    cases compiles
    exact ⟨output, rfl, rfl⟩

/-! ## Events of a run -/

theorem inquires_questions : setting.questions.Inquires :=
  (Vcs.inquires_branchExchanges setting.vcs setting.request.ignoreBranches
    setting.request.targetBranch).append (Vcs.inquires_changeExchanges setting.vcs setting.revision)

theorem heard_overture :
    setting.overture.heard = [.since setting.revision, .changed setting.changed] := by
  rw [Setting.overture, Journal.heard_append, (Query.inquires_exchange _).heard,
    Journal.heard_cons, Journal.heard_append, (inquires_questions setting).heard]
  rfl

theorem compiles_overture : setting.overture.compiles = [] := by
  rw [Setting.overture, Journal.compiles_append, (Query.inquires_exchange _).compiles,
    Journal.compiles, List.filterMap_cons_none rfl, ← Journal.compiles, Journal.compiles_append,
    (inquires_questions setting).compiles]
  rfl

theorem heard_script :
    setting.script.heard =
      .since setting.revision :: .changed setting.changed :: setting.remainder.heard := by
  rw [script_eq, Journal.heard_append, heard_overture]
  rfl

/-- A run that comes to an outcome tells all its events. -/
theorem heard_script_of_ok {outcome : Outcome} (fine : setting.conclusion = .ok outcome) :
    setting.script.heard = setting.events := by
  rw [heard_script, Setting.events]
  rcases course setting with ⟨unchanged, idle, _⟩ | ⟨_, failure, _, _, broken⟩ |
    ⟨_, lines, compiles, examined, _⟩
  · rw [idle, Setting.included, unchanged]
    rfl
  · rw [broken] at fine
    cases fine
  · rw [examined, Journal.heard_cons, Journal.heard_map_heard, Setting.lines, compiles]
    rfl

/-- A run whose compiler fails tells the two events before it. -/
theorem heard_script_of_error {failure : Failure} (fails : setting.conclusion = .error failure) :
    setting.script.heard = [.since setting.revision, .changed setting.changed] := by
  rw [heard_script]
  rcases course setting with ⟨_, _, fine⟩ | ⟨_, _, _, broken, _⟩ | ⟨_, _, _, _, fine⟩
  · rw [fine] at fails
    cases fails
  · rw [broken]
    rfl
  · rw [fine] at fails
    cases fails

theorem heard_script_prefix_events : setting.script.heard <+: setting.events := by
  cases ends : setting.conclusion with
  | ok outcome => exact ⟨[], (List.append_nil _).trans (heard_script_of_ok setting ends)⟩
  | error failure =>
    rw [heard_script_of_error setting ends]
    exact List.prefix_append _ _

/-- The state at the end of a run has recorded the events of its script. -/
theorem events_endFrom (steps : List Step) (state : State) :
    (endFrom setting steps state).state.events =
      state.events ++ (scriptFrom setting steps state).heard := by
  induction steps generalizing state with
  | nil => exact (List.append_nil _).symm
  | cons step rest ih =>
    have recorded := step.events_after setting state
    unfold endFrom scriptFrom
    rw [Journal.heard_append, ← List.append_assoc, ← recorded]
    rcases step.after setting state with ⟨after, _ | outcome | failure⟩
    · exact ih after
    · exact (List.append_nil _).symm
    · exact (List.append_nil _).symm

/-- A run performs its script.  If nobody objects, its end is the conclusion,
with a report of the events of the script. -/
theorem run_performs :
    Performs setting.listener [] setting.script (run setting)
      (setting.conclusion.map fun outcome => ⟨outcome, setting.script.heard⟩)
      (fun failure result => result = .error failure) := by
  have recorded := events_endFrom setting Step.all .fresh
  have taken := runSteps_performs setting Step.all .fresh
  unfold run
  refine Performs.bind_last (Performs.log_bind taken) rfl ?_ ?_
  · rw [recorded]
    rfl
  · intro failure ending stopped
    refine ⟨rfl, ?_⟩
    dsimp only [Noted.value_pure]
    rw [stopped]
    rfl

/-- What a run that nobody objects to comes to. -/
theorem value_run_of_undisturbed
    (undisturbed : (perform setting.listener [] setting.script).2 = none) :
    (run setting).value =
      setting.conclusion.map fun outcome => ⟨outcome, setting.events⟩ := by
  rw [(run_performs setting).undisturbed undisturbed]
  cases ends : setting.conclusion with
  | ok outcome => rw [heard_script_of_ok setting ends]
  | error failure => rfl

/-- A report tells that nobody objected, and that the run had an outcome. -/
theorem undisturbed_of_report {report : Report} (returned : (run setting).value = .ok report) :
    (perform setting.listener [] setting.script).2 = none ∧
      setting.conclusion = .ok report.outcome ∧ report.events = setting.events := by
  cases ends : (perform setting.listener [] setting.script).2 with
  | some failure =>
    rw [(run_performs setting).objected failure ends] at returned
    cases returned
  | none =>
    rw [value_run_of_undisturbed setting ends] at returned
    cases concludes : setting.conclusion with
    | error failure =>
      rw [concludes] at returned
      cases returned
    | ok outcome =>
      rw [concludes] at returned
      cases returned
      exact ⟨rfl, rfl, rfl⟩

/-! ## A setting of two files -/

/-- Two files with a complaint each.  One is touched in the working tree and
committed as well, the other is changed on an ignored branch too. -/
def Setting.sample : Setting where
  request := { targetBranch := "main", ignoreBranches := ["wip"] }
  vcs :=
    { forkPoint := fun _ _ => pure (.ok (Revision.ofText? "c0ffee"))
      workingTree := pure (.ok ⟨["a.ts"], [], []⟩)
      diff := fun _ head => pure (.ok (if head = "wip" then ["b.ts"] else ["b.ts", "a.ts"])) }
  compiler := fun _ => pure (.ok "a.ts(1,1): error TS7006\nb.ts(2,2): error TS7006\n")
  listener := none

end Check

end Ratchet
