import Ratchet.Proofs.Check.Script

namespace Ratchet

/-!
# What a check is due to leave behind

Much of what a check leaves in its journal is not its own: the commands that
its ports give, and what is said about questions that they did not answer.
Which entries there are of such a kind depends on the question alone, since
answers are functions of their questions.  So these entries can be read off
what the check is answered.

A tally says which entries are counted and which are due when an answer, a
compilation or an event is dealt with.  If the two agree for each turn of a task
that asks, and for each other thing that a check does by itself, and if nothing
is counted of what the check says about its own progress, they agree for every
step of a check and for every run.  That much holds of every property of journals
that parts hand on to the whole.
-/

theorem Level.ofName_name (level : Level) : ofName level.name = level := by
  cases level <;> decide +kernel

namespace Discovery

/-- What is said about questions that were not answered. -/
def regrets : List String :=
  ["Can not find fork point", "Can not find modified and untracked files",
    "Can not find files changed since revision"]

end Discovery

namespace Record

/-- A message about a question that was not answered. -/
def isRegret (r : Record) : Bool :=
  Discovery.regrets.contains r.message

/-- A message at a level of warnings or above. -/
def isWarning (r : Record) : Bool :=
  Level.warn.severity ≤ r.importance.severity

/-- A message about a question that was not answered, or a warning. -/
def isRemark (r : Record) : Bool :=
  r.isRegret || r.isWarning

theorem isWarning_ofLevel (level : Level) (message : String)
    (attributes : List (String × Value)) :
    (ofLevel level message attributes).isWarning =
      decide (Level.warn.severity ≤ level.severity) := by
  rw [isWarning, importance, ofLevel, Level.ofName_name]

/-- What a check says about its progress. -/
theorem isRemark_ofLevel {level : Level} {message : String}
    (quiet : level.severity < Level.warn.severity) (routine : message ∉ Discovery.regrets)
    (attributes : List (String × Value)) :
    (ofLevel level message attributes).isRemark = false := by
  have noRegret : (ofLevel level message attributes).isRegret = false := by
    simpa [isRegret, ofLevel] using routine
  rw [isRemark, noRegret, isWarning_ofLevel, Bool.false_or]
  exact decide_eq_false (Int.not_le.mpr quiet)

end Record

namespace Check

/-! ## What holds of the parts -/

/-- A property of journals that parts hand on to the whole, and that is true of
each thing that a check may do. -/
structure Throughout (P : Journal → Prop) (setting : Setting) : Prop extends
    Journal.Additive P where
  forkPoint : ∀ branch target, P (Discovery.findForkPoint setting.vcs branch target).journal
  exclusions : ∀ branches target,
    P (Discovery.computeExclusions setting.vcs branches target).journal
  changeSet : ∀ base, P (Discovery.collectChangeSet setting.vcs base).journal
  compile : P (Compiler.diagnosticLines setting.compiler setting.request.options).journal
  event : ∀ event, P [.heard event]
  progress : ∀ record : Record, record.isRemark = false → P [.record record]

/-- What a check does first. -/
def opening (setting : Setting) : Noted (State × Progress) := do
  .log .debug "Building workflow graph" []
  resolveRevision setting .fresh

namespace Throughout

variable {α β : Type} {P : Journal → Prop} {setting : Setting} (holds : Throughout P setting)

include holds

theorem pure (a : α) : P (Pure.pure a : Noted α).journal := holds.nil

theorem bind {x : Noted α} {f : α → Noted β} (first : P x.journal)
    (second : P (f x.value).journal) : P (x >>= f).journal :=
  holds.append first second

theorem log {level : Level} {message : String} (quiet : level.severity < Level.warn.severity)
    (routine : message ∉ Discovery.regrets) (attributes : List (String × Value)) :
    P (Noted.log level message attributes).journal :=
  holds.progress _ (Record.isRemark_ofLevel quiet routine attributes)

/-! ## Steps -/

section Steps

variable (state : State)

theorem emit (event : Event) : P (Check.emit setting state event).journal := by
  refine holds.bind (holds.log (by decide) (by decide) _) ?_
  split
  · exact holds.pure _
  · exact holds.bind (holds.event event) (holds.pure _)

theorem examineFile (file : String) : P (Check.examineFile setting state file).journal := by
  refine holds.bind (holds.emit state _) ?_
  dsimp only
  split
  · exact holds.pure _
  · refine holds.bind (holds.log (by decide) (by decide) _) (holds.bind (holds.emit _ _) ?_)
    split
    · exact holds.pure _
    · exact holds.pure _

theorem examineFiles (files : List String) :
    P (Check.examineFiles setting state files).journal := by
  induction files generalizing state with
  | nil => exact holds.pure _
  | cons file rest ih =>
    refine holds.bind (holds.examineFile state file) ?_
    dsimp only
    split
    · exact holds.pure _
    · exact holds.bind (ih _) (holds.pure _)

theorem logExclusions (branches exclusions : List String) :
    P (Check.logExclusions branches exclusions).journal := by
  unfold Check.logExclusions
  split
  · exact holds.pure _
  · exact holds.log (by decide) (by decide) _

theorem logSkipped (skipped : Int) : P (Check.logSkipped skipped).journal := by
  unfold Check.logSkipped
  split
  · exact holds.pure _
  · exact holds.log (by decide) (by decide) _

theorem computeExclusions : P (Check.computeExclusions setting state).journal :=
  holds.bind (holds.exclusions _ _) (holds.bind (holds.logExclusions _ _) (holds.pure _))

theorem computeChangeSet : P (Check.computeChangeSet setting state).journal := by
  refine holds.bind (holds.changeSet _)
    (holds.bind (holds.log (by decide) (by decide) _) (holds.bind (holds.emit _ _) ?_))
  dsimp only
  split
  · exact holds.pure _
  · split
    · exact holds.pure _
    · exact holds.pure _

theorem applyExclusion : P (Check.applyExclusion state).journal :=
  holds.bind (holds.logSkipped _) (holds.pure _)

theorem runCompiler : P (Check.runCompiler setting state).journal := by
  refine holds.bind holds.compile ?_
  split
  · exact holds.pure _
  · exact holds.pure _

theorem correlateAndAggregate : P (Check.correlateAndAggregate setting state).journal := by
  refine holds.bind (holds.examineFiles state _) ?_
  dsimp only
  split
  · exact holds.pure _
  · exact holds.bind (holds.log (by decide) (by decide) _) (holds.pure _)

/-- The steps but the first one, which may warn of an unknown fork point. -/
theorem step {step : Step} (later : step ≠ .resolveRevision) :
    P (step.run setting state).journal := by
  cases step with
  | resolveRevision => contradiction
  | computeExclusions => exact holds.computeExclusions state
  | computeChangeSet => exact holds.computeChangeSet state
  | applyExclusion => exact holds.applyExclusion state
  | runCompiler => exact holds.runCompiler state
  | correlateAndAggregate => exact holds.correlateAndAggregate state

theorem runSteps {steps : List Step} (later : Step.resolveRevision ∉ steps) :
    P (Check.runSteps setting steps state).journal := by
  induction steps generalizing state with
  | nil => exact holds.pure _
  | cons step rest ih =>
    rw [List.mem_cons, not_or] at later
    refine holds.bind (holds.step state (Ne.symm later.1)) ?_
    dsimp only
    split
    · exact holds.pure _
    · exact holds.pure _
    · exact holds.bind (ih _ later.2) (holds.pure _)

end Steps

/-! ## Runs -/

theorem opening
    (silent : ∀ revision, P (logForkPoint setting.request.targetBranch revision).journal) :
    P (Check.opening setting).journal := by
  refine holds.bind (holds.log (by decide) (by decide) _) (holds.bind (holds.forkPoint _ _) ?_)
  exact holds.bind (silent _) (holds.bind (holds.emit _ _) (holds.pure _))

/-- What comes after the opening of a run. -/
theorem exists_later : ∃ later : Noted End, P later.journal ∧
    (Check.run setting).journal = (Check.opening setting).journal ++ later.journal := by
  let others : List Step :=
    [.computeExclusions, .computeChangeSet, .applyExclusion, .runCompiler, .correlateAndAggregate]
  have onwards : Step.onwards .resolveRevision = .resolveRevision :: others := by decide
  rcases leads : (resolveRevision setting .fresh).value with ⟨state, progress⟩
  cases progress with
  | proceed =>
    refine ⟨Check.runSteps setting others state, holds.runSteps state (by decide), ?_⟩
    simp [Check.run, runFrom, onwards, Check.runSteps, Step.run, Check.opening, leads]
  | finished outcome =>
    refine ⟨Pure.pure ⟨state, [], .ok outcome⟩, holds.pure _, ?_⟩
    simp [Check.run, runFrom, onwards, Check.runSteps, Step.run, Check.opening, leads]
  | failed failure =>
    refine ⟨Pure.pure ⟨state, [], .error failure⟩, holds.pure _, ?_⟩
    simp [Check.run, runFrom, onwards, Check.runSteps, Step.run, Check.opening, leads]

/-- What holds of everything that a check may do holds of a run, if it holds of
what the check says about its fork point. -/
theorem run
    (silent : ∀ revision, P (logForkPoint setting.request.targetBranch revision).journal) :
    P (Check.run setting).journal := by
  rcases holds.exists_later with ⟨later, holdsLater, whole⟩
  rw [whole]
  exact holds.append (holds.opening silent) holdsLater

end Throughout

/-! ## Tallies -/

/-- Entries that are counted, and those that are due when something is dealt
with. -/
structure Tally (α : Type) where
  counted : Journal.Entry → Option α
  due : Journal.Entry → List α

variable {γ : Type} {tally : Tally γ}

/-- A journal in which that is counted which what is dealt with is due, in the
order in which it is dealt with. -/
def Accounted (tally : Tally γ) (j : Journal) : Prop :=
  j.filterMap tally.counted = j.dealings.flatMap tally.due

theorem Accounted.additive (tally : Tally γ) : Journal.Additive (Accounted tally) where
  nil := rfl
  append first second := by
    unfold Accounted at first second ⊢
    rw [List.filterMap_append, Journal.dealings_append, List.flatMap_append, first, second]

/-- What does one thing leaves behind what is due for that. -/
theorem Accounted.of_entry {j : Journal} {entry : Journal.Entry} (does : j.dealings = [entry])
    (leaves : j.filterMap tally.counted = tally.due entry) : Accounted tally j := by
  unfold Accounted
  rw [does, List.flatMap_singleton, leaves]

/-- A tally that is right for each thing that a check may do by itself, and for
each turn of a question and its answer, and that counts nothing of what the check
says about its progress. -/
structure Tally.Fits (tally : Tally γ) (setting : Setting) : Prop where
  forkPoint : ∀ branch target, Journal.InTurns (Accounted tally) setting.vcs.timing
    (Discovery.findForkPoint setting.vcs branch target).journal
  workingTree : Journal.InTurns (Accounted tally) setting.vcs.timing
    (Discovery.workingTreeChanges setting.vcs).journal
  diff : ∀ base head, Journal.InTurns (Accounted tally) setting.vcs.timing
    (Discovery.diffFiles setting.vcs (some base) head).journal
  compile : Accounted tally
    (Compiler.diagnosticLines setting.compiler setting.request.options).journal
  event : ∀ event, Accounted tally [.heard event]
  progress : ∀ record : Record, record.isRemark = false → tally.counted (.record record) = none

/-- A question, and what is made of its answer. -/
theorem inTurns_asking {α β : Type} {timing : Timing} {question : Query} {answer : Answered α}
    {f : α → Noted β} (chats : (f answer.value).journal.Chats)
    (asks : Accounted tally [.query question])
    (answers : Accounted tally
      (answer.journal ++ .answered question :: (f answer.value).journal)) :
    Journal.InTurns (Accounted tally) timing (Discovery.asking question answer >>= f).journal := by
  have whole : (Discovery.asking question answer >>= f).journal =
      .query question :: (answer.journal ++ .answered question :: (f answer.value).journal) := by
    simp [Discovery.asking]
  rw [whole]
  refine (Accounted.additive tally).inTurns_query asks (fun entry member => ?_) answers
  rcases List.mem_append.mp member with finding | later
  · exact Journal.unpaused_of_dealings answer.apart entry finding
  · rcases List.mem_cons.mp later with rfl | said
    · rfl
    · exact Journal.unpaused_of_dealings chats.dealings entry said

section Fitting

variable {setting : Setting} (fits : tally.Fits setting)

include fits

theorem diffFiles_inTurns (base : Option Revision) (head : String) :
    Journal.InTurns (Accounted tally) setting.vcs.timing
      (Discovery.diffFiles setting.vcs base head).journal := by
  cases base with
  | none => exact .of_unpaused (fun _ member => absurd member List.not_mem_nil) rfl
  | some base => exact fits.diff base head

theorem changedOnBranch_inTurns (target branch : String) :
    Journal.InTurns (Accounted tally) setting.vcs.timing
      (Discovery.changedOnBranch setting.vcs target branch).journal :=
  (Accounted.additive tally).inTurns_append (fits.forkPoint branch target)
    (diffFiles_inTurns fits _ branch)

/-- A tally that fits is right wherever the turns of questions are put together. -/
theorem Tally.Fits.throughout : Throughout (Accounted tally) setting where
  toAdditive := Accounted.additive tally
  forkPoint branch target := (Accounted.additive tally).whole (fits.forkPoint branch target)
  exclusions branches target := by
    refine (Accounted.additive tally).append ((Accounted.additive tally).together ?_) rfl
    rw [List.map_map]
    exact List.forall_mem_map.mpr fun branch _ => changedOnBranch_inTurns fits target branch
  changeSet base := by
    refine (Accounted.additive tally).append ((Accounted.additive tally).together ?_) rfl
    exact List.forall_mem_cons.mpr
      ⟨fits.workingTree, List.forall_mem_singleton.mpr (diffFiles_inTurns fits base _)⟩
  compile := fits.compile
  event := fits.event
  progress record quiet := List.filterMap_cons_none (fits.progress record quiet)

end Fitting

end Check

end Ratchet
