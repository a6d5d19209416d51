import Ratchet.Change.Discovery
import Ratchet.Check.Report
import Ratchet.Check.Request
import Ratchet.Check.State
import Ratchet.Compiler.Invocation

namespace Ratchet

/-!
# The steps of a check

A check is six steps in a row: find the fork point, find the files of ignored
branches, collect the changed files, drop the ignored ones, run the compiler,
and attribute its lines to files.  It ends early when nothing has changed.  A
step takes the state to a new one and says how the check goes on; only a
failing compiler or a failing listener stops it.
-/

namespace Check

/-- Why a check stopped without a report. -/
inductive Failure where
  | compiler (failure : Compiler.Failure)
  | listener (reason : String)
  deriving DecidableEq

/-- Hears every event at once, knowing those before it, and may fail with a
reason. -/
abbrev Listener := (earlier : List Event) → Event → Option String

/-- Hears everything and never fails. -/
def Listener.patient : Listener := fun _ _ => none

/-- What a check works with. -/
structure Setting where
  request : Request
  vcs : Vcs
  compiler : Compiler
  listener : Option Listener

/-- A step of a check. -/
inductive Step where
  | resolveRevision
  | computeExclusions
  | computeChangeSet
  | applyExclusion
  | runCompiler
  | correlateAndAggregate
  deriving DecidableEq, Inhabited

namespace Step

/-- Every step, in order. -/
def all : List Step :=
  [.resolveRevision, .computeExclusions, .computeChangeSet, .applyExclusion, .runCompiler,
    .correlateAndAggregate]

def name : Step → String
  | .resolveRevision => "ResolveRevision"
  | .computeExclusions => "ComputeExclusions"
  | .computeChangeSet => "ComputeChangeSet"
  | .applyExclusion => "ApplyExclusion"
  | .runCompiler => "RunCompiler"
  | .correlateAndAggregate => "CorrelateAndAggregate"

def named? (name : String) : Option Step :=
  all.find? fun step => step.name == name

/-- The step after one, if it is not the last. -/
def next? : Step → Option Step
  | .resolveRevision => some .computeExclusions
  | .computeExclusions => some .computeChangeSet
  | .computeChangeSet => some .applyExclusion
  | .applyExclusion => some .runCompiler
  | .runCompiler => some .correlateAndAggregate
  | .correlateAndAggregate => none

/-- A step and those after it. -/
def onwards (step : Step) : List Step :=
  all.dropWhile (· != step)

end Step

/-- How a check goes on after a step. -/
inductive Progress where
  | proceed
  | finished (outcome : Outcome)
  | failed (failure : Failure)
  deriving DecidableEq

/-- Records an event in the state and hands it to the listener, if there is
one. -/
def emit (setting : Setting) (state : State) (event : Event) :
    Noted (State × Option Failure) := do
  let heard := { state with events := state.events ++ [event] }
  .log .trace "Event" [("kind", .text event.kind.name)]
  match setting.listener with
  | none => pure (heard, none)
  | some listener =>
    .note (.heard event)
    pure (heard, (listener state.events event).map .listener)

/-- How a check goes on when the listener has heard an event. -/
def onwardUnless (failure : Option Failure) (otherwise : Progress) : Progress :=
  match failure with
  | some failure => .failed failure
  | none => otherwise

/-- Says in the log whether there is a fork point. -/
def logForkPoint (target : String) (revision : Option Revision) : Noted Unit :=
  match revision with
  | none => .log .warn "Fork point unknown" [("target_branch", .text target)]
  | some found =>
    .log .info "Found fork point"
      [("revision", .text found.sha), ("target_branch", .text target)]

/-- Finds the commit from which changes are measured. -/
def resolveRevision (setting : Setting) (state : State) : Noted (State × Progress) := do
  let target := setting.request.targetBranch
  let revision ← Discovery.findForkPoint setting.vcs Discovery.head target
  logForkPoint target revision
  let (state, failure) ← emit setting
    { state with status := running, sinceRevision := revision } (.since revision)
  pure (state, onwardUnless failure .proceed)

/-- Counts the files of ignored branches in the log, if there are such
branches. -/
def logExclusions (branches exclusions : List String) : Noted Unit :=
  if branches.isEmpty then pure ()
  else .log .info "Computed exclusions"
    [("branches", Value.texts branches), ("count", .int exclusions.length)]

/-- Finds the files that belong to ignored branches. -/
def computeExclusions (setting : Setting) (state : State) : Noted (State × Progress) := do
  let branches := setting.request.ignoreBranches
  let exclusions ← Discovery.computeExclusions setting.vcs branches setting.request.targetBranch
  logExclusions branches exclusions
  pure ({ state with exclusions }, .proceed)

/-- Collects the changed files; a check without any is over. -/
def computeChangeSet (setting : Setting) (state : State) : Noted (State × Progress) := do
  let changed ← Discovery.collectChangeSet setting.vcs state.sinceRevision
  .log .info "Found changed files" [("count", .int changed.length)]
  let (state, failure) ← emit setting { state with changedFiles := changed } (.changed changed)
  match failure with
  | some failure => pure (state, .failed failure)
  | none =>
    if changed.isEmpty then pure ({ state with status := complete }, .finished ⟨0⟩)
    else pure (state, .proceed)

/-- Counts the dropped files in the log, if there are any. -/
def logSkipped (skipped : Int) : Noted Unit :=
  if skipped = 0 then pure ()
  else .log .info "Excluded files changed on ignored branches" [("count", .int skipped)]

/-- Keeps the changed files that belong to no ignored branch. -/
def applyExclusion (state : State) : Noted (State × Progress) := do
  let included := state.changedFiles.filter fun file => !state.exclusions.contains file
  logSkipped (state.changedFiles.length - included.length)
  pure ({ state with includedFiles := included }, .proceed)

/-- Compiles the whole project once. -/
def runCompiler (setting : Setting) (state : State) : Noted (State × Progress) := do
  match ← Compiler.diagnosticLines setting.compiler setting.request.options with
  | .error failure => pure (state, .failed (.compiler failure))
  | .ok lines => pure ({ state with diagnosticLines := lines }, .proceed)

/-- Reports on a file and counts the lines about it. -/
def examineFile (setting : Setting) (state : State) (file : String) :
    Noted (State × Except Failure Nat) := do
  let (state, failure) ← emit setting state (.examine file)
  match failure with
  | some failure => pure (state, .error failure)
  | none =>
    let matched := setting.request.matchMode.linesAbout file state.diagnosticLines
    .log .debug "Checked file"
      [("file", .text file), ("diagnostics", .int matched.length)]
    let (state, failure) ← emit setting state (.verdict file (!matched.isEmpty) matched)
    match failure with
    | some failure => pure (state, .error failure)
    | none => pure (state, .ok matched.length)

/-- Reports on files one after the other, counting the lines about them. -/
def examineFiles (setting : Setting) (state : State) :
    List String → Noted (State × Except Failure Nat)
  | [] => pure (state, .ok 0)
  | file :: rest => do
    let (state, count) ← examineFile setting state file
    match count with
    | .error failure => pure (state, .error failure)
    | .ok count =>
      let (state, total) ← examineFiles setting state rest
      pure (state, total.map (count + ·))

/-- Reports on every included file and totals the lines about them. -/
def correlateAndAggregate (setting : Setting) (state : State) : Noted (State × Progress) := do
  let (state, total) ← examineFiles setting state state.includedFiles
  match total with
  | .error failure => pure (state, .failed failure)
  | .ok total =>
    .log .info "Check complete"
      [("files", .int state.includedFiles.length), ("errors", .int total)]
    pure ({ state with errorCount := total, status := complete }, .finished ⟨total⟩)

/-- What a step does. -/
def Step.run (setting : Setting) (state : State) : Step → Noted (State × Progress)
  | .resolveRevision => Check.resolveRevision setting state
  | .computeExclusions => Check.computeExclusions setting state
  | .computeChangeSet => Check.computeChangeSet setting state
  | .applyExclusion => Check.applyExclusion state
  | .runCompiler => Check.runCompiler setting state
  | .correlateAndAggregate => Check.correlateAndAggregate setting state

end Check

end Ratchet
