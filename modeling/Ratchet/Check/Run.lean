import Ratchet.Check.Step

namespace Ratchet

/-!
# Running a check

The steps of a check one after the other, until one of them ends it.
-/

namespace Check

/-- A finished step: what came after it and the state it left. -/
structure Finished where
  step : Step
  next : Option Step
  state : State

/-- The end of a run: the state, the steps that were finished, and the outcome
or what stopped the run. -/
structure End where
  state : State
  finished : List Finished
  result : Except Failure Outcome

/-- Takes steps in a row. -/
def runSteps (setting : Setting) : List Step → State → Noted End
  | [], state => pure ⟨state, [], .ok ⟨state.errorCount⟩⟩
  | step :: rest, state => do
    let (state, progress) ← step.run setting state
    match progress with
    | .failed failure => pure ⟨state, [], .error failure⟩
    | .finished outcome => pure ⟨state, [⟨step, none, state⟩], .ok outcome⟩
    | .proceed =>
      let after ← runSteps setting rest state
      pure { after with finished := ⟨step, step.next?, state⟩ :: after.finished }

/-- Runs a check from a step on. -/
def runFrom (setting : Setting) (start : Step) (state : State) : Noted End := do
  .log .debug "Building workflow graph" []
  runSteps setting start.onwards state

/-- Runs a check from its beginning to its report. -/
def run (setting : Setting) : Noted (Except Failure Report) := do
  let ending ← runFrom setting .resolveRevision .fresh
  pure (ending.result.map fun outcome => ⟨outcome, ending.state.events⟩)

end Check

end Ratchet
