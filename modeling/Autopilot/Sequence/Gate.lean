import Autopilot.Sequence.Run

/-!
Running one step: its delay, its gate, its command. A gate is polled until it
opens, until its deadline has passed, or until the run is cancelled; the poll at
the deadline still counts.
-/

namespace Autopilot.Runner

variable {World : Type}

/-- Asks whoever decides on gates. -/
def askGate (decide : Step → World → Reply World (Except RunError Bool)) (step : Step) :
    Runner World Bool :=
  ask (.gateAsked step.commandId) .gateAnswered id (decide step)

/-- Whether a step's gate is open. -/
def gateOpen (hooks : Hooks World) (step : Step) (gate : Condition) : Runner World Bool := do
  match hooks.gate, hooks.condition with
  | some decide, _ => askGate decide step
  | none, some evaluator => evaluate evaluator gate
  | none, none => return true

/-- The time until the next poll. -/
def untilNextPoll (polling : Polling) (deadline : Option Nat) : Runner World Nat := do
  match deadline with
  | none => return polling.intervalMs
  | some deadline =>
    let now := (← get).now
    if deadline ≤ now then fail .gateTimeout
    return min polling.intervalMs (deadline - now)

/-- Polls a gate at most `patience` times. -/
def awaitGate (hooks : Hooks World) (polling : Polling) (step : Step) (gate : Condition)
    (deadline : Option Nat) : (patience : Nat) → Runner World Unit
  | 0 => do
    checkCancel
    throw .impatient
  | patience + 1 => do
    checkCancel
    if ← gateOpen hooks step gate then return
    pause hooks (← untilNextPoll polling deadline)
    awaitGate hooks polling step gate deadline patience

/-- Waits for a step's gate, if it has one. -/
def passGate (hooks : Hooks World) (polling : Polling) (step : Step) : Runner World Unit := do
  match step.gate with
  | none => return
  | some gate =>
    let deadline := step.timeoutMs.map ((← get).now + ·)
    awaitGate hooks polling step gate deadline polling.patience

def drawDelay (hooks : Hooks World) (step : Step) : Runner World Nat := do
  match step.delayRange with
  | none => return step.delay 0
  | some _ =>
    let run ← get
    let (random, world) := hooks.random run.world
    set { run with world }
    return step.delay random

def callCommand (hooks : Hooks World) (step : Step) : Runner World Unit :=
  ask (.commandCalled step.commandId) .commandAnswered id (hooks.command step.commandId)

/-- Passes a step's gate and runs its command; what goes wrong there makes it fail. -/
def performStep (hooks : Hooks World) (polling : Polling) (step : Step) (delayMs : Nat) :
    Runner World StepResult := do
  let result : StepResult :=
    { commandId := step.commandId, order := step.order, status := .succeeded, delayMs }
  match ← attempt (passGate hooks polling step) with
  | .error error => return { result with status := .failed, error := some error.message }
  | .ok () =>
    match ← attempt (callCommand hooks step) with
    | .error error => return { result with status := .failed, error := some error.message }
    | .ok () => return result

/-- Runs a step after its delay. -/
def runStep (hooks : Hooks World) (polling : Polling) (step : Step) :
    Runner World StepResult := do
  checkCancel
  note (.step step.commandId)
  let delayMs ← drawDelay hooks step
  if delayMs ≠ 0 then pause hooks delayMs
  performStep hooks polling step delayMs

end Autopilot.Runner
