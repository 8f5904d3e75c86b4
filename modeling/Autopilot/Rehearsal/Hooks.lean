import Autopilot.Rehearsal.Turn
import Autopilot.Sequence.Execution

/-!
Operations in a rehearsal: the world answers the questions of a dialogue, and it
supplies the collaborators of a run. A step's command is played from the script,
or it is run on a session.
-/

namespace Autopilot

/-- A command that was cancelled cancels the run. -/
def RunError.ofCommand (id : String) : CommandError → RunError
  | .cancelled => .cancelled
  | error => .command id error.message

namespace Rehearsal.World

/-- Lets a cue take its time and its effect. -/
def play (cue : Cue) : StateM World Unit := do
  sleep cue.sleepMs
  if cue.cancels then cancel (← get).token

def measure (condition : Condition) : StateM World (Except ConditionError Measure) := do
  let cue ← drawMeasure condition
  play cue
  return cue.measure

/-- Answers the questions of the one who acts. -/
def answer : (question : Question) → StateM World question.Answer
  | .isCancelled => return (← get).isCancelled (← get).token
  | .now => return (← get).now
  | .triggers => return (← get).triggers.list
  | .trigger id => return (← get).triggers.get id
  | .keep t => putTrigger t
  | .measure condition => measure condition
  | .session id => return (← get).findSession id
  | .command id => return (← get).commands.get id
  | .execute sessionId commandId => forceExecute sessionId commandId

/-- Carries out an operation at once. -/
def perform {ε α : Type} (talk : Talk ε α) : StateM World (Except ε α) :=
  Dialogue.run answer talk

/-- Runs a command on a session if its trigger is satisfied. -/
def executeGated (sessionId commandId : String) : StateM World (Except CommandError Outcome) := do
  let w ← get
  perform (w.engine.executeGated sessionId commandId)

def holds (condition : Condition) : StateM World (Except ConditionError Bool) := do
  return (← measure condition).map condition.satisfiedBy

/-- The script's command in place of a step's. -/
def playCommand (id : String) : StateM World (Except RunError Unit) := do
  note (.command id)
  let w ← get
  let (cue, commandScript) := w.commandScript.next id
  set { w with commandScript }
  play cue
  return cue.command id

def playGate (step : Step) : StateM World (Except RunError Bool) := do
  note (.gate step.commandId)
  let w ← get
  let (cue, gateScript) := w.gateScript.next step.commandId
  set { w with gateScript }
  play cue
  return cue.gate step.commandId

/-- Runs a step's command on a session. -/
def commandOn (sessionId : String) (respectTriggers : Bool) (id : String) :
    StateM World (Except RunError Unit) := do
  let outcome ← if respectTriggers
    then (Except.map (·.accepted)) <$> executeGated sessionId id
    else forceExecute sessionId id
  return (outcome.mapError (.ofCommand id)).map fun _ => ()

/-- A call to a collaborator as a run sees it. -/
def reply {α : Type} (act : StateM World α) (w : World) : Reply World α :=
  let start := w.clock
  let (answer, world) := act w
  { answer, world, elapsed := world.clock - start, cancels := world.isCancelled world.token }

def restFor (ms : Nat) (w : World) : Rest World :=
  let (cancelledAfter, world) := rest ms w
  { world, cancelledAfter }

/-- A number drawn from the world's seed. -/
def draw (w : World) : Nat × World :=
  let seed := (w.seed * 6364136223846793005 + 1442695040888963407) % Nat.pow 2 64
  (seed / Nat.pow 2 16, { w with seed })

/-- Hooks that play everything from the scripts, as far as there are scripts. -/
def scriptedHooks (hasGates hasConditions : Bool) : Hooks World where
  command id := reply (playCommand id)
  gate := if hasGates then some fun step => reply (playGate step) else none
  condition := if hasConditions then some fun condition => reply (holds condition) else none
  rest := restFor
  random := draw

/-- Hooks that run the commands on a session. -/
def sessionHooks (sessionId : String) (respectTriggers hasConditions : Bool) : Hooks World where
  command id := reply (commandOn sessionId respectTriggers id)
  condition := if hasConditions then some fun condition => reply (holds condition) else none
  rest := restFor
  random := draw

/-- How often a gate is asked at most. -/
def patience : Nat := 1000000

/-- Runs the stored sequence of an id; the clock counts from the time of day. -/
def runSequence (id : String) (hooks : Hooks World) (intervalMs : Nat) :
    StateM World (Except Halt RunResult) := fun w =>
  let (outcome, run) := Sequence.executeStored w.sequences id hooks ⟨intervalMs, patience⟩
    w.time { world := w, now := w.clock, cancelled := w.isCancelled w.token }
  (outcome, run.world)

end Rehearsal.World

end Autopilot
