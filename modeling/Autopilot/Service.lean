import Autopilot.Config
import Autopilot.Rehearsal.Hooks
import Autopilot.Rehearsal.Polling

/-!
The service that a configuration describes. It has no devices of its own: the
configured sessions accept all inputs, and no condition can be measured. So every run
is a rehearsal.
-/

namespace Autopilot

namespace Rehearsal

/-- No condition can be measured. -/
def Script.blind : Script :=
  { otherwise := fun target =>
      { error := some ("Unavailable", s!"no condition evaluator for target {target}") } }

/-- The world of a configuration at a time of day. -/
def World.ofConfig (config : Config) (time : Instant) : World :=
  { time
    triggers := .ofList config.triggers
    actions := .ofList config.actions
    commands := .ofList config.commands
    sequences := .ofList config.sequences
    devices := config.sessions.map fun id => (id, { state := .running })
    conditions := .blind
    engine := .standard true
    settings := config.poller }

end Rehearsal

namespace Service

open Rehearsal

/-- A run that ended without a result. -/
structure Interruption where
  sequenceId : String
  sessionId : String
  cause : Halt

def Interruption.context (i : Interruption) : String :=
  s!"running sequence {i.sequenceId} on {i.sessionId}"

def Interruption.message (i : Interruption) : String := s!"{i.context}: {i.cause.message}"

/-- Runs a sequence on a session. -/
def runSequence (sessionId sequenceId : String) (respectTriggers : Bool) :
    StateM World (Except Interruption RunResult) := do
  let hooks := World.sessionHooks sessionId respectTriggers true
  let outcome ← World.runSequence sequenceId hooks 100
  return outcome.mapError fun cause => ⟨sequenceId, sessionId, cause⟩

/-- Starts the poller unless it is disabled; tells whether it did. -/
def start : StateM World Bool := do
  if (← get).settings.enabled then
    World.startLoop
    return true
  else return false

/-- What the poller has counted, if there is one. -/
def metrics : StateM World (Option Metrics) := do
  if (← get).settings.enabled then return some (← World.usePoller).1.metrics else return none

end Service

end Autopilot
