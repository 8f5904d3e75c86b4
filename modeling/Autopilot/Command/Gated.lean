import Autopilot.Trigger.Coordinator

/-!
Running a command only when its trigger is satisfied. That the trigger fired is
stored before the command runs; otherwise at most a baseline is stored. A command
without a trigger always runs.
-/

namespace Autopilot

/-- The outcome of a run behind a trigger. -/
structure Outcome where
  accepted : Nat
  triggerStatus : Option Trigger.Status := none
  reason : String
  deriving DecidableEq, Repr, Inhabited

namespace Outcome

/-- The reason of a run without a trigger. -/
def noTrigger : String := "no_trigger"

def executed (o : Outcome) : Bool :=
  match o.triggerStatus with
  | none => true
  | some status => status = .satisfied

def read : Reads Outcome := fun origin d => do
  let r ← Record.read "struct CommandExecutionOutcome" 3 origin d
  (Outcome.mk <$> r.required 0 ["accepted"] .count
    <*> r.optional 1 ["triggerStatus"] (.variant Trigger.Status.variants)
    <*> r.required 2 ["reason"] .text <* r.only).toExcept

def toJson (o : Outcome) : Json :=
  .objectOf [("accepted", some (.ofNat o.accepted)),
    ("triggerStatus", o.triggerStatus.map fun status => .str status.name),
    ("reason", some (.str o.reason))]

end Outcome

namespace Engine

def requireRunning (sessionId : String) : Talk CommandError Unit := do
  match ← Talk.session sessionId with
  | none => throw (.notFound .session sessionId)
  | some session =>
    if !session.isRunning then throw (.invalidState session.id session.state)

def findCommand (id : String) : Talk CommandError Command := do
  match ← Talk.orFail .store (← Talk.command id) with
  | some command => return command
  | none => throw (.notFound .command id)

/-- The trigger that a command refers to. -/
def triggerOf (id : String) : Talk CommandError Trigger := do
  match ← Talk.orFail .store (← Talk.trigger id) with
  | some t => return t
  | none => throw (.notFound .trigger id)

/-- The engine's verdict, as the run of a command sees it. -/
def judged (engine : Engine) (t : Trigger) (now : Instant) :
    Talk CommandError Trigger.Evaluation :=
  ExceptT.adapt CommandError.ofTrigger (engine.evaluate t now)

/-- Stores the baseline of a trigger that is not satisfied, if there is a new one. -/
def keepBaseline (t : Trigger) (e : Trigger.Evaluation) : Talk CommandError Unit := do
  match e.baseline with
  | none => return
  | some time => Talk.orFail .store (← Talk.keep { t with enabledAt := some time })

/-- Runs a command if the trigger of an id is satisfied. -/
def executeBehind (engine : Engine) (sessionId commandId triggerId : String) :
    Talk CommandError Outcome := do
  let t ← triggerOf triggerId
  let evaluation ← engine.judged t (← Talk.now)
  let reason := evaluation.verdict.reason
  if evaluation.status = .satisfied then
    Talk.orFail .store (← Talk.keep (t.record evaluation))
    let accepted ← Talk.orFail id (← Talk.execute sessionId commandId)
    return { accepted, triggerStatus := some evaluation.status, reason }
  else
    keepBaseline t evaluation
    return { accepted := 0, triggerStatus := some evaluation.status, reason }

/-- Runs a command if its trigger, should it have one, is satisfied. -/
def executeGated (engine : Engine) (sessionId commandId : String) :
    Talk CommandError Outcome := do
  requireRunning sessionId
  let command ← findCommand commandId
  match command.triggerId with
  | none =>
    let accepted ← Talk.orFail id (← Talk.execute sessionId commandId)
    return { accepted, reason := Outcome.noTrigger }
  | some triggerId => engine.executeBehind sessionId commandId triggerId

end Engine

end Autopilot
