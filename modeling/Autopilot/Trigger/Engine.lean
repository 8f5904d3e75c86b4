import Autopilot.Dialogue

/-!
Judging triggers. A disabled trigger and one that is cooling down are judged
without looking further; else the first handler for the trigger's family decides.
Judging never changes a trigger: a baseline that it had to establish is handed
back with the verdict, and `Trigger.record` folds both in.
-/

namespace Autopilot

namespace Trigger

/-- Why a verdict is what it is. -/
inductive Reason where
  | triggerDisabled
  | cooldownActive
  | noEvaluator
  | delayPendingInitial
  | waitingDelay
  | delayElapsed
  | scheduledInPast
  | waitingForTime
  | timeReached
  | matchFound
  | matchNotFound
  | conditionError
  deriving DecidableEq, Repr

def Reason.text : Reason → String
  | .triggerDisabled => "trigger_disabled"
  | .cooldownActive => "cooldown_active"
  | .noEvaluator => "No evaluator for trigger type"
  | .delayPendingInitial => "delay_pending_initial"
  | .waitingDelay => "waiting_delay"
  | .delayElapsed => "delay_elapsed"
  | .scheduledInPast => "scheduled_time_in_past_when_enabled"
  | .waitingForTime => "waiting_for_time"
  | .timeReached => "time_reached"
  | .matchFound => "match_found"
  | .matchNotFound => "match_not_found"
  | .conditionError => "condition_error"

def Reason.status : Reason → Status
  | .triggerDisabled | .noEvaluator | .scheduledInPast => .disabled
  | .cooldownActive => .cooldown
  | .delayPendingInitial | .waitingDelay | .waitingForTime | .matchNotFound
  | .conditionError => .pending
  | .delayElapsed | .timeReached | .matchFound => .satisfied

def Reason.verdict (reason : Reason) (now : Instant) : Verdict :=
  { status := reason.status, reason := reason.text, evaluatedAt := now }

/-- A verdict and the baseline that was established for it. -/
structure Evaluation where
  verdict : Verdict
  baseline : Option Instant := none
  deriving BEq, Repr, Inhabited

def Evaluation.status (e : Evaluation) : Status := e.verdict.status

/-- Takes in a verdict. A baseline, once set, is never moved. -/
def record (t : Trigger) (e : Evaluation) : Trigger :=
  { t with
    enabledAt := t.enabledAt.or e.baseline
    lastEvaluatedAt := some e.verdict.evaluatedAt
    lastFiredAt := if e.verdict.isSatisfied then some e.verdict.evaluatedAt else t.lastFiredAt
    lastVerdict := some e.verdict }

/-- Spans are limited to as many milliseconds as a signed word holds. -/
def maxSpanSeconds : Nat := 9223372036854775

/-- Whether a number of nanoseconds is at least a number of seconds. -/
def spans (nanos : Int) (seconds : Nat) : Bool :=
  seconds ≤ maxSpanSeconds && (seconds : Int) * 1000000000 ≤ nanos

def isCooling (t : Trigger) (now : Instant) : Bool :=
  match t.lastFiredAt with
  | none => false
  | some fired => 0 < t.cooldownSeconds && !spans (now.since fired) t.cooldownSeconds

/-- The baseline of a trigger, and whether it is established only now. -/
def baseline (t : Trigger) (now : Instant) : Instant × Option Instant :=
  match t.enabledAt with
  | some time => (time, none)
  | none => (now, some now)

def judgeDelay (t : Trigger) (seconds : Nat) (now : Instant) : Evaluation :=
  let (start, established) := t.baseline now
  let reason : Reason :=
    if spans (now.since start) seconds then .delayElapsed
    else if established.isSome then .delayPendingInitial
    else .waitingDelay
  ⟨reason.verdict now, established⟩

/-- A time that lay behind when the trigger was enabled never comes. -/
def judgeSchedule (t : Trigger) (time now : Instant) : Evaluation :=
  let (start, established) := t.baseline now
  let reason : Reason :=
    if time.lt start then .scheduledInPast
    else if time.le now then .timeReached
    else .waitingForTime
  ⟨reason.verdict now, established⟩

/-- The verdict on a measurement; one that failed leaves the trigger pending. -/
def judgeMeasure (condition : Condition) (now : Instant) :
    Except ConditionError Measure → Except TriggerError Evaluation
  | .ok m =>
    let reason : Reason := if condition.satisfiedBy m then .matchFound else .matchNotFound
    .ok ⟨{ reason.verdict now with confidence := m.confidence }, none⟩
  | .error .cancelled => .error .cancelled
  | .error _ => .ok ⟨Reason.conditionError.verdict now, none⟩

end Trigger

/-- What can judge a family of triggers. -/
inductive Handler where
  | delay
  | schedule
  | screen
  deriving DecidableEq, Repr

def Handler.accepts : Handler → Trigger.Family → Bool
  | .delay, family => family = .delay
  | .schedule, family => family = .schedule
  | .screen, family => family = .imageMatch || family = .textMatch

/-- Handlers in the order in which they are asked. -/
structure Engine where
  handlers : List Handler
  deriving DecidableEq, Repr

namespace Engine

open Trigger

/-- The built-in handlers; that for the screen needs an evaluator. -/
def standard (hasEvaluator : Bool) : Engine :=
  ⟨[.delay, .schedule] ++ if hasEvaluator then [.screen] else []⟩

def register (engine : Engine) (handler : Handler) : Engine :=
  ⟨engine.handlers ++ [handler]⟩

def canJudge (engine : Engine) (t : Trigger) : Bool :=
  engine.handlers.any fun handler => handler.accepts t.family

/-- The verdict of the trigger's handler. -/
def judge (t : Trigger) (now : Instant) : Talk TriggerError Evaluation := do
  match t.kind with
  | .delay seconds => return t.judgeDelay seconds now
  | .schedule time => return t.judgeSchedule time now
  | .imageMatch target =>
    let condition := target.condition .image
    Talk.orFail id (judgeMeasure condition now (← Talk.measure condition))
  | .textMatch target =>
    let condition := target.condition .text
    Talk.orFail id (judgeMeasure condition now (← Talk.measure condition))

def evaluate (engine : Engine) (t : Trigger) (now : Instant) : Talk TriggerError Evaluation := do
  if ← Talk.isCancelled then throw .cancelled
  if !t.enabled then return ⟨Reason.triggerDisabled.verdict now, none⟩
  if t.isCooling now then return ⟨Reason.cooldownActive.verdict now, none⟩
  if engine.canJudge t then judge t now
  else return ⟨Reason.noEvaluator.verdict now, none⟩

end Engine

end Autopilot
