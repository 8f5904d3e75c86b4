import Autopilot.Trigger.Engine

/-!
Operations on the stored triggers: a pass judges all that a filter selects and
stores each outcome; single triggers are judged, enabled and disabled by id. A
pass goes on when an outcome cannot be stored and reports the failures at its end.
-/

namespace Autopilot

/-- Which triggers a pass judges. -/
structure Filter where
  ids : List String := []
  family : Option Trigger.Family := none
  enabledOnly : Bool := false
  deriving DecidableEq, Repr, Inhabited

namespace Filter

def ofIds (ids : List String) : Filter := { ids }

def ofFamily (family : Trigger.Family) : Filter := { family := some family }

/-- No ids are all ids. -/
def selects (filter : Filter) (t : Trigger) : Bool :=
  (filter.ids.isEmpty || filter.ids.contains t.id) &&
    (match filter.family with
      | some family => t.family = family
      | none => true) &&
    (!filter.enabledOnly || t.enabled)

def read : Reads Filter := fun origin d => do
  let r ← Record.read "struct TriggerFilter" 3 origin d
  (Filter.mk <$> r.withDefault 0 ["ids"] [] (.list .text)
    <*> r.optional 1 ["triggerType"] (.variant Trigger.Family.variants)
    <*> r.withDefault 2 ["enabledOnly"] false .bool <* r.only).toExcept

def toJson (filter : Filter) : Json :=
  .objectOf [("ids", if filter.ids.isEmpty then none else some (.arr (filter.ids.map .str))),
    ("triggerType", filter.family.map fun family => .str family.name),
    ("enabledOnly", some (.bool filter.enabledOnly))]

end Filter

/-- What a pass has done so far: how many it judged, which it failed to store, and
the last reason for that. -/
structure Progress where
  evaluated : Nat := 0
  failed : List String := []
  reason : Option StoreError := none

def Progress.outcome (progress : Progress) : Except TriggerError Nat :=
  match progress.reason with
  | some error => .error (.persistFailed progress.evaluated progress.failed error.message)
  | none => .ok progress.evaluated

/-- Takes in whether the outcome of a judged trigger was stored. -/
def Progress.judged (progress : Progress) (id : String) : Except StoreError Unit → Progress
  | .ok () => { progress with evaluated := progress.evaluated + 1 }
  | .error error =>
    { evaluated := progress.evaluated + 1
      failed := progress.failed ++ [id]
      reason := some error }

namespace Engine

/-- Judges triggers one after another, each at its own time, and stores each outcome. -/
def judgeEach (engine : Engine) (progress : Progress) :
    List Trigger → Talk TriggerError Progress
  | [] => return progress
  | t :: rest => do
    if ← Talk.isCancelled then throw .cancelled
    let evaluation ← engine.evaluate t (← Talk.now)
    let stored ← Talk.keep (t.record evaluation)
    engine.judgeEach (progress.judged t.id stored) rest

/-- Judges all stored triggers that the filter selects; gives their number. -/
def evaluateAll (engine : Engine) (filter : Option Filter) : Talk TriggerError Nat := do
  let triggers ← Talk.orFail .store (← Talk.triggers)
  let selected := triggers.filter fun t => filter.all (·.selects t)
  let progress ← engine.judgeEach {} selected
  Talk.orFail id progress.outcome

def findTrigger (id : String) : Talk TriggerError Trigger := do
  match ← Talk.orFail .store (← Talk.trigger id) with
  | some t => return t
  | none => throw (.notFound id)

def keep (t : Trigger) : Talk TriggerError Trigger := do
  Talk.orFail .store (← Talk.keep t)
  return t

/-- Judges the trigger of an id and stores the outcome. -/
def evaluateOne (engine : Engine) (id : String) : Talk TriggerError Trigger := do
  let t ← findTrigger id
  let evaluation ← engine.evaluate t (← Talk.now)
  keep (t.record evaluation)

def enable (id : String) : Talk TriggerError Trigger := do
  keep (← findTrigger id).enable

def disable (id : String) : Talk TriggerError Trigger := do
  keep (← findTrigger id).disable

end Engine

end Autopilot
