import Autopilot.Condition

/-!
Steps of sequences: which command to run, after which delay, and behind which gate.
-/

namespace Autopilot

/-- Two bounds of a random delay, in either order, both included. -/
structure DelayRange where
  minMs : Nat
  maxMs : Nat
  deriving DecidableEq, Repr, Inhabited

structure Step where
  commandId : String
  order : Int := 0
  delayMs : Option Nat := none
  delayRange : Option DelayRange := none
  gate : Option Condition := none
  timeoutMs : Option Nat := none
  deriving BEq, Repr, Inhabited

namespace DelayRange

def low (range : DelayRange) : Nat := min range.minMs range.maxMs

def high (range : DelayRange) : Nat := max range.minMs range.maxMs

/-- The delay that a random number picks. -/
def pick (range : DelayRange) (random : Nat) : Nat :=
  range.low + random % (range.high - range.low + 1)

def read : Reads DelayRange := fun origin d => do
  let r ← Record.read "struct DelayRange" 2 origin d
  (DelayRange.mk <$> r.required 0 ["minMs"] .u64 <*> r.required 1 ["maxMs"] .u64
    <* r.only).toExcept

def toJson (range : DelayRange) : Json :=
  .object [("minMs", .ofNat range.minMs), ("maxMs", .ofNat range.maxMs)]

end DelayRange

namespace Step

def withDelay (step : Step) (delayMs : Nat) : Step := { step with delayMs := some delayMs }

def withGate (step : Step) (gate : Condition) (timeoutMs : Option Nat) : Step :=
  { step with gate := some gate, timeoutMs }

/-- The delay before a step; a range goes before a fixed delay. -/
def delay (step : Step) (random : Nat) : Nat :=
  match step.delayRange, step.delayMs with
  | some range, _ => range.pick random
  | none, some ms => ms
  | none, none => 0

def read : Reads Step := fun origin d => do
  let r ← Record.read "struct SequenceStep" 6 origin d
  (Step.mk <$> r.required 0 ["commandId"] .text <*> r.withDefault 1 ["order"] 0 .i32
    <*> r.optional 2 ["delayMs"] .u64 <*> r.optional 3 ["delayRange"] DelayRange.read
    <*> r.optional 4 ["gate"] Condition.read <*> r.optional 5 ["timeoutMs"] .u64
    <* r.only).toExcept

def toJson (step : Step) : Json :=
  .objectOf [("commandId", some (.str step.commandId)), ("order", some (.ofInt step.order)),
    ("delayMs", step.delayMs.map .ofNat),
    ("delayRange", step.delayRange.map DelayRange.toJson),
    ("gate", step.gate.map Condition.toJson), ("timeoutMs", step.timeoutMs.map .ofNat)]

end Step

end Autopilot
