import Autopilot.Sequence.Step

/-!
Control blocks: a branch and three kinds of loop. The items of a block's body are
nested blocks when they carry a type, and plain steps otherwise; a block is read
without reading its items, so a malformed item fails only when it is reached.
-/

namespace Autopilot

namespace Block

/-- Loops that wait for a condition rest between passes for at least this long. -/
def minCadenceMs : Nat := 50

def maxCadenceMs : Nat := 5000

def defaultCadenceMs : Nat := 250

/-- The number of passes of a loop that waits for a condition and sets no limit. -/
def defaultCap : Nat := 10000

inductive Kind where
  | ifElse
  | whileHolds
  | untilHolds
  | times
  deriving DecidableEq, Repr, Inhabited

/-- The name of a kind of block in records. -/
def Kind.name : Kind → String
  | .ifElse => "ifElse"
  | .whileHolds => "while"
  | .untilHolds => "repeatUntil"
  | .times => "repeatCount"

def Kind.variants : Reads.Variants Kind :=
  [(.ifElse, [Kind.ifElse.name]), (.whileHolds, [Kind.whileHolds.name]),
    (.untilHolds, [Kind.untilHolds.name]), (.times, [Kind.times.name])]

/-- What all loops have in common. -/
structure Loop (Item : Type) where
  breakOn : Option Condition
  continueOn : Option Condition
  cadenceMs : Nat
  timeoutMs : Option Nat
  maxIterations : Option Int
  items : List Item

/-- The most passes of a loop that waits for a condition. -/
def Loop.cap {Item : Type} (loop : Loop Item) : Nat :=
  match loop.maxIterations with
  | some n => if 0 < n then min n.toNat 4294967295 else defaultCap
  | none => defaultCap

end Block

inductive Block (Item : Type) where
  | ifElse (condition : Condition) (thenItems elseItems : List Item)
  | whileHolds (condition : Condition) (loop : Block.Loop Item)
  | untilHolds (condition : Condition) (loop : Block.Loop Item)
  | times (condition : Option Condition) (loop : Block.Loop Item)

/-- Why a block record is not a block. -/
inductive BlockFault where
  | record (fault : Fault)
  | condition (kind : Block.Kind) (field : String) (error : ConditionError)
  | noCondition (kind : Block.Kind)
  deriving Repr

def BlockFault.message : BlockFault → String
  | .record fault => fault.message .json
  | .condition kind field error => s!"{kind.name}.{field}: {error.message}"
  | .noCondition kind => s!"{kind.name} block requires a condition"

namespace Block

def kind {Item : Type} : Block Item → Kind
  | .ifElse .. => .ifElse
  | .whileHolds .. => .whileHolds
  | .untilHolds .. => .untilHolds
  | .times .. => .times

def items {Item : Type} : Block Item → List Item
  | .ifElse _ thenItems elseItems => thenItems ++ elseItems
  | .whileHolds _ loop => loop.items
  | .untilHolds _ loop => loop.items
  | .times _ loop => loop.items

/-- The fields of a block as they are written; those of all kinds together. -/
structure Wire where
  kind : Kind
  condition : Option Datum
  breakOn : Option Datum
  continueOn : Option Datum
  cadenceMs : Option Nat
  timeoutMs : Option Nat
  maxIterations : Option Int
  steps : List Datum
  elseSteps : List Datum

/-- Leaves a value as it is. -/
def whole : Reads Datum := fun _ d => .ok d

def Wire.read : Reads Wire := fun origin d => do
  let r ← Record.read "struct BlockRecord" 9 origin d
  (Wire.mk <$> r.required 0 ["type"] (.variant Kind.variants)
    <*> r.optional 1 ["condition"] whole <*> r.optional 2 ["breakOn"] whole
    <*> r.optional 3 ["continueOn"] whole <*> r.optional 4 ["cadenceMs"] .u64
    <*> r.optional 5 ["timeoutMs"] .u64 <*> r.optional 6 ["maxIterations"] .i64
    <*> r.withDefault 7 ["steps"] [] (.list whole)
    <*> r.withDefault 8 ["elseSteps"] [] (.list whole) <* r.only).toExcept

/-- A condition of a block, if the block has it. -/
def readCondition (kind : Kind) (field : String) :
    Option Datum → Except BlockFault (Option Condition)
  | none => return none
  | some d => ((Condition.ofDatum d).map some).mapError (.condition kind field)

def demand (kind : Kind) : Option Condition → Except BlockFault Condition
  | some condition => return condition
  | none => throw (.noCondition kind)

def Wire.loop (wire : Wire) (breakOn continueOn : Option Condition) (cadenceMs : Nat) :
    Loop Datum :=
  { breakOn, continueOn, cadenceMs, timeoutMs := wire.timeoutMs,
    maxIterations := wire.maxIterations, items := wire.steps }

/-- The rest between passes of a loop that waits for a condition. -/
def Wire.clampedCadence (wire : Wire) : Nat :=
  max minCadenceMs (min maxCadenceMs (wire.cadenceMs.getD defaultCadenceMs))

/-- The block that a record describes. -/
def read (d : Datum) : Except BlockFault (Block Datum) := do
  let wire ← (Wire.read .json d).mapError .record
  let condition ← readCondition wire.kind "condition" wire.condition
  let breakOn ← readCondition wire.kind "breakOn" wire.breakOn
  let continueOn ← readCondition wire.kind "continueOn" wire.continueOn
  match wire.kind with
  | .ifElse => return .ifElse (← demand wire.kind condition) wire.steps wire.elseSteps
  | .whileHolds =>
    return .whileHolds (← demand wire.kind condition)
      (wire.loop breakOn continueOn wire.clampedCadence)
  | .untilHolds =>
    return .untilHolds (← demand wire.kind condition)
      (wire.loop breakOn continueOn wire.clampedCadence)
  | .times =>
    return .times condition (wire.loop breakOn continueOn (wire.cadenceMs.getD 0))

/-- The type field of a record, if the record has named fields and this one. -/
def typeField? : Datum → Option Datum
  | .table rows => (rows.find? fun row => row.1.isText "type").map (·.2)
  | _ => none

/-- The name under which a block is reported. -/
def typeName (d : Datum) : String :=
  match typeField? d with
  | some (.text name) => name
  | _ => "unknown"

end Block

/-- An entry of a block's body. -/
inductive Item where
  | step (step : Step)
  | block

/-- Tells steps from nested blocks by the presence of a type. -/
def Item.read (d : Datum) : Except Fault Item :=
  match Block.typeField? d with
  | some _ => .ok .block
  | none => (Step.read .json d).map .step

end Autopilot
