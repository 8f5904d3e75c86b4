import Autopilot.Record

/-!
Results of runs. Steps and blocks are reported in the order in which they ended,
so a nested block comes before the block around it.
-/

namespace Autopilot

inductive RunStatus where
  | succeeded
  | failed
  | notFound
  deriving DecidableEq, Repr, Inhabited

inductive StepStatus where
  | succeeded
  | failed
  deriving DecidableEq, Repr, Inhabited

inductive BlockStatus where
  | succeeded
  | failed
  | skipped
  deriving DecidableEq, Repr, Inhabited

inductive Branch where
  | thenItems
  | elseItems
  deriving DecidableEq, Repr, Inhabited

structure StepResult where
  commandId : String
  order : Int
  status : StepStatus
  delayMs : Nat
  error : Option String := none
  deriving DecidableEq, Repr, Inhabited

/-- Passes and condition checks are counted in 32 bits. -/
structure BlockResult where
  blockType : String
  iterations : UInt32
  conditionsEvaluated : UInt32
  durationMs : Nat
  status : BlockStatus
  branch : Option Branch := none
  error : Option String := none
  deriving DecidableEq, Repr, Inhabited

structure RunResult where
  sequenceId : String
  status : RunStatus
  startedAt : Instant
  completedAt : Instant
  error : Option String := none
  steps : List StepResult := []
  blocks : List BlockResult := []
  deriving DecidableEq, Repr, Inhabited

def RunStatus.variants : Reads.Variants RunStatus :=
  [(.succeeded, ["Succeeded"]), (.failed, ["Failed"]), (.notFound, ["NotFound"])]

def RunStatus.name : RunStatus → String
  | .succeeded => "Succeeded"
  | .failed => "Failed"
  | .notFound => "NotFound"

def StepStatus.variants : Reads.Variants StepStatus :=
  [(.succeeded, ["Succeeded"]), (.failed, ["Failed"])]

def StepStatus.name : StepStatus → String
  | .succeeded => "Succeeded"
  | .failed => "Failed"

def BlockStatus.variants : Reads.Variants BlockStatus :=
  [(.succeeded, ["Succeeded"]), (.failed, ["Failed"]), (.skipped, ["Skipped"])]

def BlockStatus.name : BlockStatus → String
  | .succeeded => "Succeeded"
  | .failed => "Failed"
  | .skipped => "Skipped"

def Branch.variants : Reads.Variants Branch :=
  [(.thenItems, ["Then"]), (.elseItems, ["Else"])]

def Branch.name : Branch → String
  | .thenItems => "Then"
  | .elseItems => "Else"

namespace StepResult

def isFailed (r : StepResult) : Bool := r.status = .failed

def read : Reads StepResult := fun origin d => do
  let r ← Record.read "struct StepResult" 5 origin d
  (StepResult.mk <$> r.required 0 ["commandId"] .text <*> r.required 1 ["order"] .i32
    <*> r.required 2 ["status"] (.variant StepStatus.variants)
    <*> r.required 3 ["delayMs"] .u64 <*> r.optional 4 ["error"] .text <* r.only).toExcept

def toJson (r : StepResult) : Json :=
  .objectOf [("commandId", some (.str r.commandId)), ("order", some (.ofInt r.order)),
    ("status", some (.str r.status.name)), ("delayMs", some (.ofNat r.delayMs)),
    ("error", r.error.map .str)]

end StepResult

namespace BlockResult

def isFailed (r : BlockResult) : Bool := r.status = .failed

def read : Reads BlockResult := fun origin d => do
  let r ← Record.read "struct BlockResult" 7 origin d
  (BlockResult.mk <$> r.required 0 ["blockType"] .text
    <*> UInt32.ofNat <$> r.required 1 ["iterations"] .u32
    <*> UInt32.ofNat <$> r.required 2 ["conditionsEvaluated"] .u32
    <*> r.required 3 ["durationMs"] .u64
    <*> r.required 4 ["status"] (.variant BlockStatus.variants)
    <*> r.optional 5 ["branch"] (.variant Branch.variants)
    <*> r.optional 6 ["error"] .text <* r.only).toExcept

def toJson (r : BlockResult) : Json :=
  .objectOf [("blockType", some (.str r.blockType)),
    ("iterations", some (.ofNat r.iterations.toNat)),
    ("conditionsEvaluated", some (.ofNat r.conditionsEvaluated.toNat)),
    ("durationMs", some (.ofNat r.durationMs)), ("status", some (.str r.status.name)),
    ("branch", r.branch.map fun branch => .str branch.name), ("error", r.error.map .str)]

end BlockResult

namespace RunResult

/-- The result for a sequence that is not stored. -/
def missing (sequenceId : String) (now : Instant) : RunResult :=
  { sequenceId, status := .notFound, startedAt := now, completedAt := now }

def isSucceeded (r : RunResult) : Bool := r.status = .succeeded

/-- The commands of all steps tried, in order. -/
def commandIds (r : RunResult) : List String := r.steps.map (·.commandId)

def read : Reads RunResult := fun origin d => do
  let r ← Record.read "struct SequenceExecutionResult" 7 origin d
  (RunResult.mk <$> r.required 0 ["sequenceId"] .text
    <*> r.required 1 ["status"] (.variant RunStatus.variants)
    <*> r.required 2 ["startedAt"] .instant <*> r.required 3 ["completedAt"] .instant
    <*> r.optional 4 ["error"] .text <*> r.withDefault 5 ["steps"] [] (.list StepResult.read)
    <*> r.withDefault 6 ["blocks"] [] (.list BlockResult.read) <* r.only).toExcept

/-- The fields that do not depend on when the run took place. -/
def outcomeFields (r : RunResult) : List (String × Option Json) :=
  [("sequenceId", some (.str r.sequenceId)), ("status", some (.str r.status.name)),
    ("error", r.error.map .str), ("steps", some (.arr (r.steps.map StepResult.toJson))),
    ("blocks", some (.arr (r.blocks.map BlockResult.toJson)))]

def toJson (r : RunResult) : Json :=
  .objectOf (r.outcomeFields ++ [("startedAt", some (.str r.startedAt.timestamp)),
    ("completedAt", some (.str r.completedAt.timestamp))])

end RunResult

end Autopilot
