import Autopilot.Sequence.Block
import Autopilot.Sequence.Result
import Autopilot.Store

/-!
What a run of a sequence is made of. The collaborators of a run are functions on a
world of any type; a reply says how long the call took and whether the run was
cancelled when it returned. A rest ends when its time is up or when the run is cancelled;
where both have happened before anybody looks, either may count. The run keeps its own
clock, which only replies and rests move on, and a flag that once set stays set. Its journal lists what it
began, what it slept, and what its collaborators answered, each with the time and
with the flag at that moment.
-/

namespace Autopilot

/-- What can go wrong in a run. -/
inductive RunError where
  | store (error : StoreError)
  | condition (error : ConditionError)
  | noEvaluator
  | invalidBlock (fault : BlockFault)
  | invalidStep (fault : Fault)
  | command (id : String) (reason : String)
  | gateTimeout
  | stepFailed (reason : String)
  | nestedFailed (blockType : String)
  | maxIterations (cap : Nat)
  | timeout
  | cancelled
  deriving Repr

namespace RunError

def message : RunError → String
  | .store error => s!"Repository error: {error.message}"
  | .condition error => s!"Condition error: {error.message}"
  | .noEvaluator => "No condition evaluator available"
  | .invalidBlock fault => s!"Invalid block: {fault.message}"
  | .invalidStep fault => s!"Invalid step: {fault.message .json}"
  | .command id reason => s!"Command {id} failed: {reason}"
  | .gateTimeout => "Gating timeout reached"
  | .stepFailed reason => s!"Step failed: {reason}"
  | .nestedFailed blockType => s!"Nested {blockType} block failed"
  | .maxIterations cap => s!"Maximum iterations reached ({cap})"
  | .timeout => "Block timeout reached"
  | .cancelled => "Sequence execution cancelled"

/-- A cancelled measurement cancels the run. -/
def ofCondition : ConditionError → RunError
  | .cancelled => .cancelled
  | error => .condition error

end RunError

/-- Why a run, a block or a step has no value: it failed, or it still waits at a gate
that stayed closed for as long as anybody looked. -/
inductive Halt where
  | failed (error : RunError)
  | impatient
  deriving Repr

namespace Halt

def message : Halt → String
  | .failed error => error.message
  | .impatient => "Gate is still closed"

/-- The error that becomes a result. A run that is cancelled ends at once, and one that
still waits has none. -/
def settled? : Halt → Option RunError
  | .failed .cancelled => none
  | .failed error => some error
  | .impatient => none

end Halt

structure Reply (World α : Type) where
  answer : α
  world : World
  elapsed : Nat := 0
  cancels : Bool := false

/-- The end of a rest: its time is up, or the run was cancelled before. A rest that is `overslept`
counts as slept out, even if the run was cancelled by then. -/
structure Rest (World : Type) where
  world : World
  cancelledAfter : Option Nat := none
  overslept : Bool := false

/-- The collaborators of a run. A step's gate is decided by `gate`, else by
`condition` on the gate itself, else it is open. -/
structure Hooks (World : Type) where
  command : String → World → Reply World (Except RunError Unit)
  gate : Option (Step → World → Reply World (Except RunError Bool)) := none
  condition : Option (Condition → World → Reply World (Except ConditionError Bool)) := none
  rest : Nat → World → Rest World
  random : World → Nat × World

/-- How gates are polled: after how long again, and how often at most. -/
structure Polling where
  intervalMs : Nat := 100
  patience : Nat

inductive Act where
  | step (commandId : String)
  | item
  | head
  | block
  | slept (ms : Nat)
  | gateAsked (commandId : String)
  | gateAnswered (answer : Except RunError Bool)
  | conditionAsked (condition : Condition)
  | conditionAnswered (answer : Except ConditionError Bool)
  | commandCalled (commandId : String)
  | commandAnswered (answer : Except RunError Unit)
  deriving Repr

structure Entry where
  time : Nat
  cancelled : Bool
  act : Act
  deriving Repr

/-- What is counted while a block runs. -/
structure Tally where
  iterations : UInt32 := 0
  conditionsEvaluated : UInt32 := 0
  branch : Option Branch := none
  deriving DecidableEq, Repr

structure Run (World : Type) where
  world : World
  now : Nat := 0
  cancelled : Bool := false
  tally : Tally := {}
  steps : Array StepResult := #[]
  blocks : Array BlockResult := #[]
  journal : Array Entry := #[]

/-- The run with one more act in its journal. -/
def Run.noted {World : Type} (run : Run World) (act : Act) : Run World :=
  { run with journal := run.journal.push ⟨run.now, run.cancelled, act⟩ }

/-- The run after a rest that was slept out. -/
def Run.rested {World : Type} (run : Run World) (ms : Nat) (rest : Rest World) : Run World :=
  { run with
    world := rest.world
    now := run.now + ms
    cancelled := run.cancelled || rest.cancelledAfter.isSome }

/-- A part of a run: it ends well or halts, and leaves the run behind. -/
abbrev Runner (World α : Type) := ExceptT Halt (StateM (Run World)) α

namespace Runner

variable {World α : Type}

def fail (error : RunError) : Runner World α := throw (.failed error)

def checkCancel : Runner World Unit := do
  if (← get).cancelled then fail .cancelled

def note (act : Act) : Runner World Unit := modify (·.noted act)

/-- Changes what is counted for the block that is running. -/
def count (f : Tally → Tally) : Runner World Unit :=
  modify fun run => { run with tally := f run.tally }

/-- Calls a collaborator. -/
def call (ask : World → Reply World α) : Runner World α :=
  fun ⟨world, now, cancelled, tally, steps, blocks, journal⟩ =>
    let reply := ask world
    (.ok reply.answer, ⟨reply.world, now + reply.elapsed, cancelled || reply.cancels, tally,
      steps, blocks, journal⟩)

/-- Calls a collaborator, and notes the call and the answer. -/
def consult (asked : Act) (answered : α → Act) (ask : World → Reply World α) :
    Runner World α := do
  note asked
  let answer ← call ask
  note (answered answer)
  return answer

/-- Asks a collaborator that may fail. -/
def ask {ε : Type} (asked : Act) (answered : Except ε α → Act) (asError : ε → RunError)
    (question : World → Reply World (Except ε α)) : Runner World α := do
  match ← consult asked answered question with
  | .ok value => return value
  | .error error => fail (asError error)

def sleepOut (ms : Nat) (rest : Rest World) : Runner World Unit := do
  modify (·.rested ms rest)
  note (.slept ms)

/-- Rests for some time. A cancellation ends the rest where it happens, or at once if it has
happened already, unless the rest is overslept. -/
def pause (hooks : Hooks World) (ms : Nat) : Runner World Unit := do
  if ms = 0 then checkCancel
  else
    let run ← get
    let rest := hooks.rest ms run.world
    if rest.overslept then sleepOut ms rest
    else
      checkCancel
      match rest.cancelledAfter with
      | some early =>
        set { run with world := rest.world, now := run.now + min early ms, cancelled := true }
        fail .cancelled
      | none => sleepOut ms rest

/-- Turns an error into a value, unless it ends the run. -/
def attempt (part : Runner World α) : Runner World (Except RunError α) := fun run =>
  match part run with
  | (.ok a, run) => (.ok (.ok a), run)
  | (.error halt, run) =>
    match halt.settled? with
    | some error => (.ok (.error error), run)
    | none => (.error halt, run)

/-- Asks for a condition outside any block. -/
def evaluate (evaluator : Condition → World → Reply World (Except ConditionError Bool))
    (condition : Condition) : Runner World Bool :=
  ask (.conditionAsked condition) .conditionAnswered .ofCondition (evaluator condition)

/-- Asks for a condition on behalf of the block that is running, and counts it. -/
def check (hooks : Hooks World) (condition : Condition) : Runner World Bool := do
  match hooks.condition with
  | none => fail .noEvaluator
  | some evaluator =>
    count fun tally => { tally with conditionsEvaluated := tally.conditionsEvaluated + 1 }
    evaluate evaluator condition

/-- An absent condition does not hold. -/
def checkOptional (hooks : Hooks World) : Option Condition → Runner World Bool
  | none => return false
  | some condition => check hooks condition

def setIterations (f : UInt32 → UInt32) : Runner World Unit :=
  count fun tally => { tally with iterations := f tally.iterations }

end Runner

end Autopilot
