import Autopilot.Sequence.Run

/-!
The control flow of one block, for any way to run the items of its body. A loop
that waits for a condition makes at least one pass and at most as many as its cap,
and rests between passes; a counted loop makes a given number of passes.
-/

namespace Autopilot

/-- How a body ended: at its end, or by its break condition. -/
inductive Flow where
  | completed
  | broken
  deriving DecidableEq, Repr

namespace Runner

variable {World Item : Type}

/-- Runs a body; after each item the break condition is asked, then the continue
condition, which leaves out the items that follow. -/
def runBody (hooks : Hooks World) (breakOn continueOn : Option Condition)
    (runItem : Item → Runner World Unit) : List Item → Runner World Flow
  | [] => return .completed
  | item :: rest => do
    runItem item
    if ← checkOptional hooks breakOn then return .broken
    if ← checkOptional hooks continueOn then return .completed
    runBody hooks breakOn continueOn runItem rest

end Runner

namespace Block

open Runner

variable {World Item : Type}

/-- One pass through the body of a loop. -/
def Loop.pass (hooks : Hooks World) (loop : Loop Item) (runItem : Item → Runner World Unit) :
    Runner World Flow :=
  runBody hooks loop.breakOn loop.continueOn runItem loop.items

/-- The head of a loop that goes on while a condition holds. Tells whether a pass
follows; only then the pass is counted. -/
def Loop.enterWhile (hooks : Hooks World) (loop : Loop Item) (condition : Condition) :
    Runner World Bool := do
  if ← checkOptional hooks loop.breakOn then return false
  if ← check hooks condition then
    setIterations (· + 1)
    return true
  return false

/-- The head of a loop that goes on until a condition holds. The pass is counted
first, and taken back when the loop ends here. -/
def Loop.enterUntil (hooks : Hooks World) (loop : Loop Item) (condition : Condition) :
    Runner World Bool := do
  setIterations (· + 1)
  if ← checkOptional hooks loop.breakOn then
    setIterations (· - 1)
    return false
  if ← check hooks condition then
    setIterations (· - 1)
    return false
  return true

/-- Whether a loop's time is up. -/
def Loop.timedOut (loop : Loop Item) (started now : Nat) : Bool :=
  match loop.timeoutMs with
  | some ms => ms ≤ now - started
  | none => false

/-- The head of a loop and the pass that may follow it. Tells whether the loop goes
on. -/
def Loop.turn (hooks : Hooks World) (loop : Loop Item) (runItem : Item → Runner World Unit)
    (enter : Runner World Bool) : Runner World Bool := do
  checkCancel
  note .head
  if ← enter then return (← loop.pass hooks runItem) = .completed
  return false

/-- Passes of a loop that waits for a condition; `more` passes may follow the next.
The cap is looked at before the time. -/
def Loop.passes (hooks : Hooks World) (loop : Loop Item) (runItem : Item → Runner World Unit)
    (enter : Runner World Bool) (started : Nat) : (more : Nat) → Runner World Unit
  | 0 => do
    if ← loop.turn hooks runItem enter then fail (.maxIterations loop.cap)
  | more + 1 => do
    if ← loop.turn hooks runItem enter then
      if loop.timedOut started (← get).now then fail .timeout
      pause hooks loop.cadenceMs
      Loop.passes hooks loop runItem enter started more

/-- The given number of passes, with a rest before each but the first. -/
def Loop.counted (hooks : Hooks World) (loop : Loop Item) (runItem : Item → Runner World Unit)
    (first : Bool) : (passes : Nat) → Runner World Unit
  | 0 => return
  | passes + 1 => do
    checkCancel
    note .head
    if !first then pause hooks loop.cadenceMs
    if ← checkOptional hooks loop.breakOn then return
    setIterations (· + 1)
    if (← loop.pass hooks runItem) = .broken then return
    Loop.counted hooks loop runItem false passes

def enterBranch (branch : Branch) : Runner World Unit :=
  count fun tally => { tally with branch := some branch, iterations := 1 }

/-- Runs a block with a given way to run its items. -/
def run (hooks : Hooks World) (runItem : Item → Runner World Unit) :
    Block Item → Runner World BlockStatus
  | .ifElse condition thenItems elseItems => do
    if ← check hooks condition then
      enterBranch .thenItems
      let _ ← runBody hooks none none runItem thenItems
    else
      enterBranch .elseItems
      let _ ← runBody hooks none none runItem elseItems
    return .succeeded
  | .whileHolds condition loop => do
    let started := (← get).now
    loop.passes hooks runItem (loop.enterWhile hooks condition) started (loop.cap - 1)
    return .succeeded
  | .untilHolds condition loop => do
    let started := (← get).now
    loop.passes hooks runItem (loop.enterUntil hooks condition) started (loop.cap - 1)
    return .succeeded
  | .times _ loop => do
    match loop.maxIterations with
    | none => return .skipped
    | some n =>
      if n ≤ 0 then return .skipped
      loop.counted hooks runItem true n.toNat
      return .succeeded

end Block

end Autopilot
