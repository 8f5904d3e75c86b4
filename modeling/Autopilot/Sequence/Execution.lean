import Autopilot.Sequence
import Autopilot.Sequence.Gate
import Autopilot.Sequence.Loop
import Autopilot.Sequence.Block.Nesting

/-!
Running sequences. The steps come first, in order, up to the first that fails; if
none fails, all blocks follow. Blocks nest, and every block that ends reports
itself. A run ends with a result, or it is cancelled.
-/

namespace Autopilot

namespace Runner

variable {World : Type}

def report (result : StepResult) : Runner World Unit :=
  modify fun run => { run with steps := run.steps.push result }

/-- Reports a step of a body; if it failed, so does the body. -/
def settleStep (result : StepResult) : Runner World Unit := do
  report result
  if result.isFailed then fail (.stepFailed (result.error.getD ""))

/-- A body fails with a block in it. -/
def settleBlock (item : Datum) (status : BlockStatus) : Runner World Unit := do
  if status = .failed then fail (.nestedFailed (Block.typeName item))

/-- Runs an item of a body; `asBlock` runs it as a nested block. -/
def runItem (hooks : Hooks World) (polling : Polling)
    (asBlock : Runner World BlockStatus) (item : Datum) : Runner World Unit := do
  checkCancel
  note .item
  match Item.read item with
  | .error fault => fail (.invalidStep fault)
  | .ok (.step step) => settleStep (← runStep hooks polling step)
  | .ok .block => settleBlock item (← asBlock)

/-- The report of a block that has just ended. -/
def blockResult (record : Datum) (started : Nat) (run : Run World)
    (outcome : Except RunError BlockStatus) : BlockResult :=
  { blockType := Block.typeName record
    iterations := run.tally.iterations
    conditionsEvaluated := run.tally.conditionsEvaluated
    durationMs := run.now - started
    status := match outcome with
      | .ok status => status
      | .error _ => .failed
    branch := run.tally.branch
    error := match outcome with
      | .ok _ => none
      | .error error => some error.message }

/-- Runs the content of a block with counters of its own, and reports it. -/
def reporting (record : Datum) (content : Runner World BlockStatus) :
    Runner World BlockStatus := do
  let started := (← get).now
  let tally := (← get).tally
  modify fun run => { run with tally := {} }
  let outcome ← attempt content
  let result := blockResult record started (← get) outcome
  modify fun run => { run with tally, blocks := run.blocks.push result }
  return result.status

/-- Runs a block record and everything nested in it. -/
def runBlock (hooks : Hooks World) (polling : Polling) (record : Datum) :
    Runner World BlockStatus :=
  reporting record <|
    match read : Block.read record with
    | .error fault => fail (.invalidBlock fault)
    | .ok block => block.attach.run hooks fun (item : { item // item ∈ block.items }) =>
      have := Block.sizeOf_lt_of_mem_items read item.2
      runItem hooks polling (runBlock hooks polling item.1) item.1
termination_by sizeOf record

/-- Runs the steps up to the first that fails, and tells its error. -/
def runSteps (hooks : Hooks World) (polling : Polling) :
    List Step → Runner World (Option (Option String))
  | [] => return none
  | step :: rest => do
    let result ← runStep hooks polling step
    report result
    if result.isFailed then return some result.error
    runSteps hooks polling rest

/-- Runs all blocks, and tells the error of the first that fails. -/
def runBlocks (hooks : Hooks World) (polling : Polling) :
    List Datum → Runner World (Option (Option String))
  | [] => return none
  | record :: rest => do
    checkCancel
    note .block
    let status ← runBlock hooks polling record
    let error := (← get).blocks.back?.bind (·.error)
    let later ← runBlocks hooks polling rest
    return if status = .failed then some error else later

/-- Runs the steps and, unless one fails, the blocks. Tells whether something failed
and with which error. -/
def runParts (hooks : Hooks World) (polling : Polling) (sequence : Sequence) :
    Runner World (Option (Option String)) := do
  match ← runSteps hooks polling sequence.orderedSteps with
  | some error => return some error
  | none => runBlocks hooks polling (sequence.blocks.map Datum.ofJson)

end Runner

namespace Sequence

variable {World : Type}

/-- The result of a run that ended, with `epoch` at the zero of its clock. -/
def resultOf (sequence : Sequence) (epoch : Instant) (startMs : Nat) (run : Run World)
    (failure : Option (Option String)) : RunResult :=
  { sequenceId := sequence.id
    status := if failure.isSome then .failed else .succeeded
    startedAt := epoch.addMillis startMs
    completedAt := epoch.addMillis run.now
    error := failure.join
    steps := run.steps.toList
    blocks := run.blocks.toList }

/-- Runs a sequence from a fresh run. -/
def execute (sequence : Sequence) (hooks : Hooks World) (polling : Polling) (epoch : Instant)
    (start : Run World) : Except Halt RunResult × Run World :=
  match Runner.runParts hooks polling sequence start with
  | (.ok failure, run) => (.ok (sequence.resultOf epoch start.now run failure), run)
  | (.error halt, run) => (.error halt, run)

/-- Runs the stored sequence of an id. -/
def executeStored (sequences : Store Sequence) (id : String) (hooks : Hooks World)
    (polling : Polling) (epoch : Instant) (start : Run World) :
    Except Halt RunResult × Run World :=
  match sequences.get id with
  | .error error => (.error (.failed (.store error)), start)
  | .ok none => (.ok (.missing id (epoch.addMillis start.now)), start)
  | .ok (some sequence) => sequence.execute hooks polling epoch start

end Sequence

end Autopilot
