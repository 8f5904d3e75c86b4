import Autopilot.Command.Execution
import Autopilot.Command.Gated
import Autopilot.Rehearsal.Script
import Autopilot.Sequence
import Autopilot.Trigger.Poller

/-!
A world to rehearse in: stores, scripted devices and evaluators, and a clock of its
own that stands still unless somebody waits. While the one who acts waits, tasks in
the background take their turns in order of their wake-up times: passes over the
triggers, polling loops, and cancellations set for a time.
-/

namespace Autopilot.Rehearsal

/-- How a device refuses inputs. -/
inductive Mishap where
  | notFound
  | notRunning
  | dispatch (reason : String)
  deriving DecidableEq, Repr

/-- A scripted session: how many inputs of a batch it takes at most, how it fails, and
whether each batch cancels the request. -/
structure Device where
  state : SessionState
  accepts : Option Nat := none
  mishap : Option Mishap := none
  cancels : Bool := false
  deriving DecidableEq, Repr

/-- The calls that a rehearsal logs. -/
inductive Call where
  | measure (condition : Condition)
  | command (id : String)
  | gate (commandId : String)
  | send (sessionId : String) (inputs : List Input)
  deriving Repr

structure LogEntry where
  time : Nat
  call : Call
  deriving Repr

abbrev Pass := Dialogue (Except TriggerError Nat)

/-- What a task does when its time has come. -/
inductive Work where
  | pass (rest : Pass)
  | measured (cue : Cue) (rest : Except ConditionError Measure → Pass)
  | poll (begun : Bool) (delay : Duration)
  | cancel

structure Task where
  id : Nat
  wakeAt : Nat
  token : Nat
  work : Work

/-- All that a rehearsal knows. `time` is the time of day, at the zero of the clock if it
`flows` with the clock, and else as long as nobody sets it. A token stands for a request
that can be cancelled; `token` is the current one. `started` and `loops` are the tasks
that somebody may wait for. -/
structure World where
  clock : Nat := 0
  time : Instant := ⟨0, 0⟩
  flows : Bool := false
  triggers : Store Trigger := .ofList []
  actions : Store Action := .ofList []
  commands : Store Command := .ofList []
  sequences : Store Sequence := .ofList []
  devices : List (String × Device) := []
  conditions : Script := {}
  commandScript : Script := {}
  gateScript : Script := {}
  engine : Engine := .standard false
  settings : PollerSettings := {}
  poller : Option (Poller × Instant) := none
  token : Nat := 0
  cancelled : List Nat := []
  tasks : List Task := []
  nextTask : Nat := 0
  started : List Nat := []
  loops : List Nat := []
  log : Array LogEntry := #[]
  dispatched : Nat := 0
  seed : Nat := 0

namespace World

def note (call : Call) : StateM World Unit :=
  modify fun w => { w with log := w.log.push ⟨w.clock, call⟩ }

/-- The time of day. -/
def now (w : World) : Instant := if w.flows then w.time.addMillis w.clock else w.time

def isCancelled (w : World) (token : Nat) : Bool := w.cancelled.contains token

/-- Wakes a polling loop that waits; one that has not begun begins first. -/
def Task.rouse (clock token : Nat) (task : Task) : Task :=
  match task.work with
  | .poll true _ => if task.token = token then { task with wakeAt := min task.wakeAt clock } else task
  | _ => task

def cancel (token : Nat) : StateM World Unit :=
  modify fun w => { w with
    cancelled := if w.isCancelled token then w.cancelled else token :: w.cancelled
    tasks := w.tasks.map (Task.rouse w.clock token) }

/-- A new token in place of the current one. -/
def renewToken : StateM World Unit := modify fun w => { w with token := w.token + 1 }

def schedule (id wakeAt token : Nat) (work : Work) : StateM World Unit :=
  modify fun w => { w with tasks := w.tasks ++ [⟨id, wakeAt, token, work⟩] }

/-- Starts a task that gets its first turn when somebody waits. -/
def spawn (token : Nat) (work : Work) : StateM World Nat := do
  let w ← get
  set { w with nextTask := w.nextTask + 1 }
  schedule w.nextTask w.clock token work
  return w.nextTask

/-- The poller and the time at which it judges. The poller comes into being when it is
first used, and if the time of day does not flow it keeps to the time of that moment. -/
def usePoller : StateM World (Poller × Instant) := do
  let w ← get
  match w.poller with
  | some (p, time) => return (p, if w.flows then w.now else time)
  | none =>
    let p := (Poller.ofConfig w.settings.toConfig, w.now)
    set { w with poller := some p }
    return p

def setPoller (p : Poller) : StateM World Unit :=
  modify fun w => { w with poller := w.poller.map fun (_, time) => (p, time) }

def anyRunning (w : World) : Bool := w.devices.any fun (_, device) => device.state = .running

def drawMeasure (condition : Condition) : StateM World Cue := do
  note (.measure condition)
  let w ← get
  let (cue, conditions) := w.conditions.next condition.targetId
  set { w with conditions }
  return cue

def putTrigger (t : Trigger) : StateM World (Except StoreError Unit) := do
  let w ← get
  match w.triggers.put t with
  | .ok triggers =>
    set { w with triggers }
    return .ok ()
  | .error error => return .error error

def repertoire (w : World) : Repertoire where
  commands := w.commands
  actions := w.actions

def findSession (w : World) (id : String) : Option Session :=
  (w.devices.lookup id).map fun device => ⟨id, device.state⟩

/-- Hands inputs to a device. -/
def send (sessionId : String) (inputs : List Input) : StateM World (Except SessionError Nat) := do
  note (.send sessionId inputs)
  let w ← get
  match w.devices.lookup sessionId with
  | none => return .error (.notFound sessionId)
  | some device =>
    if device.cancels then cancel w.token
    match device.mishap with
    | some .notFound => return .error (.notFound sessionId)
    | some .notRunning => return .error (.notRunning sessionId .faulted)
    | some (.dispatch reason) => return .error (.dispatch reason)
    | none =>
      let accepted := device.accepts.elim inputs.length (min inputs.length)
      modify fun w => { w with dispatched := w.dispatched + accepted }
      return .ok accepted

def host : SessionHost World where
  session id := return (← get).findSession id
  send := send
  isCancelled := return (← get).isCancelled (← get).token

def forceExecute (sessionId commandId : String) : StateM World (Except CommandError Nat) :=
  fun w => (w.repertoire.forceExecute host sessionId commandId).run w

end World

end Autopilot.Rehearsal
