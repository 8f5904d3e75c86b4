import Autopilot.Rehearsal.World

/-!
Turns of the tasks in the background. A task that gets its turn goes on until it
ends or has to wait; a pass waits for measurements that take time, a polling loop
for its next round. Whoever waits gives the others their turns, in order of their
wake-up times, and then goes on at the time that it waited for.
-/

namespace Autopilot.Rehearsal.World

/-- Carries a pass on until it ends or has to wait for a measurement. -/
def runPass (id token : Nat) : Pass → StateM World Unit
  | .done outcome => do
    let (p, _) ← usePoller
    setPoller (p.passEnded outcome)
  | .ask question next => do
    match question, next with
    | .measure condition, next =>
      let cue ← drawMeasure condition
      let w ← get
      if cue.sleepMs ≠ 0 then schedule id (w.clock + cue.sleepMs) token (.measured cue next)
      else
        if cue.cancels then cancel token
        runPass id token (next cue.measure)
    | .isCancelled, next => runPass id token (next ((← get).isCancelled token))
    | .now, next => runPass id token (next (← usePoller).2)
    | .triggers, next => runPass id token (next (← get).triggers.list)
    | .trigger name, next => runPass id token (next ((← get).triggers.get name))
    | .keep t, next => runPass id token (next (← putTrigger t))
    | .session name, next => runPass id token (next ((← get).findSession name))
    | .command name, next => runPass id token (next ((← get).commands.get name))
    | .execute session command, next => runPass id token (next (← forceExecute session command))

/-- Starts a pass over all triggers. -/
def startPass (token : Nat) : StateM World Nat := do
  let w ← get
  spawn token (.pass (w.engine.evaluateAll none))

/-- One round of a polling loop, and the wait for the next. -/
def pollRound (task : Task) (delay : Duration) : StateM World Unit := do
  let (p, _) ← usePoller
  let (tick, delay, p) := p.round (← get).anyRunning delay
  setPoller p
  if tick = .started then
    let _ ← startPass task.token
  let w ← get
  if !w.isCancelled task.token then
    schedule task.id (w.clock + delay.wholeMillis) task.token (.poll true delay)

def runTask (task : Task) : StateM World Unit := do
  match task.work with
  | .pass rest => runPass task.id task.token rest
  | .measured cue rest =>
    if cue.cancels then cancel task.token
    runPass task.id task.token (rest cue.measure)
  | .poll begun delay =>
    if begun && (← get).isCancelled task.token then return
    pollRound task delay
  | .cancel => cancel task.token

/-- The task whose turn is next: of those that wake first, the one that has waited
longest. -/
def nextTask? (w : World) : Option Task :=
  w.tasks.foldl (fun best task =>
    match best with
    | some other => if task.wakeAt < other.wakeAt then some task else best
    | none => some task) none

def takeTurn (task : Task) : StateM World Unit := do
  modify fun w => { w with
    clock := max w.clock task.wakeAt
    tasks := w.tasks.filter fun other => other.id != task.id }
  runTask task

/-- Gives the tasks their turns, at most `turns` in all, as long as the next one wakes
early enough; the question is put to the world before each turn. -/
def runWhile (early : World → Task → Bool) : (turns : Nat) → StateM World Unit
  | 0 => return
  | turns + 1 => do
    let w ← get
    match w.nextTask? with
    | none => return
    | some task =>
      if early w task then
        takeTurn task
        runWhile early turns

/-- The most turns that a single wait can give. -/
def maxTurns : Nat := 1000000

/-- Waits for some time. Tasks that wake at its very end do not get their turn. -/
def sleep (ms : Nat) : StateM World Unit := do
  if ms ≠ 0 then
    let wake := (← get).clock + ms
    runWhile (fun _ task => task.wakeAt < wake) maxTurns
    modify fun w => { w with clock := wake }

/-- Waits for some time, or until the current request is cancelled; then only tasks
that are due at that moment still get their turn. Tells after how long a wait was
cancelled. -/
def rest (ms : Nat) : StateM World (Option Nat) := do
  let start := (← get).clock
  let wake := start + ms
  let token := (← get).token
  runWhile (fun w task =>
    task.wakeAt < wake && (!w.isCancelled token || task.wakeAt ≤ w.clock)) maxTurns
  let w ← get
  if w.isCancelled token then return some (w.clock - start)
  set { w with clock := wake }
  return none

/-- Waits until none of some tasks is left. -/
def await (ids : List Nat) : StateM World Unit :=
  runWhile (fun w task =>
    (w.tasks.any fun other => ids.contains other.id) || task.wakeAt ≤ w.clock) maxTurns

end Autopilot.Rehearsal.World
