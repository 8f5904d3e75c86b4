import Autopilot.Rehearsal.Turn

/-!
The poller in a rehearsal. It can be ticked by hand, or loops can be started that
tick it in the background until they are stopped.
-/

namespace Autopilot.Rehearsal.World

/-- Ticks the poller once. -/
def tick : StateM World Tick := do
  let (p, _) ← usePoller
  let (tick, p) := p.tick (← get).anyRunning
  setPoller p
  if tick = .started then
    let id ← startPass (← get).token
    modify fun w => { w with started := w.started ++ [id] }
  return tick

/-- Waits for the passes of all ticks since the last time; tells their number. -/
def join : StateM World Nat := do
  let started := (← get).started
  await started
  modify fun w => { w with started := [] }
  return started.length

/-- Starts a polling loop that ends when the current request is cancelled. -/
def startLoop : StateM World Unit := do
  let (p, _) ← usePoller
  let id ← spawn (← get).token (.poll false p.settings.interval)
  modify fun w => { w with loops := w.loops ++ [id] }

/-- Cancels the current request and waits for all polling loops; tells their number. -/
def stop : StateM World Nat := do
  let w ← get
  cancel w.token
  await w.loops
  modify fun w => { w with loops := [] }
  return w.loops.length

end Autopilot.Rehearsal.World
