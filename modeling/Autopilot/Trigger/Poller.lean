import Autopilot.Duration
import Autopilot.Trigger

/-!
The poller: at intervals it starts a pass over the triggers, unless no session is
running or the pass before is still in flight. Ticks that find no session stretch
the interval up to a ceiling; the next pass brings it back. A flag tells that a pass is
in flight, and counters tell what there was. The flag and every counter change one at
a time, and others may come between: a tick and the end of a pass are put together
from such changes.
-/

namespace Autopilot

structure PollerConfig where
  interval : Duration
  maxIdleInterval : Duration
  idleBackoffFactor : Nat
  skipWhenNoSessions : Bool
  deriving DecidableEq, Repr

namespace PollerConfig

def intervalMs (c : PollerConfig) : Nat := c.interval.millis

/-- No interval is stretched beyond this. -/
def ceiling (c : PollerConfig) : Duration := c.maxIdleInterval.longer c.interval

/-- The interval after a tick that found no session. -/
def backoff (c : PollerConfig) (current : Duration) : Duration :=
  (current.saturatingMul (max c.idleBackoffFactor 1)).shorter c.ceiling

end PollerConfig

/-- The poller's part of a configuration file. -/
structure PollerSettings where
  enabled : Bool := true
  intervalMs : Nat := 1000
  maxIdleIntervalMs : Nat := 10000
  idleBackoffFactor : Nat := 2
  skipWhenNoSessions : Bool := true
  deriving DecidableEq, Repr, Inhabited

namespace PollerSettings

def toConfig (s : PollerSettings) : PollerConfig where
  interval := .ofMillis (.ofNat s.intervalMs)
  maxIdleInterval := .ofMillis (.ofNat s.maxIdleIntervalMs)
  idleBackoffFactor := s.idleBackoffFactor
  skipWhenNoSessions := s.skipWhenNoSessions

/-- The interval in milliseconds after a tick that found no session. -/
def backoff (s : PollerSettings) (currentMs : Nat) : Nat :=
  (s.toConfig.backoff (.ofMillis (.ofNat currentMs))).millis

def read : Reads PollerSettings := fun origin d => do
  let r ← Record.read "struct PollerSettings" 5 origin d
  (PollerSettings.mk <$> r.withDefault 0 ["enabled"] true .bool
    <*> r.withDefault 1 ["interval_ms"] 1000 .u64
    <*> r.withDefault 2 ["max_idle_interval_ms"] 10000 .u64
    <*> r.withDefault 3 ["idle_backoff_factor"] 2 .u32
    <*> r.withDefault 4 ["skip_when_no_sessions"] true .bool <* r.only).toExcept

def toJson (s : PollerSettings) : Json :=
  .object [("enabled", .bool s.enabled), ("interval_ms", .ofNat s.intervalMs),
    ("max_idle_interval_ms", .ofNat s.maxIdleIntervalMs),
    ("idle_backoff_factor", .ofNat s.idleBackoffFactor),
    ("skip_when_no_sessions", .bool s.skipWhenNoSessions)]

end PollerSettings

/-- What a tick did. -/
inductive Tick where
  | started
  | idleSkipped
  | overlapSkipped
  deriving DecidableEq, Repr

/-- An addition to a counter. -/
inductive Count where
  | cycleStarted
  | cycleCompleted
  | idleSkip
  | overlapSkip
  | evaluated (triggers : Nat)
  | unstored (triggers : Nat)
  | passError
  deriving DecidableEq, Repr

namespace Count

def ofTick : Tick → Count
  | .started => .cycleStarted
  | .idleSkipped => .idleSkip
  | .overlapSkipped => .overlapSkip

/-- What is counted of the outcome of a pass; nothing if it was cancelled. -/
def ofOutcome : Except TriggerError Nat → List Count
  | .ok triggers => [.evaluated triggers]
  | .error (.persistFailed triggers failed _) => [.evaluated triggers, .unstored failed.length]
  | .error .cancelled => []
  | .error _ => [.passError]

/-- What is counted when a pass has ended, one after the other. -/
def ofPass (outcome : Except TriggerError Nat) : List Count := ofOutcome outcome ++ [.cycleCompleted]

end Count

/-- What the poller counts. -/
structure Metrics where
  cyclesStarted : Nat := 0
  cyclesCompleted : Nat := 0
  idleSkips : Nat := 0
  overlapSkips : Nat := 0
  triggersEvaluated : Nat := 0
  persistFailures : Nat := 0
  passErrors : Nat := 0
  currentIntervalMs : Nat := 0
  deriving DecidableEq, Repr, Inhabited

namespace Metrics

def count (m : Metrics) : Count → Metrics
  | .cycleStarted => { m with cyclesStarted := m.cyclesStarted + 1 }
  | .cycleCompleted => { m with cyclesCompleted := m.cyclesCompleted + 1 }
  | .idleSkip => { m with idleSkips := m.idleSkips + 1 }
  | .overlapSkip => { m with overlapSkips := m.overlapSkips + 1 }
  | .evaluated triggers => { m with triggersEvaluated := m.triggersEvaluated + triggers }
  | .unstored triggers => { m with persistFailures := m.persistFailures + triggers }
  | .passError => { m with passErrors := m.passErrors + 1 }

def read : Reads Metrics := fun origin d => do
  let r ← Record.read "struct PollerMetricsSnapshot" 8 origin d
  (Metrics.mk <$> r.required 0 ["cyclesStarted"] .u64 <*> r.required 1 ["cyclesCompleted"] .u64
    <*> r.required 2 ["idleSkips"] .u64 <*> r.required 3 ["overlapSkips"] .u64
    <*> r.required 4 ["triggersEvaluated"] .u64 <*> r.required 5 ["persistFailures"] .u64
    <*> r.required 6 ["passErrors"] .u64 <*> r.required 7 ["currentIntervalMs"] .u64
    <* r.only).toExcept

def toJson (m : Metrics) : Json :=
  .object [("cyclesStarted", .ofNat m.cyclesStarted),
    ("cyclesCompleted", .ofNat m.cyclesCompleted), ("idleSkips", .ofNat m.idleSkips),
    ("overlapSkips", .ofNat m.overlapSkips),
    ("triggersEvaluated", .ofNat m.triggersEvaluated),
    ("persistFailures", .ofNat m.persistFailures), ("passErrors", .ofNat m.passErrors),
    ("currentIntervalMs", .ofNat m.currentIntervalMs)]

end Metrics

structure Poller where
  settings : PollerConfig
  inFlight : Bool := false
  metrics : Metrics
  deriving DecidableEq, Repr

namespace Poller

def ofConfig (settings : PollerConfig) : Poller :=
  { settings, metrics := { currentIntervalMs := settings.intervalMs } }

def count (p : Poller) (count : Count) : Poller := { p with metrics := p.metrics.count count }

/-- Raises the flag if it is down, in one go. A tick that does so starts a pass. -/
def takeOff (p : Poller) : Tick × Poller :=
  if p.inFlight then (.overlapSkipped, p) else (.started, { p with inFlight := true })

/-- Takes the flag down. -/
def land (p : Poller) : Poller := { p with inFlight := false }

/-- Decides on one tick; a started pass is in flight until it ends. -/
def tick (p : Poller) (anyRunning : Bool) : Tick × Poller :=
  let (tick, p) :=
    if p.settings.skipWhenNoSessions && !anyRunning then (.idleSkipped, p) else p.takeOff
  (tick, p.count (.ofTick tick))

def passEnded (p : Poller) (outcome : Except TriggerError Nat) : Poller :=
  ((Count.ofPass outcome).foldl count p).land

/-- The interval that follows a tick of the polling loop. -/
def nextDelay (c : PollerConfig) (tick : Tick) (delay : Duration) : Duration :=
  match tick with
  | .started => c.interval
  | .idleSkipped => c.backoff delay
  | .overlapSkipped => delay

/-- Shows the interval of the polling loop. -/
def shows (p : Poller) (delay : Duration) : Poller :=
  { p with metrics := { p.metrics with currentIntervalMs := delay.millis } }

/-- One round of the polling loop: a tick, and the interval until the next. -/
def round (p : Poller) (anyRunning : Bool) (delay : Duration) : Tick × Duration × Poller :=
  let (tick, p) := p.tick anyRunning
  let delay := nextDelay p.settings tick delay
  (tick, delay, p.shows delay)

end Poller

end Autopilot
