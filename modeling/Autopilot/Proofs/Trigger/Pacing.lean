import Autopilot.Proofs.Trigger.Polling

/-!
The pace of a poller. A tick that finds no session stretches the interval, up to a ceiling; one that
starts a pass brings it back, and one that finds a pass under way leaves it as it is. However these
follow each other, the interval can be told from the number of ticks without a session since a pass was
started last. The metrics show its milliseconds in a word, which is room enough for all that settings
can say, but not for the longest durations.
-/

namespace Autopilot

namespace Tick

/-- How many ticks found no session since a pass was started. The last tick comes first. -/
def idleSince (ticks : List Tick) : Nat := (ticks.takeWhile (· ≠ .started)).count .idleSkipped

@[simp] theorem idleSince_nil : idleSince [] = 0 := rfl

@[simp] theorem idleSince_started (ticks : List Tick) : idleSince (.started :: ticks) = 0 := rfl

@[simp] theorem idleSince_idleSkipped (ticks : List Tick) :
    idleSince (.idleSkipped :: ticks) = idleSince ticks + 1 := by
  unfold idleSince
  rw [List.takeWhile_cons_of_pos (by decide), List.count_cons_self]

@[simp] theorem idleSince_overlapSkipped (ticks : List Tick) :
    idleSince (.overlapSkipped :: ticks) = idleSince ticks := by
  unfold idleSince
  rw [List.takeWhile_cons_of_pos (by decide), List.count_cons_of_ne (by decide)]

/-- The interval after a tick, for a way to stretch it. -/
def pace {α : Type} (interval : α) (stretch : α → α) : Tick → α → α
  | .started, _ => interval
  | .idleSkipped, delay => stretch delay
  | .overlapSkipped, delay => delay

/-- The interval after some ticks is what it is stretched to so many times. -/
theorem foldr_pace {α : Type} {interval : α} {stretch : α → α} {stretched : Nat → α}
    (zero : stretched 0 = interval) (succ : ∀ idle, stretch (stretched idle) = stretched (idle + 1))
    (ticks : List Tick) :
    ticks.foldr (pace interval stretch) interval = stretched (idleSince ticks) := by
  induction ticks with
  | nil => rw [List.foldr_nil, idleSince_nil, zero]
  | cons tick ticks ih =>
    rw [List.foldr_cons, ih]
    cases tick with
    | started => rw [idleSince_started, zero, pace]
    | idleSkipped => rw [idleSince_idleSkipped, ← succ, pace]
    | overlapSkipped => rw [idleSince_overlapSkipped, pace]

end Tick

/-- An interval that is below the ceiling is not stretched before the first time. -/
theorem stretched_zero (interval factor other : Nat) :
    min (interval * factor ^ 0) (max interval other) = interval := by
  rw [pow_zero, mul_one, min_eq_left (le_max_left _ _)]

/-- To stop at the ceiling each time is to stop there once. -/
theorem stretched_succ (interval ceiling idle : Nat) {factor : Nat} (grows : 1 ≤ factor) :
    min (min (interval * factor ^ idle) ceiling * factor) ceiling =
      min (interval * factor ^ (idle + 1)) ceiling := by
  rw [min_mul_of_nonneg _ _ (Nat.zero_le factor), min_assoc,
    min_eq_right (Nat.le_mul_of_pos_right ceiling grows), pow_succ, mul_assoc]

/-- A stretched interval is not shorter than the interval. -/
theorem le_stretched (interval other idle : Nat) {factor : Nat} (grows : 1 ≤ factor) :
    interval ≤ min (interval * factor ^ idle) (max interval other) :=
  le_min (Nat.le_mul_of_pos_right interval (Nat.pow_pos grows)) (le_max_left _ _)

/-! ## Durations -/

theorem Duration.ext_nanos {a b : Duration} (same : a.nanos = b.nanos) : a = b := by
  cases a
  cases b
  cases same
  rfl

/-- Milliseconds are shown as they are if a word has room for them. -/
theorem Duration.millis_eq {d : Duration} (short : d.wholeMillis < 18446744073709551616) :
    d.millis = d.wholeMillis := Nat.mod_eq_of_lt short

namespace PollerConfig

theorem ceiling_nanos (c : PollerConfig) :
    c.ceiling.nanos = max c.interval.nanos c.maxIdleInterval.nanos := max_comm _ _

/-- To stop at the longest duration changes nothing, because the ceiling is one. -/
theorem backoff_nanos (c : PollerConfig) (current : Duration) :
    (c.backoff current).nanos = min (current.nanos * max c.idleBackoffFactor 1) c.ceiling.nanos := by
  have fits := c.ceiling.fits
  change min (min (current.nanos * max c.idleBackoffFactor 1) (18446744073709551616 * 1000000000 - 1))
    c.ceiling.nanos = _
  rw [min_assoc, min_eq_right (b := c.ceiling.nanos) (by omega)]

/-- The interval that is stretched some times. -/
def stretched (c : PollerConfig) (idle : Nat) : Duration :=
  ⟨min (c.interval.nanos * max c.idleBackoffFactor 1 ^ idle) c.ceiling.nanos,
    min_lt_of_right_lt c.ceiling.fits⟩

theorem foldr_pace_nanos (c : PollerConfig) (ticks : List Tick) :
    (ticks.foldr (Tick.pace c.interval c.backoff) c.interval).nanos =
      min (c.interval.nanos * max c.idleBackoffFactor 1 ^ Tick.idleSince ticks)
        (max c.interval.nanos c.maxIdleInterval.nanos) := by
  have paced : ticks.foldr (Tick.pace c.interval c.backoff) c.interval =
      c.stretched (Tick.idleSince ticks) := by
    refine Tick.foldr_pace (Duration.ext_nanos ?_) (fun idle => Duration.ext_nanos ?_) ticks
    · change min _ c.ceiling.nanos = _
      rw [c.ceiling_nanos, stretched_zero]
    · rw [c.backoff_nanos]
      exact stretched_succ _ _ _ (le_max_right _ _)
  rw [paced, ← c.ceiling_nanos]
  rfl

end PollerConfig

/-! ## The polling loop -/

namespace Poller

theorem nextDelay_eq_pace (c : PollerConfig) (tick : Tick) (delay : Duration) :
    nextDelay c tick delay = tick.pace c.interval c.backoff delay := by
  cases tick <;> rfl

theorem count_shown (p : Poller) (count : Count) :
    (p.count count).settings = p.settings ∧
      (p.count count).metrics.currentIntervalMs = p.metrics.currentIntervalMs := by
  cases count <;> exact ⟨rfl, rfl⟩

/-- The settings of a poller stay, and all but its rounds leave the interval that it shows. -/
theorem tick_keeps (p : Poller) (anyRunning : Bool) :
    (p.tick anyRunning).2.settings = p.settings ∧
      (p.tick anyRunning).2.metrics.currentIntervalMs = p.metrics.currentIntervalMs := by
  have tookOff : p.takeOff.2.settings = p.settings ∧ p.takeOff.2.metrics = p.metrics := by
    unfold takeOff
    split <;> exact ⟨rfl, rfl⟩
  unfold tick
  by_cases idles : (p.settings.skipWhenNoSessions && !anyRunning) = true
  · rw [if_pos idles]
    exact count_shown _ _
  · rw [if_neg idles, ← tookOff.1, ← tookOff.2]
    exact count_shown _ _

theorem passEnded_keeps (p : Poller) (outcome : Except TriggerError Nat) :
    (p.passEnded outcome).settings = p.settings ∧
      (p.passEnded outcome).metrics.currentIntervalMs = p.metrics.currentIntervalMs := by
  have counted (counts : List Count) (p : Poller) :
      (counts.foldl count p).settings = p.settings ∧
        (counts.foldl count p).metrics.currentIntervalMs = p.metrics.currentIntervalMs := by
    induction counts generalizing p with
    | nil => exact ⟨rfl, rfl⟩
    | cons count counts ih =>
      obtain ⟨settings, shown⟩ := ih (p.count count)
      exact ⟨settings.trans (p.count_shown count).1, shown.trans (p.count_shown count).2⟩
  exact counted (Count.ofPass outcome) p

/-- The polling loop of a poller has had these ticks, the last of them first, and waits for this
interval. Between its rounds, others may let the poller tick, and passes end. -/
inductive Paced (c : PollerConfig) : List Tick → Duration → Poller → Prop where
  | begins {p : Poller} (set : p.settings = c) : Paced c [] c.interval p
  | round {ticks : List Tick} {delay : Duration} {p : Poller} (paced : Paced c ticks delay p)
      (anyRunning : Bool) :
      Paced c ((p.round anyRunning delay).1 :: ticks) (p.round anyRunning delay).2.1
        (p.round anyRunning delay).2.2
  | ticked {ticks : List Tick} {delay : Duration} {p : Poller} (paced : Paced c ticks delay p)
      (anyRunning : Bool) : Paced c ticks delay (p.tick anyRunning).2
  | ended {ticks : List Tick} {delay : Duration} {p : Poller} (paced : Paced c ticks delay p)
      (outcome : Except TriggerError Nat) : Paced c ticks delay (p.passEnded outcome)

variable {c : PollerConfig} {ticks : List Tick} {delay : Duration} {p : Poller}

theorem Paced.settings (paced : Paced c ticks delay p) : p.settings = c := by
  induction paced with
  | begins set => exact set
  | round _ anyRunning ih => exact (tick_keeps _ anyRunning).1.trans ih
  | ticked _ anyRunning ih => exact (tick_keeps _ anyRunning).1.trans ih
  | ended _ outcome ih => exact (passEnded_keeps _ outcome).1.trans ih

/-- The interval of a round follows from its tick. -/
theorem Paced.round_delay (paced : Paced c ticks delay p) (anyRunning : Bool) :
    (p.round anyRunning delay).2.1 =
      (p.round anyRunning delay).1.pace c.interval c.backoff delay := by
  change nextDelay (p.tick anyRunning).2.settings (p.tick anyRunning).1 delay = _
  rw [(p.tick_keeps anyRunning).1, paced.settings, nextDelay_eq_pace]
  rfl

/-- The interval follows from the ticks of the loop. -/
theorem Paced.delay_eq (paced : Paced c ticks delay p) :
    delay = ticks.foldr (Tick.pace c.interval c.backoff) c.interval := by
  induction paced with
  | begins set => rfl
  | round paced anyRunning ih => rw [List.foldr_cons, ← ih, paced.round_delay anyRunning]
  | ticked _ _ ih => exact ih
  | ended _ _ ih => exact ih

theorem Paced.delay_nanos (paced : Paced c ticks delay p) :
    delay.nanos = min (c.interval.nanos * max c.idleBackoffFactor 1 ^ Tick.idleSince ticks)
      (max c.interval.nanos c.maxIdleInterval.nanos) := by
  rw [paced.delay_eq, c.foldr_pace_nanos]

/-- After the first round the interval is shown. -/
theorem Paced.shown (paced : Paced c ticks delay p) (ticked : ticks ≠ []) :
    p.metrics.currentIntervalMs = delay.millis := by
  induction paced with
  | begins set => exact absurd rfl ticked
  | round _ _ _ => rfl
  | ticked _ anyRunning ih => exact (tick_keeps _ anyRunning).2.trans (ih ticked)
  | ended _ outcome ih => exact (passEnded_keeps _ outcome).2.trans (ih ticked)

/-- If ticks are skipped when there is no session, then a loop can have any ticks. -/
theorem exists_paced (skips : c.skipWhenNoSessions = true) (ticks : List Tick) :
    ∃ delay p, Paced c ticks delay p := by
  induction ticks with
  | nil => exact ⟨_, _, .begins (p := .ofConfig c) rfl⟩
  | cons tick ticks ih =>
    obtain ⟨delay, p, paced⟩ := ih
    have landed := paced.ended (.ok 0)
    cases tick with
    | started =>
      have starts : ((p.passEnded (.ok 0)).round true delay).1 = .started := by
        simp [Poller.round, tick, takeOff, passEnded, land]
      exact ⟨_, _, starts ▸ landed.round true⟩
    | idleSkipped =>
      have idles : ((p.passEnded (.ok 0)).round false delay).1 = .idleSkipped := by
        simp [Poller.round, tick, landed.settings, skips]
      exact ⟨_, _, idles ▸ landed.round false⟩
    | overlapSkipped =>
      -- Another tick has started a pass, which goes on.
      have overlaps :
          (((p.passEnded (.ok 0)).tick true).2.round true delay).1 = .overlapSkipped := by
        simp [Poller.round, tick, takeOff, passEnded, land, count]
      exact ⟨_, _, overlaps ▸ (landed.ticked true).round true⟩

theorem Paced.bounds (paced : Paced c ticks delay p) :
    c.interval.nanos ≤ delay.nanos ∧
      delay.nanos ≤ max c.interval.nanos c.maxIdleInterval.nanos := by
  rw [paced.delay_nanos]
  exact ⟨le_stretched _ _ _ (le_max_right _ _), min_le_right _ _⟩

/-- Settings make for intervals of whole milliseconds, which a word has room for. -/
theorem Paced.of_settings {s : PollerSettings} (paced : Paced s.toConfig ticks delay p) :
    delay.wholeMillis < 18446744073709551616 ∧ delay.wholeMillis * 1000000 = delay.nanos := by
  have nanos : delay.nanos =
      min ((UInt64.ofNat s.intervalMs).toNat * max s.idleBackoffFactor 1 ^ Tick.idleSince ticks)
        (max (UInt64.ofNat s.intervalMs).toNat (UInt64.ofNat s.maxIdleIntervalMs).toNat) * 1000000 := by
    rw [min_mul_of_nonneg _ _ (Nat.zero_le _), max_mul_of_nonneg _ _ (Nat.zero_le _),
      Nat.mul_right_comm]
    exact paced.delay_nanos
  have whole : delay.wholeMillis = _ := (congrArg (· / 1000000) nanos).trans (Nat.mul_div_cancel _ (by decide))
  rw [whole]
  refine ⟨lt_of_le_of_lt (min_le_right _ _) (max_lt ?_ ?_), nanos.symm⟩
  all_goals exact UInt64.toNat_lt _

/-- The interval between the rounds of a polling loop lies between that of the settings and the
ceiling, and is the former, stretched once for each tick that found no session since a pass was started
last, but not beyond the ceiling. A pass that is started brings it back, and a tick that finds one under
way leaves it. After each round the metrics show its milliseconds, without what a word has no room for;
what settings can say, they show as it is. -/
theorem paced_interval (paced : Paced c ticks delay p) :
    delay.nanos = min (c.interval.nanos * max c.idleBackoffFactor 1 ^ Tick.idleSince ticks)
      (max c.interval.nanos c.maxIdleInterval.nanos) ∧
    (c.interval.nanos ≤ delay.nanos ∧ delay.nanos ≤ max c.interval.nanos c.maxIdleInterval.nanos) ∧
    (∀ anyRunning,
      ((p.round anyRunning delay).1 = .started →
        (p.round anyRunning delay).2.1 = c.interval) ∧
      ((p.round anyRunning delay).1 = .idleSkipped →
        (p.round anyRunning delay).2.1 = c.backoff delay) ∧
      ((p.round anyRunning delay).1 = .overlapSkipped →
        (p.round anyRunning delay).2.1 = delay) ∧
      (p.round anyRunning delay).2.2.metrics.currentIntervalMs =
        (p.round anyRunning delay).2.1.nanos / 1000000 % 18446744073709551616) ∧
    (ticks ≠ [] →
      p.metrics.currentIntervalMs = delay.nanos / 1000000 % 18446744073709551616 ∧
      (p.metrics.currentIntervalMs = delay.nanos / 1000000 ↔
        delay.nanos / 1000000 < 18446744073709551616) ∧
      ∀ s : PollerSettings, s.toConfig = c → p.metrics.currentIntervalMs * 1000000 = delay.nanos) := by
  refine ⟨paced.delay_nanos, paced.bounds, fun anyRunning => ?_, fun ticked => ?_⟩
  · refine ⟨fun tick => ?_, fun tick => ?_, fun tick => ?_, rfl⟩
    all_goals rw [paced.round_delay anyRunning, tick, Tick.pace]
  · have shown : p.metrics.currentIntervalMs = delay.nanos / 1000000 % 18446744073709551616 :=
      paced.shown ticked
    refine ⟨shown, by omega, ?_⟩
    rintro s rfl
    obtain ⟨short, whole⟩ := paced.of_settings
    rw [paced.shown ticked, Duration.millis_eq short, whole]

/-- Intervals that a word of milliseconds can hardly hold. -/
def distant : PollerSettings :=
  { intervalMs := 9223372036854775808
    maxIdleIntervalMs := 18446744073709551615
    idleBackoffFactor := 4294967295 }

/-- The ceiling is reached at once, and left with a pass. -/
theorem paced_interval_distant :
    ∃ delay p, Paced distant.toConfig [.overlapSkipped, .idleSkipped, .idleSkipped, .started] delay p ∧
      delay.nanos = 18446744073709551615 * 1000000 ∧
      p.metrics.currentIntervalMs * 1000000 = delay.nanos ∧
      (p.passEnded (.ok 0)).round true delay = (.started, distant.toConfig.interval,
        { settings := distant.toConfig
          inFlight := true
          metrics := {
            cyclesStarted := 2
            cyclesCompleted := 1
            idleSkips := 2
            overlapSkips := 1
            currentIntervalMs := 9223372036854775808 } }) := by
  have paced := ((((Paced.begins (c := distant.toConfig) (p := .ofConfig distant.toConfig) rfl).round
    true).round false).round false).round true
  obtain ⟨_, _, _, shown⟩ := paced_interval paced
  exact ⟨_, _, paced, by decide, (shown (by decide)).2.2 distant rfl, by decide⟩

/-- A word and one millisecond, which is shown as one. -/
def glacial : PollerConfig where
  interval := ⟨18446744073709551617 * 1000000, by decide⟩
  maxIdleInterval := ⟨0, by decide⟩
  idleBackoffFactor := 2
  skipWhenNoSessions := false

theorem glacial_misshown :
    ∃ delay p, Paced glacial [.started] delay p ∧ delay = glacial.interval ∧
      delay.wholeMillis = 18446744073709551617 ∧ p.metrics.currentIntervalMs = 1 := by
  have paced := (Paced.begins (c := glacial) (p := .ofConfig glacial) rfl).round true
  exact ⟨_, _, paced, by decide, by decide, by decide⟩

end Poller

end Autopilot
