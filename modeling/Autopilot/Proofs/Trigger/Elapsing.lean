import Autopilot.Proofs.Instant
import Autopilot.Proofs.Instant.Timestamp
import Autopilot.Proofs.Trigger.Evaluation

/-!
Times that have to elapse. A number of seconds may be too large for a span of time, and then it never
elapses; but no two instants are so far apart, so that delays and cooldowns are decided as if there
were no bounds.
-/

namespace Autopilot

/-! ## Differences of instants -/

namespace Instant

/-- Two instants are not further apart than a span of time can be long. -/
theorem Representable.since_bounds {a b : Instant} (first : a.Representable)
    (second : b.Representable) :
    -((Trigger.maxSpanSeconds : Int) * 1000000000) ≤ a.since b ∧
      a.since b ≤ (Trigger.maxSpanSeconds : Int) * 1000000000 := by
  have above := first.second_bounds
  have below := second.second_bounds
  have even := a.leapBetween_bounds b
  have short := first.nano
  have brief := second.nano
  rw [since_eq]
  unfold Trigger.maxSpanSeconds
  omega

end Instant

namespace Trigger

/-- A number of seconds as a span of nanoseconds, if it fits in a signed word, and its milliseconds
do too. -/
def span? (seconds : Nat) : Option Int :=
  if seconds < 2 ^ 63 then
    if seconds * 1000 < 2 ^ 63 then some ((seconds : Int) * 1000000000) else none
  else none

theorem span?_eq (seconds : Nat) :
    span? seconds =
      if seconds ≤ maxSpanSeconds then some ((seconds : Int) * 1000000000) else none := by
  unfold span? maxSpanSeconds
  by_cases fits : seconds ≤ 9223372036854775
  · rw [if_pos fits, if_pos (by omega), if_pos (by omega)]
  · rw [if_neg fits, if_neg (by omega : ¬ seconds * 1000 < 2 ^ 63), ite_self]

/-- A span elapses when it is not longer than what has passed, and what is no span never does. -/
theorem spans_eq_any (nanos : Int) (seconds : Nat) :
    spans nanos seconds = (span? seconds).any fun required => required ≤ nanos := by
  rw [span?_eq]
  unfold spans
  split
  next fits => rw [decide_eq_true fits, Bool.true_and, Option.any_some]
  next long => rw [decide_eq_false long, Bool.false_and, Option.any_none]

/-- Between two instants, a number of seconds elapses as if there were no bound to spans. -/
theorem spans_since {a b : Instant} (first : a.Representable) (second : b.Representable)
    (seconds : Nat) :
    spans (a.since b) seconds = decide ((seconds : Int) * 1000000000 ≤ a.since b) := by
  have apart := (first.since_bounds second).2
  unfold spans
  rw [Bool.eq_iff_iff, Bool.and_eq_true, decide_eq_true_eq, decide_eq_true_eq]
  omega

/-! ## Delays and cooldowns -/

theorem status_verdict (reason : Reason) (now : Instant) (established : Option Instant) :
    (⟨reason.verdict now, established⟩ : Evaluation).status = reason.status := rfl

theorem judgeDelay_satisfied_iff (t : Trigger) (seconds : Nat) (now : Instant) :
    (t.judgeDelay seconds now).status = .satisfied ↔
      spans (now.since (t.baseline now).1) seconds = true := by
  unfold judgeDelay
  dsimp only
  rw [status_verdict]
  split
  next elapsed => exact ⟨fun _ => elapsed, fun _ => rfl⟩
  next waits =>
    constructor
    · intro satisfied
      split at satisfied <;> cases satisfied
    · exact fun elapsed => absurd elapsed waits

theorem isCooling_iff {t : Trigger} {now fired : Instant} (last : t.lastFiredAt = some fired)
    (cools : 0 < t.cooldownSeconds) :
    t.isCooling now = true ↔ spans (now.since fired) t.cooldownSeconds = false := by
  unfold isCooling
  rw [last]
  dsimp only
  rw [decide_eq_true cools, Bool.true_and, Bool.not_eq_true']

end Trigger

namespace Engine

open Trigger (Evaluation)

variable {engine : Engine} {t : Trigger} {now : Instant} {path : List Exchange} {e : Evaluation}

/-- No handler finds that a trigger is cooling down. -/
theorem judge_not_cooldown (said : Trace (judge t now).run path (.ok e)) : e.status ≠ .cooldown := by
  rcases judge_cases said with ⟨seconds, _, _, same⟩ | ⟨time, _, _, same⟩ |
    ⟨condition, answer, _, _, same⟩
  · cases same
    unfold Trigger.judgeDelay
    dsimp only
    rw [Trigger.status_verdict]
    repeat' split
    all_goals decide
  · cases same
    unfold Trigger.judgeSchedule
    dsimp only
    rw [Trigger.status_verdict]
    repeat' split
    all_goals decide
  · cases answer with
    | ok m =>
      cases same
      unfold Evaluation.status Trigger.Reason.verdict
      dsimp only
      split <;> decide
    | error error =>
      cases error <;> cases same <;> exact nofun

/-- An enabled trigger is found to be cooling down if and only if it is. -/
theorem evaluate_cooldown_iff (said : Trace (engine.evaluate t now).run path (.ok e))
    (enabled : t.enabled = true) : e.status = .cooldown ↔ t.isCooling now = true := by
  rcases evaluate_cases said with ⟨_, same⟩ | ⟨rest, _, handled⟩
  · cases same
  · rcases handled with ⟨off, _⟩ | ⟨_, cooling, _, same⟩ | ⟨_, awake, _, judged⟩ |
      ⟨_, awake, _, _, same⟩
    · cases off.symm.trans enabled
    · cases same
      exact ⟨fun _ => cooling, fun _ => rfl⟩
    · rw [awake]
      exact ⟨fun cools => absurd cools (judge_not_cooldown judged), nofun⟩
    · cases same
      rw [awake]
      exact ⟨nofun, nofun⟩

/-- A delay that gets to its handler is judged by what has elapsed. -/
theorem evaluate_delay {seconds : Nat} (said : Trace (engine.evaluate t now).run path (.ok e))
    (handles : engine.Handles t now) (kind : t.kind = .delay seconds) :
    e = t.judgeDelay seconds now := by
  rcases evaluate_cases said with ⟨_, same⟩ | ⟨rest, _, handled⟩
  · cases same
  · rcases handled with ⟨off, _⟩ | ⟨_, cooling, _⟩ | ⟨_, _, _, judged⟩ | ⟨_, _, unable, _⟩
    · cases off.symm.trans handles.enabled
    · cases cooling.symm.trans handles.awake
    · unfold judge at judged
      rw [kind] at judged
      cases (Talk.trace_pure judged).2
      rfl
    · cases unable.symm.trans handles.able

/-- Between two instants, a delay is over when its seconds have passed, and a cooldown lasts until its
seconds have, whatever their number. The difference of the instants fits in a span, and so does every
number of seconds that is taken for one; a number that is not taken for one is larger than the
difference. That is also what an engine finds, for delays that it handles and for cooldowns of all
enabled triggers. -/
theorem evaluate_elapsed {start last : Instant} (first : start.Representable)
    (second : last.Representable) (seconds : Nat) :
    (-((Trigger.maxSpanSeconds : Int) * 1000000000) ≤ last.since start ∧
      last.since start ≤ (Trigger.maxSpanSeconds : Int) * 1000000000) ∧
    (∀ required ∈ Trigger.span? seconds, required = (seconds : Int) * 1000000000 ∧
      required ≤ (Trigger.maxSpanSeconds : Int) * 1000000000) ∧
    (Trigger.span? seconds = none → last.since start < (seconds : Int) * 1000000000) ∧
    (∀ nanos, Trigger.spans nanos seconds = (Trigger.span? seconds).any (· ≤ nanos)) ∧
    (start.isLeap = false → last.isLeap = false → last.since start =
      (last.second * 1000000000 + last.nano) - (start.second * 1000000000 + start.nano)) ∧
    (∀ t : Trigger, (t.baseline last).1 = start →
      ((t.judgeDelay seconds last).status = .satisfied ↔
        (seconds : Int) * 1000000000 ≤ last.since start)) ∧
    (∀ t : Trigger, t.lastFiredAt = some start → t.cooldownSeconds = seconds → 0 < seconds →
      (t.isCooling last = true ↔ last.since start < (seconds : Int) * 1000000000)) ∧
    ∀ (engine : Engine) (t : Trigger) (path : List Exchange) (e : Evaluation),
      Trace (engine.evaluate t last).run path (.ok e) →
      (engine.Handles t last → t.kind = .delay seconds → (t.baseline last).1 = start →
        (e.status = .satisfied ↔ (seconds : Int) * 1000000000 ≤ last.since start)) ∧
      (t.enabled = true → t.lastFiredAt = some start → t.cooldownSeconds = seconds → 0 < seconds →
        (e.status = .cooldown ↔ last.since start < (seconds : Int) * 1000000000)) := by
  have apart := second.since_bounds first
  have elapses := Trigger.spans_since second first seconds
  have delay (t : Trigger) (since : (t.baseline last).1 = start) :
      (t.judgeDelay seconds last).status = .satisfied ↔
        (seconds : Int) * 1000000000 ≤ last.since start := by
    rw [t.judgeDelay_satisfied_iff, since, elapses, decide_eq_true_eq]
  have cooldown (t : Trigger) (fired : t.lastFiredAt = some start)
      (length : t.cooldownSeconds = seconds) (cools : 0 < seconds) :
      t.isCooling last = true ↔ last.since start < (seconds : Int) * 1000000000 := by
    rw [Trigger.isCooling_iff fired (length ▸ cools), length, elapses, decide_eq_false_iff_not,
      Int.not_le]
  refine ⟨apart, ?_, ?_, fun nanos => Trigger.spans_eq_any nanos seconds, ?_, delay, cooldown, ?_⟩
  · intro required taken
    rw [Trigger.span?_eq, Option.mem_def, Option.ite_none_right_eq_some] at taken
    obtain ⟨fits, same⟩ := taken
    cases same
    exact ⟨rfl, by omega⟩
  · intro long
    rw [Trigger.span?_eq] at long
    split at long
    · cases long
    · omega
  · intro ordinary also
    rw [Instant.since_of_ordinary also ordinary]
    omega
  · intro engine t path e said
    refine ⟨fun handles kind since => ?_, fun enabled fired length cools => ?_⟩
    · rw [evaluate_delay said handles kind]
      exact delay t since
    · rw [evaluate_cooldown_iff said enabled]
      exact cooldown t fired length cools

/-- A trigger that is enabled since the first of all instants, and waits as long as can be said. -/
def patient : Trigger :=
  { Trigger.ofDelay "patient" 18446744073709551615 with enabledAt := some ⟨-8334601228800, 0⟩ }

/-- A trigger that fired at the first of all instants, and rests as long as can be said. -/
def spent : Trigger :=
  { (Trigger.ofDelay "spent" 0).withCooldown 18446744073709551615 with
    lastFiredAt := some ⟨-8334601228800, 0⟩ }

/-- At the last of all instants, the one is not satisfied and the other cools down. -/
theorem evaluate_elapsed_ages :
    (⟨-8334601228800, 0⟩ : Instant).Representable ∧
    (⟨8210266876799, 999999999⟩ : Instant).Representable ∧
    Trigger.span? 18446744073709551615 = none ∧
    (∃ path e, Trace ((standard false).evaluate patient ⟨8210266876799, 999999999⟩).run path (.ok e) ∧
      (standard false).Handles patient ⟨8210266876799, 999999999⟩ ∧ e.status ≠ .satisfied) ∧
    ∃ path e, Trace ((standard false).evaluate spent ⟨8210266876799, 999999999⟩).run path (.ok e) ∧
      e.status = .cooldown := by
  have first : (⟨-8334601228800, 0⟩ : Instant).Representable := ⟨by decide, by decide⟩
  have second : (⟨8210266876799, 999999999⟩ : Instant).Representable := ⟨by decide, by decide⟩
  obtain ⟨_, _, _, _, _, _, _, found⟩ := evaluate_elapsed first second 18446744073709551615
  refine ⟨first, second, by decide, ?_, ?_⟩
  · have said : Trace ((standard false).evaluate patient ⟨8210266876799, 999999999⟩).run
        [⟨.isCancelled, false⟩] (.ok (patient.judgeDelay 18446744073709551615
          ⟨8210266876799, 999999999⟩)) := .ask _ (.done _)
    have handles : (standard false).Handles patient ⟨8210266876799, 999999999⟩ :=
      ⟨rfl, rfl, by decide⟩
    refine ⟨_, _, said, handles, fun satisfied => ?_⟩
    exact absurd (((found _ _ _ _ said).1 handles rfl rfl).1 satisfied) (by decide)
  · have said : Trace ((standard false).evaluate spent ⟨8210266876799, 999999999⟩).run
        [⟨.isCancelled, false⟩] (.ok ⟨Trigger.Reason.cooldownActive.verdict
          ⟨8210266876799, 999999999⟩, none⟩) := .ask _ (.done _)
    exact ⟨_, _, said, ((found _ _ _ _ said).2 rfl rfl rfl (by decide)).2 (by decide)⟩

end Engine

end Autopilot
