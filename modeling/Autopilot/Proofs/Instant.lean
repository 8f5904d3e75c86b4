import Autopilot.Instant

/-!
Differences of instants. Leap seconds make them uneven: of two spans that follow each
other, the sum can be off from the whole by as much as one second.
-/

namespace Autopilot.Instant

/-- The second that a leap second adds to a difference, or takes from it. -/
def leapBetween (a b : Instant) : Int := a.wholeSeconds b - (a.second - b.second)

theorem since_eq (a b : Instant) :
    a.since b = (a.second - b.second + a.leapBetween b) * 1000000000 + ((a.nano : Int) - b.nano) := by
  unfold since leapBetween
  omega

/-- A leap second adds one second to a difference, or takes it away. -/
theorem leapBetween_bounds (a b : Instant) : -1 ≤ a.leapBetween b ∧ a.leapBetween b ≤ 1 := by
  unfold leapBetween wholeSeconds
  dsimp only
  split
  · split <;> omega
  · split
    · split <;> omega
    · omega

/-- Two leap seconds do not add up. -/
theorem leapBetween_add_le (a b c : Instant) :
    a.leapBetween b + b.leapBetween c ≤ a.leapBetween c + 1 := by
  unfold leapBetween wholeSeconds
  dsimp only
  generalize a.second % 86400 = x
  generalize b.second % 86400 = y
  generalize c.second % 86400 = z
  -- What matters are the times of day and which of the seconds are leap seconds.
  cases a.isLeap <;> cases b.isLeap <;> cases c.isLeap <;>
    simp only [if_true, Bool.false_eq_true, if_false] <;> grind

/-- Two spans that follow each other are together at most a second longer than the whole. -/
theorem since_add_le (a b c : Instant) : a.since b + b.since c ≤ a.since c + 1000000000 := by
  have leap := leapBetween_add_le a b c
  rw [since_eq, since_eq, since_eq]
  omega

/-! ## Without leap seconds -/

theorem since_of_ordinary {a b : Instant} (first : a.isLeap = false) (second : b.isLeap = false) :
    a.since b = (a.second - b.second) * 1000000000 + ((a.nano : Int) - b.nano) := by
  have even : a.wholeSeconds b = a.second - b.second := by
    unfold wholeSeconds
    simp only [first, second, Bool.false_eq_true, if_false, ite_self, Int.add_zero]
  unfold since
  rw [even]

/-- Where there are no leap seconds, a later instant is further away from an instant. -/
theorem since_le_since {a b : Instant} (later : a.le b = true) (first : a.isLeap = false)
    (second : b.isLeap = false) {start : Instant} (ordinary : start.isLeap = false) :
    a.since start ≤ b.since start := by
  rw [since_of_ordinary first ordinary, since_of_ordinary second ordinary]
  simp only [isLeap, decide_eq_false_iff_not] at first second
  simp only [le, Bool.or_eq_true, Bool.and_eq_true, decide_eq_true_eq] at later
  omega

theorem le_trans {a b c : Instant} (first : a.le b = true) (second : b.le c = true) :
    a.le c = true := by
  simp only [le, Bool.or_eq_true, Bool.and_eq_true, decide_eq_true_eq] at first second ⊢
  omega

end Autopilot.Instant
