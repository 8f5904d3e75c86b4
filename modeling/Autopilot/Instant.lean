/-!
Instants: seconds from the start of 1970 in universal time and nanoseconds. The
second before midnight may last two seconds, so the nanoseconds of a leap second
run from one to two thousand million. Differences are whole nanoseconds.
-/

namespace Autopilot

structure Instant where
  second : Int
  nano : Nat
  deriving DecidableEq, Repr, Inhabited

namespace Instant

def le (a b : Instant) : Bool :=
  a.second < b.second || (a.second = b.second && a.nano ≤ b.nano)

def lt (a b : Instant) : Bool := !b.le a

def isLeap (a : Instant) : Bool := 1000000000 ≤ a.nano

/-- Seconds between, not counting those of a leap second that lies inside a day. -/
def wholeSeconds (a b : Instant) : Int :=
  let x := a.second % 86400
  let y := b.second % 86400
  let leap : Int :=
    if y < x then (if b.isLeap then 1 else 0)
    else if x < y then (if a.isLeap then -1 else 0)
    else 0
  a.second - b.second + leap

/-- Nanoseconds from `b` to `a`. -/
def since (a b : Instant) : Int :=
  a.wholeSeconds b * 1000000000 + ((a.nano : Int) - b.nano)

/-- The instant some milliseconds after one that is not in a leap second. -/
def addMillis (a : Instant) (ms : Nat) : Instant :=
  let nano := a.nano + ms * 1000000
  ⟨a.second + nano / 1000000000, nano % 1000000000⟩

end Instant

end Autopilot
