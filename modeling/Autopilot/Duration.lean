/-!
Durations: whole nanoseconds, with the seconds in a word of 64 bits. What would exceed
the longest duration stops there, but milliseconds are told in a word of their own.
-/

namespace Autopilot

structure Duration where
  nanos : Nat
  fits : nanos < 18446744073709551616 * 1000000000
  deriving DecidableEq, Repr

namespace Duration

def ofMillis (ms : UInt64) : Duration :=
  ⟨ms.toNat * 1000000, by
    have := ms.toNat_lt
    omega⟩

/-- Whole milliseconds. -/
def wholeMillis (d : Duration) : Nat := d.nanos / 1000000

/-- Whole milliseconds, without what a word of 64 bits has no room for. -/
def millis (d : Duration) : Nat := d.wholeMillis % 18446744073709551616

/-- Multiplication that stops at the longest duration. -/
def saturatingMul (d : Duration) (factor : Nat) : Duration :=
  ⟨min (d.nanos * factor) (18446744073709551616 * 1000000000 - 1), by omega⟩

def shorter (a b : Duration) : Duration :=
  ⟨min a.nanos b.nanos, Nat.lt_of_le_of_lt (Nat.min_le_left _ _) a.fits⟩

def longer (a b : Duration) : Duration := ⟨max a.nanos b.nanos, Nat.max_lt.2 ⟨a.fits, b.fits⟩⟩

end Duration

end Autopilot
