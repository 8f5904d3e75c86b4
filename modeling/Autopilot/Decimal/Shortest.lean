/-!
The fewest decimal digits that read back as a given double. A double stands for
every real that rounds to it; scanning the grids `10 ^ g` from the coarsest to
the finest, the first grid with a point among those reals gives the digits.
-/

namespace Autopilot.Decimal

/-- The reals that round to `mantissa * 2 ^ exponent`, in quarters of its last place. -/
structure Interval where
  low : Nat
  mid : Nat
  high : Nat
  exponent : Int
  closed : Bool

/-- The interval of a positive finite double given by its bits without the sign. -/
def Interval.ofBits (bits : Nat) : Interval :=
  let fraction := bits % Nat.pow 2 52
  let biased := bits / Nat.pow 2 52
  let mantissa := if biased = 0 then fraction else fraction + Nat.pow 2 52
  let exponent : Int := (max biased 1 : Nat) - 1075
  let below := if fraction = 0 ∧ biased > 1 then 1 else 2
  { low := 4 * mantissa - below
    mid := 4 * mantissa
    high := 4 * mantissa + 2
    exponent := exponent - 2
    closed := mantissa % 2 = 0 }

/-- The best point of the grid `10 ^ g` inside the interval, if there is one. -/
def Interval.hit (i : Interval) (g : Int) : Option Nat :=
  let scale := Nat.pow 2 i.exponent.toNat * Nat.pow 10 (-g).toNat
  let unit := Nat.pow 2 (-i.exponent).toNat * Nat.pow 10 g.toNat
  let inside (c : Nat) : Bool :=
    if i.closed then i.low * scale ≤ c * unit && c * unit ≤ i.high * scale
    else i.low * scale < c * unit && c * unit < i.high * scale
  let down := i.mid * scale / unit
  let up := down + 1
  match inside down, inside up with
  | true, false => some down
  | false, true => some up
  | false, false => none
  | true, true =>
    let below := i.mid * scale - down * unit
    let above := up * unit - i.mid * scale
    if below < above then some down
    else if above < below then some up
    else if down % 2 = 0 then some down else some up

/-- Scans `count` grids from `10 ^ g` downwards. -/
def Interval.scan (i : Interval) : Nat → Int → Nat × Int
  | 0, g => (0, g)
  | count + 1, g =>
    match i.hit g with
    | some digits => (digits, g)
    | none => i.scan count (g - 1)

/-- Digits and power of ten of the shortest decimal that reads back as the
positive finite double with these bits. -/
def shortest (bits : Nat) : Nat × Int :=
  let i := Interval.ofBits bits
  let whole := i.high * Nat.pow 2 i.exponent.toNat / Nat.pow 2 (-i.exponent).toNat
  i.scan 700 (if whole = 0 then 0 else (Nat.toDigits 10 whole).length)

end Autopilot.Decimal
