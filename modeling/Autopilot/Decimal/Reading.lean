/-!
The double nearest to a decimal number.
-/

namespace Autopilot.Decimal

/-- The double nearest to `digits * 10 ^ power`. Powers beyond all doubles are not
computed. -/
def toFloat (digits : Nat) (power : Int) : Float :=
  let size : Int := (Nat.toDigits 10 digits).length + power
  if digits = 0 || size < -400 then 0.0
  else if 400 < size then 1.0 / 0.0
  else if power < 0 then Float.ofScientific digits true (-power).toNat
  else Float.ofScientific digits false power.toNat

end Autopilot.Decimal
