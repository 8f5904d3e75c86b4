import Autopilot.Decimal.Shortest

/-!
Decimal text of doubles: the shortest digits, laid out by a record that says
when an exponent is used and how it looks.
-/

namespace Autopilot

/-- How digits become text. A number `d.ddd * 10 ^ e` is written without exponent
when `lowest ≤ e < highest`. -/
structure Decimal.Layout where
  positional : Option (Int × Int)
  pointZero : Bool
  plusSign : Bool
  exponentWidth : Nat
  notANumber : String
  infinity : String

namespace Decimal

/-- Real numbers inside error messages about JSON records. -/
def wire : Layout := ⟨some (-5, 16), true, true, 2, "NaN", "inf"⟩

/-- Real numbers in YAML text. -/
def yaml : Layout := ⟨some (-5, 16), true, false, 1, ".nan", ".inf"⟩

/-- All digits, whatever the size, and no point for a whole number. -/
def plain : Layout := ⟨none, false, false, 1, "NaN", "inf"⟩

def zeros (n : Nat) : String := String.ofList (List.replicate n '0')

/-- Places the point `point` digits after the start of `digits`. -/
def positionalText (layout : Layout) (digits : String) (point : Int) : String :=
  let tail := if layout.pointZero then ".0" else ""
  if point ≤ 0 then "0." ++ zeros (-point).toNat ++ digits
  else if digits.length ≤ point.toNat then digits ++ zeros (point.toNat - digits.length) ++ tail
  else String.ofList (digits.toList.take point.toNat) ++ "." ++
    String.ofList (digits.toList.drop point.toNat)

def exponentText (layout : Layout) (digits : String) (e : Int) : String :=
  let mantissa := match digits.toList with
    | [] => "0"
    | [d] => d.toString
    | d :: rest => d.toString ++ "." ++ String.ofList rest
  let size := toString e.natAbs
  let sign := if e < 0 then "-" else if layout.plusSign then "+" else ""
  mantissa ++ "e" ++ sign ++ zeros (layout.exponentWidth - size.length) ++ size

/-- Text of the positive decimal `digits * 10 ^ power`. -/
def Layout.digits (layout : Layout) (digits : Nat) (power : Int) : String :=
  let text := toString digits
  let e := power + text.length - 1
  match layout.positional with
  | none => positionalText layout text (e + 1)
  | some (lowest, highest) =>
    if lowest ≤ e && e < highest then positionalText layout text (e + 1)
    else exponentText layout text e

def Layout.text (layout : Layout) (x : Float) : String :=
  let bits := x.toBits.toNat
  let size := bits % Nat.pow 2 63
  let sign := if bits ≥ Nat.pow 2 63 then "-" else ""
  if size = 0 then sign ++ (if layout.pointZero then "0.0" else "0")
  else if x.isNaN then layout.notANumber
  else if x.isInf then sign ++ layout.infinity
  else
    let (digits, power) := shortest size
    sign ++ layout.digits digits power

end Decimal

end Autopilot
