import Autopilot.Datum
import Autopilot.Decimal.Reading

/-!
What plain scalars stand for: nothing, truth values, numbers, and else text. Whole
numbers may be written in base 2, 8, 10 or 16; digits after a leading zero are text.
A whole number that fits no word of 64 bits but one of 128 is refused.
-/

namespace Autopilot.Yaml.Schema

def isNull (text : String) : Bool := ["null", "Null", "NULL", "~"].contains text

def bool? (text : String) : Option Bool :=
  if ["true", "True", "TRUE"].contains text then some true
  else if ["false", "False", "FALSE"].contains text then some false
  else none

def digit? (base : Nat) (c : Char) : Option Nat := do
  let value ←
    if '0' ≤ c && c ≤ '9' then some (c.toNat - '0'.toNat)
    else if 'a' ≤ c && c ≤ 'f' then some (c.toNat - 'a'.toNat + 10)
    else if 'A' ≤ c && c ≤ 'F' then some (c.toNat - 'A'.toNat + 10)
    else none
  if value < base then some value else none

/-- The number that digits denote; there has to be one at least. -/
def natural? (base : Nat) (digits : List Char) : Option Nat :=
  if digits.isEmpty then none
  else digits.foldlM (fun n c => return n * base + (← digit? base c)) 0

/-- A zero and more digits. -/
def isPadded : List Char → Bool
  | '0' :: rest => !rest.isEmpty && rest.all Char.isDigit
  | _ => false

/-- A number without sign, in any base. -/
def magnitude? (text : List Char) : Option Nat :=
  match text with
  | '0' :: 'x' :: digits => natural? 16 digits
  | '0' :: 'o' :: digits => natural? 8 digits
  | '0' :: 'b' :: digits => natural? 2 digits
  | digits => if isPadded digits then none else natural? 10 digits

def int? (text : List Char) : Option Int :=
  match text with
  | '-' :: rest => (magnitude? rest).map fun n => -(n : Int)
  | '+' :: rest => (magnitude? rest).map Int.ofNat
  | text => (magnitude? text).map Int.ofNat

/-- The parts of a decimal: the digits before and after the point, and the exponent. -/
structure Parts where
  whole : List Char
  fraction : List Char
  exponent : Int

def exponent? : List Char → Option Int
  | [] => some 0
  | 'e' :: rest | 'E' :: rest =>
    match rest with
    | '-' :: digits => (natural? 10 digits).map fun n => -(n : Int)
    | '+' :: digits => (natural? 10 digits).map Int.ofNat
    | digits => (natural? 10 digits).map Int.ofNat
  | _ => none

/-- A decimal has a digit before or after its point. -/
def parts? (text : List Char) : Option Parts := do
  let (whole, rest) := text.span Char.isDigit
  let (fraction, rest) := match rest with
    | '.' :: rest => rest.span Char.isDigit
    | rest => ([], rest)
  if whole.isEmpty && fraction.isEmpty then none
  return ⟨whole, fraction, ← exponent? rest⟩

def Parts.toFloat (p : Parts) : Float :=
  let digits := (p.whole ++ p.fraction).foldl (fun n c => n * 10 + (c.toNat - '0'.toNat)) 0
  Decimal.toFloat digits (p.exponent - p.fraction.length)

/-- A decimal without sign that is not beyond all doubles. -/
def decimal? (text : List Char) : Option Float := do
  let x := (← parts? text).toFloat
  if x.isInf then none else return x

def isInfinity (text : List Char) : Bool :=
  [".inf", ".Inf", ".INF"].contains (String.ofList text)

def real? (text : List Char) : Option Float :=
  let magnitude? (text : List Char) : Option Float :=
    if isInfinity text then some (1.0 / 0.0) else decimal? text
  match text with
  | '-' :: rest => (magnitude? rest).map fun x => -x
  | '+' :: rest => magnitude? rest
  | text =>
    if [".nan", ".NaN", ".NAN"].contains (String.ofList text) then some (0.0 / 0.0)
    else magnitude? text

/-- Whether a whole number fits a signed or an unsigned word of so many bits. -/
def fits (bits : Nat) (n : Int) : Bool :=
  if n < 0 then n.natAbs ≤ Nat.pow 2 (bits - 1) else n.natAbs < Nat.pow 2 bits

/-- Digits after a leading zero, with or without a sign. -/
def isPaddedNumber : List Char → Bool
  | '-' :: rest | '+' :: rest => isPadded rest
  | text => isPadded text

/-- What a plain scalar stands for; nothing at all if it is refused. -/
def plain? (text : String) : Option Datum :=
  let chars := text.toList
  if text.isEmpty || isNull text then some .null
  else match bool? text, (int? chars).filter (fits 128) with
    | some b, _ => some (.bool b)
    | none, some n => if fits 64 n then some (.int n) else none
    | none, none =>
      if isPaddedNumber chars then some (.text text)
      else match real? chars with
        | some x => some (.real x)
        | none => some (.text text)

def standardTag (name : String) : String := "tag:yaml.org,2002:" ++ name

/-- A number that a tag asks for. -/
def tagged? (text : String) (tag : String) : Option Datum :=
  if tag = standardTag "bool" then (bool? text).map .bool
  else if tag = standardTag "int" then
    ((int? text.toList).filter (fits 64)).map .int
  else if tag = standardTag "float" then (real? text.toList).map .real
  else if tag = standardTag "null" then if isNull text then some .null else none
  else some (.text text)

end Autopilot.Yaml.Schema
