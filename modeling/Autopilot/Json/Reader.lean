import Autopilot.Json

/-!
Reading JSON text. Each reader takes the characters still to come and gives
what it read with the characters after it. A number without point and exponent
is whole if it fits 64 bits; every other number is a double, taken as its
leading digits below `2 ^ 64` times a power of ten.
-/

namespace Autopilot.Json.Reader

def isBlank (c : Char) : Bool := c = ' ' || c = '\n' || c = '\r' || c = '\t'

def skipBlank (text : List Char) : List Char := text.dropWhile isBlank

def digit (c : Char) : Nat := c.toNat - '0'.toNat

/-- Appends digits to `significand` as long as it stays below `2 ^ 64`. -/
def gather (significand : Nat) : List Char → Nat × List Char
  | [] => (significand, [])
  | d :: rest =>
    let next := significand * 10 + digit d
    if next < Nat.pow 2 64 then gather next rest else (significand, d :: rest)

/-- `significand * 10 ^ power`, each rounded to a double on its own. -/
def scale (significand : Nat) (power : Int) : Float :=
  let x := Float.ofNat significand
  if power ≥ 0 then x * Float.ofScientific 1 false power.toNat
  else
    let chunks := (-power).toNat / 309
    let small := (List.replicate (min chunks 3) (Float.ofScientific 1 false 308)).foldl (· / ·) x
    small / Float.ofScientific 1 false ((-power).toNat - chunks * 308)

structure Exponent where
  negative : Bool
  digits : List Char

/-- The exponent part of a number, if there is one. -/
def exponent (text : List Char) : Option (Option Exponent × List Char) :=
  let signed (negative : Bool) (text : List Char) :=
    let (digits, rest) := text.span Char.isDigit
    if digits.isEmpty then none else some (some ⟨negative, digits⟩, rest)
  match text with
  | 'e' :: '-' :: rest | 'E' :: '-' :: rest => signed true rest
  | 'e' :: '+' :: rest | 'E' :: '+' :: rest => signed false rest
  | 'e' :: rest | 'E' :: rest => signed false rest
  | _ => some (none, text)

/-- The digits after the point, if there is a point. -/
def fraction (text : List Char) : Option (Option (List Char) × List Char) :=
  match text with
  | '.' :: rest =>
    let (digits, rest) := rest.span Char.isDigit
    if digits.isEmpty then none else some (some digits, rest)
  | _ => some (none, text)

def assemble (negative : Bool) (whole : List Char) (point : Option (List Char))
    (power : Option Exponent) : Number :=
  let sign (x : Float) : Number := .real (if negative then -x else x)
  let (significand, dropped) := gather 0 whole
  match point, power with
  | none, none =>
    if !dropped.isEmpty then sign (scale significand dropped.length)
    else if !negative then .int significand
    else if significand = 0 || significand > Nat.pow 2 63 then sign (Float.ofNat significand)
    else .int (-significand)
  | _, _ =>
    let digits := point.getD []
    let (significand, unread) := gather significand digits
    let start : Int := (dropped.length : Int) - (digits.length - unread.length : Nat)
    let size : Int := match power with
      | none => 0
      | some e =>
        let n : Int := (gather 0 e.digits).1
        if e.negative then -n else n
    sign (scale significand (start + max (-2147483648) (min size 2147483647)))

def number (text : List Char) : Option (Number × List Char) := do
  let (negative, text) := match text with
    | '-' :: rest => (true, rest)
    | _ => (false, text)
  let (whole, text) := text.span Char.isDigit
  if whole.isEmpty || (whole.length ≠ 1 && whole.head? = some '0') then none
  let (point, text) ← fraction text
  let (power, text) ← exponent text
  return (assemble negative whole point power, text)

def hexDigit? (c : Char) : Option Nat :=
  if c.isDigit then some (digit c)
  else if 'a' ≤ c && c ≤ 'f' then some (c.toNat - 'a'.toNat + 10)
  else if 'A' ≤ c && c ≤ 'F' then some (c.toNat - 'A'.toNat + 10)
  else none

def hex4? (a b c d : Char) : Option Nat := do
  return (((← hexDigit? a) * 16 + (← hexDigit? b)) * 16 + (← hexDigit? c)) * 16 + (← hexDigit? d)

/-- A character of a string after its backslash. -/
def escaped? : Char → Option Char
  | '"' => some '"'
  | '\\' => some '\\'
  | '/' => some '/'
  | 'b' => some '\x08'
  | 'f' => some '\x0c'
  | 'n' => some '\n'
  | 'r' => some '\r'
  | 't' => some '\t'
  | _ => none

/-- The rest of a string after its opening quote; `seen` holds the characters
read so far, last first. -/
def stringTail (seen : List Char) : List Char → Option (String × List Char)
  | '"' :: rest => some (String.ofList seen.reverse, rest)
  | '\\' :: 'u' :: a :: b :: c :: d :: '\\' :: 'u' :: e :: f :: g :: h :: rest => do
    let high ← hex4? a b c d
    let low ← hex4? e f g h
    if 0xD800 ≤ high && high < 0xDC00 then
      if low < 0xDC00 || 0xE000 ≤ low then none
      else stringTail (Char.ofNat (0x10000 + (high - 0xD800) * 0x400 + (low - 0xDC00)) :: seen) rest
    else if 0xDC00 ≤ high && high < 0xE000 then none
    else stringTail (Char.ofNat high :: seen) ('\\' :: 'u' :: e :: f :: g :: h :: rest)
  | '\\' :: 'u' :: a :: b :: c :: d :: rest => do
    let code ← hex4? a b c d
    if 0xD800 ≤ code && code < 0xE000 then none
    else stringTail (Char.ofNat code :: seen) rest
  | '\\' :: c :: rest => do stringTail ((← escaped? c) :: seen) rest
  | c :: rest => if c < ' ' then none else stringTail (c :: seen) rest
  | [] => none
termination_by text => text.length

mutual

/-- Reads one value; `depth` bounds the number of values entered. -/
def value (depth : Nat) (text : List Char) : Option (Json × List Char) :=
  match depth, skipBlank text with
  | 0, _ => none
  | _, 'n' :: 'u' :: 'l' :: 'l' :: rest => some (.null, rest)
  | _, 't' :: 'r' :: 'u' :: 'e' :: rest => some (.bool true, rest)
  | _, 'f' :: 'a' :: 'l' :: 's' :: 'e' :: rest => some (.bool false, rest)
  | _, '"' :: rest => (stringTail [] rest).map fun (s, rest) => (.str s, rest)
  | depth + 1, '[' :: rest =>
    match skipBlank rest with
    | ']' :: rest => some (.arr [], rest)
    | rest => items depth [] rest
  | depth + 1, '\x7b' :: rest =>
    match skipBlank rest with
    | '\x7d' :: rest => some (.obj [], rest)
    | rest => fields depth [] rest
  | _, rest => (number rest).map fun (n, rest) => (.num n, rest)

/-- Reads the items of an array; `seen` holds those before, last first. -/
def items (depth : Nat) (seen : List Json) (text : List Char) : Option (Json × List Char) :=
  match depth with
  | 0 => none
  | depth + 1 => do
    let (item, rest) ← value depth text
    match skipBlank rest with
    | ',' :: rest => items depth (item :: seen) rest
    | ']' :: rest => some (.arr (item :: seen).reverse, rest)
    | _ => none

/-- Reads the fields of an object. -/
def fields (depth : Nat) (seen : List (String × Json)) (text : List Char) :
    Option (Json × List Char) :=
  match depth with
  | 0 => none
  | depth + 1 =>
    match skipBlank text with
    | '"' :: rest => do
      let (name, rest) ← stringTail [] rest
      match skipBlank rest with
      | ':' :: rest =>
        let (item, rest) ← value depth rest
        match skipBlank rest with
        | ',' :: rest => fields depth ((name, item) :: seen) rest
        | '\x7d' :: rest => some (Json.object ((name, item) :: seen).reverse, rest)
        | _ => none
      | _ => none
    | _ => none

end

end Reader

/-- The value written in a text that holds nothing else. -/
def parse? (text : String) : Option Json := do
  let (value, rest) ← Reader.value (2 * text.length + 2) text.toList
  if (Reader.skipBlank rest).isEmpty then return value else none

end Autopilot.Json
