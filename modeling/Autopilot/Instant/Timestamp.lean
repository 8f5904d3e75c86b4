import Autopilot.Instant
import Autopilot.Instant.Calendar
import Autopilot.Text.Blank

/-!
Timestamps, the text of instants: `2026-01-01T00:00:00.5+02:00`. Reading takes a
blank for the `T`, blanks around the separators, any offset and any number of
fraction digits; writing uses universal time and 0, 3, 6 or 9 fraction digits.
-/

namespace Autopilot

inductive TimestampFault where
  | invalid
  | outOfRange
  | impossible
  | tooShort
  | tooLong
  deriving DecidableEq, Repr

def TimestampFault.message : TimestampFault → String
  | .invalid => "input contains invalid characters"
  | .outOfRange => "input is out of range"
  | .impossible => "no possible date and time matching input"
  | .tooShort => "premature end of input"
  | .tooLong => "trailing input"

namespace Timestamp

open Text Calendar

/-- A reader of some leading characters. -/
abbrev Reader (α : Type) := StateT (List Char) (Except TimestampFault) α

def skipBlanks : Reader Unit := modify trimStart

def separator (c : Char) : Reader Unit := do
  match ← get with
  | [] => throw .tooShort
  | d :: rest => if d = c then set rest else throw .invalid

def digitValue (c : Char) : Nat := c.toNat - '0'.toNat

/-- A number of one to `width` digits. -/
def number (width : Nat) : Reader Nat := do
  let text ← get
  match text with
  | [] => throw .tooShort
  | c :: _ =>
    if !c.isDigit then throw .invalid
    let digits := (text.take width).takeWhile Char.isDigit
    set (text.drop digits.length)
    let n := digits.foldl (fun n c => n * 10 + digitValue c) 0
    if n < Nat.pow 2 63 then return n else throw .outOfRange

def numberIn (low high : Nat) : Reader Nat := do
  skipBlanks
  let n ← number 2
  if low ≤ n && n ≤ high then return n else throw .outOfRange

/-- A year has four digits, or a sign and any number of them. -/
def year : Reader Int := do
  skipBlanks
  let text ← get
  let n : Int ← match text with
    | '-' :: rest => do
      set rest
      pure (-(← number rest.length))
    | '+' :: rest => do
      set rest
      pure (← number rest.length : Nat)
    | _ => pure (← number 4 : Nat)
  if -2147483648 ≤ n && n ≤ 2147483647 then return n else throw .outOfRange

/-- Nanoseconds after the decimal point; digits after the ninth are dropped. -/
def nanoseconds : Reader Nat := do
  match ← get with
  | '.' :: rest =>
    set rest
    let n ← number 9
    let read := rest.length - (← get).length
    modify (·.dropWhile Char.isDigit)
    return n * Nat.pow 10 (9 - read)
  | _ => return 0

def twoDigits (low : Char → Bool) (text : List Char) : Except TimestampFault (Nat × List Char) :=
  match text with
  | [] => throw .tooShort
  | [c] => throw (if c.toNat < 128 then .tooShort else .invalid)
  | a :: b :: rest =>
    if a.isDigit && b.isDigit then
      if low a then return (digitValue a * 10 + digitValue b, rest) else throw .outOfRange
    else throw .invalid

/-- Seconds east of universal time. -/
def offset : Reader Int := do
  let text ← get
  let signed (sign : Int) (rest : List Char) : Reader Int := do
    let (hours, rest) ← twoDigits (fun _ => true) rest
    let rest := rest.dropWhile fun c => c = ':' || isBlank c
    let (minutes, rest) ← twoDigits (fun c => c < '6') rest
    set rest
    return sign * (hours * 3600 + minutes * 60 : Nat)
  match text with
  | u :: t :: c :: rest =>
    if (u = 'U' || u = 'u') && (t = 'T' || t = 't') && (c = 'C' || c = 'c') then
      set rest
      return 0
  | _ => pure ()
  match text with
  | [] => throw .tooShort
  | 'Z' :: rest | 'z' :: rest =>
    set rest
    return 0
  | '+' :: rest => signed 1 rest
  | '-' :: rest | '−' :: rest => signed (-1) rest
  | _ => throw .invalid

structure Fields where
  date : Date
  hour : Nat
  minute : Nat
  second : Nat
  nano : Nat
  offset : Int

def fields : Reader Fields := do
  let year ← year
  skipBlanks
  separator '-'
  let month ← numberIn 1 12
  skipBlanks
  separator '-'
  let day ← numberIn 1 31
  match ← get with
  | [] => throw .tooShort
  | c :: rest => if c = 'T' || c = 't' || c = ' ' then set rest else throw .invalid
  let hour ← numberIn 0 23
  skipBlanks
  separator ':'
  let minute ← numberIn 0 59
  skipBlanks
  separator ':'
  let second ← numberIn 0 60
  let nano ← nanoseconds
  skipBlanks
  let offset ← offset
  if (trimStart (← get)).isEmpty then
    return { date := ⟨year, month, day⟩, hour, minute, second, nano, offset }
  else throw .tooLong

/-- Second 60 is the second half of a leap second. -/
def Fields.toInstant (f : Fields) : Except TimestampFault Instant := do
  if !f.date.valid then throw .outOfRange
  if f.offset ≤ -86400 || 86400 ≤ f.offset then throw .outOfRange
  let leap := f.second = 60
  let seconds := f.hour * 3600 + f.minute * 60 + (if leap then 59 else f.second)
  let total := f.date.toDays * 86400 + seconds - f.offset
  if !yearInRange (Date.ofDays (total.fdiv 86400)).year then throw .impossible
  return ⟨total, f.nano + (if leap then 1000000000 else 0)⟩

end Timestamp

namespace Instant

open Calendar

def ofTimestamp (text : String) : Except TimestampFault Instant := do
  let (fields, _) ← Timestamp.fields.run text.toList
  fields.toInstant

def padded (width n : Nat) : String :=
  let digits := toString n
  String.ofList (List.replicate (width - digits.length) '0') ++ digits

/-- A year of more than four digits or before the year 0 carries its sign. -/
def yearText (year : Int) : String :=
  if 0 ≤ year && year ≤ 9999 then padded 4 year.toNat
  else (if year < 0 then "-" else "+") ++ padded 4 year.natAbs

def fractionText (nano : Nat) : String :=
  if nano = 0 then ""
  else if nano % 1000000 = 0 then "." ++ padded 3 (nano / 1000000)
  else if nano % 1000 = 0 then "." ++ padded 6 (nano / 1000)
  else "." ++ padded 9 nano

def timestamp (a : Instant) : String :=
  let date := Date.ofDays (a.second.fdiv 86400)
  let second := (a.second % 86400).toNat
  let leap := if a.isLeap then 1 else 0
  yearText date.year ++ "-" ++ padded 2 date.month ++ "-" ++ padded 2 date.day ++ "T" ++
    padded 2 (second / 3600) ++ ":" ++ padded 2 (second / 60 % 60) ++ ":" ++
    padded 2 (second % 60 + leap) ++ fractionText (a.nano - leap * 1000000000) ++ "Z"

end Instant

end Autopilot
