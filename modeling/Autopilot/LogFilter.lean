import Autopilot.Text.Blank

/-!
Filters for log lines: directives with commas between them. A directive is a level, a
target, a span with fields in brackets, or one of these with an equals sign and a level.
-/

namespace Autopilot

namespace LogFilter

/-- Why a filter is none. -/
inductive Fault where
  | directive
  | level
  deriving DecidableEq, Repr

def Fault.message : Fault → String
  | .directive => "invalid filter directive"
  | .level => "error parsing level filter: expected one of \"off\", \"error\", \"warn\", " ++
    "\"info\", \"debug\", \"trace\", or a number 0-5"

/-- How far a directive has been read; a name or a level starts at a place. -/
inductive Place where
  | start
  | name (start : Nat)
  | span (start : Nat)
  | field (start : Nat)
  | fields
  | target
  | level (start : Nat)
  deriving DecidableEq, Repr

def levels : List String := ["error", "warn", "info", "debug", "trace", "off"]

/-- A level by name or number, with an absent one among them. -/
def isLevel (text : List Char) : Bool :=
  let digits := match text with
    | '+' :: rest => rest
    | _ => text
  let number := !digits.isEmpty && digits.all Char.isDigit &&
    digits.foldl (fun n c => n * 10 + (c.toNat - '0'.toNat)) 0 ≤ 5
  text.isEmpty || number || levels.contains (String.ofList (text.map Char.toLower))

/-- The characters that a name may start with; every letter outside the basic ones
counts as one. -/
def startsName (c : Char) : Bool :=
  c = '-' || c = ':' || c = '_' || c.isAlphanum || 0x80 ≤ c.toNat

/-- Reads on by the character at a place of the directive. -/
def step (place : Place) (index : Nat) (c : Char) : Except Fault Place :=
  match place, c with
  | .start, '[' => .ok (.span (index + 1))
  | .start, c => if startsName c then .ok (.name index) else .error .directive
  | .name _, '=' => .ok (.level (index + 1))
  | .name _, '[' => .ok (.span (index + 1))
  | .target, '=' => .ok (.level (index + 1))
  | .span _, ']' => .ok .target
  | .span _, '\x7b' => .ok (.field (index + 1))
  | .field start, '\x7d' => if start = index then .error .directive else .ok .fields
  | .fields, ']' => .ok .target
  | .fields, _ => .error .directive
  | .target, _ => .error .directive
  | place, _ => .ok place

def run (place : Place) (index : Nat) : List Char → Except Fault Place
  | [] => .ok place
  | c :: rest => do run (← step place index c) (index + 1) rest

/-- Checks a directive. -/
def checkDirective (text : List Char) : Except Fault Unit := do
  match ← run .start 0 (Text.trim text) with
  | .name _ | .target => return
  | .level start => if isLevel (text.drop start) then return else throw .level
  | _ => throw .directive

/-- The directives between the commas, without empty ones. -/
def directives (text : String) : List (List Char) :=
  (text.splitOn ",").map String.toList |>.filter (!·.isEmpty)

/-- Checks a filter. -/
def check (text : String) : Except Fault Unit := (directives text).forM checkDirective

end LogFilter

end Autopilot
