import Autopilot.Record

/-!
Input events, what a session is sent: keys, touches, text and pauses. On the wire
an event is a record tagged by its kind; as a list it starts with its kind.
-/

namespace Autopilot

inductive KeyMotion where
  | press
  | down
  | up
  deriving DecidableEq, Repr, Inhabited

inductive Input where
  | key (key : String) (motion : KeyMotion)
  | tap (x y : Int)
  | swipe (fromX fromY toX toY : Int) (durationMs : Nat)
  | text (text : String)
  | wait (durationMs : Nat)
  deriving DecidableEq, Repr, Inhabited

namespace KeyMotion

def variants : Reads.Variants KeyMotion :=
  [(.press, ["press"]), (.down, ["down"]), (.up, ["up"])]

def name : KeyMotion → String
  | .press => "press"
  | .down => "down"
  | .up => "up"

/-- Inside a tagged record a motion reads alike in every notation, and its table
may hold an empty table. -/
def read : Reads KeyMotion := fun _ d =>
  match d with
  | .text name => Reads.named variants name
  | .table [(.text name, content)] => do
    let motion ← Reads.named variants name
    match content with
    | .table [] => return motion
    | other => Reads.empty other
    return motion
  | .table _ => .error (.wrongValue .table "map with a single key")
  | other => .error (.wrongType other.shape "string or map")

end KeyMotion

namespace Input

/-- A key pressed and released. -/
def press (key : String) : Input := .key key .press

inductive Kind where
  | key
  | tap
  | swipe
  | text
  | wait
  deriving DecidableEq, Repr

def Kind.variants : Reads.Variants Kind :=
  [(.key, ["key"]), (.tap, ["tap"]), (.swipe, ["swipe"]), (.text, ["text"]), (.wait, ["wait"])]

def Kind.read (d : Datum) : Except Fault Kind :=
  match d.untagged with
  | .text name => Reads.named variants name
  | other => .error (.wrongType other.shape "variant identifier")

mutual

/-- Tags have no place inside a tagged record. -/
def tagFree : Datum → Bool
  | .tagged _ _ => false
  | .list items => tagFreeItems items
  | .table rows => tagFreeRows rows
  | _ => true

def tagFreeItems : List Datum → Bool
  | [] => true
  | item :: rest => tagFree item && tagFreeItems rest

def tagFreeRows : List (Datum × Datum) → Bool
  | [] => true
  | (label, value) :: rest => tagFree label && tagFree value && tagFreeRows rest

end

def tagFault : Fault := .rejected "untagged and internally tagged enums do not support enum input"

/-- The kind among named fields, and the other fields in order. -/
def splitRows (kind : Option Kind) (others : List (Datum × Datum)) :
    List (Datum × Datum) → Except Fault (Kind × List (Datum × Datum))
  | [] => match kind with
    | some kind => .ok (kind, others.reverse)
    | none => .error (.missingField "type")
  | (label, value) :: rest =>
    if label.isText "type" then
      if kind.isSome then .error (.duplicateField "type")
      else do splitRows (some (← Kind.read value)) others rest
    else if tagFree label && tagFree value then splitRows kind ((label, value) :: others) rest
    else .error tagFault

/-- The fields of an event whose kind is known. -/
def readFields (origin : Origin) (kind : Kind) (fields : Fields) : Except Fault Input :=
  let record (name : String) (size : Nat) : Record :=
    ⟨origin, s!"struct variant InputEvent::{name}", size, fields, true⟩
  match kind with
  | .key =>
    let r := record "Key" 2
    (Input.key <$> r.required 0 ["key"] .text
      <*> r.withDefault 1 ["action"] .press KeyMotion.read <* r.only).toExcept
  | .tap =>
    let r := record "Tap" 2
    (Input.tap <$> r.required 0 ["x"] .i32 <*> r.required 1 ["y"] .i32 <* r.only).toExcept
  | .swipe =>
    let r := record "Swipe" 5
    (Input.swipe <$> r.required 0 ["fromX"] .i32 <*> r.required 1 ["fromY"] .i32
      <*> r.required 2 ["toX"] .i32 <*> r.required 3 ["toY"] .i32
      <*> r.withDefault 4 ["durationMs"] 0 .u64 <* r.only).toExcept
  | .text =>
    let r := record "Text" 1
    (Input.text <$> r.required 0 ["text"] .text <* r.only).toExcept
  | .wait =>
    let r := record "Wait" 1
    (Input.wait <$> r.required 0 ["durationMs"] .u64 <* r.only).toExcept

def read : Reads Input := fun origin d =>
  match d with
  | .table rows => do
    let (kind, rows) ← splitRows none [] rows
    readFields origin kind (.named rows)
  | .list [] => .error (.missingField "type")
  | .list (first :: items) => do
    let kind ← Kind.read first
    if tagFreeItems items then readFields origin kind (.listed items) else .error tagFault
  | other => .error (.wrongType other.shape "internally tagged enum InputEvent")

def toJson : Input → Json
  | .key name motion =>
    .object [("type", .str "key"), ("key", .str name), ("action", .str motion.name)]
  | .tap x y => .object [("type", .str "tap"), ("x", .ofInt x), ("y", .ofInt y)]
  | .swipe fromX fromY toX toY durationMs =>
    .object [("type", .str "swipe"), ("fromX", .ofInt fromX), ("fromY", .ofInt fromY),
      ("toX", .ofInt toX), ("toY", .ofInt toY), ("durationMs", .ofNat durationMs)]
  | .text content => .object [("type", .str "text"), ("text", .str content)]
  | .wait durationMs => .object [("type", .str "wait"), ("durationMs", .ofNat durationMs)]

end Input

/-- A named list of input events that are sent in one batch. -/
structure Action where
  id : String
  name : Option String := none
  inputs : List Input := []
  deriving DecidableEq, Repr, Inhabited

namespace Action

def displayName (a : Action) : String := a.name.getD a.id

def hasInputs (a : Action) : Bool := !a.inputs.isEmpty

def read : Reads Action := fun origin d => do
  let r ← Record.read "struct Action" 3 origin d
  (Action.mk <$> r.required 0 ["id"] .text <*> r.optional 1 ["name"] .text
    <*> r.withDefault 2 ["inputs"] [] (.list Input.read) <* r.only).toExcept

def toJson (a : Action) : Json :=
  .objectOf [("id", some (.str a.id)), ("name", a.name.map .str),
    ("inputs", some (.arr (a.inputs.map Input.toJson)))]

end Action

end Autopilot
