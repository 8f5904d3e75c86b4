import Autopilot.Record

/-!
Conditions: an image or a text that has to be on the screen, or has to be gone.
A condition only says what to look for; a measurement says what was seen, and
`Condition.satisfiedBy` what the measurement means for the condition.
-/

namespace Autopilot

inductive Source where
  | image
  | text
  deriving DecidableEq, Repr, Inhabited

inductive Mode where
  | present
  | absent
  deriving DecidableEq, Repr, Inhabited

/-- A part of the screen, in pixels. -/
structure Region where
  x : Int
  y : Int
  width : Nat
  height : Nat
  deriving DecidableEq, Repr, Inhabited

structure Condition where
  source : Source
  targetId : String
  mode : Mode := .present
  confidenceThreshold : Option Float := none
  region : Option Region := none
  language : Option String := none
  deriving BEq, Repr, Inhabited

/-- What was seen of a condition's target. -/
structure Measure where
  found : Bool
  confidence : Option Float := none
  deriving BEq, Repr, Inhabited

/-- Why a condition could not be measured. -/
inductive ConditionError where
  | invalid (reason : String)
  | targetNotFound (target : String)
  | unavailable (reason : String)
  | failed (reason : String)
  | cancelled
  deriving DecidableEq, Repr

def ConditionError.message : ConditionError → String
  | .invalid reason => s!"Invalid condition: {reason}"
  | .targetNotFound target => s!"Condition target not found: {target}"
  | .unavailable reason => s!"Condition evaluator unavailable: {reason}"
  | .failed reason => s!"Condition evaluation failed: {reason}"
  | .cancelled => "Condition evaluation cancelled"

def Source.variants : Reads.Variants Source :=
  [(.image, ["IMAGE", "Image", "image"]), (.text, ["TEXT", "Text", "text"])]

def Source.name : Source → String
  | .image => "Image"
  | .text => "Text"

def Mode.variants : Reads.Variants Mode :=
  [(.present, ["Present", "present"]), (.absent, ["Absent", "absent"])]

def Mode.name : Mode → String
  | .present => "Present"
  | .absent => "Absent"

namespace Region

def read : Reads Region := fun origin d => do
  let r ← Record.read "struct Region" 4 origin d
  (Region.mk <$> r.required 0 ["x"] .i32 <*> r.required 1 ["y"] .i32
    <*> r.required 2 ["width"] .u32 <*> r.required 3 ["height"] .u32 <* r.only).toExcept

def toJson (r : Region) : Json :=
  .object [("x", .ofInt r.x), ("y", .ofInt r.y), ("width", .ofNat r.width),
    ("height", .ofNat r.height)]

end Region

namespace Measure

/-- A match with a confidence. -/
def seen (confidence : Float) : Measure := ⟨true, some confidence⟩

/-- No match. -/
def missing : Measure := ⟨false, none⟩

def read : Reads Measure := fun origin d => do
  let r ← Record.read "struct ConditionMeasure" 2 origin d
  (Measure.mk <$> r.required 0 ["found"] .bool <*> r.nullable 1 ["confidence"] .real
    <* r.only).toExcept

def toJson (m : Measure) : Json :=
  .object [("found", .bool m.found), ("confidence", m.confidence.elim .null .ofFloat)]

end Measure

namespace Condition

/-- The condition that a target is there. -/
def present (source : Source) (targetId : String) : Condition := { source, targetId }

/-- The condition that a target is gone. -/
def absent (source : Source) (targetId : String) : Condition :=
  { source, targetId, mode := .absent }

def withThreshold (c : Condition) (threshold : Float) : Condition :=
  { c with confidenceThreshold := some threshold }

def withRegion (c : Condition) (region : Region) : Condition :=
  { c with region := some region }

/-- Confidences lie between 0 and 1. -/
def isConfidence (x : Float) : Bool := 0.0 ≤ x && x ≤ 1.0

/-- What is wrong with a condition that names no target or has a threshold that no
confidence can meet or miss. -/
def validate (c : Condition) : Except ConditionError Unit :=
  if Text.allBlank c.targetId then .error (.invalid "targetId is empty")
  else match c.confidenceThreshold with
    | none => .ok ()
    | some threshold =>
      if isConfidence threshold then .ok ()
      else .error (.invalid
        s!"confidenceThreshold {Decimal.plain.text threshold} is outside 0..=1")

/-- A threshold counts only when the measurement has a confidence. -/
def meets (c : Condition) (m : Measure) : Bool :=
  match c.confidenceThreshold, m.confidence with
  | some threshold, some confidence => m.found && threshold ≤ confidence
  | _, _ => m.found

def satisfiedBy (c : Condition) (m : Measure) : Bool :=
  match c.mode with
  | .present => c.meets m
  | .absent => !c.meets m

def read : Reads Condition := fun origin d => do
  let r ← Record.read "struct Condition" 6 origin d
  (Condition.mk <$> r.required 0 ["source"] (.variant Source.variants)
    <*> r.required 1 ["targetId"] .text
    <*> r.withDefault 2 ["mode"] .present (.variant Mode.variants)
    <*> r.optional 3 ["confidenceThreshold"] .real
    <*> r.optional 4 ["region"] Region.read
    <*> r.optional 5 ["language"] .text <* r.only).toExcept

def toJson (c : Condition) : Json :=
  .objectOf [("source", some (.str c.source.name)), ("targetId", some (.str c.targetId)),
    ("mode", some (.str c.mode.name)),
    ("confidenceThreshold", c.confidenceThreshold.map .ofFloat),
    ("region", c.region.map Region.toJson), ("language", c.language.map .str)]

/-- Reads a condition and validates it. -/
def ofDatum (d : Datum) : Except ConditionError Condition := do
  let c ← (read .json d).mapError fun fault => .invalid (fault.message .json)
  c.validate
  return c

end Condition

end Autopilot
