import Autopilot.Condition
import Autopilot.Store

/-!
Triggers: stored conditions on time or on the screen, which can be enabled and
disabled and rest for a cooldown after they fire. A trigger keeps its latest
verdict, when it was judged, when it last fired, and since when it is enabled.
-/

namespace Autopilot

namespace Trigger

inductive Status where
  | disabled
  | cooldown
  | pending
  | satisfied
  deriving DecidableEq, Repr, Inhabited

/-- The outcome of judging a trigger. -/
structure Verdict where
  status : Status
  reason : String
  evaluatedAt : Instant
  confidence : Option Float := none
  deriving BEq, Repr, Inhabited

/-- What a trigger on the screen looks for. -/
structure Match where
  targetId : String
  confidenceThreshold : Option Float := none
  mode : Mode := .present
  region : Option Region := none
  language : Option String := none
  deriving BEq, Repr, Inhabited

/-- A trigger holds some time after it was enabled, from an instant on, or when its
target is seen. -/
inductive Kind where
  | delay (seconds : Nat)
  | schedule (time : Instant)
  | imageMatch (target : Match)
  | textMatch (target : Match)
  deriving BEq, Repr, Inhabited

inductive Family where
  | delay
  | schedule
  | imageMatch
  | textMatch
  deriving DecidableEq, Repr, Inhabited

end Trigger

structure Trigger where
  id : String
  name : Option String := none
  kind : Trigger.Kind
  enabled : Bool := true
  cooldownSeconds : Nat := 0
  enabledAt : Option Instant := none
  lastEvaluatedAt : Option Instant := none
  lastFiredAt : Option Instant := none
  lastVerdict : Option Trigger.Verdict := none
  deriving BEq, Repr, Inhabited

inductive TriggerError where
  | invalidConfig (reason : String)
  | notFound (id : String)
  | store (error : StoreError)
  | persistFailed (evaluated : Nat) (failed : List String) (reason : String)
  | cancelled
  deriving DecidableEq, Repr

def TriggerError.message : TriggerError → String
  | .invalidConfig reason => s!"Invalid trigger configuration: {reason}"
  | .notFound id => s!"Trigger not found: {id}"
  | .store error => s!"Repository error: {error.message}"
  | .persistFailed evaluated failed reason =>
    s!"Failed to persist {failed.length} of {evaluated} evaluated triggers: {reason}"
  | .cancelled => "Trigger evaluation cancelled"

namespace Trigger

instance : Keyed Trigger := ⟨Trigger.id⟩

def Kind.family : Kind → Family
  | .delay _ => .delay
  | .schedule _ => .schedule
  | .imageMatch _ => .imageMatch
  | .textMatch _ => .textMatch

def Family.name : Family → String
  | .delay => "delay"
  | .schedule => "schedule"
  | .imageMatch => "imageMatch"
  | .textMatch => "textMatch"

def Family.variants : Reads.Variants Family :=
  [(.delay, ["Delay", "delay"]), (.schedule, ["Schedule", "schedule"]),
    (.imageMatch, ["ImageMatch", "imageMatch", "image_match"]),
    (.textMatch, ["TextMatch", "textMatch", "text_match"])]

def Status.variants : Reads.Variants Status :=
  [(.disabled, ["Disabled"]), (.cooldown, ["Cooldown"]), (.pending, ["Pending"]),
    (.satisfied, ["Satisfied"])]

def Status.name : Status → String
  | .disabled => "Disabled"
  | .cooldown => "Cooldown"
  | .pending => "Pending"
  | .satisfied => "Satisfied"

def ofDelay (id : String) (seconds : Nat) : Trigger := { id, kind := .delay seconds }

def withCooldown (t : Trigger) (seconds : Nat) : Trigger := { t with cooldownSeconds := seconds }

def displayName (t : Trigger) : String := t.name.getD t.id

def family (t : Trigger) : Family := t.kind.family

/-- Images have to match better than texts unless the trigger says otherwise. -/
def defaultThreshold : Source → Float
  | .image => 0.9
  | .text => 0.8

def Match.condition (target : Match) (source : Source) : Condition :=
  { source
    targetId := target.targetId
    mode := target.mode
    confidenceThreshold := some (target.confidenceThreshold.getD (defaultThreshold source))
    region := target.region
    language := target.language }

/-- The condition that a trigger on the screen puts to the evaluator. -/
def Kind.condition? : Kind → Option Condition
  | .imageMatch target => some (target.condition .image)
  | .textMatch target => some (target.condition .text)
  | _ => none

/-- Enabling a disabled trigger forgets since when it was enabled. -/
def enable (t : Trigger) : Trigger :=
  if t.enabled then t else { t with enabled := true, enabledAt := none }

def disable (t : Trigger) : Trigger := { t with enabled := false }

namespace Verdict

def isSatisfied (v : Verdict) : Bool := v.status = .satisfied

def read : Reads Verdict := fun origin d => do
  let r ← Record.read "struct TriggerEvaluationResult" 4 origin d
  (Verdict.mk <$> r.required 0 ["status"] (.variant Status.variants)
    <*> r.required 1 ["reason"] .text <*> r.required 2 ["evaluatedAt"] .instant
    <*> r.optional 3 ["confidence"] .real <* r.only).toExcept

def toJson (v : Verdict) : Json :=
  .objectOf [("status", some (.str v.status.name)), ("reason", some (.str v.reason)),
    ("evaluatedAt", some (.str v.evaluatedAt.timestamp)), ("confidence", v.confidence.map .ofFloat)]

end Verdict

namespace Match

def read : Reads Match := fun origin d => do
  let r ← Record.read "struct MatchParams" 5 origin d
  (Match.mk <$> r.required 0 ["targetId", "imageId", "text"] .text
    <*> r.optional 1 ["confidenceThreshold", "threshold"] .real
    <*> r.withDefault 2 ["mode"] .present (.variant Mode.variants)
    <*> r.optional 3 ["region"] Region.read <*> r.optional 4 ["language"] .text
    <* r.only).toExcept

def toJson (target : Match) : Json :=
  .objectOf [("targetId", some (.str target.targetId)),
    ("confidenceThreshold", target.confidenceThreshold.map .ofFloat),
    ("mode", some (.str target.mode.name)), ("region", target.region.map Region.toJson),
    ("language", target.language.map .str)]

end Match

namespace Kind

def readSeconds : Reads Nat := fun origin d => do
  let r ← Record.read "struct DelayParams" 1 origin d
  (r.withDefault 0 ["seconds"] 0 .u64 <* r.only).toExcept

def readTime : Reads Instant := fun origin d => do
  let r ← Record.read "struct ScheduleParams" 1 origin d
  (r.required 0 ["at", "time", "timestamp"] .instant <* r.only).toExcept

/-- Parameters that are absent are an empty record. -/
def ofParams (family : Family) (params : Json) : Except Fault Kind :=
  let d := if params.isNull then .table [] else Datum.ofJson params
  match family with
  | .delay => (readSeconds .json d).map .delay
  | .schedule => (readTime .json d).map .schedule
  | .imageMatch => (Match.read .json d).map .imageMatch
  | .textMatch => (Match.read .json d).map .textMatch

def params : Kind → Json
  | .delay seconds => .object [("seconds", .ofNat seconds)]
  | .schedule time => .object [("at", .str time.timestamp)]
  | .imageMatch target => target.toJson
  | .textMatch target => target.toJson

end Kind

/-- The fields of a trigger as they are written. -/
structure Wire where
  id : String
  name : Option String
  family : Family
  enabled : Bool
  cooldownSeconds : Nat
  params : Json
  enabledAt : Option Instant
  lastEvaluatedAt : Option Instant
  lastFiredAt : Option Instant
  lastVerdict : Option Verdict

def Wire.read : Reads Wire := fun origin d => do
  let r ← Record.read "struct TriggerRecord" 10 origin d
  (Wire.mk <$> r.required 0 ["id"] .text <*> r.optional 1 ["name"] .text
    <*> r.required 2 ["type"] (.variant Family.variants)
    <*> r.withDefault 3 ["enabled"] true .bool <*> r.withDefault 4 ["cooldownSeconds"] 0 .u64
    <*> r.withDefault 5 ["params"] .null .json <*> r.optional 6 ["enabledAt"] .instant
    <*> r.optional 7 ["lastEvaluatedAt"] .instant <*> r.optional 8 ["lastFiredAt"] .instant
    <*> r.optional 9 ["lastResult"] Verdict.read <* r.only).toExcept

/-- A trigger has an id that is not blank, and parameters of its kind. -/
def ofWire (wire : Wire) : Except TriggerError Trigger := do
  if Text.allBlank wire.id then throw (.invalidConfig "trigger id is empty")
  let kind ← (Kind.ofParams wire.family wire.params).mapError fun fault =>
    .invalidConfig s!"{wire.family.name}: {fault.message .json}"
  return {
    id := wire.id
    name := wire.name
    kind
    enabled := wire.enabled
    cooldownSeconds := wire.cooldownSeconds
    enabledAt := wire.enabledAt
    lastEvaluatedAt := wire.lastEvaluatedAt
    lastFiredAt := wire.lastFiredAt
    lastVerdict := wire.lastVerdict }

def read : Reads Trigger := fun origin d => do
  let wire ← Wire.read origin d
  (ofWire wire).mapError fun error => .rejected error.message

def toJson (t : Trigger) : Json :=
  .objectOf [("id", some (.str t.id)), ("name", t.name.map .str),
    ("type", some (.str t.family.name)), ("enabled", some (.bool t.enabled)),
    ("cooldownSeconds", some (.ofNat t.cooldownSeconds)), ("params", some t.kind.params),
    ("enabledAt", t.enabledAt.map fun time => .str time.timestamp),
    ("lastEvaluatedAt", t.lastEvaluatedAt.map fun time => .str time.timestamp),
    ("lastFiredAt", t.lastFiredAt.map fun time => .str time.timestamp),
    ("lastResult", t.lastVerdict.map Verdict.toJson)]

end Trigger

end Autopilot
