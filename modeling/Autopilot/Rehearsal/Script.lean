import Autopilot.Json
import Autopilot.Sequence.Run

/-!
Scripts for rehearsals: for each key a list of answers, taken one by one; the last
answer is given again and again. An answer may take time, may cancel the request,
and may be an error.
-/

namespace Autopilot.Rehearsal

/-- One answer of a script, taken apart. -/
structure Cue where
  sleepMs : Nat := 0
  cancels : Bool := false
  error : Option (String × String) := none
  answer : Json := .null
  deriving Repr, Inhabited

def Cue.ofAnswer (answer : Json) : Cue :=
  { sleepMs := ((answer.get? "sleepMs").bind Json.nat?).getD 0
    cancels := ((answer.get? "cancel").bind Json.bool?).getD false
    error := ((answer.get? "error").bind Json.str?).map fun kind =>
      (kind, ((answer.get? "message").bind Json.str?).getD "")
    answer }

/-- Answers by key, and the cue for a key that has none. -/
structure Script where
  answers : List (String × List Json) := []
  otherwise : String → Cue := fun _ => {}

namespace Script

def next (script : Script) (name : String) : Cue × Script :=
  match script.answers.lookup name with
  | none | some [] => (script.otherwise name, script)
  | some [last] => (.ofAnswer last, script)
  | some (answer :: rest) =>
    (.ofAnswer answer, { script with
      answers := script.answers.map fun (key, answers) =>
        if key = name then (key, rest) else (key, answers) })

end Script

namespace Cue

/-- A measurement: `true`, a confidence, or a record of both. -/
def measure (cue : Cue) : Except ConditionError Measure :=
  match cue.error with
  | some (kind, reason) =>
    .error (match kind with
      | "Invalid" => .invalid reason
      | "TargetNotFound" => .targetNotFound reason
      | "Unavailable" => .unavailable reason
      | "Cancelled" => .cancelled
      | _ => .failed reason)
  | none =>
    match cue.answer with
    | .bool true => .ok (.seen 1.0)
    | .num n => .ok (match n with
      | .int n => .seen (.ofInt n)
      | .real x => .seen x)
    | .obj _ => .ok
        { found := ((cue.answer.get? "found").bind Json.bool?).getD false
          confidence := (cue.answer.get? "confidence").bind Json.float? }
    | _ => .ok .missing

/-- The error of a command or a gate on behalf of a command. -/
def failure (cue : Cue) (commandId : String) : Option RunError :=
  cue.error.map fun (kind, reason) =>
    match kind with
    | "Cancelled" => .cancelled
    | "Condition" => .condition (.failed reason)
    | "Repository" => .store (.notFound reason)
    | _ => .command commandId reason

def command (cue : Cue) (commandId : String) : Except RunError Unit :=
  match cue.failure commandId with
  | some error => .error error
  | none => .ok ()

/-- A gate is open if the answer is `true` or a record that says so. -/
def gate (cue : Cue) (commandId : String) : Except RunError Bool :=
  match cue.failure commandId with
  | some error => .error error
  | none =>
    match cue.answer with
    | .bool isOpen => .ok isOpen
    | answer => .ok (((answer.get? "open").bind Json.bool?).getD false)

end Cue

end Autopilot.Rehearsal
