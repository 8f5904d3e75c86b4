import Autopilot.Command.Execution
import Autopilot.Sequence
import Autopilot.Trigger.Poller

/-!
Configurations: settings, and the records that the stores start with. What a
configuration refers to need not exist; only the poller's interval and the ids
within each kind of record are checked.
-/

namespace Autopilot

structure Config where
  logLevel : String := "info"
  poller : PollerSettings := {}
  sessions : List String := []
  triggers : List Trigger := []
  actions : List Action := []
  commands : List Command := []
  sequences : List Sequence := []
  deriving Repr, Inhabited

namespace Config

/-- The kinds of stored records, in the order in which they are checked. -/
inductive Kind where
  | trigger
  | action
  | command
  | sequence
  deriving DecidableEq, Repr, Inhabited

def Kind.name : Kind → String
  | .trigger => "trigger"
  | .action => "action"
  | .command => "command"
  | .sequence => "sequence"

/-- What is wrong with a configuration. -/
inductive Defect where
  | zeroInterval
  | duplicateId (kind : Kind) (id : String)
  deriving DecidableEq, Repr

def Defect.message : Defect → String
  | .zeroInterval =>
    "invalid configuration value for 'poller.interval_ms': must be greater than zero"
  | .duplicateId kind id =>
    s!"configuration validation failed: duplicate {kind.name} id '{id}'"

/-- The first id that occurred before. -/
def firstRepeated (seen : List String) : List String → Option String
  | [] => none
  | id :: rest => if seen.contains id then some id else firstRepeated (id :: seen) rest

def checkIds {α : Type} [Keyed α] (kind : Kind) (records : List α) : Except Defect Unit :=
  match firstRepeated [] (records.map recordId) with
  | some id => .error (.duplicateId kind id)
  | none => .ok ()

def validate (c : Config) : Except Defect Unit := do
  if c.poller.intervalMs = 0 then throw .zeroInterval
  checkIds .trigger c.triggers
  checkIds .action c.actions
  checkIds .command c.commands
  checkIds .sequence c.sequences

def read : Reads Config := fun origin d => do
  let r ← Record.read "struct AutomationConfig" 7 origin d
  (Config.mk <$> r.withDefault 0 ["log_level"] "info" .text
    <*> r.withDefault 1 ["poller"] {} PollerSettings.read
    <*> r.withDefault 2 ["sessions"] [] (.list .text)
    <*> r.withDefault 3 ["triggers"] [] (.list Trigger.read)
    <*> r.withDefault 4 ["actions"] [] (.list Action.read)
    <*> r.withDefault 5 ["commands"] [] (.list Command.read)
    <*> r.withDefault 6 ["sequences"] [] (.list Sequence.read) <* r.only).toExcept

def toJson (c : Config) : Json :=
  .object [("log_level", .str c.logLevel), ("poller", c.poller.toJson),
    ("sessions", .arr (c.sessions.map .str)), ("triggers", .arr (c.triggers.map Trigger.toJson)),
    ("actions", .arr (c.actions.map Action.toJson)),
    ("commands", .arr (c.commands.map Command.toJson)),
    ("sequences", .arr (c.sequences.map Sequence.toJson))]

end Config

end Autopilot
