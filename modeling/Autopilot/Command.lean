import Autopilot.Record

/-!
Commands: steps in order, each of which sends an action or runs another command.
Commands so form a graph; that it has a cycle shows only when it is run.
-/

namespace Autopilot

/-- What a step of a command refers to. -/
inductive Target where
  | action (id : String)
  | command (id : String)
  deriving DecidableEq, Repr, Inhabited

structure CommandStep where
  target : Target
  order : Int := 0
  deriving DecidableEq, Repr, Inhabited

structure Command where
  id : String
  name : String := ""
  triggerId : Option String := none
  steps : List CommandStep := []
  deriving DecidableEq, Repr, Inhabited

namespace CommandStep

def typeVariants : Reads.Variants (String → Target) :=
  [(.action, ["Action", "action"]), (.command, ["Command", "command"])]

def read : Reads CommandStep := fun origin d => do
  let r ← Record.read "struct CommandStep" 3 origin d
  ((fun type id order => ⟨type id, order⟩) <$> r.required 0 ["type"] (.variant typeVariants)
    <*> r.required 1 ["targetId"] .text <*> r.withDefault 2 ["order"] 0 .i32 <* r.only).toExcept

def toJson (s : CommandStep) : Json :=
  let (type, id) := match s.target with
    | .action id => ("Action", id)
    | .command id => ("Command", id)
  .object [("type", .str type), ("targetId", .str id), ("order", .ofInt s.order)]

end CommandStep

namespace Command

/-- A command that bears its id as name. -/
def ofSteps (id : String) (steps : List CommandStep) : Command := { id, name := id, steps }

def withTrigger (c : Command) (triggerId : String) : Command :=
  { c with triggerId := some triggerId }

/-- The steps in ascending order; steps of equal order stay as they are stored. -/
def orderedSteps (c : Command) : List CommandStep :=
  c.steps.mergeSort fun a b => a.order ≤ b.order

def read : Reads Command := fun origin d => do
  let r ← Record.read "struct Command" 4 origin d
  (Command.mk <$> r.required 0 ["id"] .text <*> r.withDefault 1 ["name"] "" .text
    <*> r.optional 2 ["triggerId"] .text
    <*> r.withDefault 3 ["steps"] [] (.list CommandStep.read) <* r.only).toExcept

def toJson (c : Command) : Json :=
  .objectOf [("id", some (.str c.id)), ("name", some (.str c.name)),
    ("triggerId", c.triggerId.map .str),
    ("steps", some (.arr (c.steps.map CommandStep.toJson)))]

end Command

end Autopilot
