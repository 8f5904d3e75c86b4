import Autopilot.Sequence.Step
import Autopilot.Store

/-!
Sequences: steps in order, then control blocks. Blocks are kept as they are
written, so that a malformed block fails alone when it is run.
-/

namespace Autopilot

structure Sequence where
  id : String
  name : Option String := none
  steps : List Step := []
  blocks : List Json := []
  deriving BEq, Repr, Inhabited

namespace Sequence

instance : Keyed Sequence := ⟨Sequence.id⟩

def displayName (s : Sequence) : String := s.name.getD s.id

/-- The steps in ascending order; steps of equal order stay as they are declared. -/
def orderedSteps (s : Sequence) : List Step :=
  s.steps.mergeSort fun a b => a.order ≤ b.order

def read : Reads Sequence := fun origin d => do
  let r ← Record.read "struct Sequence" 4 origin d
  (Sequence.mk <$> r.required 0 ["id"] .text <*> r.optional 1 ["name"] .text
    <*> r.withDefault 2 ["steps"] [] (.list Step.read)
    <*> r.withDefault 3 ["blocks"] [] (.list .json) <* r.only).toExcept

def toJson (s : Sequence) : Json :=
  .objectOf [("id", some (.str s.id)), ("name", s.name.map .str),
    ("steps", some (.arr (s.steps.map Step.toJson))), ("blocks", some (.arr s.blocks))]

end Sequence

end Autopilot
