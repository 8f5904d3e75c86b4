import Autopilot.Record

/-!
Sessions, the live devices that inputs are sent to, and what can go wrong in
sending.
-/

namespace Autopilot

inductive SessionState where
  | starting
  | running
  | stopping
  | stopped
  | faulted
  deriving DecidableEq, Repr, Inhabited

structure Session where
  id : String
  state : SessionState
  deriving DecidableEq, Repr, Inhabited

/-- Why a batch of inputs was not delivered. -/
inductive SessionError where
  | notFound (id : String)
  | notRunning (id : String) (state : SessionState)
  | dispatch (reason : String)
  deriving DecidableEq, Repr

namespace SessionState

def variants : Reads.Variants SessionState :=
  [(.starting, ["starting"]), (.running, ["running"]), (.stopping, ["stopping"]),
    (.stopped, ["stopped"]), (.faulted, ["faulted"])]

def name : SessionState → String
  | .starting => "starting"
  | .running => "running"
  | .stopping => "stopping"
  | .stopped => "stopped"
  | .faulted => "faulted"

/-- The name as messages show it. -/
def title : SessionState → String
  | .starting => "Starting"
  | .running => "Running"
  | .stopping => "Stopping"
  | .stopped => "Stopped"
  | .faulted => "Faulted"

def read : Reads SessionState := .variant variants

end SessionState

namespace Session

def running (id : String) : Session := ⟨id, .running⟩

def isRunning (s : Session) : Bool := s.state = .running

def read : Reads Session := fun origin d => do
  let r ← Record.read "struct Session" 2 origin d
  (Session.mk <$> r.required 0 ["id"] .text <*> r.required 1 ["state"] SessionState.read
    <* r.only).toExcept

def toJson (s : Session) : Json :=
  .object [("id", .str s.id), ("state", .str s.state.name)]

end Session

end Autopilot
