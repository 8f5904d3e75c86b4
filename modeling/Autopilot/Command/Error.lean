import Autopilot.Session
import Autopilot.Trigger

/-!
What can go wrong when commands are run.
-/

namespace Autopilot

/-- The things that a command refers to. -/
inductive Referent where
  | session
  | command
  | trigger
  | action
  deriving DecidableEq, Repr

def Referent.title : Referent → String
  | .session => "Session"
  | .command => "Command"
  | .trigger => "Trigger"
  | .action => "Action"

inductive CommandError where
  | notFound (what : Referent) (id : String)
  | invalidState (id : String) (state : SessionState)
  | cycle (id : String) (path : List String)
  | dispatch (reason : String)
  | store (error : StoreError)
  | trigger (error : TriggerError)
  | cancelled
  deriving DecidableEq, Repr

namespace CommandError

def message : CommandError → String
  | .notFound what id => s!"{what.title} not found: {id}"
  | .invalidState id state => s!"Session {id} is not running (state: {state.title})"
  | .cycle id path =>
    let trail := " -> ".intercalate path
    s!"Cycle detected at command {id} (path: {trail})"
  | .dispatch reason => s!"Input dispatch failed: {reason}"
  | .store error => s!"Repository error: {error.message}"
  | .trigger error => s!"Trigger error: {error.message}"
  | .cancelled => "Command execution cancelled"

def ofTrigger : TriggerError → CommandError
  | .cancelled => .cancelled
  | error => .trigger error

def ofSession : SessionError → CommandError
  | .notFound id => .notFound .session id
  | .notRunning id state => .invalidState id state
  | .dispatch reason => .dispatch reason

end CommandError

end Autopilot
