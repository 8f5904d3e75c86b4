import Autopilot.Command
import Autopilot.Command.Error

/-!
Operations on triggers as dialogues: a dialogue asks one question after another and
goes on with each answer. Between two questions other operations may run, so what
can be interleaved is exactly what is asked.
-/

namespace Autopilot

inductive Question where
  | isCancelled
  | now
  | triggers
  | trigger (id : String)
  | keep (trigger : Trigger)
  | measure (condition : Condition)
  | session (id : String)
  | command (id : String)
  | execute (sessionId commandId : String)

def Question.Answer : Question → Type
  | .isCancelled => Bool
  | .now => Instant
  | .triggers => Except StoreError (List Trigger)
  | .trigger _ => Except StoreError (Option Trigger)
  | .keep _ => Except StoreError Unit
  | .measure _ => Except ConditionError Measure
  | .session _ => Option Session
  | .command _ => Except StoreError (Option Command)
  | .execute _ _ => Except CommandError Nat

inductive Dialogue (α : Type) where
  | done (value : α)
  | ask (question : Question) (next : question.Answer → Dialogue α)

namespace Dialogue

variable {α β σ : Type}

def bind (d : Dialogue α) (f : α → Dialogue β) : Dialogue β :=
  match d with
  | .done value => f value
  | .ask question next => .ask question fun answer => (next answer).bind f

instance : Monad Dialogue where
  pure := .done
  bind := bind

/-- Asks one question. -/
def request (question : Question) : Dialogue question.Answer := .ask question .done

/-- Carries a dialogue on to its end with someone who answers at once. -/
def run (answer : (question : Question) → StateM σ question.Answer) : Dialogue α → StateM σ α
  | .done value => pure value
  | .ask question next => do
    let reply ← answer question
    (next reply).run answer

end Dialogue

/-- A dialogue that may fail. -/
abbrev Talk (ε α : Type) := ExceptT ε Dialogue α

namespace Talk

variable {ε : Type}

def ask (question : Question) : Talk ε question.Answer :=
  ExceptT.lift (Dialogue.request question)

def isCancelled : Talk ε Bool := ask .isCancelled

def now : Talk ε Instant := ask .now

def triggers : Talk ε (Except StoreError (List Trigger)) := ask .triggers

def trigger (id : String) : Talk ε (Except StoreError (Option Trigger)) := ask (.trigger id)

def keep (t : Trigger) : Talk ε (Except StoreError Unit) := ask (.keep t)

def measure (condition : Condition) : Talk ε (Except ConditionError Measure) :=
  ask (.measure condition)

def session (id : String) : Talk ε (Option Session) := ask (.session id)

def command (id : String) : Talk ε (Except StoreError (Option Command)) := ask (.command id)

def execute (sessionId commandId : String) : Talk ε (Except CommandError Nat) :=
  ask (.execute sessionId commandId)

/-- Fails with the store's error, as `fail` sees it. -/
def orFail {δ α : Type} (fail : δ → ε) : Except δ α → Talk ε α
  | .ok value => pure value
  | .error error => throw (fail error)

end Talk

end Autopilot
