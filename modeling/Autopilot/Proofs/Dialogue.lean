import Autopilot.Dialogue
import Autopilot.Proofs.Store

/-!
What is said in a dialogue. A path lists questions with their answers; a trace is a
path from the start of a dialogue to its end. A shelf of triggers answers the
questions about triggers and takes in what is stored, one exchange after another, so
paths of several dialogues can be followed in any order.
-/

namespace Autopilot

/-- A question and the answer to it. -/
structure Exchange where
  question : Question
  answer : question.Answer

/-- A dialogue carried on to its end, with any answers. -/
inductive Trace {α : Type} : Dialogue α → List Exchange → α → Prop where
  | done (value : α) : Trace (.done value) [] value
  | ask {question : Question} {next : question.Answer → Dialogue α} (answer : question.Answer)
      {path : List Exchange} {value : α} (later : Trace (next answer) path value) :
      Trace (.ask question next) (⟨question, answer⟩ :: path) value

section Trace

variable {α β : Type}

/-- What is said in two dialogues, one after the other. -/
theorem Trace.of_bind {d : Dialogue α} {f : α → Dialogue β} {path : List Exchange} {value : β}
    (said : Trace (d.bind f) path value) :
    ∃ first middle rest, path = first ++ rest ∧ Trace d first middle ∧ Trace (f middle) rest value := by
  induction d generalizing path with
  | done middle => exact ⟨[], middle, path, rfl, .done middle, said⟩
  | ask question next ih =>
    cases said with
    | ask answer said =>
      obtain ⟨first, middle, rest, rfl, before, later⟩ := ih answer said
      exact ⟨⟨question, answer⟩ :: first, middle, rest, rfl, .ask answer before, later⟩

theorem Trace.of_done {value other : α} {path : List Exchange}
    (said : Trace (.done value) path other) : path = [] ∧ other = value := by
  cases said
  exact ⟨rfl, rfl⟩

end Trace

namespace Talk

variable {α β ε : Type}

theorem trace_pure {value : α} {path : List Exchange} {outcome : Except ε α}
    (said : Trace (pure value : Talk ε α).run path outcome) : path = [] ∧ outcome = .ok value :=
  Trace.of_done said

theorem trace_throw {error : ε} {path : List Exchange} {outcome : Except ε α}
    (said : Trace (throw error : Talk ε α).run path outcome) :
    path = [] ∧ outcome = .error error :=
  Trace.of_done said

/-- A talk goes on after its first part, unless that fails. -/
theorem trace_bind {part : Talk ε α} {next : α → Talk ε β} {path : List Exchange}
    {outcome : Except ε β} (said : Trace (part >>= next).run path outcome) :
    (∃ first value rest, path = first ++ rest ∧ Trace part.run first (.ok value) ∧
      Trace (next value).run rest outcome) ∨
    (∃ error, Trace part.run path (.error error) ∧ outcome = .error error) := by
  obtain ⟨first, middle, rest, rfl, before, later⟩ := Trace.of_bind said
  cases middle with
  | ok value => exact .inl ⟨first, value, rest, rfl, before, later⟩
  | error error =>
    obtain ⟨rfl, rfl⟩ := Trace.of_done later
    rw [List.append_nil]
    exact .inr ⟨error, before, rfl⟩

theorem trace_ask {question : Question} {next : question.Answer → Talk ε α}
    {path : List Exchange} {outcome : Except ε α}
    (said : Trace (ask question >>= next).run path outcome) :
    ∃ answer rest, path = ⟨question, answer⟩ :: rest ∧ Trace (next answer).run rest outcome := by
  cases said with
  | ask answer later => exact ⟨answer, _, rfl, later⟩

theorem trace_orFail {δ : Type} {fail : δ → ε} {answer : Except δ α} {path : List Exchange}
    {outcome : Except ε α} (said : Trace (orFail fail answer).run path outcome) :
    path = [] ∧ outcome = answer.mapError fail := by
  cases answer with
  | ok value => exact trace_pure said
  | error error => exact trace_throw said

end Talk

/-! ## Triggers on a shelf -/

namespace Exchange

/-- The trigger that an exchange stores. -/
def stored? : Exchange → Option Trigger
  | ⟨.keep t, answer⟩ =>
    match (answer : Except StoreError Unit) with
    | .ok () => some t
    | .error _ => none
  | _ => none

/-- The stored triggers that an exchange tells of. -/
def told : Exchange → List Trigger
  | ⟨.triggers, answer⟩ =>
    match (answer : Except StoreError (List Trigger)) with
    | .ok triggers => triggers
    | .error _ => []
  | ⟨.trigger _, answer⟩ =>
    match (answer : Except StoreError (Option Trigger)) with
    | .ok (some t) => [t]
    | _ => []
  | _ => []

/-- Whether an exchange asks for stored triggers. -/
def isReading : Exchange → Bool
  | ⟨.triggers, _⟩ => true
  | ⟨.trigger _, _⟩ => true
  | _ => false

/-- A shelf answers for the triggers on it, in any order, unless it refuses to. -/
def AnsweredBy (shelf : Shelf Trigger) : Exchange → Prop
  | ⟨.triggers, answer⟩ => ∀ triggers, answer = .ok triggers → triggers.Perm shelf.records
  | ⟨.trigger id, answer⟩ => ∀ found, answer = .ok found → found = shelf.get? id
  | _ => True

end Exchange

namespace Shelf

/-- The shelf after an exchange. -/
def next (shelf : Shelf Trigger) (exchange : Exchange) : Shelf Trigger :=
  match exchange.stored? with
  | some t => shelf.insert t
  | none => shelf

def after (shelf : Shelf Trigger) (path : List Exchange) : Shelf Trigger := path.foldl next shelf

@[simp] theorem after_nil (shelf : Shelf Trigger) : shelf.after [] = shelf := rfl

@[simp] theorem after_cons (shelf : Shelf Trigger) (exchange : Exchange) (path : List Exchange) :
    shelf.after (exchange :: path) = (shelf.next exchange).after path := rfl

@[simp] theorem after_append (shelf : Shelf Trigger) (first rest : List Exchange) :
    shelf.after (first ++ rest) = (shelf.after first).after rest :=
  List.foldl_append

theorem get?_next (shelf : Shelf Trigger) {exchange : Exchange} {t : Trigger}
    (stores : exchange.stored? = some t) : (shelf.next exchange).get? t.id = some t := by
  unfold next
  rw [stores]
  exact shelf.get?_insert_same t

theorem get?_next_of_other (shelf : Shelf Trigger) {exchange : Exchange} {id : String}
    (other : ∀ t, exchange.stored? = some t → t.id ≠ id) :
    (shelf.next exchange).get? id = shelf.get? id := by
  unfold next
  split
  next t stores => exact shelf.get?_insert_other (other t stores)
  next => rfl

/-- What is stored under other ids does not matter. -/
theorem get?_after_of_other (shelf : Shelf Trigger) {path : List Exchange} {id : String}
    (other : ∀ exchange ∈ path, ∀ t, exchange.stored? = some t → t.id ≠ id) :
    (shelf.after path).get? id = shelf.get? id := by
  induction path generalizing shelf with
  | nil => rfl
  | cons exchange path ih =>
    rw [after_cons, ih _ fun later member => other later (List.mem_cons_of_mem _ member)]
    exact shelf.get?_next_of_other (other exchange List.mem_cons_self)

/-- What was stored last under an id is there at the end. -/
theorem get?_after_of_last (shelf : Shelf Trigger) {before after : List Exchange}
    {exchange : Exchange} {t : Trigger} (stores : exchange.stored? = some t)
    (last : ∀ other ∈ after, ∀ u, other.stored? = some u → u.id ≠ t.id) :
    (shelf.after (before ++ exchange :: after)).get? t.id = some t := by
  rw [after_append, after_cons, get?_after_of_other _ last, get?_next _ stores]

end Shelf

/-- Every question about triggers is answered by the shelf as it is at that time. -/
def Follows (shelf : Shelf Trigger) : List Exchange → Prop
  | [] => True
  | exchange :: rest => exchange.AnsweredBy shelf ∧ Follows (shelf.next exchange) rest

theorem follows_append {shelf : Shelf Trigger} {first rest : List Exchange} :
    Follows shelf (first ++ rest) ↔ Follows shelf first ∧ Follows (shelf.after first) rest := by
  induction first generalizing shelf with
  | nil => simp only [List.nil_append, Follows, Shelf.after_nil, true_and]
  | cons exchange first ih =>
    simp only [List.cons_append, Follows, ih, Shelf.after_cons, and_assoc]

end Autopilot
