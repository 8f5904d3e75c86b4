import Autopilot.Command
import Autopilot.Command.Error
import Autopilot.Input
import Autopilot.Text.LowerCase

/-!
Running commands depth first. One path is kept, with the ids of the commands being run in
lower case: a command goes onto it before its steps are run and is taken off it after
them, and a command that is already on it would run forever. A part that fails leaves the
path as it is at that point. Stored commands are finitely many and each is on the path at
most once, so every run ends.
-/

namespace Autopilot

instance : Keyed Action := ⟨Action.id⟩

instance : Keyed Command := ⟨Command.id⟩

/-- The commands that can be run and the actions they send. While commands run, their ids are told
apart in lower case only. -/
structure Repertoire where
  commands : Store Command
  actions : Store Action
  lowerCase : String → String := Text.lower

/-- Where inputs go, as calls on a state of any type. -/
structure SessionHost (σ : Type) where
  session : String → StateM σ (Option Session)
  send : String → List Input → StateM σ (Except SessionError Nat)
  isCancelled : StateM σ Bool

/-- A part of a command's run: gives the number of inputs accepted. -/
abbrev Sending (σ α : Type) := ExceptT CommandError (StateM σ) α

/-- How a part of a run ends that was begun with a path: its outcome, the path that it leaves, and
the state. Unless it fails, it takes off the path what it put onto it. -/
structure Passage (σ : Type) (path : List String) where
  outcome : Except CommandError Nat
  left : List String
  state : σ
  restores : ∀ count, outcome = .ok count → left = path

namespace Passage

variable {σ : Type} {path : List String}

/-- A part that does not touch the path. -/
def ofSending (path : List String) (part : Sending σ Nat) (s : σ) : Passage σ path :=
  let (outcome, next) := part.run s
  ⟨outcome, path, next, fun _ _ => rfl⟩

def fail (path : List String) (error : CommandError) (s : σ) : Passage σ path :=
  ofSending path (throw error) s

/-- Takes the last command off the path. -/
def pop {key : String} (inner : Passage σ (path ++ [key])) : Passage σ path where
  outcome := inner.outcome
  left := if inner.outcome.isOk then inner.left.dropLast else inner.left
  state := inner.state
  restores count ended := by
    rw [inner.restores count ended, ended]
    exact List.dropLast_concat

/-- Goes on with the path that the first part left, unless that one failed. -/
def andThen (first : Passage σ path)
    (others : (left : List String) → left = path → σ → Passage σ left) : Passage σ path :=
  match ended : first.outcome with
  | .error _ => first
  | .ok before =>
    let after := others first.left (first.restores before ended) first.state
    { outcome := after.outcome.map (before + ·)
      left := after.left
      state := after.state
      restores := fun count done => by
        cases went : after.outcome with
        | error => rw [went] at done; cases done
        | ok sum => rw [after.restores sum went, first.restores before ended] }

end Passage

namespace Repertoire

variable {σ : Type}

theorem length_filter_lt {α : Type} {p q : α → Bool} {items : List α} {item : α}
    (weaker : ∀ a, p a = true → q a = true) (member : item ∈ items) (kept : q item = true)
    (lost : p item = false) : (items.filter p).length < (items.filter q).length := by
  induction items with
  | nil => cases member
  | cons first rest ih =>
    have atMost : (rest.filter p).length ≤ (rest.filter q).length := by
      simp only [← List.countP_eq_length_filter]
      exact List.countP_mono_left fun a _ => weaker a
    rcases List.mem_cons.1 member with same | later
    · subst same
      simp only [List.filter_cons, kept, lost, if_true, Bool.false_eq_true, if_false,
        List.length_cons]
      omega
    · have less := ih later
      by_cases holds : p first = true
      · simp only [List.filter_cons, holds, weaker first holds, if_true, List.length_cons]
        omega
      · by_cases also : q first = true <;> simp only [List.filter_cons, holds, also, if_true,
          Bool.false_eq_true, if_false, List.length_cons] <;> omega

/-- The stored commands whose ids are not on a path. -/
def remaining (repertoire : Repertoire) (path : List String) : Nat :=
  (repertoire.commands.shelf.records.filter fun c => !path.contains (repertoire.lowerCase c.id)).length

theorem remaining_append_lt {repertoire : Repertoire} {path : List String} {id : String}
    {command : Command} (found : repertoire.commands.get id = .ok (some command))
    (fresh : path.contains (repertoire.lowerCase id) = false) :
    repertoire.remaining (path ++ [repertoire.lowerCase id]) < repertoire.remaining path := by
  have stored : repertoire.commands.shelf.get? id = some command := by
    simp only [Store.get, Store.allow] at found
    split at found <;> simp_all [bind, Except.bind, pure, Except.pure]
  have member := List.mem_of_find?_eq_some stored
  have named : command.id = id := by
    simpa [recordId] using List.find?_some stored
  unfold remaining
  refine length_filter_lt (fun c kept => ?_) member ?_ ?_ <;> simp_all

theorem lex_of_eq {a b m n : Nat} (same : a = b) (less : m < n) :
    Prod.Lex (· < ·) (· < ·) (a, m) (b, n) := by
  subst same
  exact Prod.Lex.right a less

/-- Sends the inputs of an action as one batch, and nothing if there are none. -/
def sendAction (repertoire : Repertoire) (host : SessionHost σ) (sessionId id : String) :
    Sending σ Nat := do
  match repertoire.actions.get id with
  | .error error => throw (.store error)
  | .ok none => throw (.notFound .action id)
  | .ok (some action) =>
    if !action.hasInputs then return 0
    match ← ExceptT.lift (host.send sessionId action.inputs) with
    | .ok accepted => return accepted
    | .error error => throw (.ofSession error)

mutual

def runCommand (repertoire : Repertoire) (host : SessionHost σ) (sessionId : String)
    (path : List String) (id : String) (s : σ) : Passage σ path :=
  match host.isCancelled s with
  | (true, next) => .fail path .cancelled next
  | (false, next) =>
    let key := repertoire.lowerCase id
    if onPath : path.contains key = true then
      .fail path (.cycle id (path ++ [key])) next
    else
      match found : repertoire.commands.get id with
      | .error error => .fail path (.store error) next
      | .ok none => .fail path (.notFound .command id) next
      | .ok (some command) =>
        have := remaining_append_lt found (Bool.not_eq_true _ ▸ onPath)
        (runSteps repertoire host sessionId (path ++ [key]) command.orderedSteps next).pop
termination_by (repertoire.remaining path, 0)

def runSteps (repertoire : Repertoire) (host : SessionHost σ) (sessionId : String)
    (path : List String) : List CommandStep → σ → Passage σ path
  | [], s => .ofSending path (pure 0) s
  | step :: rest, s =>
    let first := match step.target with
      | .action id => Passage.ofSending path (sendAction repertoire host sessionId id) s
      | .command id => runCommand repertoire host sessionId path id s
    first.andThen fun left _same next => runSteps repertoire host sessionId left rest next
termination_by steps => (repertoire.remaining path, steps.length)
decreasing_by
  · exact Prod.Lex.right _ (Nat.zero_lt_succ _)
  · exact lex_of_eq (congrArg repertoire.remaining _same) (Nat.lt_succ_self _)

end

/-- Sends nothing to a session that is not running. -/
def requireRunning (host : SessionHost σ) (sessionId : String) : Sending σ Unit := do
  match ← ExceptT.lift (host.session sessionId) with
  | none => throw (.notFound .session sessionId)
  | some session =>
    if !session.isRunning then throw (.invalidState session.id session.state)

/-- Runs a command whatever its trigger says. -/
def forceExecute (repertoire : Repertoire) (host : SessionHost σ) (sessionId id : String) :
    Sending σ Nat := do
  requireRunning host sessionId
  fun s =>
    let run := repertoire.runCommand host sessionId [] id s
    (run.outcome, run.state)

end Repertoire

end Autopilot
