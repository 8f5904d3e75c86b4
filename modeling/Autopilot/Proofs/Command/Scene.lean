import Autopilot.Command.Gated
import Autopilot.Proofs.Command.Run
import Autopilot.Proofs.Trigger.Evaluation

/-!
Dialogues carried out. Triggers are looked up and kept in a store, commands are run on a
host, and time and measurements come from outside; what is stored and what is sent is
listed in the order in which it happens. The laws tell how each way to build a dialogue is
carried out, so that its outcome can be read off its text.
-/

namespace Autopilot

/-- What happens while a dialogue is carried out. -/
inductive Effect where
  | stored (trigger : Trigger)
  | sent (delivery : Delivery)

/-- A state of all that answers, the stored triggers, and what has happened so far. -/
structure Scene (σ : Type) where
  state : σ
  triggers : Store Trigger
  effects : List Effect

namespace Scene

variable {σ α : Type}

/-- Calls something that has no part in the triggers. -/
def call (part : StateM σ α) : StateM (Scene σ) α := fun scene =>
  let (answer, next) := part scene.state
  (answer, { scene with state := next })

/-- Stores a trigger, if the store lets it. -/
def keep (t : Trigger) : StateM (Scene σ) (Except StoreError Unit) := fun scene =>
  match scene.triggers.put t with
  | .ok triggers => (.ok (), { scene with triggers, effects := scene.effects ++ [.stored t] })
  | .error error => (.error error, scene)

end Scene

/-- Those who answer the questions of a dialogue. -/
structure Collaborators (σ : Type) where
  repertoire : Repertoire
  host : SessionHost σ
  now : StateM σ Instant
  measure : Condition → StateM σ (Except ConditionError Measure)

namespace Collaborators

variable {σ α β ε : Type} (c : Collaborators σ)

/-- Runs a command, and lists what it sends. -/
def execute (sessionId commandId : String) : StateM (Scene σ) (Except CommandError Nat) :=
  fun scene =>
    let (outcome, last, sent) :=
      (c.repertoire.forceExecute c.host.recording sessionId commandId).run (scene.state, [])
    (outcome, { scene with state := last, effects := scene.effects ++ sent.map .sent })

def answer : (question : Question) → StateM (Scene σ) question.Answer
  | .isCancelled => Scene.call c.host.isCancelled
  | .now => Scene.call c.now
  | .triggers => fun scene => (scene.triggers.list, scene)
  | .trigger id => fun scene => (scene.triggers.get id, scene)
  | .keep t => Scene.keep t
  | .measure condition => Scene.call (c.measure condition)
  | .session id => Scene.call (c.host.session id)
  | .command id => fun scene => (c.repertoire.commands.get id, scene)
  | .execute sessionId commandId => c.execute sessionId commandId

/-- Carries out a talk. -/
def perform (talk : Talk ε α) (scene : Scene σ) : Except ε α × Scene σ :=
  Dialogue.run c.answer talk.run scene

/-! ## Laws -/

theorem run_bind (d : Dialogue α) (f : α → Dialogue β) (scene : Scene σ) :
    (d.bind f).run c.answer scene =
      (f (d.run c.answer scene).1).run c.answer (d.run c.answer scene).2 := by
  induction d generalizing scene with
  | done value => rfl
  | ask question next ih => exact ih (c.answer question scene).1 (c.answer question scene).2

theorem perform_bind_of_ok {part : Talk ε α} {scene later : Scene σ} {value : α}
    (ended : c.perform part scene = (.ok value, later)) (next : α → Talk ε β) :
    c.perform (part >>= next) scene = c.perform (next value) later := by
  have whole := c.run_bind part.run (ExceptT.bindCont next) scene
  unfold perform at ended
  rw [ended] at whole
  exact whole

theorem perform_bind_of_error {part : Talk ε α} {scene later : Scene σ} {error : ε}
    (failed : c.perform part scene = (.error error, later)) (next : α → Talk ε β) :
    c.perform (part >>= next) scene = (.error error, later) := by
  have whole := c.run_bind part.run (ExceptT.bindCont next) scene
  unfold perform at failed
  rw [failed] at whole
  exact whole

theorem perform_ask {question : Question} {scene later : Scene σ} {reply : question.Answer}
    (answered : c.answer question scene = (reply, later)) :
    c.perform (Talk.ask question : Talk ε question.Answer) scene = (.ok reply, later) := by
  change (Except.ok (c.answer question scene).1, (c.answer question scene).2) = _
  rw [answered]

theorem perform_orFail {δ : Type} (fail : δ → ε) (answer : Except δ α) (scene : Scene σ) :
    c.perform (Talk.orFail fail answer) scene = (answer.mapError fail, scene) := by
  cases answer <;> rfl

/-- Carrying out a dialogue is one way to hold it, and what is neither stored nor run leaves no
trace. -/
theorem trace (d : Dialogue α) (scene : Scene σ) :
    ∃ path, Trace d path (d.run c.answer scene).1 ∧
      ((∀ exchange ∈ path, exchange.question = .isCancelled ∨
          ∃ condition, exchange.question = .measure condition) →
        (d.run c.answer scene).2.triggers = scene.triggers ∧
          (d.run c.answer scene).2.effects = scene.effects) := by
  induction d generalizing scene with
  | done value => exact ⟨[], .done value, fun _ => ⟨rfl, rfl⟩⟩
  | ask question next ih =>
    obtain ⟨path, said, kept⟩ := ih (c.answer question scene).1 (c.answer question scene).2
    refine ⟨⟨question, (c.answer question scene).1⟩ :: path, .ask _ said, fun quiet => ?_⟩
    obtain ⟨triggers, effects⟩ := kept fun later member => quiet later (List.mem_cons_of_mem _ member)
    have same : (c.answer question scene).2.triggers = scene.triggers ∧
        (c.answer question scene).2.effects = scene.effects := by
      rcases quiet _ List.mem_cons_self with rfl | ⟨condition, rfl⟩ <;> exact ⟨rfl, rfl⟩
    exact ⟨triggers.trans same.1, effects.trans same.2⟩

end Collaborators

end Autopilot
