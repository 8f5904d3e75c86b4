import Autopilot.Command.Gated

/-!
What can be asked in a dialogue, whatever the answers are. A pass over the triggers runs no
command, and where a command is run behind its trigger, nothing is run on any other session.
-/

namespace Autopilot

/-- Whatever the answers are, only allowed questions are asked. -/
inductive Dialogue.Asks {α : Type} (allowed : Question → Prop) : Dialogue α → Prop where
  | done (value : α) : Asks allowed (.done value)
  | ask {question : Question} {next : question.Answer → Dialogue α} (fine : allowed question)
      (later : ∀ answer, Asks allowed (next answer)) : Asks allowed (.ask question next)

/-- Commands are run on none but some sessions. -/
def Question.RunsOn (sessions : String → Prop) : Question → Prop
  | .execute sessionId _ => sessions sessionId
  | _ => True

/-- No command is run. -/
abbrev Question.RunsNone : Question → Prop := RunsOn fun _ => False

section Asks

variable {α β : Type} {allowed : Question → Prop}

theorem Dialogue.Asks.bind {d : Dialogue α} {f : α → Dialogue β} (first : d.Asks allowed)
    (later : ∀ value, (f value).Asks allowed) : (d.bind f).Asks allowed := by
  induction first with
  | done value => exact later value
  | ask fine _ ih => exact .ask fine ih

/-- Where no command is run, none is run on any other session. -/
theorem Dialogue.Asks.runsOn {sessions : String → Prop} {d : Dialogue α}
    (asks : d.Asks Question.RunsNone) : d.Asks (Question.RunsOn sessions) := by
  induction asks with
  | done value => exact .done value
  | @ask question _ none _ ih =>
    refine .ask ?_ ih
    cases question with
    | execute => exact none.elim
    | _ => trivial

end Asks

namespace Talk

variable {α β ε : Type} {allowed : Question → Prop}

theorem asks_pure (value : α) : (pure value : Talk ε α).run.Asks allowed := .done _

theorem asks_throw (error : ε) : (throw error : Talk ε α).run.Asks allowed := .done _

theorem asks_ask {question : Question} (fine : allowed question) :
    (ask question : Talk ε question.Answer).run.Asks allowed :=
  .ask fine fun _ => .done _

/-- A talk asks what its parts ask. -/
theorem asks_bind {part : Talk ε α} {next : α → Talk ε β} (first : part.run.Asks allowed)
    (later : ∀ value, (next value).run.Asks allowed) : (part >>= next).run.Asks allowed := by
  apply Dialogue.Asks.bind first
  intro outcome
  cases outcome with
  | ok value => exact later value
  | error error => exact .done _

theorem asks_ite {condition : Prop} [Decidable condition] {part other : Talk ε α}
    (first : part.run.Asks allowed) (second : other.run.Asks allowed) :
    (if condition then part else other).run.Asks allowed := by
  split
  · exact first
  · exact second

theorem asks_orFail {δ : Type} (fail : δ → ε) (answer : Except δ α) :
    (orFail fail answer).run.Asks allowed := by
  cases answer with
  | ok value => exact asks_pure value
  | error error => exact asks_throw (fail error)

end Talk

namespace Engine

open Talk

variable (engine : Engine)

/-! ## Judging -/

theorem judge_runsNone (t : Trigger) (now : Instant) : (judge t now).run.Asks Question.RunsNone := by
  unfold judge
  split
  · exact asks_pure _
  · exact asks_pure _
  · exact asks_bind (asks_ask trivial) fun _ => asks_orFail id _
  · exact asks_bind (asks_ask trivial) fun _ => asks_orFail id _

theorem evaluate_runsNone (t : Trigger) (now : Instant) :
    (engine.evaluate t now).run.Asks Question.RunsNone := by
  refine asks_bind (asks_ask trivial) fun cancelled => ?_
  refine asks_ite (asks_bind (asks_throw _) fun _ => ?_) ?_
  all_goals
    refine asks_ite (asks_pure _) (asks_ite (asks_pure _) (asks_ite ?_ (asks_pure _)))
    exact judge_runsNone t now

/-- A pass over some triggers, one after another. -/
theorem judgeEach_runsNone (progress : Progress) (triggers : List Trigger) :
    (engine.judgeEach progress triggers).run.Asks Question.RunsNone := by
  induction triggers generalizing progress with
  | nil => exact asks_pure progress
  | cons t rest ih =>
    have goOn : Dialogue.Asks Question.RunsNone (do
        let evaluation ← engine.evaluate t (← Talk.now)
        let stored ← Talk.keep (t.record evaluation)
        engine.judgeEach (progress.judged t.id stored) rest : Talk TriggerError Progress).run := by
      refine asks_bind (asks_ask trivial) fun now => ?_
      refine asks_bind (engine.evaluate_runsNone t now) fun evaluation => ?_
      exact asks_bind (asks_ask trivial) fun stored => ih _
    refine asks_bind (asks_ask trivial) fun cancelled => ?_
    exact asks_ite (asks_bind (asks_throw _) fun _ => goOn) goOn

theorem evaluateAll_runsNone (filter : Option Filter) :
    (engine.evaluateAll filter).run.Asks Question.RunsNone := by
  refine asks_bind (asks_ask trivial) fun listed => ?_
  refine asks_bind (asks_orFail _ _) fun triggers => ?_
  exact asks_bind (engine.judgeEach_runsNone _ _) fun progress => asks_orFail id _

/-! ## Running behind a trigger -/

theorem triggerOf_runsNone (id : String) : (triggerOf id).run.Asks Question.RunsNone := by
  refine asks_bind (asks_ask trivial) fun answer => asks_bind (asks_orFail _ _) fun found => ?_
  cases found with
  | none => exact asks_throw _
  | some t => exact asks_pure t

theorem findCommand_runsNone (id : String) : (findCommand id).run.Asks Question.RunsNone := by
  refine asks_bind (asks_ask trivial) fun answer => asks_bind (asks_orFail _ _) fun found => ?_
  cases found with
  | none => exact asks_throw _
  | some command => exact asks_pure command

theorem requireRunning_runsNone (sessionId : String) :
    (requireRunning sessionId).run.Asks Question.RunsNone := by
  refine asks_bind (asks_ask trivial) fun answer => ?_
  cases answer with
  | none => exact asks_throw _
  | some session => exact asks_ite (asks_throw _) (asks_pure ())

theorem judged_runsNone (t : Trigger) (now : Instant) :
    (engine.judged t now).run.Asks Question.RunsNone :=
  (engine.evaluate_runsNone t now).bind fun _ => .done _

theorem keepBaseline_runsNone (t : Trigger) (e : Trigger.Evaluation) :
    (keepBaseline t e).run.Asks Question.RunsNone := by
  unfold keepBaseline
  cases e.baseline with
  | none => exact asks_pure ()
  | some time => exact asks_bind (asks_ask trivial) fun _ => asks_orFail _ _

section Sessions

variable (sessionId commandId : String)

theorem execute_runsOn (next : Nat → Outcome) :
    (do
      let accepted ← Talk.orFail id (← Talk.execute sessionId commandId)
      return next accepted : Talk CommandError Outcome).run.Asks
      (Question.RunsOn (· = sessionId)) :=
  asks_bind (asks_ask rfl) fun _ => asks_bind (asks_orFail id _) fun _ => asks_pure _

theorem executeBehind_runsOn (triggerId : String) :
    (engine.executeBehind sessionId commandId triggerId).run.Asks
      (Question.RunsOn (· = sessionId)) := by
  refine asks_bind (triggerOf_runsNone triggerId).runsOn fun t => ?_
  refine asks_bind (asks_ask trivial) fun now => ?_
  refine asks_bind (engine.judged_runsNone t now).runsOn fun evaluation => asks_ite ?_ ?_
  · refine asks_bind (asks_ask trivial) fun _ => asks_bind (asks_orFail _ _) fun _ => ?_
    exact execute_runsOn sessionId commandId _
  · exact asks_bind (keepBaseline_runsNone t evaluation).runsOn fun _ => asks_pure _

/-- Behind its trigger or not, a command is run on its session only. -/
theorem executeGated_runsOn :
    (engine.executeGated sessionId commandId).run.Asks (Question.RunsOn (· = sessionId)) := by
  refine asks_bind (requireRunning_runsNone sessionId).runsOn fun _ => ?_
  refine asks_bind (findCommand_runsNone commandId).runsOn fun command => ?_
  cases command.triggerId with
  | none => exact execute_runsOn sessionId commandId _
  | some triggerId => exact engine.executeBehind_runsOn sessionId commandId triggerId

end Sessions

end Engine

end Autopilot
