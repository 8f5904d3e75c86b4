import Autopilot.Proofs.Dialogue
import Autopilot.Trigger.Engine

/-!
Judging one trigger. A trigger that is disabled or cooling down rests: it is judged
without a look at the screen, is not satisfied and gets no baseline. Everything that a
verdict says holds at the time that the trigger was judged for.
-/

namespace Autopilot

namespace Trigger

/-- Disabled triggers rest, and so do those that are cooling down. -/
def Rests (t : Trigger) (now : Instant) : Prop := t.enabled = false ∨ t.isCooling now = true

/-- A trigger that the clock alone decides on. -/
def Kind.isTimed : Kind → Bool
  | .delay _ | .schedule _ => true
  | _ => false

/-- Nothing has been found out about a trigger yet. -/
structure Fresh (t : Trigger) : Prop where
  enabledAt : t.enabledAt = none
  lastEvaluatedAt : t.lastEvaluatedAt = none
  lastFiredAt : t.lastFiredAt = none
  lastVerdict : t.lastVerdict = none

/-- A trigger that has fired and does not cool down fired long enough ago. -/
theorem since_of_not_cooling {t : Trigger} {now fired : Instant} (awake : t.isCooling now = false)
    (last : t.lastFiredAt = some fired) (cools : 0 < t.cooldownSeconds) :
    (t.cooldownSeconds : Int) * 1000000000 ≤ now.since fired := by
  simp only [isCooling, last, cools, decide_true, Bool.true_and, Bool.not_eq_false', spans,
    Bool.and_eq_true, decide_eq_true_eq] at awake
  exact awake.2

variable {e : Evaluation}

theorem record_of_satisfied (t : Trigger) (satisfied : e.status = .satisfied) :
    (t.record e).lastFiredAt = some e.verdict.evaluatedAt := by
  unfold record
  exact if_pos (decide_eq_true satisfied)

theorem record_of_unsatisfied (t : Trigger) (unsatisfied : e.status ≠ .satisfied) :
    (t.record e).lastFiredAt = t.lastFiredAt := by
  unfold record
  exact if_neg fun same => unsatisfied (of_decide_eq_true same)

theorem record_of_settled (t : Trigger) (settled : e.baseline = none) :
    (t.record e).enabledAt = t.enabledAt := by
  unfold record
  rw [settled, Option.or_none]

end Trigger

namespace Engine

open Trigger (Reason Evaluation judgeMeasure)

/-! ## What is asked -/

/-- All ways in which judging a trigger can go. Only a trigger that does not rest gets to its
handler. -/
theorem evaluate_cases {engine : Engine} {t : Trigger} {now : Instant} {path : List Exchange}
    {outcome : Except TriggerError Evaluation}
    (said : Trace (engine.evaluate t now).run path outcome) :
    (path = [⟨.isCancelled, true⟩] ∧ outcome = .error .cancelled) ∨
    ∃ rest, path = ⟨.isCancelled, false⟩ :: rest ∧
      ((t.enabled = false ∧ rest = [] ∧ outcome = .ok ⟨Reason.triggerDisabled.verdict now, none⟩) ∨
        (t.enabled = true ∧ t.isCooling now = true ∧ rest = [] ∧
          outcome = .ok ⟨Reason.cooldownActive.verdict now, none⟩) ∨
        (t.enabled = true ∧ t.isCooling now = false ∧ engine.canJudge t = true ∧
          Trace (judge t now).run rest outcome) ∨
        (t.enabled = true ∧ t.isCooling now = false ∧ engine.canJudge t = false ∧ rest = [] ∧
          outcome = .ok ⟨Reason.noEvaluator.verdict now, none⟩)) := by
  obtain ⟨cancelled, rest, rfl, said₁⟩ := Talk.trace_ask said
  cases cancelled with
  | true =>
    rcases Talk.trace_bind said₁ with ⟨_, _, _, _, before, _⟩ | ⟨_, before, rfl⟩
    · cases (Talk.trace_throw before).2
    · obtain ⟨rfl, same⟩ := Talk.trace_throw before
      cases same
      exact .inl ⟨rfl, rfl⟩
  | false =>
    refine .inr ⟨rest, rfl, ?_⟩
    simp only [Bool.false_eq_true, if_false] at said₁
    cases enabled : t.enabled with
    | false =>
      simp only [enabled, Bool.not_false, if_true] at said₁
      obtain ⟨rfl, rfl⟩ := Talk.trace_pure said₁
      exact .inl ⟨rfl, rfl, rfl⟩
    | true =>
      refine .inr ?_
      simp only [enabled, Bool.not_true, Bool.false_eq_true, if_false] at said₁
      cases cooling : t.isCooling now with
      | true =>
        simp only [cooling, if_true] at said₁
        obtain ⟨rfl, rfl⟩ := Talk.trace_pure said₁
        exact .inl ⟨rfl, rfl, rfl, rfl⟩
      | false =>
        refine .inr ?_
        simp only [cooling, Bool.false_eq_true, if_false] at said₁
        cases able : engine.canJudge t with
        | true =>
          rw [able, if_pos rfl] at said₁
          exact .inl ⟨rfl, rfl, rfl, said₁⟩
        | false =>
          simp only [able, Bool.false_eq_true, if_false] at said₁
          obtain ⟨rfl, rfl⟩ := Talk.trace_pure said₁
          exact .inr ⟨rfl, rfl, rfl, rfl, rfl⟩

/-- A handler asks at most for one measurement, of the trigger's own condition. -/
theorem judge_cases {t : Trigger} {now : Instant} {path : List Exchange}
    {outcome : Except TriggerError Evaluation} (said : Trace (judge t now).run path outcome) :
    (∃ seconds, t.kind = .delay seconds ∧ path = [] ∧ outcome = .ok (t.judgeDelay seconds now)) ∨
    (∃ time, t.kind = .schedule time ∧ path = [] ∧ outcome = .ok (t.judgeSchedule time now)) ∨
    ∃ condition answer, t.kind.condition? = some condition ∧
      path = [⟨.measure condition, answer⟩] ∧ outcome = judgeMeasure condition now answer := by
  have measured (condition : Condition)
      (said : Trace (Talk.measure condition >>= fun answer =>
        Talk.orFail id (judgeMeasure condition now answer)).run path outcome) :
      ∃ answer, path = [⟨.measure condition, answer⟩] ∧
        outcome = judgeMeasure condition now answer := by
    obtain ⟨answer, rest, rfl, said₁⟩ := Talk.trace_ask said
    obtain ⟨rfl, same⟩ := Talk.trace_orFail said₁
    refine ⟨answer, rfl, same.trans ?_⟩
    cases judgeMeasure condition now answer with
    | ok e => rfl
    | error error => rfl
  unfold judge at said
  cases kind : t.kind with
  | delay seconds =>
    rw [kind] at said
    obtain ⟨rfl, rfl⟩ := Talk.trace_pure said
    exact .inl ⟨seconds, rfl, rfl, rfl⟩
  | schedule time =>
    rw [kind] at said
    obtain ⟨rfl, rfl⟩ := Talk.trace_pure said
    exact .inr (.inl ⟨time, rfl, rfl, rfl⟩)
  | imageMatch target =>
    rw [kind] at said
    obtain ⟨answer, asked, given⟩ := measured _ said
    exact .inr (.inr ⟨_, answer, rfl, asked, given⟩)
  | textMatch target =>
    rw [kind] at said
    obtain ⟨answer, asked, given⟩ := measured _ said
    exact .inr (.inr ⟨_, answer, rfl, asked, given⟩)

/-- To judge a trigger, nothing is asked but whether to stop and what is on the screen. -/
theorem evaluate_asks {engine : Engine} {t : Trigger} {now : Instant} {path : List Exchange}
    {outcome : Except TriggerError Evaluation}
    (said : Trace (engine.evaluate t now).run path outcome) :
    ∀ exchange ∈ path,
      exchange.question = .isCancelled ∨ ∃ condition, exchange.question = .measure condition := by
  intro exchange member
  rcases evaluate_cases said with ⟨rfl, _⟩ | ⟨rest, rfl, handled⟩
  · rw [List.mem_singleton.1 member]
    exact .inl rfl
  · rcases List.mem_cons.1 member with rfl | member
    · exact .inl rfl
    · rcases handled with ⟨_, rfl, _⟩ | ⟨_, _, rfl, _⟩ | ⟨_, _, _, judged⟩ | ⟨_, _, _, rfl, _⟩
      · cases member
      · cases member
      · rcases judge_cases judged with
          ⟨_, _, rfl, _⟩ | ⟨_, _, rfl, _⟩ | ⟨condition, answer, _, rfl, _⟩
        · cases member
        · cases member
        · rw [List.mem_singleton.1 member]
          exact .inr ⟨condition, rfl⟩
      · cases member

/-! ## What is found -/

/-- A trigger that rests is judged without a look at the screen. -/
theorem evaluate_resting {engine : Engine} {t : Trigger} {now : Instant} {path : List Exchange}
    {outcome : Except TriggerError Evaluation}
    (said : Trace (engine.evaluate t now).run path outcome) (rests : t.Rests now) :
    (∀ exchange ∈ path, exchange.question = .isCancelled) ∧
      ∀ e, outcome = .ok e → e.status ≠ .satisfied ∧ e.baseline = none := by
  have unsatisfied {reason : Reason} (other : reason.status ≠ .satisfied) :
      ∀ e, (Except.ok ⟨reason.verdict now, none⟩ : Except TriggerError Evaluation) = .ok e →
        e.status ≠ .satisfied ∧ e.baseline = none := by
    intro e same
    cases same
    exact ⟨other, rfl⟩
  have alone (answer : Bool) : ∀ exchange ∈ [(⟨.isCancelled, answer⟩ : Exchange)],
      exchange.question = .isCancelled := by
    intro exchange member
    rw [List.mem_singleton.1 member]
  rcases evaluate_cases said with ⟨rfl, rfl⟩ | ⟨rest, rfl, handled⟩
  · exact ⟨alone true, fun e same => by cases same⟩
  · rcases handled with ⟨_, rfl, rfl⟩ | ⟨_, _, rfl, rfl⟩ | ⟨enabled, awake, _⟩ | ⟨enabled, awake, _⟩
    · exact ⟨alone false, unsatisfied (by decide)⟩
    · exact ⟨alone false, unsatisfied (by decide)⟩
    all_goals
      rcases rests with disabled | cooling
      · rw [enabled] at disabled
        cases disabled
      · rw [awake] at cooling
        cases cooling

/-- A verdict bears the time that the trigger was judged for. -/
theorem evaluate_at {engine : Engine} {t : Trigger} {now : Instant} {path : List Exchange}
    {e : Evaluation} (said : Trace (engine.evaluate t now).run path (.ok e)) :
    e.verdict.evaluatedAt = now := by
  rcases evaluate_cases said with ⟨_, same⟩ | ⟨rest, _, handled⟩
  · cases same
  · rcases handled with ⟨_, _, same⟩ | ⟨_, _, _, same⟩ | ⟨_, _, _, judged⟩ | ⟨_, _, _, _, same⟩
    · cases same
      rfl
    · cases same
      rfl
    · rcases judge_cases judged with ⟨_, _, _, same⟩ | ⟨_, _, _, same⟩ | ⟨_, answer, _, _, same⟩
      · cases same
        rfl
      · cases same
        rfl
      · cases answer with
        | ok m =>
          cases same
          rfl
        | error error =>
          cases error with
          | cancelled => cases same
          | _ =>
            cases same
            rfl
    · cases same
      rfl

/-- A baseline is established only for a trigger without one, and then it is the time that the
trigger was judged for. -/
theorem evaluate_baseline {engine : Engine} {t : Trigger} {now : Instant} {path : List Exchange}
    {e : Evaluation} (said : Trace (engine.evaluate t now).run path (.ok e)) :
    e.baseline = none ∨ (t.enabledAt = none ∧ e.baseline = some now) := by
  have established : (t.baseline now).2 = none ∨
      (t.enabledAt = none ∧ (t.baseline now).2 = some now) := by
    unfold Trigger.baseline
    cases t.enabledAt with
    | none => exact .inr ⟨rfl, rfl⟩
    | some time => exact .inl rfl
  rcases evaluate_cases said with ⟨_, same⟩ | ⟨rest, _, handled⟩
  · cases same
  · rcases handled with ⟨_, _, same⟩ | ⟨_, _, _, same⟩ | ⟨_, _, _, judged⟩ | ⟨_, _, _, _, same⟩
    · cases same
      exact .inl rfl
    · cases same
      exact .inl rfl
    · rcases judge_cases judged with ⟨_, _, _, same⟩ | ⟨_, _, _, same⟩ | ⟨_, answer, _, _, same⟩
      · cases same
        exact established
      · cases same
        exact established
      · cases answer with
        | ok m =>
          cases same
          exact .inl rfl
        | error error =>
          cases error with
          | cancelled => cases same
          | _ =>
            cases same
            exact .inl rfl
    · cases same
      exact .inl rfl

/-- A trigger gets to a handler: it is enabled and does not cool down, and there is one for it. -/
structure Handles (engine : Engine) (t : Trigger) (now : Instant) : Prop where
  enabled : t.enabled = true
  awake : t.isCooling now = false
  able : engine.canJudge t = true

/-- A baseline is established for a trigger on time that has none and gets to its handler, and for no
other one. -/
theorem evaluate_baseline_iff {engine : Engine} {t : Trigger} {now start : Instant}
    {path : List Exchange} {e : Trigger.Evaluation}
    (said : Trace (engine.evaluate t now).run path (.ok e)) :
    e.baseline = some start ↔
      t.enabledAt = none ∧ t.kind.isTimed = true ∧ engine.Handles t now ∧ start = now := by
  have established : (t.baseline now).2 = some start ↔ t.enabledAt = none ∧ start = now := by
    unfold Trigger.baseline
    cases t.enabledAt with
    | none => simp [eq_comm]
    | some time => simp
  rcases evaluate_cases said with ⟨_, same⟩ | ⟨rest, _, handled⟩
  · cases same
  · rcases handled with ⟨off, _, same⟩ | ⟨_, cooling, _, same⟩ | ⟨on, awake, able, judged⟩ |
      ⟨_, _, unable, _, same⟩
    · cases same
      exact ⟨nofun, fun ⟨_, _, handles, _⟩ => by cases off.symm.trans handles.enabled⟩
    · cases same
      exact ⟨nofun, fun ⟨_, _, handles, _⟩ => by cases cooling.symm.trans handles.awake⟩
    · have timed (isTimed : t.kind.isTimed = true) (same : e.baseline = (t.baseline now).2) :
          e.baseline = some start ↔
            t.enabledAt = none ∧ t.kind.isTimed = true ∧ engine.Handles t now ∧ start = now := by
        rw [same, established]
        exact ⟨fun ⟨unset, first⟩ => ⟨unset, isTimed, ⟨on, awake, able⟩, first⟩,
          fun ⟨unset, _, _, first⟩ => ⟨unset, first⟩⟩
      rcases judge_cases judged with ⟨_, kind, _, same⟩ | ⟨_, kind, _, same⟩ |
        ⟨condition, answer, shown, _, same⟩
      · cases same
        exact timed (by rw [kind]; rfl) rfl
      · cases same
        exact timed (by rw [kind]; rfl) rfl
      · have untimed : t.kind.isTimed = false := by
          cases kind : t.kind with
          | delay | schedule =>
            rw [kind] at shown
            cases shown
          | imageMatch | textMatch => rfl
        have none : e.baseline = none := by
          cases answer with
          | ok m =>
            cases same
            rfl
          | error error => cases error <;> cases same <;> rfl
        rw [none, untimed]
        exact ⟨nofun, nofun⟩
    · cases same
      exact ⟨nofun, fun ⟨_, _, handles, _⟩ => by cases unable.symm.trans handles.able⟩

end Engine

end Autopilot
