import Autopilot.Command.Execution
import Autopilot.Proofs.Store
import Autopilot.Proofs.Trigger.Evaluation
import Autopilot.Proofs.Trigger.Terms

/-!
Triggers on the screen, where nothing can be measured. However often such a trigger is judged, it
is not satisfied: it never fires, and no command is run behind it. It does not matter in which
order dialogues are carried on, for each of them stores only triggers that have not fired.
-/

namespace Autopilot

namespace Trigger

/-- What has become of a trigger that was judged in the dark: unless the clock alone decides on it,
it fired last when it had fired before, and it has not been found satisfied again. -/
structure Unfired (before t : Trigger) : Prop where
  id : t.id = before.id
  kind : t.kind = before.kind
  lastFiredAt : t.kind.isTimed = false → t.lastFiredAt = before.lastFiredAt
  lastVerdict : t.kind.isTimed = false →
    t.lastVerdict = before.lastVerdict ∨ ∃ v, t.lastVerdict = some v ∧ v.status ≠ .satisfied

theorem Unfired.refl (t : Trigger) : t.Unfired t := ⟨rfl, rfl, fun _ => rfl, fun _ => .inl rfl⟩

theorem Unfired.record {before t : Trigger} (unfired : before.Unfired t) {e : Evaluation}
    (unsatisfied : t.kind.isTimed = false → e.status ≠ .satisfied) :
    before.Unfired (t.record e) where
  id := unfired.id
  kind := unfired.kind
  lastFiredAt screen := (record_of_unsatisfied t (unsatisfied screen)).trans
    (unfired.lastFiredAt screen)
  lastVerdict screen := .inr ⟨e.verdict, rfl, unsatisfied screen⟩

/-- A baseline is no firing. -/
theorem Unfired.enabledAt {before t : Trigger} (unfired : before.Unfired t)
    (enabledAt : Option Instant) : before.Unfired { t with enabledAt } :=
  ⟨unfired.id, unfired.kind, unfired.lastFiredAt, unfired.lastVerdict⟩

end Trigger

/-- A trigger on the shelf, judged in the dark since. -/
def Shelf.Unfired (shelf : Shelf Trigger) (t : Trigger) : Prop :=
  ∃ before, shelf.get? t.id = some before ∧ before.Unfired t

/-- The command waits for a trigger on the screen. -/
def Repertoire.WaitsForScreen (r : Repertoire) (triggers : Shelf Trigger) (commandId : String) :
    Prop :=
  ∃ command triggerId t, r.commands.shelf.get? commandId = some command ∧
    command.triggerId = some triggerId ∧ triggers.get? triggerId = some t ∧ t.kind.isTimed = false

/-- In the dark nothing can be measured, and the triggers on the shelf have not fired. -/
def Terms.dark (r : Repertoire) (triggers : Shelf Trigger) : Terms where
  stored := triggers.Unfired
  finds id t := t.id = id ∧ triggers.Unfired t
  measured answer := ∃ error, answer = .error error
  command id command := command = r.commands.shelf.get? id

namespace Engine

open Talk

variable {r : Repertoire} {triggers : Shelf Trigger} {runs : String → String → Prop}
  (engine : Engine)

/-! ## Judging -/

theorem judge_abides (t : Trigger) (now : Instant) :
    (judge t now).Abides (.dark r triggers) runs
      fun e => t.kind.isTimed = false → e.status ≠ .satisfied := by
  have unmeasured (condition : Condition) :
      (do Talk.orFail id (Trigger.judgeMeasure condition now (← Talk.measure condition)) :
        Talk TriggerError Trigger.Evaluation).Abides (.dark r triggers) runs
        fun e => t.kind.isTimed = false → e.status ≠ .satisfied := by
    refine abides_ask (.measure condition) trivial fun answer ⟨error, failed⟩ => ?_
    refine abides_orFail id fun e judged _ => ?_
    rw [failed] at judged
    cases error <;> cases judged
    all_goals exact nofun
  unfold judge
  cases kind : t.kind with
  | delay | schedule => exact abides_pure nofun
  | imageMatch | textMatch =>
    have asked := unmeasured
    rw [kind] at asked
    exact asked _

/-- No trigger on the screen is found satisfied. -/
theorem evaluate_abides (t : Trigger) (now : Instant) :
    (engine.evaluate t now).Abides (.dark r triggers) runs
      fun e => t.kind.isTimed = false → e.status ≠ .satisfied := by
  have judged : (do
      if !t.enabled then return ⟨Trigger.Reason.triggerDisabled.verdict now, none⟩
      if t.isCooling now then return ⟨Trigger.Reason.cooldownActive.verdict now, none⟩
      if engine.canJudge t then judge t now
      else return ⟨Trigger.Reason.noEvaluator.verdict now, none⟩ :
        Talk TriggerError Trigger.Evaluation).Abides (.dark r triggers) runs
        fun e => t.kind.isTimed = false → e.status ≠ .satisfied := by
    refine abides_ite (fun _ => abides_pure fun _ => nofun) fun _ => ?_
    refine abides_ite (fun _ => abides_pure fun _ => nofun) fun _ => ?_
    exact abides_ite (fun _ => judge_abides t now) fun _ => abides_pure fun _ => nofun
  refine abides_ask .isCancelled trivial fun cancelled _ => ?_
  cases cancelled with
  | true => exact abides_throw TriggerError.cancelled
  | false => exact judged

/-- A pass over unfired triggers stores unfired triggers, by induction on their list. -/
theorem judgeEach_abides (progress : Progress) {list : List Trigger}
    (unfired : ∀ t ∈ list, triggers.Unfired t) :
    (engine.judgeEach progress list).Abides (.dark r triggers) runs fun _ => True := by
  induction list generalizing progress with
  | nil => exact abides_pure trivial
  | cons t rest ih =>
    have goOn : (do
        let evaluation ← engine.evaluate t (← Talk.now)
        let stored ← Talk.keep (t.record evaluation)
        engine.judgeEach (progress.judged t.id stored) rest :
          Talk TriggerError Progress).Abides (.dark r triggers) runs fun _ => True := by
      refine abides_ask .now trivial fun now _ => ?_
      refine abides_bind (engine.evaluate_abides t now) fun evaluation unsatisfied => ?_
      obtain ⟨before, known, same⟩ := unfired t List.mem_cons_self
      have stays : triggers.Unfired (t.record evaluation) := ⟨before, known, same.record unsatisfied⟩
      refine abides_ask (.keep _) stays fun stored _ => ?_
      exact ih _ fun other later => unfired other (List.mem_cons_of_mem _ later)
    refine abides_ask .isCancelled trivial fun cancelled _ => ?_
    cases cancelled with
    | true => exact abides_throw TriggerError.cancelled
    | false => exact goOn

theorem evaluateAll_abides (filter : Option Filter) :
    (engine.evaluateAll filter).Abides (.dark r triggers) runs fun _ => True := by
  refine abides_ask .triggers trivial fun listed told => ?_
  refine abides_bind (abides_orFail _ fun list same => told list same) fun list unfired => ?_
  refine abides_bind (engine.judgeEach_abides _ fun t member => ?_) fun progress _ =>
    abides_orFail id fun _ _ => trivial
  exact unfired t (List.mem_filter.1 member).1

/-! ## Running behind a trigger -/

theorem triggerOf_abides (triggerId : String) :
    (triggerOf triggerId).Abides (.dark r triggers) runs
      fun t => t.id = triggerId ∧ triggers.Unfired t := by
  refine abides_ask (.trigger triggerId) trivial fun answer told => ?_
  have finds (found : Option Trigger) (same : answer = .ok found) (t : Trigger)
      (isSome : found = some t) : t.id = triggerId ∧ triggers.Unfired t := told t (isSome ▸ same)
  refine abides_bind (abides_orFail _ finds) fun found unfired => ?_
  cases found with
  | none => exact abides_throw _
  | some t => exact abides_pure (unfired t rfl)

theorem findCommand_abides (commandId : String) :
    (findCommand commandId).Abides (.dark r triggers) runs
      fun command => r.commands.shelf.get? commandId = some command := by
  refine abides_ask (.command commandId) trivial fun answer told => ?_
  refine abides_bind (abides_orFail _ told) fun found known => ?_
  cases found with
  | none => exact abides_throw _
  | some command => exact abides_pure known.symm

theorem requireRunning_abides (sessionId : String) :
    (requireRunning sessionId).Abides (.dark r triggers) runs fun _ => True := by
  refine abides_ask (.session sessionId) trivial fun answer _ => ?_
  cases answer with
  | none => exact abides_throw _
  | some session => exact abides_ite (fun _ => abides_throw _) fun _ => abides_pure trivial

theorem keepBaseline_abides {t : Trigger} (unfired : triggers.Unfired t) (e : Trigger.Evaluation) :
    (keepBaseline t e).Abides (.dark r triggers) runs fun _ => True := by
  obtain ⟨before, known, same⟩ := unfired
  unfold keepBaseline
  cases e.baseline with
  | none => exact abides_pure trivial
  | some time =>
    have stays : triggers.Unfired { t with enabledAt := some time } :=
      ⟨before, known, same.enabledAt _⟩
    refine abides_ask (.keep _) stays fun _ _ => ?_
    exact abides_orFail _ fun _ _ => trivial

section Commands

variable {sessionId commandId : String}

theorem execute_abides (next : Nat → Outcome) (permitted : runs sessionId commandId) :
    (do
      let accepted ← Talk.orFail id (← Talk.execute sessionId commandId)
      return next accepted : Talk CommandError Outcome).Abides (.dark r triggers) runs
      fun _ => True :=
  abides_ask (.execute sessionId commandId) permitted fun _ _ =>
    abides_bind (abides_orFail id fun _ _ => trivial) fun _ (_ : True) => abides_pure trivial

/-- A command behind a trigger is run only if the clock alone decides on the trigger. -/
theorem executeBehind_abides {triggerId : String}
    (permitted : ∀ t, triggers.get? triggerId = some t → t.kind.isTimed = true →
      runs sessionId commandId) :
    (engine.executeBehind sessionId commandId triggerId).Abides (.dark r triggers) runs
      fun _ => True := by
  refine abides_bind (triggerOf_abides triggerId) fun t ⟨named, unfired⟩ => ?_
  refine abides_ask .now trivial fun now _ => ?_
  have judged : (engine.judged t now).Abides (.dark r triggers) runs
      fun e => t.kind.isTimed = false → e.status ≠ .satisfied := by
    apply (engine.evaluate_abides t now).bind
    intro outcome fine
    cases outcome with
    | ok e => exact .done fun _ same => Except.ok.inj same ▸ fine e rfl
    | error error => exact .done nofun
  refine abides_bind judged fun evaluation unsatisfied => ?_
  obtain ⟨before, known, same⟩ := unfired
  refine abides_ite (fun satisfied => ?_) fun _ => ?_
  · have timed : t.kind.isTimed = true := by
      cases screen : t.kind.isTimed with
      | true => rfl
      | false => exact absurd satisfied (unsatisfied screen)
    have may := permitted before (named ▸ known) (same.kind ▸ timed)
    have stays : triggers.Unfired (t.record evaluation) := ⟨before, known, same.record unsatisfied⟩
    refine abides_ask (.keep _) stays fun _ _ => ?_
    exact abides_bind (abides_orFail _ fun _ _ => trivial) fun _ (_ : True) => execute_abides _ may
  · exact abides_bind (keepBaseline_abides ⟨before, known, same⟩ evaluation) fun _ _ =>
      abides_pure trivial

/-- A command that waits for a trigger on the screen is not run. -/
theorem executeGated_abides
    (permitted : ¬r.WaitsForScreen triggers commandId → runs sessionId commandId) :
    (engine.executeGated sessionId commandId).Abides (.dark r triggers) runs fun _ => True := by
  refine abides_bind (requireRunning_abides sessionId) fun _ _ => ?_
  refine abides_bind (findCommand_abides commandId) fun command known => ?_
  cases refers : command.triggerId with
  | none =>
    apply execute_abides
    apply permitted
    rintro ⟨other, triggerId, t, found, named, _⟩
    cases known.symm.trans found
    cases refers.symm.trans named
  | some triggerId =>
    apply engine.executeBehind_abides
    intro t stored timed
    apply permitted
    rintro ⟨other, otherId, u, found, named, there, screen⟩
    cases known.symm.trans found
    cases refers.symm.trans named
    cases stored.symm.trans there
    cases timed.symm.trans screen

end Commands

end Engine

end Autopilot
