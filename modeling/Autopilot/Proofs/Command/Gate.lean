import Autopilot.Proofs.Command.Scene
import Autopilot.Proofs.Command.Sending

/-!
Running a command behind its trigger, beside judging the trigger alone. Both look at the
same trigger at the same time in the same way, and they differ in what they store: the run
stores all of the verdict only when the trigger is satisfied, and before anything is sent;
else it stores a baseline at most. Judging alone stores the verdict always.
-/

namespace Autopilot

open Trigger (Evaluation)

/-! ## Keeping triggers -/

namespace Scene

variable {σ : Type} {scene : Scene σ} {t : Trigger}

theorem keep_of_ok {triggers : Store Trigger} (kept : scene.triggers.put t = .ok triggers) :
    scene.keep t =
      (.ok (), { scene with triggers, effects := scene.effects ++ [.stored t] }) := by
  unfold keep
  rw [kept]

theorem keep_of_error {error : StoreError} (refused : scene.triggers.put t = .error error) :
    scene.keep t = (.error error, scene) := by
  unfold keep
  rw [refused]

end Scene

/-! ## The two ways to use a verdict -/

namespace Collaborators

variable {σ : Type} (c : Collaborators σ) (engine : Engine) {sessionId commandId triggerId : String}
  {scene later : Scene σ} {t : Trigger} {e : Evaluation}

/-- The scene after a session was asked for. -/
def asked (sessionId : String) (scene : Scene σ) : Scene σ :=
  { scene with state := (c.host.session sessionId scene.state).2 }

/-- The verdict on a trigger at the time that it is then. -/
def judges (t : Trigger) (scene : Scene σ) : Except TriggerError Evaluation × Scene σ :=
  c.perform (engine.evaluate t (c.now scene.state).1)
    { scene with state := (c.now scene.state).2 }

/-- Judging stores and sends nothing. A verdict bears the time of judging, and a baseline that is
established for it is that time. -/
theorem judges_spec (t : Trigger) (scene : Scene σ) :
    (c.judges engine t scene).2.triggers = scene.triggers ∧
      (c.judges engine t scene).2.effects = scene.effects ∧
      ∀ e, (c.judges engine t scene).1 = .ok e → e.verdict.evaluatedAt = (c.now scene.state).1 ∧
        (e.baseline = none ∨ (t.enabledAt = none ∧ e.baseline = some (c.now scene.state).1)) := by
  obtain ⟨path, said, kept⟩ := c.trace (engine.evaluate t (c.now scene.state).1).run
    { scene with state := (c.now scene.state).2 }
  obtain ⟨triggers, effects⟩ := kept (Engine.evaluate_asks said)
  refine ⟨triggers, effects, fun e judged => ?_⟩
  unfold judges perform at judged
  rw [judged] at said
  exact ⟨Engine.evaluate_at said, Engine.evaluate_baseline said⟩

theorem triggerOf_perform (found : scene.triggers.get triggerId = .ok (some t)) :
    c.perform (Engine.triggerOf triggerId) scene = (.ok t, scene) := by
  have looked : c.perform (Talk.trigger triggerId : Talk CommandError _) scene =
      (.ok (.ok (some t)), scene) :=
    c.perform_ask (congrArg (·, scene) found)
  unfold Engine.triggerOf
  rw [c.perform_bind_of_ok looked]
  rfl

theorem findTrigger_perform (found : scene.triggers.get triggerId = .ok (some t)) :
    c.perform (Engine.findTrigger triggerId) scene = (.ok t, scene) := by
  have looked : c.perform (Talk.trigger triggerId : Talk TriggerError _) scene =
      (.ok (.ok (some t)), scene) :=
    c.perform_ask (congrArg (·, scene) found)
  unfold Engine.findTrigger
  rw [c.perform_bind_of_ok looked]
  rfl

theorem judged_perform (t : Trigger) (now : Instant) (scene : Scene σ) :
    c.perform (engine.judged t now) scene =
      ((c.perform (engine.evaluate t now) scene).1.mapError .ofTrigger,
        (c.perform (engine.evaluate t now) scene).2) :=
  c.run_bind (engine.evaluate t now).run _ scene

section Stores

variable {ε α : Type} {last : Scene σ}

/-- A talk goes on when the store takes a trigger. -/
theorem perform_keep_of_ok (kept : scene.keep t = (.ok (), last)) (fail : StoreError → ε)
    (next : Talk ε α) :
    c.perform (do Talk.orFail fail (← Talk.keep t); next) scene = c.perform next last := by
  have asked : c.perform (Talk.keep t : Talk ε _) scene = (.ok (.ok ()), last) :=
    c.perform_ask kept
  rw [c.perform_bind_of_ok asked]
  exact c.perform_bind_of_ok (c.perform_orFail fail (.ok ()) last) _

/-- A talk fails with the store, in the way that `fail` says. -/
theorem perform_keep_of_error {error : StoreError} (refused : scene.keep t = (.error error, last))
    (fail : StoreError → ε) (next : Talk ε α) :
    c.perform (do Talk.orFail fail (← Talk.keep t); next) scene = (.error (fail error), last) := by
  have asked : c.perform (Talk.keep t : Talk ε _) scene = (.ok (.error error), last) :=
    c.perform_ask refused
  rw [c.perform_bind_of_ok asked]
  exact c.perform_bind_of_error (c.perform_orFail fail (.error error) last) _

theorem keepBaseline_perform (t : Trigger) (e : Evaluation) (scene : Scene σ) :
    c.perform (Engine.keepBaseline t e) scene =
      match e.baseline with
      | none => (.ok (), scene)
      | some time =>
        ((scene.keep { t with enabledAt := some time }).1.mapError .store,
          (scene.keep { t with enabledAt := some time }).2) := by
  unfold Engine.keepBaseline
  cases e.baseline with
  | none => rfl
  | some time =>
    have asked : c.perform (Talk.keep { t with enabledAt := some time } : Talk CommandError _) scene =
        (.ok (scene.keep { t with enabledAt := some time }).1,
          (scene.keep { t with enabledAt := some time }).2) := rfl
    dsimp only
    rw [c.perform_bind_of_ok asked]
    exact c.perform_orFail CommandError.store _ _

end Stores

/-- Judging a trigger alone stores the verdict. -/
theorem evaluateOne_perform (found : scene.triggers.get triggerId = .ok (some t)) :
    c.perform (engine.evaluateOne triggerId) scene =
      match c.judges engine t scene with
      | (.error error, later) => (.error error, later)
      | (.ok e, later) =>
        match later.keep (t.record e) with
        | (.error error, last) => (.error (.store error), last)
        | (.ok (), last) => (.ok (t.record e), last) := by
  have timed : c.perform (Talk.now : Talk TriggerError _) scene =
      (.ok (c.now scene.state).1, { scene with state := (c.now scene.state).2 }) := rfl
  unfold Engine.evaluateOne
  rw [c.perform_bind_of_ok (c.findTrigger_perform found), c.perform_bind_of_ok timed]
  rcases judged : c.judges engine t scene with ⟨error | e, later⟩
  · exact c.perform_bind_of_error judged _
  · rw [c.perform_bind_of_ok judged]
    dsimp only
    rcases kept : later.keep (t.record e) with ⟨error | _, last⟩
    · exact c.perform_keep_of_error kept _ _
    · exact c.perform_keep_of_ok kept _ _

/-- Running a command behind its trigger stores the verdict if it lets the command run, and else
the baseline at most. -/
theorem executeBehind_perform (found : scene.triggers.get triggerId = .ok (some t)) :
    c.perform (engine.executeBehind sessionId commandId triggerId) scene =
      match c.judges engine t scene with
      | (.error error, later) => (.error (.ofTrigger error), later)
      | (.ok e, later) =>
        if e.status = .satisfied then
          match later.keep (t.record e) with
          | (.error error, last) => (.error (.store error), last)
          | (.ok (), last) =>
            ((c.execute sessionId commandId last).1.map fun accepted =>
              { accepted, triggerStatus := some e.status, reason := e.verdict.reason },
              (c.execute sessionId commandId last).2)
        else
          match e.baseline with
          | none => (.ok ⟨0, some e.status, e.verdict.reason⟩, later)
          | some time =>
            match later.keep { t with enabledAt := some time } with
            | (.error error, last) => (.error (.store error), last)
            | (.ok (), last) => (.ok ⟨0, some e.status, e.verdict.reason⟩, last) := by
  have timed : c.perform (Talk.now : Talk CommandError _) scene =
      (.ok (c.now scene.state).1, { scene with state := (c.now scene.state).2 }) := rfl
  unfold Engine.executeBehind
  rw [c.perform_bind_of_ok (c.triggerOf_perform found), c.perform_bind_of_ok timed]
  have judging := c.judged_perform engine t (c.now scene.state).1
    { scene with state := (c.now scene.state).2 }
  rcases judged : c.judges engine t scene with ⟨error | e, later⟩
  · unfold judges at judged
    rw [judged] at judging
    exact c.perform_bind_of_error judging _
  · unfold judges at judged
    rw [judged] at judging
    rw [c.perform_bind_of_ok judging]
    dsimp only
    by_cases satisfied : e.status = .satisfied
    · rw [if_pos satisfied, if_pos satisfied]
      rcases kept : later.keep (t.record e) with ⟨error | _, last⟩
      · exact c.perform_keep_of_error kept _ _
      · have ran : c.perform (Talk.execute sessionId commandId : Talk CommandError _) last =
            (.ok (c.execute sessionId commandId last).1, (c.execute sessionId commandId last).2) := rfl
        rw [c.perform_keep_of_ok kept, c.perform_bind_of_ok ran]
        dsimp only
        rcases (c.execute sessionId commandId last).1 with error | accepted
        · exact c.perform_bind_of_error (c.perform_orFail id (.error error) _) _
        · exact c.perform_bind_of_ok (c.perform_orFail id (.ok accepted) _) _
    · rw [if_neg satisfied, if_neg satisfied]
      have ended := c.keepBaseline_perform t e later
      cases baseline : e.baseline with
      | none =>
        rw [baseline] at ended
        exact c.perform_bind_of_ok ended _
      | some time =>
        rw [baseline] at ended
        dsimp only at ended ⊢
        rcases kept : later.keep { t with enabledAt := some time } with ⟨error | _, last⟩
        · rw [kept] at ended
          exact c.perform_bind_of_error ended _
        · rw [kept] at ended
          exact c.perform_bind_of_ok ended _

theorem requireRunning_perform (scene : Scene σ) :
    (∃ error, c.host.Absent sessionId scene.state (c.asked sessionId scene).state error ∧
      c.perform (Engine.requireRunning sessionId) scene = (.error error, c.asked sessionId scene)) ∨
    (c.host.RunsAt sessionId scene.state (c.asked sessionId scene).state ∧
      c.perform (Engine.requireRunning sessionId) scene = (.ok (), c.asked sessionId scene)) := by
  have looked : c.perform (Talk.session sessionId : Talk CommandError _) scene =
      (.ok (c.host.session sessionId scene.state).1, c.asked sessionId scene) := rfl
  have split : c.host.session sessionId scene.state =
      ((c.host.session sessionId scene.state).1, (c.asked sessionId scene).state) := rfl
  unfold Engine.requireRunning
  rw [c.perform_bind_of_ok looked]
  rcases found : (c.host.session sessionId scene.state).1 with _ | session
  · rw [found] at split
    exact .inl ⟨_, .missing split, rfl⟩
  · rw [found] at split
    cases running : session.isRunning with
    | false =>
      refine .inl ⟨_, .stopped split running, ?_⟩
      simp only [running, Bool.not_false, if_true]
      rfl
    | true =>
      refine .inr ⟨⟨session, split, running⟩, ?_⟩
      simp only [running, Bool.not_true, Bool.false_eq_true, if_false]
      rfl

/-- A command that has a trigger is run behind it, if there is a session to send to. -/
theorem executeGated_perform {command : Command}
    (found : c.repertoire.commands.get commandId = .ok (some command))
    (behind : command.triggerId = some triggerId) (scene : Scene σ) :
    (∃ error, c.host.Absent sessionId scene.state (c.asked sessionId scene).state error ∧
      c.perform (engine.executeGated sessionId commandId) scene =
        (.error error, c.asked sessionId scene)) ∨
    (c.host.RunsAt sessionId scene.state (c.asked sessionId scene).state ∧
      c.perform (engine.executeGated sessionId commandId) scene =
        c.perform (engine.executeBehind sessionId commandId triggerId) (c.asked sessionId scene)) := by
  have known : c.perform (Engine.findCommand commandId) (c.asked sessionId scene) =
      (.ok command, c.asked sessionId scene) := by
    have looked : c.perform (Talk.command commandId : Talk CommandError _) (c.asked sessionId scene) =
        (.ok (.ok (some command)), c.asked sessionId scene) :=
      c.perform_ask (congrArg (·, c.asked sessionId scene) found)
    unfold Engine.findCommand
    rw [c.perform_bind_of_ok looked]
    rfl
  unfold Engine.executeGated
  rcases c.requireRunning_perform scene with ⟨error, absent, failed⟩ | ⟨running, passed⟩
  · exact .inl ⟨error, absent, c.perform_bind_of_error failed _⟩
  · refine .inr ⟨running, ?_⟩
    rw [c.perform_bind_of_ok passed, c.perform_bind_of_ok known, behind]

/-! ## What is stored and sent -/

/-- Nothing is sent, and no record changes but for a baseline that was missing. The verdict is
reported, unless the store refuses the baseline. -/
structure Withheld (triggerId : String) (t : Trigger) (e : Evaluation) (now : Instant)
    (scene final : Scene σ) (result : Except CommandError Outcome) : Prop where
  unsent : ∃ kept : List Trigger, final.effects = scene.effects ++ kept.map .stored
  records : ∀ id, final.triggers.shelf.get? id = scene.triggers.shelf.get? id ∨
    (id = triggerId ∧ t.enabledAt = none ∧
      final.triggers.shelf.get? id = some { t with enabledAt := some now })
  reported : result = .ok ⟨0, some e.status, e.verdict.reason⟩ ∨
    ∃ error time, e.baseline = some time ∧ result = .error (.store error) ∧
      scene.triggers.put { t with enabledAt := some time } = .error error

/-- That a trigger fired is stored, and then a command is run from some state; or it is not stored,
and nothing happens. -/
inductive Fires (sessionId commandId : String) (fired : Trigger) (e : Evaluation) (state : σ)
    (scene final : Scene σ) : Except CommandError Outcome → Prop where
  | refused {error : StoreError} (refused : scene.triggers.put fired = .error error)
      (triggers : final.triggers = scene.triggers) (effects : final.effects = scene.effects) :
      Fires sessionId commandId fired e state scene final (.error (.store error))
  | ran {sent : List Delivery} {ran : Except CommandError Nat} {last : σ}
      (stored : scene.triggers.put fired = .ok final.triggers)
      (effects : final.effects = scene.effects ++ .stored fired :: sent.map .sent)
      (executes : Executes c.repertoire c.host sessionId commandId state sent ran last) :
      Fires sessionId commandId fired e state scene final
        (ran.map fun accepted => ⟨accepted, some e.status, e.verdict.reason⟩)

/-- One record is stored where the other one is, with a verdict; they are the same if it is
satisfied, and else they differ in what was last evaluated at most. -/
structure Beside (triggerId : String) (e : Evaluation) (v : Trigger) (final alone : Scene σ) :
    Prop where
  verdict : v.lastVerdict = some e.verdict
  stored : alone.triggers.shelf.get? triggerId = some v
  record : ∃ u, final.triggers.shelf.get? triggerId = some u ∧ (e.status = .satisfied → u = v) ∧
    u = { v with lastEvaluatedAt := u.lastEvaluatedAt, lastVerdict := u.lastVerdict }

section Behind

variable {c engine} {result : Except CommandError Outcome} {final : Scene σ}

/-- When a trigger is not satisfied, a baseline that was established is stored, if the store takes
it, and nothing else happens. -/
theorem executeBehind_unsatisfied (found : scene.triggers.get triggerId = .ok (some t))
    (judged : c.judges engine t scene = (.ok e, later)) (unsatisfied : e.status ≠ .satisfied)
    (performed : c.perform (engine.executeBehind sessionId commandId triggerId) scene =
      (result, final)) :
    (final = later ∧ (e.baseline = none ∧ result = .ok ⟨0, some e.status, e.verdict.reason⟩ ∨
      ∃ error time, e.baseline = some time ∧ result = .error (.store error) ∧
        later.triggers.put { t with enabledAt := some time } = .error error)) ∨
    ∃ time, e.baseline = some time ∧ result = .ok ⟨0, some e.status, e.verdict.reason⟩ ∧
      later.triggers.put { t with enabledAt := some time } = .ok final.triggers ∧
      final.effects = later.effects ++ [.stored { t with enabledAt := some time }] := by
  rw [c.executeBehind_perform engine found, judged] at performed
  dsimp only at performed
  rw [if_neg unsatisfied] at performed
  cases baseline : e.baseline with
  | none =>
    rw [baseline] at performed
    cases performed
    exact .inl ⟨rfl, .inl ⟨rfl, rfl⟩⟩
  | some time =>
    rw [baseline] at performed
    dsimp only at performed
    rcases stored : later.triggers.put { t with enabledAt := some time } with error | kept
    · rw [Scene.keep_of_error stored] at performed
      cases performed
      exact .inl ⟨rfl, .inr ⟨error, time, rfl, rfl, stored⟩⟩
    · rw [Scene.keep_of_ok stored] at performed
      cases performed
      exact .inr ⟨time, rfl, rfl, stored, rfl⟩

/-- When a trigger is not satisfied, nothing is sent, and at most its missing baseline is stored;
the run fails only if the store refuses it. -/
theorem executeBehind_withheld (found : scene.triggers.get triggerId = .ok (some t))
    (judged : c.judges engine t scene = (.ok e, later)) (unsatisfied : e.status ≠ .satisfied)
    (performed : c.perform (engine.executeBehind sessionId commandId triggerId) scene =
      (result, final)) :
    Withheld triggerId t e (c.now scene.state).1 scene final result := by
  obtain ⟨triggers, effects, spec⟩ := c.judges_spec engine t scene
  rw [judged] at triggers effects spec
  obtain ⟨_, baseline⟩ := spec e rfl
  dsimp only at triggers effects
  rcases executeBehind_unsatisfied found judged unsatisfied performed with
    ⟨rfl, ended⟩ | ⟨time, established, reported, stored, listed⟩
  · refine ⟨⟨[], ?_⟩, fun id => .inl ?_, ?_⟩
    · rw [effects, List.map_nil, List.append_nil]
    · rw [triggers]
    · rw [triggers] at ended
      exact ended.imp_left And.right
  · rcases baseline with settled | ⟨unset, given⟩
    · cases settled.symm.trans established
    · cases given.symm.trans established
      refine ⟨⟨[{ t with enabledAt := some (c.now scene.state).1 }], ?_⟩, fun id => ?_, .inl reported⟩
      · rw [listed, effects]
        rfl
      · rw [triggers] at stored
        have named : recordId t = triggerId := Shelf.recordId_of_get? (Store.get?_of_get found)
        rw [Store.get?_put stored]
        split
        next same => exact .inr ⟨same.symm.trans named, unset, rfl⟩
        next => exact .inl rfl

/-- Running a command sends what its traversal meets, and has no part in the triggers. -/
theorem execute_executes (c : Collaborators σ) (sessionId commandId : String) (scene : Scene σ) :
    ∃ sent ran last, Executes c.repertoire c.host sessionId commandId scene.state sent ran last ∧
      c.execute sessionId commandId scene =
        (ran, { scene with state := last, effects := scene.effects ++ sent.map .sent }) := by
  obtain ⟨sent, executes, recorded⟩ :=
    c.repertoire.forceExecute_recording c.host sessionId commandId scene.state
  refine ⟨sent, _, _, executes, ?_⟩
  unfold execute
  rw [recorded]

/-- When a trigger is satisfied, that it fired is stored before anything is sent. -/
theorem executeBehind_satisfied (found : scene.triggers.get triggerId = .ok (some t))
    (judged : c.judges engine t scene = (.ok e, later)) (satisfied : e.status = .satisfied)
    (performed : c.perform (engine.executeBehind sessionId commandId triggerId) scene =
      (result, final)) :
    (t.record e).lastFiredAt = some (c.now scene.state).1 ∧
      c.Fires sessionId commandId (t.record e) e later.state scene final result := by
  obtain ⟨triggers, effects, spec⟩ := c.judges_spec engine t scene
  rw [judged] at triggers effects spec
  obtain ⟨time, _⟩ := spec e rfl
  refine ⟨(Trigger.record_of_satisfied t satisfied).trans (congrArg some time), ?_⟩
  rw [c.executeBehind_perform engine found, judged] at performed
  dsimp only at performed triggers effects
  rw [if_pos satisfied] at performed
  rcases stored : later.triggers.put (t.record e) with error | kept
  · rw [Scene.keep_of_error stored] at performed
    rw [triggers] at stored
    cases performed
    exact .refused stored triggers effects
  · rw [Scene.keep_of_ok stored] at performed
    rw [triggers] at stored
    dsimp only at performed
    obtain ⟨sent, ran, last, executes, ended⟩ := c.execute_executes sessionId commandId
      { later with triggers := kept, effects := later.effects ++ [.stored (t.record e)] }
    rw [ended] at performed
    cases performed
    refine .ran stored ?_ executes
    rw [effects, List.append_assoc, List.singleton_append]

/-- A run that succeeds reports the verdict, and that nothing was accepted if it is another one than
that the trigger is satisfied. -/
theorem executeBehind_reports {outcome : Outcome}
    (found : scene.triggers.get triggerId = .ok (some t))
    (judged : c.judges engine t scene = (.ok e, later))
    (performed : c.perform (engine.executeBehind sessionId commandId triggerId) scene =
      (.ok outcome, final)) :
    outcome.triggerStatus = some e.status ∧ outcome.reason = e.verdict.reason ∧
      (e.status ≠ .satisfied → outcome.accepted = 0) := by
  by_cases satisfied : e.status = .satisfied
  · have fires := (executeBehind_satisfied found judged satisfied performed).2
    generalize same : Except.ok outcome = reported at fires
    cases fires with
    | refused => cases same
    | @ran _ counted =>
      cases counted with
      | error => cases same
      | ok accepted =>
        cases same
        exact ⟨rfl, rfl, fun other => absurd satisfied other⟩
  · rcases executeBehind_unsatisfied found judged satisfied performed with
      ⟨_, ⟨_, same⟩ | ⟨_, _, _, same, _⟩⟩ | ⟨_, _, same, _⟩
    · cases same
      exact ⟨rfl, rfl, fun _ => rfl⟩
    · cases same
    · cases same
      exact ⟨rfl, rfl, fun _ => rfl⟩

/-- A trigger that is judged alone is stored with the verdict, if the store takes it. -/
theorem evaluateOne_stored (found : scene.triggers.get triggerId = .ok (some t))
    (judged : c.judges engine t scene = (.ok e, later)) :
    ∃ alone, (c.perform (engine.evaluateOne triggerId) scene = (.ok (t.record e), alone) ∧
        scene.triggers.put (t.record e) = .ok alone.triggers) ∨
      ∃ error, c.perform (engine.evaluateOne triggerId) scene = (.error (.store error), alone) ∧
        scene.triggers.put (t.record e) = .error error := by
  obtain ⟨triggers, _, _⟩ := c.judges_spec engine t scene
  rw [judged] at triggers
  dsimp only at triggers
  rw [c.evaluateOne_perform engine found, judged, ← triggers]
  dsimp only
  rcases stored : later.triggers.put (t.record e) with error | kept
  · rw [Scene.keep_of_error stored]
    exact ⟨_, .inr ⟨error, rfl, rfl⟩⟩
  · rw [Scene.keep_of_ok stored]
    exact ⟨_, .inl ⟨rfl, rfl⟩⟩

/-- What a run behind a trigger leaves of the trigger, beside what judging it alone leaves. -/
theorem evaluateOne_beside {alone : Scene σ}
    (found : scene.triggers.get triggerId = .ok (some t))
    (judged : c.judges engine t scene = (.ok e, later))
    (performed : c.perform (engine.executeBehind sessionId commandId triggerId) scene =
      (result, final))
    (taken : scene.triggers.put (t.record e) = .ok alone.triggers) :
    Beside triggerId e (t.record e) final alone := by
  obtain ⟨triggers, _, spec⟩ := c.judges_spec engine t scene
  rw [judged] at triggers spec
  obtain ⟨_, baseline⟩ := spec e rfl
  dsimp only at triggers
  have known : scene.triggers.shelf.get? triggerId = some t := Store.get?_of_get found
  obtain rfl : recordId t = triggerId := Shelf.recordId_of_get? known
  refine ⟨rfl, (Store.get?_put taken _).trans (if_pos rfl), ?_⟩
  by_cases satisfied : e.status = .satisfied
  · have fires := (executeBehind_satisfied found judged satisfied performed).2
    cases fires with
    | refused refused => cases taken.symm.trans refused
    | ran stored =>
      exact ⟨t.record e, (Store.get?_put stored _).trans (if_pos rfl), fun _ => rfl, rfl⟩
  · have fired := t.record_of_unsatisfied satisfied
    rcases executeBehind_unsatisfied found judged satisfied performed with
      ⟨rfl, ⟨settled, _⟩ | ⟨error, time, _, _, refused⟩⟩ | ⟨time, established, _, stored, _⟩
    · have start := t.record_of_settled settled
      refine ⟨t, triggers ▸ known, fun same => absurd same satisfied, ?_⟩
      rw [fired, start]
      rfl
    · -- The store takes the verdict, and so it takes the baseline.
      obtain ⟨next, takes⟩ := Store.put_of_same taken
        (show recordId { t with enabledAt := some time } = recordId (t.record e) from rfl)
      rw [triggers] at refused
      cases takes.symm.trans refused
    · have start : (t.record e).enabledAt = some time := by
        rcases baseline with settled | ⟨unset, _⟩
        · cases settled.symm.trans established
        · unfold Trigger.record
          rw [unset, established]
          rfl
      refine ⟨{ t with enabledAt := some time }, (Store.get?_put stored _).trans (if_pos rfl),
        fun same => absurd same satisfied, ?_⟩
      rw [fired, start]
      rfl

end Behind

/-- Running a command behind its trigger, beside judging the trigger alone from where the session
was asked for. A run that succeeds reports the verdict, and where there is none the two fail alike
and change nothing. While the trigger is not satisfied, nothing is sent and at most a missing
baseline is set, to the time of judging. When it is satisfied, that it fired at that time is stored
before anything is sent. The record that is stored alone, if the store takes it, bears the same
verdict, and differs from that of the run only as far as the trigger is not satisfied. -/
theorem executeGated_beside_evaluateOne {command : Command}
    (found : c.repertoire.commands.get commandId = .ok (some command))
    (behind : command.triggerId = some triggerId)
    (stored : scene.triggers.get triggerId = .ok (some t)) :
    ∃ result final,
      c.perform (engine.executeGated sessionId commandId) scene = (result, final) ∧
      (∀ outcome, result = .ok outcome → ∃ e later,
        c.host.RunsAt sessionId scene.state (c.asked sessionId scene).state ∧
        c.judges engine t (c.asked sessionId scene) = (.ok e, later) ∧
        outcome.triggerStatus = some e.status ∧ outcome.reason = e.verdict.reason ∧
        (e.status ≠ .satisfied → outcome.accepted = 0)) ∧
      ((¬ c.host.RunsAt sessionId scene.state (c.asked sessionId scene).state ∨
          ∀ e later, c.judges engine t (c.asked sessionId scene) ≠ (.ok e, later)) →
        final.triggers = scene.triggers ∧ final.effects = scene.effects ∧
          ∃ error, result = .error error ∧
            (c.host.RunsAt sessionId scene.state (c.asked sessionId scene).state →
              ∃ cause later, error = .ofTrigger cause ∧
                c.perform (engine.evaluateOne triggerId) (c.asked sessionId scene) =
                  (.error cause, later))) ∧
      ∀ e later, c.host.RunsAt sessionId scene.state (c.asked sessionId scene).state →
        c.judges engine t (c.asked sessionId scene) = (.ok e, later) →
        (e.status ≠ .satisfied →
          Withheld triggerId t e (c.now (c.asked sessionId scene).state).1 scene final result) ∧
        (e.status = .satisfied →
          (t.record e).lastFiredAt = some (c.now (c.asked sessionId scene).state).1 ∧
          c.Fires sessionId commandId (t.record e) e later.state scene final result) ∧
        ∃ alone, (∃ v,
            c.perform (engine.evaluateOne triggerId) (c.asked sessionId scene) = (.ok v, alone) ∧
              Beside triggerId e v final alone) ∨
          ∃ error,
            c.perform (engine.evaluateOne triggerId) (c.asked sessionId scene) =
              (.error (.store error), alone) ∧
            scene.triggers.put (t.record e) = .error error := by
  have looked : (c.asked sessionId scene).triggers.get triggerId = .ok (some t) := stored
  rcases performed : c.perform (engine.executeGated sessionId commandId) scene with ⟨result, final⟩
  refine ⟨result, final, rfl, ?_⟩
  rcases c.executeGated_perform engine found behind scene with
    ⟨error, absent, failed⟩ | ⟨running, same⟩
  · rw [failed] at performed
    cases performed
    refine ⟨(fun _ same => nomatch same), fun _ => ⟨rfl, rfl, error, rfl, fun running => ?_⟩, ?_⟩
    · exact absurd absent running.not_absent
    · exact fun e later running => absurd absent running.not_absent
  have ran := same.symm.trans performed
  rcases judged : c.judges engine t (c.asked sessionId scene) with ⟨error | e, later⟩
  · obtain ⟨triggers, effects, _⟩ := c.judges_spec engine t (c.asked sessionId scene)
    rw [judged] at triggers effects
    have alone := c.evaluateOne_perform engine looked
    rw [judged] at alone
    rw [c.executeBehind_perform engine looked, judged] at ran
    cases ran
    refine ⟨(fun _ same => nomatch same),
      fun _ => ⟨triggers, effects, _, rfl, fun _ => ⟨error, final, rfl, alone⟩⟩, ?_⟩
    intro e other _ again
    cases again
  · refine ⟨fun outcome success => ⟨e, later, running, rfl, ?_⟩, fun none => ?_, ?_⟩
    · subst success
      exact executeBehind_reports looked judged ran
    · rcases none with absent | never
      · exact absurd running absent
      · exact absurd rfl (never e later)
    · intro e' later' _ again
      cases again
      refine ⟨fun unsatisfied => ?_, fun satisfied => ?_, ?_⟩
      · have withheld := executeBehind_withheld looked judged unsatisfied ran
        exact ⟨withheld.unsent, withheld.records, withheld.reported⟩
      · obtain ⟨time, fires⟩ := executeBehind_satisfied looked judged satisfied ran
        refine ⟨time, ?_⟩
        cases fires with
        | refused refused triggers effects => exact .refused refused triggers effects
        | ran stored effects executes => exact .ran stored effects executes
      · obtain ⟨alone, ⟨success, taken⟩ | refused⟩ := evaluateOne_stored looked judged
        · exact ⟨alone, .inl ⟨_, success, evaluateOne_beside looked judged ran taken⟩⟩
        · exact ⟨alone, .inr refused⟩

/-- A command behind a trigger, and a clock that stands still. -/
def porter : Collaborators Unit where
  repertoire := {
    commands := .ofList [(Command.ofSteps "open" [⟨.action "knock", 0⟩]).withTrigger "rested"]
    actions := .ofList [{ id := "knock", inputs := [.press "K"] }] }
  host := Repertoire.yielding
  now := return ⟨60, 0⟩
  measure _ := return .error .cancelled

/-- A trigger that has waited long enough. -/
def rested : Trigger := { Trigger.ofDelay "rested" 30 with enabledAt := some ⟨0, 0⟩ }

def evening : Scene Unit := ⟨(), .ofList [rested], []⟩

/-- That the trigger fired is stored, and then the batch is sent. -/
theorem porter_executeGated : ∃ final,
    porter.perform ((Engine.standard false).executeGated "door" "open") evening =
      (.ok ⟨1, some .satisfied, "delay_elapsed"⟩, final) ∧
    final.effects = [.stored (rested.record ⟨Trigger.Reason.delayElapsed.verdict ⟨60, 0⟩, none⟩),
      .sent ⟨"door", [.press "K"], .ok 1⟩] := by
  have found : porter.repertoire.commands.get "open" =
      .ok (some ((Command.ofSteps "open" [⟨.action "knock", 0⟩]).withTrigger "rested")) := rfl
  have knock : porter.repertoire.actions.get "knock" =
      .ok (some { id := "knock", inputs := [.press "K"] }) := rfl
  have stored : evening.triggers.get "rested" = .ok (some rested) := rfl
  have running : porter.host.RunsAt "door" () () := ⟨.running "door", rfl, rfl⟩
  have judged : porter.judges (Engine.standard false) rested (porter.asked "door" evening) =
      (.ok ⟨Trigger.Reason.delayElapsed.verdict ⟨60, 0⟩, none⟩, evening) := rfl
  have single : Command.Arranged [⟨.action "knock", 0⟩] [⟨.action "knock", 0⟩] :=
    ⟨by decide, fun _ => rfl⟩
  have entered : Advances porter.repertoire porter.host "door" (.start "open", ()) none
      (⟨["open"], [.step (.action "knock"), .leave]⟩, ()) :=
    .quiet (.enter (by decide) found single) (.command ⟨_, _, rfl⟩ rfl)
  have acted : Advances porter.repertoire porter.host "door"
      (⟨["open"], [.step (.action "knock"), .leave]⟩, ()) (some ⟨"door", [.press "K"], .ok 1⟩)
      (⟨["open"], [.leave]⟩, ()) :=
    .send (.act knock) rfl
  have left : Advances porter.repertoire porter.host "door" (⟨[] ++ ["open"], [.leave]⟩, ()) none
      (⟨[], []⟩, ()) :=
    .quiet .leave (.other fun ⟨_, _, next⟩ => nomatch next)
  have runs : Executes porter.repertoire porter.host "door" "open" ()
      [⟨"door", [.press "K"], .ok 1⟩] (.ok 1) () :=
    .runs running (.arrives (.go entered (.go acted (.go left (.stay _)))))
  obtain ⟨result, final, performed, _, _, verdicts⟩ :=
    porter.executeGated_beside_evaluateOne (Engine.standard false) found rfl stored
  obtain ⟨_, fires, _⟩ := verdicts _ _ running judged
  cases (fires rfl).2 with
  | refused refused => cases refused
  | ran _ effects executes =>
    obtain ⟨rfl, rfl, _⟩ := executes.unique runs
    exact ⟨final, performed, effects⟩

end Collaborators

end Autopilot
