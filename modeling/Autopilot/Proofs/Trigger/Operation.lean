import Autopilot.Command.Gated
import Autopilot.Proofs.Trigger.Evaluation
import Autopilot.Proofs.Trigger.Rewriting

/-!
The operations on one repository of triggers, and what each of them says. All of them
read once and rewrite what they are told: a pass many triggers, the others one.
-/

namespace Autopilot

/-- Carries a talk on to its end, and tells whether it succeeded. -/
def Talk.succeeds {ε α : Type} (talk : Talk ε α) : Dialogue Bool :=
  Dialogue.bind talk.run fun outcome => .done outcome.isOk

inductive Operation where
  | pass (filter : Option Filter)
  | judge (id : String)
  | enable (id : String)
  | disable (id : String)
  | gated (sessionId commandId : String)

/-- What an operation says; it ends with whether it succeeded. -/
def Operation.dialogue (engine : Engine) : Operation → Dialogue Bool
  | .pass filter => (engine.evaluateAll filter).succeeds
  | .judge id => (engine.evaluateOne id).succeeds
  | .enable id => (Engine.enable id).succeeds
  | .disable id => (Engine.disable id).succeeds
  | .gated sessionId commandId => (engine.executeGated sessionId commandId).succeeds

/-- In a path the time is asked for, and then the engine judges a trigger so. -/
def Engine.Judges (engine : Engine) (path : List Exchange) (t : Trigger) (time : Instant)
    (e : Trigger.Evaluation) : Prop :=
  ∃ lead judging rest, path = lead ++ ⟨.now, time⟩ :: judging ++ rest ∧
    Trace (engine.evaluate t time).run judging (.ok e)

theorem Engine.Judges.widen {engine : Engine} {path : List Exchange} {t : Trigger} {time : Instant}
    {e : Trigger.Evaluation} (judged : engine.Judges path t time e) (before after : List Exchange) :
    engine.Judges (before ++ path ++ after) t time e := by
  obtain ⟨lead, judging, rest, rfl, said⟩ := judged
  refine ⟨before ++ lead, judging, rest ++ after, ?_, said⟩
  simp only [List.append_assoc, List.cons_append]

/-- The changes of a trigger that an operation may store when it says some path. -/
inductive Operation.Changes (engine : Engine) (path : List Exchange) :
    Operation → Trigger → Trigger → Prop where
  | pass {filter : Option Filter} {t : Trigger} {time : Instant} {e : Trigger.Evaluation}
      (selected : filter.all (·.selects t) = true) (judged : engine.Judges path t time e) :
      Changes engine path (.pass filter) t (t.record e)
  | judge {id : String} {t : Trigger} {time : Instant} {e : Trigger.Evaluation}
      (judged : engine.Judges path t time e) : Changes engine path (.judge id) t (t.record e)
  | enable {id : String} {t : Trigger} : Changes engine path (.enable id) t t.enable
  | disable {id : String} {t : Trigger} : Changes engine path (.disable id) t t.disable
  | fire {sessionId commandId : String} {t : Trigger} {time : Instant} {e : Trigger.Evaluation}
      (judged : engine.Judges path t time e) (satisfied : e.status = .satisfied) :
      Changes engine path (.gated sessionId commandId) t (t.record e)
  | baseline {sessionId commandId : String} {t : Trigger} {time start : Instant}
      {e : Trigger.Evaluation} (judged : engine.Judges path t time e)
      (unsatisfied : e.status ≠ .satisfied) (established : e.baseline = some start) :
      Changes engine path (.gated sessionId commandId) t { t with enabledAt := some start }

theorem Trigger.enable_id (t : Trigger) : t.enable.id = t.id := by
  unfold Trigger.enable
  split <;> rfl

theorem Operation.Changes.id {engine : Engine} {path : List Exchange} {op : Operation}
    {t v : Trigger} (changed : op.Changes engine path t v) : v.id = t.id := by
  cases changed with
  | enable => exact t.enable_id
  | _ => rfl

/-! ## What the operations say -/

namespace Engine

theorem evaluate_quiet {engine : Engine} {t : Trigger} {now : Instant} {path : List Exchange}
    {outcome : Except TriggerError Trigger.Evaluation}
    (said : Trace (engine.evaluate t now).run path outcome) :
    ∀ exchange ∈ path, exchange.question.isQuiet = true := by
  intro exchange member
  rcases evaluate_asks said exchange member with same | ⟨_, same⟩
  · rw [same]
    rfl
  · rw [same]
    rfl

/-- A pass stores a change of each trigger that it judges, in the order it was told them. -/
theorem judgeEach_rewrites {engine : Engine} {change : Trigger → Trigger → Prop}
    {progress : Progress} {triggers : List Trigger} {path : List Exchange}
    {outcome : Except TriggerError Progress}
    (judged : ∀ t ∈ triggers, ∀ time e, engine.Judges path t time e → change t (t.record e))
    (said : Trace (engine.judgeEach progress triggers).run path outcome) :
    Rewrites change triggers path := by
  induction triggers generalizing progress path with
  | nil =>
    obtain ⟨rfl, _⟩ := Talk.trace_pure said
    exact .done []
  | cons t rest ih =>
    obtain ⟨cancelled, asked, rfl, said₁⟩ := Talk.trace_ask said
    refine .quiet rfl ?_
    cases cancelled with
    | true =>
      rcases Talk.trace_bind said₁ with ⟨_, _, _, _, before, _⟩ | ⟨_, before, _⟩
      · cases (Talk.trace_throw before).2
      · obtain ⟨rfl, _⟩ := Talk.trace_throw before
        exact .done _
    | false =>
      obtain ⟨now, judging, rfl, said₂⟩ := Talk.trace_ask said₁
      refine .quiet rfl ?_
      rcases Talk.trace_bind said₂ with ⟨first, e, keeping, rfl, before, said₃⟩ | ⟨_, before, _⟩
      · obtain ⟨stored, others, rfl, said₄⟩ := Talk.trace_ask said₃
        refine Rewrites.append_quiet (evaluate_quiet before) (.keep ?_ (ih ?_ said₄))
        · exact judged t List.mem_cons_self now e ⟨[_], first, _, rfl, before⟩
        · intro other member time verdict judges
          refine judged other (List.mem_cons_of_mem _ member) time verdict ?_
          have widened := judges.widen
            (⟨.isCancelled, false⟩ :: ⟨.now, now⟩ :: first ++ [⟨.keep (t.record e), stored⟩]) []
          simpa only [List.append_nil, List.append_assoc, List.cons_append, List.nil_append]
            using widened
      · exact .of_quiet (evaluate_quiet before)

theorem evaluateAll_oneRead {engine : Engine} {filter : Option Filter} {path : List Exchange}
    {outcome : Except TriggerError Nat} (said : Trace (engine.evaluateAll filter).run path outcome) :
    OneRead ((Operation.pass filter).Changes engine path) path := by
  obtain ⟨answer, listed, rfl, said₁⟩ := Talk.trace_ask said
  rcases Talk.trace_bind said₁ with ⟨first, triggers, judging, rfl, before, said₂⟩ | ⟨_, before, _⟩
  · obtain ⟨rfl, given⟩ := Talk.trace_orFail before
    obtain rfl : answer = .ok triggers := by
      cases answer with
      | ok other => cases given; rfl
      | error error => cases given
    have selected : (triggers.filter fun t => filter.all (·.selects t)).Sublist triggers :=
      List.filter_sublist
    refine .read rfl selected ?_
    have judged : ∀ t ∈ triggers.filter fun t => filter.all (·.selects t), ∀ time e,
        engine.Judges judging t time e → (Operation.pass filter).Changes engine
          (⟨.triggers, .ok triggers⟩ :: ([] ++ judging)) t (t.record e) := by
      intro t member time e judges
      have widened := judges.widen [⟨.triggers, .ok triggers⟩] []
      rw [List.append_nil] at widened
      exact .pass (List.mem_filter.1 member).2 widened
    rcases Talk.trace_bind said₂ with ⟨first, progress, _, rfl, before, said₃⟩ | ⟨_, before, _⟩
    · obtain ⟨rfl, _⟩ := Talk.trace_orFail said₃
      rw [List.append_nil] at judged ⊢
      exact judgeEach_rewrites judged before
    · exact judgeEach_rewrites judged before
  · obtain ⟨rfl, _⟩ := Talk.trace_orFail before
    exact .read rfl (List.nil_sublist _) (.done _)

/-- Asking for one stored thing that has to be there. -/
theorem demand_said {ε τ : Type} {fail : StoreError → ε} {missing : ε} (question : Question)
    (view : question.Answer → Except StoreError (Option τ)) {next : Option τ → Talk ε τ}
    {path : List Exchange} {outcome : Except ε τ}
    (said : Trace (Talk.ask question >>= fun answer =>
      Talk.orFail fail (view answer) >>= next).run path outcome)
    (present : ∀ found, next (some found) = pure found) (absent : next none = throw missing) :
    ∃ answer, path = [⟨question, answer⟩] ∧
      ∀ found, outcome = .ok found → view answer = .ok (some found) := by
  obtain ⟨answer, rest, rfl, said₁⟩ := Talk.trace_ask said
  refine ⟨answer, ?_⟩
  rcases Talk.trace_bind said₁ with ⟨first, found, rest, rfl, before, said₂⟩ | ⟨_, before, rfl⟩
  · obtain ⟨rfl, given⟩ := Talk.trace_orFail before
    cases found with
    | some found =>
      rw [present] at said₂
      obtain ⟨rfl, rfl⟩ := Talk.trace_pure said₂
      refine ⟨rfl, fun other same => ?_⟩
      cases same
      cases viewed : view answer with
      | ok other => rw [viewed] at given; cases given; rfl
      | error error => rw [viewed] at given; cases given
    | none =>
      rw [absent] at said₂
      obtain ⟨rfl, rfl⟩ := Talk.trace_throw said₂
      exact ⟨rfl, fun _ same => by cases same⟩
  · obtain ⟨rfl, _⟩ := Talk.trace_orFail before
    exact ⟨rfl, fun _ same => by cases same⟩

theorem findTrigger_said {id : String} {path : List Exchange} {outcome : Except TriggerError Trigger}
    (said : Trace (findTrigger id).run path outcome) :
    ∃ answer, path = [⟨.trigger id, answer⟩] ∧ ∀ t, outcome = .ok t → answer = .ok (some t) :=
  demand_said (.trigger id) (fun answer => answer) said (fun _ => rfl) rfl

theorem keep_said {t : Trigger} {path : List Exchange} {outcome : Except TriggerError Trigger}
    (said : Trace (keep t).run path outcome) :
    ∃ answer, path = [⟨.keep t, answer⟩] ∧ ∀ v, outcome = .ok v → v = t ∧ answer = .ok () := by
  obtain ⟨answer, rest, rfl, said₁⟩ := Talk.trace_ask said
  rcases Talk.trace_bind said₁ with ⟨first, done, rest, rfl, before, said₂⟩ | ⟨_, before, rfl⟩
  · obtain ⟨rfl, given⟩ := Talk.trace_orFail before
    obtain ⟨rfl, rfl⟩ := Talk.trace_pure said₂
    refine ⟨answer, rfl, fun v same => ?_⟩
    cases answer with
    | ok other => cases same; exact ⟨rfl, rfl⟩
    | error error => cases given
  · obtain ⟨rfl, _⟩ := Talk.trace_orFail before
    exact ⟨answer, rfl, fun _ same => by cases same⟩

/-- Changing one trigger is one question and, if the trigger is found, one more. -/
theorem update_said {id : String} {f : Trigger → Trigger} {path : List Exchange}
    {outcome : Except TriggerError Trigger}
    (said : Trace (findTrigger id >>= fun t => keep (f t)).run path outcome) :
    (∃ answer, path = [⟨.trigger id, answer⟩] ∧ ∀ v, outcome ≠ .ok v) ∨
    ∃ t answer, path = [⟨.trigger id, .ok (some t)⟩, ⟨.keep (f t), answer⟩] ∧
      ∀ v, outcome = .ok v → answer = .ok () := by
  rcases Talk.trace_bind said with ⟨first, t, rest, rfl, before, said₁⟩ | ⟨_, before, rfl⟩
  · obtain ⟨found, rfl, same⟩ := findTrigger_said before
    obtain ⟨answer, rfl, given⟩ := keep_said said₁
    refine .inr ⟨t, answer, ?_, fun v success => (given v success).2⟩
    rw [same t rfl]
    rfl
  · obtain ⟨found, rfl, _⟩ := findTrigger_said before
    exact .inl ⟨found, rfl, fun _ same => by cases same⟩

theorem update_oneRead {change : Trigger → Trigger → Prop} {id : String} {f : Trigger → Trigger}
    {path : List Exchange} {outcome : Except TriggerError Trigger}
    (changed : ∀ t, change t (f t))
    (said : Trace (findTrigger id >>= fun t => keep (f t)).run path outcome) :
    OneRead change path := by
  rcases update_said said with ⟨_, rfl, _⟩ | ⟨t, _, rfl, _⟩
  · exact .read rfl (List.nil_sublist _) (.done _)
  · exact .read rfl (List.Sublist.refl [t]) (.keep (changed t) (.done []))

theorem evaluateOne_oneRead {engine : Engine} {id : String} {path : List Exchange}
    {outcome : Except TriggerError Trigger}
    (said : Trace (engine.evaluateOne id).run path outcome) :
    OneRead ((Operation.judge id).Changes engine path) path := by
  rcases Talk.trace_bind said with ⟨_, t, _, rfl, before, said₁⟩ | ⟨_, before, _⟩
  · obtain ⟨found, rfl, same⟩ := findTrigger_said before
    obtain rfl := same t rfl
    refine .read rfl (List.Sublist.refl [t]) ?_
    obtain ⟨now, judging, rfl, said₂⟩ := Talk.trace_ask said₁
    refine .quiet rfl ?_
    rcases Talk.trace_bind said₂ with ⟨first, e, _, rfl, judged, said₃⟩ | ⟨_, judged, _⟩
    · obtain ⟨answer, rfl, _⟩ := keep_said said₃
      have judges : engine.Judges (⟨.trigger id, .ok (some t)⟩ :: ⟨.now, now⟩ :: (first ++
          [⟨.keep (t.record e), answer⟩])) t now e := ⟨[_], first, _, rfl, judged⟩
      exact Rewrites.append_quiet (evaluate_quiet judged) (.keep (.judge judges) (.done []))
    · exact .of_quiet (evaluate_quiet judged)
  · obtain ⟨found, rfl, _⟩ := findTrigger_said before
    exact .read rfl (List.nil_sublist _) (.done _)

/-! ### Commands behind triggers -/

theorem triggerOf_said {id : String} {path : List Exchange} {outcome : Except CommandError Trigger}
    (said : Trace (triggerOf id).run path outcome) :
    ∃ answer, path = [⟨.trigger id, answer⟩] ∧ ∀ t, outcome = .ok t → answer = .ok (some t) :=
  demand_said (.trigger id) (fun answer => answer) said (fun _ => rfl) rfl

theorem judged_said {engine : Engine} {t : Trigger} {now : Instant} {path : List Exchange}
    {outcome : Except CommandError Trigger.Evaluation}
    (said : Trace (engine.judged t now).run path outcome) :
    ∃ verdict, Trace (engine.evaluate t now).run path verdict ∧
      outcome = verdict.mapError CommandError.ofTrigger := by
  obtain ⟨first, verdict, rest, rfl, before, later⟩ := Trace.of_bind said
  obtain ⟨rfl, rfl⟩ := Trace.of_done later
  rw [List.append_nil]
  exact ⟨verdict, before, rfl⟩

/-- What follows when a command's trigger was judged: that it fired is stored before the
command runs, and otherwise at most a baseline is stored. -/
inductive AfterJudging (sessionId commandId : String) (t : Trigger) (e : Trigger.Evaluation) :
    List Exchange → Prop where
  | unstored (satisfied : e.status = .satisfied) (error : StoreError) :
      AfterJudging sessionId commandId t e [⟨.keep (t.record e), .error error⟩]
  | run (satisfied : e.status = .satisfied) (answer : Except CommandError Nat) :
      AfterJudging sessionId commandId t e
        [⟨.keep (t.record e), .ok ()⟩, ⟨.execute sessionId commandId, answer⟩]
  | nothing (unsatisfied : e.status ≠ .satisfied) (unchanged : e.baseline = none) :
      AfterJudging sessionId commandId t e []
  | baseline (unsatisfied : e.status ≠ .satisfied) (start : Instant)
      (established : e.baseline = some start) (answer : Except StoreError Unit) :
      AfterJudging sessionId commandId t e [⟨.keep { t with enabledAt := some start }, answer⟩]

theorem executed_said {sessionId commandId : String} {outcomeOf : Nat → Outcome}
    {path : List Exchange} {outcome : Except CommandError Outcome}
    (said : Trace (do
      let accepted ← Talk.orFail id (← Talk.execute sessionId commandId)
      return outcomeOf accepted : Talk CommandError Outcome).run path outcome) :
    ∃ answer, path = [⟨.execute sessionId commandId, answer⟩] := by
  obtain ⟨answer, ending, rfl, said₁⟩ := Talk.trace_ask said
  refine ⟨answer, congrArg (List.cons _) ?_⟩
  rcases Talk.trace_bind said₁ with ⟨_, _, _, rfl, before, said₂⟩ | ⟨_, before, _⟩
  · rw [(Talk.trace_orFail before).1, (Talk.trace_pure said₂).1, List.append_nil]
  · exact (Talk.trace_orFail before).1

theorem keepBaseline_said {t : Trigger} {e : Trigger.Evaluation} {path : List Exchange}
    {outcome : Except CommandError Unit} (said : Trace (keepBaseline t e).run path outcome) :
    (e.baseline = none ∧ path = []) ∨
      ∃ start answer, e.baseline = some start ∧
        path = [⟨.keep { t with enabledAt := some start }, answer⟩] := by
  unfold keepBaseline at said
  split at said
  next unchanged => exact .inl ⟨unchanged, (Talk.trace_pure said).1⟩
  next start established =>
    obtain ⟨answer, ending, rfl, said₁⟩ := Talk.trace_ask said
    rw [(Talk.trace_orFail said₁).1]
    exact .inr ⟨start, answer, established, rfl⟩

theorem executeBehind_cases {engine : Engine} {sessionId commandId triggerId : String}
    {path : List Exchange} {outcome : Except CommandError Outcome}
    (said : Trace (engine.executeBehind sessionId commandId triggerId).run path outcome) :
    (∃ answer, path = [⟨.trigger triggerId, answer⟩]) ∨
    ∃ t now judging rest, path = ⟨.trigger triggerId, .ok (some t)⟩ :: ⟨.now, now⟩ :: judging ++ rest ∧
      ((rest = [] ∧ ∃ error, Trace (engine.evaluate t now).run judging (.error error)) ∨
        ∃ e, Trace (engine.evaluate t now).run judging (.ok e) ∧
          AfterJudging sessionId commandId t e rest) := by
  rcases Talk.trace_bind said with ⟨first, t, _, rfl, before, said₁⟩ | ⟨_, before, _⟩
  · obtain ⟨found, rfl, same⟩ := triggerOf_said before
    obtain rfl := same t rfl
    obtain ⟨now, judging, rfl, said₂⟩ := Talk.trace_ask said₁
    refine .inr ⟨t, now, ?_⟩
    rcases Talk.trace_bind said₂ with ⟨judging, e, rest, rfl, judged, said₃⟩ | ⟨_, judged, _⟩
    · obtain ⟨verdict, evaluated, same⟩ := judged_said judged
      cases verdict with
      | error error => cases same
      | ok verdict =>
        cases same
        refine ⟨judging, rest, rfl, .inr ⟨e, evaluated, ?_⟩⟩
        dsimp only at said₃
        by_cases satisfied : e.status = .satisfied
        · rw [if_pos satisfied] at said₃
          obtain ⟨stored, keeping, rfl, said₄⟩ := Talk.trace_ask said₃
          rcases Talk.trace_bind said₄ with ⟨_, _, _, rfl, before, said₅⟩ | ⟨_, before, _⟩
          · obtain ⟨rfl, given⟩ := Talk.trace_orFail before
            obtain ⟨answer, rfl⟩ := executed_said said₅
            cases stored with
            | ok _ => exact .run satisfied answer
            | error error => cases given
          · obtain ⟨rfl, given⟩ := Talk.trace_orFail before
            cases stored with
            | ok _ => cases given
            | error error => exact .unstored satisfied error
        · rw [if_neg satisfied] at said₃
          have kept : ∃ outcome, Trace (keepBaseline t e).run rest outcome := by
            rcases Talk.trace_bind said₃ with ⟨_, _, _, rfl, before, said₄⟩ | ⟨_, before, _⟩
            · rw [(Talk.trace_pure said₄).1, List.append_nil]
              exact ⟨_, before⟩
            · exact ⟨_, before⟩
          obtain ⟨_, kept⟩ := kept
          rcases keepBaseline_said kept with ⟨unchanged, rfl⟩ | ⟨start, answer, established, rfl⟩
          · exact .nothing satisfied unchanged
          · exact .baseline satisfied start established answer
    · obtain ⟨verdict, evaluated, same⟩ := judged_said judged
      cases verdict with
      | error error => exact ⟨judging, [], (List.append_nil _).symm, .inl ⟨rfl, error, evaluated⟩⟩
      | ok verdict => cases same
  · obtain ⟨answer, rfl, _⟩ := triggerOf_said before
    exact .inl ⟨answer, rfl⟩

theorem requireRunning_said {sessionId : String} {path : List Exchange}
    {outcome : Except CommandError Unit} (said : Trace (requireRunning sessionId).run path outcome) :
    ∃ answer, path = [⟨.session sessionId, answer⟩] := by
  obtain ⟨answer, rest, rfl, said₁⟩ := Talk.trace_ask said
  refine ⟨answer, congrArg (List.cons _) ?_⟩
  cases answer with
  | none => exact (Talk.trace_throw said₁).1
  | some session =>
    dsimp only at said₁
    split at said₁
    · exact (Talk.trace_throw said₁).1
    · exact (Talk.trace_pure said₁).1

theorem findCommand_said {id : String} {path : List Exchange} {outcome : Except CommandError Command}
    (said : Trace (findCommand id).run path outcome) :
    ∃ answer, path = [⟨.command id, answer⟩] ∧
      ∀ command, outcome = .ok command → answer = .ok (some command) :=
  demand_said (.command id) (fun answer => answer) said (fun _ => rfl) rfl

/-- A command without a trigger runs at once; any other waits for its trigger. -/
theorem executeGated_cases {engine : Engine} {sessionId commandId : String}
    {path : List Exchange} {outcome : Except CommandError Outcome}
    (said : Trace (engine.executeGated sessionId commandId).run path outcome) :
    ∃ session, path = [⟨.session sessionId, session⟩] ∨
      (∃ answer, path = [⟨.session sessionId, session⟩, ⟨.command commandId, answer⟩]) ∨
      ∃ command rest, path =
          ⟨.session sessionId, session⟩ :: ⟨.command commandId, .ok (some command)⟩ :: rest ∧
        ((command.triggerId = none ∧ ∃ answer, rest = [⟨.execute sessionId commandId, answer⟩]) ∨
          ∃ triggerId, command.triggerId = some triggerId ∧
            Trace (engine.executeBehind sessionId commandId triggerId).run rest outcome) := by
  rcases Talk.trace_bind said with ⟨first, _, _, rfl, before, said₁⟩ | ⟨_, before, _⟩
  · obtain ⟨session, rfl⟩ := requireRunning_said before
    refine ⟨session, .inr ?_⟩
    rcases Talk.trace_bind said₁ with ⟨_, command, rest, rfl, before, said₂⟩ | ⟨_, before, _⟩
    · obtain ⟨answer, rfl, same⟩ := findCommand_said before
      obtain rfl := same command rfl
      refine .inr ⟨command, rest, rfl, ?_⟩
      cases behind : command.triggerId with
      | none =>
        rw [behind] at said₂
        exact .inl ⟨rfl, executed_said said₂⟩
      | some triggerId =>
        rw [behind] at said₂
        exact .inr ⟨triggerId, rfl, said₂⟩
    · obtain ⟨answer, rfl, _⟩ := findCommand_said before
      exact .inl ⟨answer, rfl⟩
  · obtain ⟨session, rfl⟩ := requireRunning_said before
    exact ⟨session, .inl rfl⟩

theorem executeBehind_oneRead {engine : Engine} {sessionId commandId triggerId : String}
    {path : List Exchange} {outcome : Except CommandError Outcome}
    (said : Trace (engine.executeBehind sessionId commandId triggerId).run path outcome)
    (lead : List Exchange) :
    OneRead ((Operation.gated sessionId commandId).Changes engine (lead ++ path)) path := by
  rcases executeBehind_cases said with
    ⟨answer, rfl⟩ | ⟨t, now, judging, rest, rfl, ⟨rfl, error, evaluated⟩ | ⟨e, evaluated, after⟩⟩
  · exact .read rfl (List.nil_sublist _) (.done _)
  · refine .read rfl (List.Sublist.refl [t]) (.quiet rfl ?_)
    exact Rewrites.append_quiet (evaluate_quiet evaluated) (.done [t])
  · refine .read rfl (List.Sublist.refl [t]) (.quiet rfl ?_)
    refine Rewrites.append_quiet (evaluate_quiet evaluated) ?_
    have judged : engine.Judges
        (lead ++ (⟨.trigger triggerId, .ok (some t)⟩ :: ⟨.now, now⟩ :: judging ++ rest)) t now e := by
      refine ⟨lead ++ [⟨.trigger triggerId, .ok (some t)⟩], judging, rest, ?_, evaluated⟩
      simp only [List.append_assoc, List.cons_append, List.nil_append]
    cases after with
    | unstored satisfied error => exact .keep (.fire judged satisfied) (.done [])
    | run satisfied answer => exact .keep (.fire judged satisfied) (.quiet rfl (.done []))
    | nothing => exact .done [t]
    | baseline unsatisfied start established answer =>
      exact .keep (.baseline judged unsatisfied established) (.done [])

theorem executeGated_oneRead {engine : Engine} {sessionId commandId : String}
    {path : List Exchange} {outcome : Except CommandError Outcome}
    (said : Trace (engine.executeGated sessionId commandId).run path outcome) :
    OneRead ((Operation.gated sessionId commandId).Changes engine path) path := by
  obtain ⟨session, rfl | ⟨answer, rfl⟩ | ⟨command, rest, rfl, ⟨_, answer, rfl⟩ | ⟨_, _, said₁⟩⟩⟩ :=
    executeGated_cases said
  · exact .quiet rfl .done
  · exact .quiet rfl (.quiet rfl .done)
  · exact .quiet rfl (.quiet rfl (.quiet rfl .done))
  · exact .quiet rfl (.quiet rfl (executeBehind_oneRead said₁ [_, _]))

end Engine

theorem Talk.succeeds_said {ε α : Type} {talk : Talk ε α} {path : List Exchange} {success : Bool}
    (said : Trace talk.succeeds path success) :
    ∃ outcome, Trace talk.run path outcome ∧ success = outcome.isOk := by
  obtain ⟨first, outcome, rest, rfl, before, later⟩ := Trace.of_bind said
  obtain ⟨rfl, rfl⟩ := Trace.of_done later
  rw [List.append_nil]
  exact ⟨outcome, before, rfl⟩

/-- Every operation asks for stored triggers at most once and then stores only its own
changes of what it was told. -/
theorem Operation.oneRead {engine : Engine} {op : Operation} {path : List Exchange}
    {success : Bool} (said : Trace (op.dialogue engine) path success) :
    OneRead (op.Changes engine path) path := by
  cases op with
  | pass filter =>
    obtain ⟨outcome, said, _⟩ := Talk.succeeds_said said
    exact Engine.evaluateAll_oneRead said
  | judge id =>
    obtain ⟨outcome, said, _⟩ := Talk.succeeds_said said
    exact Engine.evaluateOne_oneRead said
  | enable id =>
    obtain ⟨outcome, said, _⟩ := Talk.succeeds_said said
    exact Engine.update_oneRead (fun _ => .enable) said
  | disable id =>
    obtain ⟨outcome, said, _⟩ := Talk.succeeds_said said
    exact Engine.update_oneRead (fun _ => .disable) said
  | gated sessionId commandId =>
    obtain ⟨outcome, said, _⟩ := Talk.succeeds_said said
    exact Engine.executeGated_oneRead said

/-- The switch of a trigger, to one side or the other. -/
def Operation.switch (on : Bool) (id : String) : Operation :=
  if on then .enable id else .disable id

theorem Trigger.enable_enabled (t : Trigger) : t.enable.enabled = true := by
  unfold Trigger.enable
  split
  next enabled => exact enabled
  next => rfl

/-- Only switching it to the other side takes a trigger away from one. -/
theorem Operation.Changes.enabled {engine : Engine} {path : List Exchange} {op : Operation}
    {t v : Trigger} {on : Bool} (changed : op.Changes engine path t v)
    (kept : ∀ id, op ≠ .switch (!on) id) (was : t.enabled = on) : v.enabled = on := by
  cases changed with
  | enable =>
    rw [t.enable_enabled]
    cases on with
    | true => rfl
    | false => exact absurd rfl (kept _)
  | disable =>
    cases on with
    | true => exact absurd rfl (kept _)
    | false => rfl
  | _ => exact was

/-- No operation makes a trigger forget that it has fired. -/
theorem Operation.Changes.fired {engine : Engine} {path : List Exchange} {op : Operation}
    {t v : Trigger} (changed : op.Changes engine path t v) (fired : t.lastFiredAt.isSome) :
    v.lastFiredAt.isSome := by
  have recorded (e : Trigger.Evaluation) : (t.record e).lastFiredAt.isSome := by
    by_cases satisfied : e.status = .satisfied
    · rw [t.record_of_satisfied satisfied]
      rfl
    · rw [t.record_of_unsatisfied satisfied]
      exact fired
  cases changed with
  | enable =>
    unfold Trigger.enable
    split <;> exact fired
  | disable => exact fired
  | baseline => exact fired
  | _ => exact recorded _

/-- Changing one trigger on its own changes what is stored. -/
theorem Engine.update_alone {id : String} {f : Trigger → Trigger} {path : List Exchange}
    {shelf : Shelf Trigger}
    (said : Trace (Engine.findTrigger id >>= fun t => Engine.keep (f t)).succeeds path true)
    (keepsId : ∀ t, (f t).id = t.id) (follows : Follows shelf path) :
    ∃ t, shelf.get? id = some t ∧ (shelf.after path).get? id = some (f t) := by
  obtain ⟨outcome, said, success⟩ := Talk.succeeds_said said
  cases outcome with
  | error error => cases success
  | ok v =>
    rcases Engine.update_said said with ⟨_, _, never⟩ | ⟨t, answer, rfl, given⟩
    · exact absurd rfl (never v)
    · obtain rfl := given v rfl
      have found : some t = shelf.get? id := follows.1 (some t) rfl
      refine ⟨t, found.symm, ?_⟩
      have same : (f t).id = id := (keepsId t).trans (Shelf.recordId_of_get? found.symm)
      rw [← same]
      exact shelf.get?_insert_same (f t)

/-- Switching a trigger on its own leaves it on the side that was asked for. -/
theorem Operation.switch_alone {engine : Engine} {on : Bool} {id : String} {path : List Exchange}
    {shelf : Shelf Trigger} (said : Trace ((Operation.switch on id).dialogue engine) path true)
    (follows : Follows shelf path) :
    ∃ v, (shelf.after path).get? id = some v ∧ v.enabled = on := by
  cases on with
  | true =>
    obtain ⟨t, _, now⟩ := Engine.update_alone said Trigger.enable_id follows
    exact ⟨t.enable, now, t.enable_enabled⟩
  | false =>
    obtain ⟨t, _, now⟩ := Engine.update_alone said (fun t => rfl) follows
    exact ⟨t.disable, now, rfl⟩

/-- Changing one trigger on its own leaves all others as they are. -/
theorem Engine.update_others {id other : String} {f : Trigger → Trigger} {path : List Exchange}
    {success : Bool} {shelf : Shelf Trigger}
    (said : Trace (Engine.findTrigger other >>= fun t => Engine.keep (f t)).succeeds path success)
    (keepsId : ∀ t, (f t).id = t.id) (follows : Follows shelf path) (different : other ≠ id) :
    (shelf.after path).get? id = shelf.get? id := by
  obtain ⟨outcome, said, _⟩ := Talk.succeeds_said said
  refine shelf.get?_after_of_other fun exchange member v stores same => different ?_
  rcases Engine.update_said said with ⟨_, rfl, _⟩ | ⟨t, answer, rfl, _⟩
  · rw [List.mem_singleton.1 member] at stores
    cases stores
  · have found : some t = shelf.get? other := follows.1 (some t) rfl
    rcases List.mem_cons.1 member with rfl | member
    · cases stores
    · rw [List.mem_singleton.1 member] at stores
      obtain rfl : f t = v := by
        cases answer with
        | ok _ => exact Option.some.inj stores
        | error error => cases stores
      rw [← same, keepsId]
      exact (Shelf.recordId_of_get? found.symm).symm

/-- Switching another trigger does not matter. -/
theorem Operation.switch_others {engine : Engine} {on : Bool} {id other : String}
    {path : List Exchange} {success : Bool} {shelf : Shelf Trigger}
    (said : Trace ((Operation.switch on other).dialogue engine) path success)
    (follows : Follows shelf path) (different : other ≠ id) :
    (shelf.after path).get? id = shelf.get? id := by
  cases on with
  | true => exact Engine.update_others said Trigger.enable_id follows different
  | false => exact Engine.update_others said (fun t => rfl) follows different

/-- On its own, an operation leaves a trigger as it is or makes one of its changes. -/
theorem Operation.alone {engine : Engine} {op : Operation} {path : List Exchange} {success : Bool}
    {shelf : Shelf Trigger} (said : Trace (op.dialogue engine) path success)
    (follows : Follows shelf path) (id : String) :
    (shelf.after path).get? id = shelf.get? id ∨
      ∃ t v, shelf.get? id = some t ∧ op.Changes engine path t v ∧
        (shelf.after path).get? id = some v :=
  (Operation.oneRead said).alone Operation.Changes.id follows id

/-- On its own, an operation stores only changes of what was there at its start. -/
theorem Operation.stored_alone {engine : Engine} {op : Operation} {path : List Exchange}
    {success : Bool} {shelf : Shelf Trigger} (said : Trace (op.dialogue engine) path success)
    (follows : Follows shelf path) {exchange : Exchange} {v : Trigger} (member : exchange ∈ path)
    (stores : exchange.stored? = some v) :
    ∃ t, shelf.get? v.id = some t ∧ op.Changes engine path t v ∧
      (shelf.after path).get? v.id = some v :=
  (Operation.oneRead said).stored_alone Operation.Changes.id follows member stores

/-- What every change of an operation keeps stays when the operation runs on its own. -/
theorem Operation.keeps {engine : Engine} {op : Operation} {path : List Exchange} {success : Bool}
    {shelf : Shelf Trigger} {P : Trigger → Prop} (said : Trace (op.dialogue engine) path success)
    (follows : Follows shelf path) (kept : ∀ t v, op.Changes engine path t v → P t → P v)
    {id : String} (was : ∃ t, shelf.get? id = some t ∧ P t) :
    ∃ t, (shelf.after path).get? id = some t ∧ P t := by
  obtain ⟨t, found, holds⟩ := was
  rcases Operation.alone said follows id with same | ⟨u, v, known, changed, now⟩
  · exact ⟨t, same.trans found, holds⟩
  · obtain rfl : t = u := Option.some.inj (found.symm.trans known)
    exact ⟨v, now, kept t v changed holds⟩

/-- On its own, only an operation that switches it to the other side takes a trigger away
from one. -/
theorem Operation.enabled_alone {engine : Engine} {op : Operation} {path : List Exchange}
    {success : Bool} {shelf : Shelf Trigger} {on : Bool} {id : String}
    (said : Trace (op.dialogue engine) path success) (follows : Follows shelf path)
    (kept : op ≠ .switch (!on) id) (was : ∃ t, shelf.get? id = some t ∧ t.enabled = on) :
    ∃ t, (shelf.after path).get? id = some t ∧ t.enabled = on := by
  by_cases switches : ∃ other, op = .switch (!on) other
  · obtain ⟨other, rfl⟩ := switches
    have different : other ≠ id := fun same => kept (same ▸ rfl)
    rwa [Operation.switch_others said follows different]
  · refine Operation.keeps said follows (fun t v changed was => changed.enabled ?_ was) was
    exact fun other same => switches ⟨other, same⟩

end Autopilot
