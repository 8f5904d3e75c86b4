import Autopilot.Proofs.Trigger.Cooldown

/-!
What a trigger remembers. When it was last judged is the time of its last verdict, and if that verdict
is that it holds, it last fired then. Since when it is enabled is noted by the first of its evaluations
on time that gets to a handler, and stays as it is until it is enabled again. Six writers change what a
trigger remembers, and two of them write only a part of an evaluation.
-/

namespace Autopilot

/-! ## What one operation writes -/

/-- Triggers are judged one after another, and each evaluation is handed to the store. -/
inductive Engine.Passes (engine : Engine) : List Trigger → List Exchange → Prop where
  | nil : Passes engine [] []
  | cons {t : Trigger} {now : Instant} {judging : List Exchange} {e : Trigger.Evaluation}
      {answer : Except StoreError Unit} {behind : List Trigger} {rest : List Exchange}
      (judged : Trace (engine.evaluate t now).run judging (.ok e))
      (later : Passes engine behind rest) :
      Passes engine (t :: behind) (⟨.isCancelled, false⟩ :: ⟨.now, now⟩ ::
        (judging ++ ⟨.keep (t.record e), answer⟩ :: rest))

/-- An operation judges a trigger for a time, when it comes to that trigger. -/
inductive Operation.Judging (engine : Engine) :
    Operation → List Exchange → Trigger → Instant → Trigger.Evaluation → Prop where
  | pass {filter : Option Filter} {triggers ahead behind : List Trigger} {t : Trigger} {now : Instant}
      {before judging rest : List Exchange} {e : Trigger.Evaluation}
      {answer : Except StoreError Unit}
      (selected : (triggers.filter fun t => filter.all (·.selects t)) = ahead ++ t :: behind)
      (earlier : engine.Passes ahead before)
      (judged : Trace (engine.evaluate t now).run judging (.ok e)) :
      Judging engine (.pass filter) (⟨.triggers, .ok triggers⟩ :: (before ++
        ⟨.isCancelled, false⟩ :: ⟨.now, now⟩ :: (judging ++ ⟨.keep (t.record e), answer⟩ :: rest)))
        t now e
  | judge {id : String} {t : Trigger} {now : Instant} {judging : List Exchange}
      {e : Trigger.Evaluation} {answer : Except StoreError Unit}
      (judged : Trace (engine.evaluate t now).run judging (.ok e)) :
      Judging engine (.judge id) (⟨.trigger id, .ok (some t)⟩ :: ⟨.now, now⟩ ::
        (judging ++ [⟨.keep (t.record e), answer⟩])) t now e
  | gated {sessionId commandId triggerId : String} {session : Option Session} {command : Command}
      {t : Trigger} {now : Instant} {judging rest : List Exchange} {e : Trigger.Evaluation}
      (behind : command.triggerId = some triggerId)
      (judged : Trace (engine.evaluate t now).run judging (.ok e))
      (after : Engine.AfterJudging sessionId commandId t e rest) :
      Judging engine (.gated sessionId commandId) (⟨.session sessionId, session⟩ ::
        ⟨.command commandId, .ok (some command)⟩ :: ⟨.trigger triggerId, .ok (some t)⟩ ::
        ⟨.now, now⟩ :: (judging ++ rest)) t now e

/-- What an operation writes in place of a trigger. -/
inductive Operation.Writes (engine : Engine) (path : List Exchange) :
    Operation → Trigger → Trigger → Prop where
  | enable {id : String} {t : Trigger} : Writes engine path (.enable id) t t.enable
  | disable {id : String} {t : Trigger} : Writes engine path (.disable id) t t.disable
  | record {op : Operation} {t : Trigger} {now : Instant} {e : Trigger.Evaluation}
      (judging : op.Judging engine path t now e) : Writes engine path op t (t.record e)
  | baseline {op : Operation} {t : Trigger} {now start : Instant} {e : Trigger.Evaluation}
      (judging : op.Judging engine path t now e) (established : e.baseline = some start) :
      Writes engine path op t { t with enabledAt := some start }

theorem Operation.Writes.id {engine : Engine} {path : List Exchange} {op : Operation} {t v : Trigger}
    (writes : op.Writes engine path t v) : v.id = t.id := by
  cases writes with
  | enable => exact t.enable_id
  | _ => rfl

section Said

variable {engine : Engine} {op : Operation} {path : List Exchange} {success : Bool}
  {exchange : Exchange} {v : Trigger}

theorem Exchange.eq_of_stores {t : Trigger} {answer : Except StoreError Unit}
    (stores : Exchange.stored? ⟨.keep t, answer⟩ = some v) : v = t := by
  cases answer with
  | ok _ => exact (Option.some.inj stores).symm
  | error error => cases stores

theorem Engine.evaluate_not_stores {t : Trigger} {now : Instant} {judging : List Exchange}
    {outcome : Except TriggerError Trigger.Evaluation}
    (said : Trace (engine.evaluate t now).run judging outcome) (member : exchange ∈ judging) :
    exchange.stored? = none :=
  Exchange.stored?_of_quiet (evaluate_quiet said exchange member)

/-- What comes first and stores nothing is not the exchange that stores something. -/
theorem Exchange.later_of_stores {first : Exchange} {rest : List Exchange}
    (stores : exchange.stored? = some v) (nothing : first.stored? = none)
    (member : exchange ∈ first :: rest) : exchange ∈ rest := by
  rcases List.mem_cons.1 member with rfl | later
  · cases nothing.symm.trans stores
  · exact later

theorem Engine.later_of_stores {t : Trigger} {now : Instant} {judging rest : List Exchange}
    {outcome : Except TriggerError Trigger.Evaluation} (stores : exchange.stored? = some v)
    (said : Trace (engine.evaluate t now).run judging outcome)
    (member : exchange ∈ judging ++ rest) : exchange ∈ rest := by
  rcases List.mem_append.1 member with early | later
  · cases (evaluate_not_stores said early).symm.trans stores
  · exact later

/-- What a pass stores is the evaluation of a trigger that it has come to. -/
theorem Engine.judgeEach_stored {progress : Progress} {triggers : List Trigger}
    {outcome : Except TriggerError Progress}
    (said : Trace (engine.judgeEach progress triggers).run path outcome) (member : exchange ∈ path)
    (stores : exchange.stored? = some v) :
    ∃ ahead t behind before now judging e answer rest, triggers = ahead ++ t :: behind ∧
      engine.Passes ahead before ∧ Trace (engine.evaluate t now).run judging (.ok e) ∧
      path = before ++ ⟨.isCancelled, false⟩ :: ⟨.now, now⟩ ::
        (judging ++ ⟨.keep (t.record e), answer⟩ :: rest) ∧ v = t.record e := by
  induction triggers generalizing progress path with
  | nil =>
    obtain ⟨rfl, _⟩ := Talk.trace_pure said
    cases member
  | cons t triggers ih =>
    obtain ⟨stop, asked, rfl, said₁⟩ := Talk.trace_ask said
    cases stop with
    | true =>
      rcases Talk.trace_bind said₁ with ⟨_, _, _, _, before, _⟩ | ⟨_, before, rfl⟩
      · cases (Talk.trace_throw before).2
      · obtain ⟨rfl, _⟩ := Talk.trace_throw before
        cases Exchange.later_of_stores stores rfl member
    | false =>
      obtain ⟨now, judging, rfl, said₂⟩ := Talk.trace_ask said₁
      replace member :=
        Exchange.later_of_stores stores rfl (Exchange.later_of_stores stores rfl member)
      rcases Talk.trace_bind said₂ with ⟨first, e, keeping, rfl, judged, said₃⟩ | ⟨_, judged, rfl⟩
      · obtain ⟨answer, others, rfl, said₄⟩ := Talk.trace_ask said₃
        rcases List.mem_cons.1 (later_of_stores stores judged member) with rfl | late
        · exact ⟨[], t, triggers, [], now, first, e, answer, others, rfl, .nil, judged, rfl,
            Exchange.eq_of_stores stores⟩
        · obtain ⟨ahead, u, behind, before, time, looking, verdict, reply, rest, rfl, passes, seen,
            rfl, same⟩ := ih said₄ late
          have passes' : engine.Passes (t :: ahead) (⟨.isCancelled, false⟩ :: ⟨.now, now⟩ ::
              (first ++ ⟨.keep (t.record e), answer⟩ :: before)) := .cons judged passes
          refine ⟨t :: ahead, u, behind, _, time, looking, verdict, reply, rest, rfl, passes', seen,
            ?_, same⟩
          simp only [List.cons_append, List.append_assoc]
      · rw [evaluate_not_stores judged member] at stores
        cases stores

theorem Engine.update_stored {id : String} {f : Trigger → Trigger}
    {outcome : Except TriggerError Trigger}
    (said : Trace (findTrigger id >>= fun t => keep (f t)).run path outcome) (member : exchange ∈ path)
    (stores : exchange.stored? = some v) : ∃ t, (∃ read ∈ path, t ∈ read.told) ∧ v = f t := by
  rcases update_said said with ⟨answer, rfl, _⟩ | ⟨t, answer, rfl, _⟩
  · cases Exchange.later_of_stores stores rfl member
  · refine ⟨t, ⟨_, List.mem_cons_self, List.mem_singleton.2 rfl⟩, ?_⟩
    obtain rfl := List.mem_singleton.1 (Exchange.later_of_stores stores rfl member)
    exact Exchange.eq_of_stores stores

theorem Engine.evaluateAll_writes {filter : Option Filter} {outcome : Except TriggerError Nat}
    (said : Trace (engine.evaluateAll filter).run path outcome) (member : exchange ∈ path)
    (stores : exchange.stored? = some v) :
    ∃ t, (∃ read ∈ path, t ∈ read.told) ∧ (Operation.pass filter).Writes engine path t v := by
  obtain ⟨answer, listed, rfl, said₁⟩ := Talk.trace_ask said
  rcases Talk.trace_bind said₁ with ⟨_, triggers, rest, rfl, before, said₂⟩ | ⟨_, before, _⟩
  · obtain ⟨rfl, given⟩ := Talk.trace_orFail before
    obtain rfl : answer = .ok triggers := by
      cases answer with
      | ok other => cases given; rfl
      | error error => cases given
    have judged : ∃ outcome, Trace (engine.judgeEach {}
        (triggers.filter fun t => filter.all (·.selects t))).run rest outcome := by
      rcases Talk.trace_bind said₂ with ⟨_, progress, _, rfl, before, said₃⟩ | ⟨_, before, _⟩
      · rw [(Talk.trace_orFail said₃).1, List.append_nil]
        exact ⟨_, before⟩
      · exact ⟨_, before⟩
    obtain ⟨_, judged⟩ := judged
    obtain ⟨ahead, t, behind, before, now, judging, e, reply, others, selected, passes, seen, rfl,
      rfl⟩ := judgeEach_stored judged (Exchange.later_of_stores stores rfl member) stores
    have listed : t ∈ triggers.filter fun t => filter.all (·.selects t) := by
      rw [selected]
      exact List.mem_append_right _ List.mem_cons_self
    exact ⟨t, ⟨_, List.mem_cons_self, (List.mem_filter.1 listed).1⟩,
      .record (.pass selected passes seen)⟩
  · obtain ⟨rfl, _⟩ := Talk.trace_orFail before
    cases Exchange.later_of_stores stores rfl member

theorem Engine.evaluateOne_writes {id : String} {outcome : Except TriggerError Trigger}
    (said : Trace (engine.evaluateOne id).run path outcome) (member : exchange ∈ path)
    (stores : exchange.stored? = some v) :
    ∃ t, (∃ read ∈ path, t ∈ read.told) ∧ (Operation.judge id).Writes engine path t v := by
  rcases Talk.trace_bind said with ⟨_, t, _, rfl, before, said₁⟩ | ⟨_, before, _⟩
  · obtain ⟨found, rfl, same⟩ := findTrigger_said before
    obtain rfl := same t rfl
    obtain ⟨now, judging, rfl, said₂⟩ := Talk.trace_ask said₁
    replace member := Exchange.later_of_stores stores rfl (Exchange.later_of_stores stores rfl member)
    rcases Talk.trace_bind said₂ with ⟨first, e, _, rfl, judged, said₃⟩ | ⟨_, judged, _⟩
    · obtain ⟨answer, rfl, _⟩ := keep_said said₃
      obtain rfl := List.mem_singleton.1 (later_of_stores stores judged member)
      obtain rfl := Exchange.eq_of_stores stores
      exact ⟨t, ⟨_, List.mem_cons_self, List.mem_singleton.2 rfl⟩, .record (.judge judged)⟩
    · rw [evaluate_not_stores judged member] at stores
      cases stores
  · obtain ⟨found, rfl, _⟩ := findTrigger_said before
    cases Exchange.later_of_stores stores rfl member

theorem Engine.executeGated_writes {sessionId commandId : String}
    {outcome : Except CommandError Outcome}
    (said : Trace (engine.executeGated sessionId commandId).run path outcome)
    (member : exchange ∈ path) (stores : exchange.stored? = some v) :
    ∃ t, (∃ read ∈ path, t ∈ read.told) ∧
      (Operation.gated sessionId commandId).Writes engine path t v := by
  -- Only what follows when the trigger has been judged stores anything.
  have other {first : Exchange} {rest : List Exchange} (member : exchange ∈ first :: rest)
      (nothing : first.stored? = none) : exchange ∈ rest :=
    Exchange.later_of_stores stores nothing member
  obtain ⟨session, rfl | ⟨_, rfl⟩ | ⟨command, rest, rfl, through⟩⟩ := executeGated_cases said
  · cases other member rfl
  · cases other (other member rfl) rfl
  replace member := other (other member rfl) rfl
  rcases through with ⟨_, _, rfl⟩ | ⟨triggerId, behind, said₁⟩
  · cases other member rfl
  rcases executeBehind_cases said₁ with ⟨_, rfl⟩ | ⟨t, now, judging, ending, rfl, judged⟩
  · cases other member rfl
  replace member := other (other member rfl) rfl
  have told : t ∈ Exchange.told ⟨.trigger triggerId, .ok (some t)⟩ := List.mem_singleton.2 rfl
  refine ⟨t, ⟨_, List.mem_cons_of_mem _ (List.mem_cons_of_mem _ List.mem_cons_self), told⟩, ?_⟩
  rcases judged with ⟨rfl, _, evaluated⟩ | ⟨e, evaluated, after⟩
  · cases later_of_stores stores evaluated member
  have late := later_of_stores stores evaluated member
  have judging : Operation.Judging engine (.gated sessionId commandId)
      (⟨.session sessionId, session⟩ :: ⟨.command commandId, .ok (some command)⟩ ::
        ⟨.trigger triggerId, .ok (some t)⟩ :: ⟨.now, now⟩ :: (judging ++ ending)) t now e :=
    .gated behind evaluated after
  cases after with
  | unstored satisfied error => cases other late rfl
  | run satisfied answer =>
    rcases List.mem_cons.1 late with rfl | late
    · obtain rfl := Exchange.eq_of_stores stores
      exact .record judging
    · cases other late rfl
  | nothing => cases late
  | baseline unsatisfied start established answer =>
    obtain rfl := List.mem_singleton.1 late
    obtain rfl := Exchange.eq_of_stores stores
    exact .baseline judging established

/-- What an operation stores it has made of a trigger that it was told of. -/
theorem Operation.writes_of_stored (said : Trace (op.dialogue engine) path success)
    (member : exchange ∈ path) (stores : exchange.stored? = some v) :
    ∃ t, (∃ read ∈ path, t ∈ read.told) ∧ op.Writes engine path t v := by
  cases op with
  | pass filter =>
    obtain ⟨outcome, said, _⟩ := Talk.succeeds_said said
    exact Engine.evaluateAll_writes said member stores
  | judge id =>
    obtain ⟨outcome, said, _⟩ := Talk.succeeds_said said
    exact Engine.evaluateOne_writes said member stores
  | enable id =>
    obtain ⟨outcome, said, _⟩ := Talk.succeeds_said said
    obtain ⟨t, told, rfl⟩ := Engine.update_stored said member stores
    exact ⟨t, told, .enable⟩
  | disable id =>
    obtain ⟨outcome, said, _⟩ := Talk.succeeds_said said
    obtain ⟨t, told, rfl⟩ := Engine.update_stored said member stores
    exact ⟨t, told, .disable⟩
  | gated sessionId commandId =>
    obtain ⟨outcome, said, _⟩ := Talk.succeeds_said said
    exact Engine.executeGated_writes said member stores

end Said

/-! ## What a trigger remembers -/

/-- When a trigger was last judged and when it last fired agree with its last verdict. -/
structure Trigger.Consistent (t : Trigger) : Prop where
  judged : t.lastEvaluatedAt = t.lastVerdict.map Verdict.evaluatedAt
  fired : ∀ verdict, t.lastVerdict = some verdict → verdict.isSatisfied = true →
    t.lastFiredAt = t.lastEvaluatedAt

theorem Trigger.Fresh.consistent {t : Trigger} (fresh : t.Fresh) : t.Consistent := by
  refine ⟨by rw [fresh.lastEvaluatedAt, fresh.lastVerdict]; rfl, fun verdict same => ?_⟩
  cases fresh.lastVerdict.symm.trans same

theorem Trigger.consistent_record (t : Trigger) (e : Trigger.Evaluation) :
    (t.record e).Consistent := by
  refine ⟨rfl, fun verdict same satisfied => ?_⟩
  obtain rfl : e.verdict = verdict := Option.some.inj same
  unfold Trigger.record
  exact if_pos satisfied

/-- All writers keep what a trigger remembers consistent. -/
theorem Operation.Changes.consistent {engine : Engine} {path : List Exchange} {op : Operation}
    {t v : Trigger} (changed : op.Changes engine path t v) (was : t.Consistent) : v.Consistent := by
  cases changed with
  | enable =>
    unfold Trigger.enable
    split
    · exact was
    · exact ⟨was.judged, was.fired⟩
  | disable => exact ⟨was.judged, was.fired⟩
  | baseline => exact ⟨was.judged, was.fired⟩
  | _ => exact t.consistent_record _

/-- An operation on a shelf enables a trigger that was disabled. -/
def SwitchesOn (shelf : Shelf Trigger) (path : List Exchange) (id : String) : Prop :=
  ∃ t v, shelf.get? id = some t ∧ t.enabled = false ∧ (shelf.after path).get? id = some v ∧
    v.enabled = true

/-- In its path an operation judges a trigger on time, which gets to its handler, and the store does
not refuse what is made of it. -/
def Notes (engine : Engine) (op : Operation) (path : List Exchange) (id : String) : Prop :=
  (∃ t now e, op.Judging engine path t now e ∧ t.id = id ∧ t.kind.isTimed = true ∧
    engine.Handles t now) ∧
  ∀ v error, v.id = id → ⟨.keep v, .error error⟩ ∉ path

section Alone

variable {engine : Engine} {op : Operation} {path : List Exchange} {success : Bool}
  {shelf : Shelf Trigger} {id : String} {t v : Trigger}

theorem Operation.Judging.said {now : Instant} {e : Trigger.Evaluation}
    (judging : op.Judging engine path t now e) :
    ∃ looking, Trace (engine.evaluate t now).run looking (.ok e) := by
  cases judging with
  | pass _ _ judged => exact ⟨_, judged⟩
  | judge judged => exact ⟨_, judged⟩
  | gated _ judged _ => exact ⟨_, judged⟩

/-- When a trigger last fired is only written together with the verdict that it holds. -/
theorem Operation.Writes.lastFiredAt (writes : op.Writes engine path t v) :
    v.lastFiredAt = t.lastFiredAt ∨ ∃ verdict, v.lastVerdict = some verdict ∧
      verdict.isSatisfied = true ∧ v.lastFiredAt = some verdict.evaluatedAt := by
  cases writes with
  | enable =>
    unfold Trigger.enable
    split <;> exact .inl rfl
  | disable => exact .inl rfl
  | baseline => exact .inl rfl
  | @record _ _ now e judging =>
    by_cases satisfied : e.status = .satisfied
    · exact .inr ⟨e.verdict, rfl, decide_eq_true satisfied, t.record_of_satisfied satisfied⟩
    · exact .inl (t.record_of_unsatisfied satisfied)

/-- Since when a trigger is enabled is written only when that is not known, as the time of an
evaluation on time that gets to a handler, and it is forgotten only when the trigger is enabled. -/
theorem Operation.Writes.enabledAt (writes : op.Writes engine path t v) :
    v.enabledAt = t.enabledAt ∨
    (∃ id, op = .enable id) ∧ t.enabled = false ∧ v.enabled = true ∧ v.enabledAt = none ∨
    ∃ now e, op.Judging engine path t now e ∧ t.enabledAt = none ∧ t.kind.isTimed = true ∧
      engine.Handles t now ∧ v.enabledAt = some now := by
  have noted {now start : Instant} {e : Trigger.Evaluation} (judging : op.Judging engine path t now e)
      (established : e.baseline = some start) : t.enabledAt = none ∧ t.kind.isTimed = true ∧
        engine.Handles t now ∧ start = now := by
    obtain ⟨_, said⟩ := judging.said
    exact (Engine.evaluate_baseline_iff said).1 established
  cases writes with
  | @enable id =>
    unfold Trigger.enable
    split
    next => exact .inl rfl
    next off => exact .inr (.inl ⟨⟨id, rfl⟩, Bool.eq_false_iff.2 off, rfl, rfl⟩)
  | disable => exact .inl rfl
  | @record _ _ now e judging =>
    cases established : e.baseline with
    | none => exact .inl (t.record_of_settled established)
    | some start =>
      obtain ⟨unset, timed, handles, rfl⟩ := noted judging established
      refine .inr (.inr ⟨start, e, judging, unset, timed, handles, ?_⟩)
      change t.enabledAt.or e.baseline = some start
      rw [unset, established]
      rfl
  | @baseline _ _ now start e judging established =>
    obtain ⟨unset, timed, handles, rfl⟩ := noted judging established
    exact .inr (.inr ⟨start, e, judging, unset, timed, handles, rfl⟩)

/-- On its own, an operation leaves a trigger as it is or stores what it writes in its place. -/
theorem Operation.writes_alone (said : Trace (op.dialogue engine) path success)
    (follows : Follows shelf path) (found : shelf.get? id = some t) :
    ∃ v, (shelf.after path).get? id = some v ∧
      (v = t ∨ (∃ write ∈ path, write.stored? = some v) ∧ op.Writes engine path t v) := by
  by_cases stored : ∃ exchange ∈ path, ∃ v, exchange.stored? = some v ∧ v.id = id
  · obtain ⟨write, kept, v, stores, rfl⟩ := stored
    obtain ⟨_, _, _, now⟩ := Operation.stored_alone said follows kept stores
    obtain ⟨u, ⟨read, asked, told⟩, writes⟩ := Operation.writes_of_stored said kept stores
    have known := (Operation.oneRead said).told_alone follows asked told
    rw [← writes.id, found] at known
    obtain rfl : t = u := Option.some.inj known
    exact ⟨v, now, .inr ⟨⟨write, kept, stores⟩, writes⟩⟩
  · refine ⟨t, ?_, .inl rfl⟩
    rw [shelf.get?_after_of_other fun exchange member u stores same =>
      stored ⟨exchange, member, u, stores, same⟩]
    exact found

/-- On its own, an operation moves the time since when a trigger is enabled only to forget it, or when
it is not known. -/
theorem Operation.enabledAt_alone (said : Trace (op.dialogue engine) path success)
    (follows : Follows shelf path) (found : shelf.get? id = some t)
    (now : (shelf.after path).get? id = some v) :
    v.enabledAt = t.enabledAt ∨
    op = .enable id ∧ t.enabled = false ∧ v.enabled = true ∧ v.enabledAt = none ∨
    ∃ now e, op.Judging engine path t now e ∧ t.enabledAt = none ∧ t.kind.isTimed = true ∧
      engine.Handles t now ∧ v.enabledAt = some now := by
  obtain ⟨w, known, same | ⟨_, writes⟩⟩ := Operation.writes_alone said follows found
  · obtain rfl : v = w := Option.some.inj (now.symm.trans known)
    exact .inl (congrArg Trigger.enabledAt same)
  · obtain rfl : v = w := Option.some.inj (now.symm.trans known)
    rcases writes.enabledAt with kept | ⟨⟨other, rfl⟩, off, on, forgotten⟩ | noted
    · exact .inl kept
    · by_cases same : other = id
      · exact .inr (.inl ⟨same ▸ rfl, off, on, forgotten⟩)
      · have said : Trace ((Operation.switch true other).dialogue engine) path success := said
        have unchanged := Operation.switch_others said follows same
        rw [now, found] at unchanged
        cases unchanged
        cases off.symm.trans on
    · exact .inr (.inr noted)

/-- What is known of the time since when a trigger is enabled stays, unless it is enabled again. -/
theorem Operation.enabledAt_kept (said : Trace (op.dialogue engine) path success)
    (follows : Follows shelf path) (same : ¬ SwitchesOn shelf path id) {time : Instant}
    (was : ∃ t, shelf.get? id = some t ∧ t.enabledAt = some time) :
    ∃ v, (shelf.after path).get? id = some v ∧ v.enabledAt = some time := by
  obtain ⟨t, found, known⟩ := was
  obtain ⟨v, now, _⟩ := Operation.writes_alone said follows found
  refine ⟨v, now, ?_⟩
  rcases Operation.enabledAt_alone said follows found now with
    kept | ⟨_, off, on, _⟩ | ⟨_, _, _, unknown, _⟩
  · exact kept.trans known
  · exact absurd ⟨t, v, found, off, now, on⟩ same
  · cases unknown.symm.trans known

/-- An operation that has judged a trigger hands the evaluation to the store, or the baseline that
was established for it, or nothing if there is none. -/
theorem Operation.Judging.kept {now : Instant} {e : Trigger.Evaluation}
    (judging : op.Judging engine path t now e) :
    (∃ answer, ⟨.keep (t.record e), answer⟩ ∈ path) ∨
    (∃ start answer, ⟨.keep { t with enabledAt := some start }, answer⟩ ∈ path) ∨
    e.baseline = none ∧ (∀ id, op ≠ .enable id) ∧ ∃ read ∈ path, t ∈ read.told := by
  cases judging with
  | @pass _ _ _ _ _ _ _ _ _ _ answer => exact .inl ⟨answer, by simp⟩
  | @judge _ _ _ _ _ answer => exact .inl ⟨answer, by simp⟩
  | @gated _ _ triggerId _ _ _ _ _ _ _ behind judged after =>
    cases after with
    | unstored satisfied error => exact .inl ⟨.error error, by simp⟩
    | run satisfied answer => exact .inl ⟨.ok (), by simp⟩
    | baseline unsatisfied start established answer => exact .inr (.inl ⟨start, answer, by simp⟩)
    | nothing unsatisfied unchanged =>
      refine .inr (.inr ⟨unchanged, nofun, ⟨.trigger triggerId, .ok (some t)⟩, by simp, ?_⟩)
      exact List.mem_singleton.2 rfl

/-- When a trigger on time has got to its handler, it is known since when it is enabled. -/
theorem Notes.enabledAt (notes : Notes engine op path id)
    (said : Trace (op.dialogue engine) path success) (follows : Follows shelf path) :
    ∃ v, (shelf.after path).get? id = some v ∧ v.enabledAt.isSome := by
  obtain ⟨⟨t, now, e, judging, rfl, timed, handles⟩, kept⟩ := notes
  have stored {v : Trigger} {answer : Except StoreError Unit} (member : ⟨.keep v, answer⟩ ∈ path)
      (same : v.id = t.id) (known : v.enabledAt.isSome) :
      ∃ v, (shelf.after path).get? t.id = some v ∧ v.enabledAt.isSome := by
    cases answer with
    | error error => exact absurd member (kept v error same)
    | ok done =>
      obtain ⟨_, _, _, now⟩ := Operation.stored_alone said follows member rfl
      exact ⟨v, same ▸ now, known⟩
  have recorded : (t.record e).enabledAt.isSome := by
    obtain ⟨_, seen⟩ := judging.said
    change (t.enabledAt.or e.baseline).isSome
    cases unset : t.enabledAt with
    | some time => rfl
    | none =>
      rw [(Engine.evaluate_baseline_iff seen).2 ⟨unset, timed, handles, rfl⟩]
      rfl
  rcases judging.kept with ⟨_, member⟩ | ⟨_, _, member⟩ | ⟨unchanged, other, _, asked, told⟩
  · exact stored member rfl recorded
  · exact stored member rfl rfl
  · -- Nothing is stored where the time was known before.
    change (t.enabledAt.or e.baseline).isSome at recorded
    rw [unchanged, Option.or_none] at recorded
    have found := (Operation.oneRead said).told_alone follows asked told
    obtain ⟨v, after, _⟩ := Operation.writes_alone said follows found
    refine ⟨v, after, ?_⟩
    rcases Operation.enabledAt_alone said follows found after with
      same | ⟨enables, _⟩ | ⟨_, _, _, unknown, _⟩
    · rwa [same]
    · exact absurd enables (other _)
    · rw [unknown] at recorded
      cases recorded

end Alone

/-! ## What a history keeps -/

/-- In a history a trigger is not enabled after it was disabled. -/
def SamePeriod (start : Shelf Trigger) (id : String) (history : List (Operation × List Exchange)) :
    Prop :=
  ∀ before op path after, history = before ++ (op, path) :: after →
    ¬ SwitchesOn (carried start before) path id

section Period

variable {start : Shelf Trigger} {id : String} {op : Operation} {path : List Exchange}
  {first rest : List (Operation × List Exchange)}

theorem SamePeriod.later (same : SamePeriod start id (first ++ rest)) :
    SamePeriod (carried start first) id rest := by
  rintro before op path after rfl
  rw [← carried_append]
  exact same (first ++ before) op path after (List.append_assoc _ _ _).symm

theorem SamePeriod.head (same : SamePeriod start id ((op, path) :: rest)) :
    ¬ SwitchesOn start path id :=
  same [] op path rest rfl

theorem SamePeriod.tail (same : SamePeriod start id ((op, path) :: rest)) :
    SamePeriod (start.after path) id rest := by
  have later : SamePeriod (carried start [(op, path)]) id rest := SamePeriod.later same
  rwa [carried_cons, carried_nil] at later

end Period

namespace Sequential

variable {engine : Engine} {start : Shelf Trigger} {history : List (Operation × List Exchange)}
  {id : String} {t₀ : Trigger}

theorem append {first rest : List (Operation × List Exchange)}
    (sequential : Sequential engine start (first ++ rest)) :
    Sequential engine start first ∧ Sequential engine (carried start first) rest := by
  induction first generalizing start with
  | nil => exact ⟨.nil start, sequential⟩
  | cons step first ih =>
    cases sequential with
    | cons said follows later =>
      obtain ⟨earlier, after⟩ := ih later
      rw [carried_cons]
      exact ⟨.cons said follows earlier, after⟩

/-- While a trigger is not enabled again, the time since when it is enabled is never moved. -/
theorem enabledAt_kept (sequential : Sequential engine start history)
    (same : SamePeriod start id history) {time : Instant}
    (was : ∃ t, start.get? id = some t ∧ t.enabledAt = some time) :
    ∃ v, (carried start history).get? id = some v ∧ v.enabledAt = some time := by
  induction sequential with
  | nil shelf => exact was
  | cons said follows _ ih =>
    rw [carried_cons]
    exact ih same.tail (Operation.enabledAt_kept said follows same.head was)

/-- Where the time since when a trigger is enabled is not known, no evaluation has noted it since the
trigger was enabled. -/
theorem not_notes (sequential : Sequential engine start history) (same : SamePeriod start id history)
    (unset : ∃ t, (carried start history).get? id = some t ∧ t.enabledAt = none) :
    ∀ step ∈ history, ¬ Notes engine step.1 step.2 id := by
  rintro ⟨op, path⟩ member notes
  obtain ⟨before, after, rfl⟩ := List.append_of_mem member
  obtain ⟨_, ⟨_, said⟩, follows, rest⟩ := sequential.split
  obtain ⟨v, now, known⟩ := notes.enabledAt said follows
  obtain ⟨time, known⟩ := Option.isSome_iff_exists.1 known
  obtain ⟨w, last, stays⟩ := rest.enabledAt_kept same.later.tail ⟨v, now, known⟩
  obtain ⟨u, found, none⟩ := unset
  rw [carried_append, carried_cons, last] at found
  obtain rfl : w = u := Option.some.inj found
  cases none.symm.trans stays

/-- However operations follow each other, what a trigger remembers is consistent: it was last judged at
the time of its last verdict, and last fired then if the verdict is that it holds. When it last fired
changes only where such a verdict is stored. Since when it is enabled is forgotten only when it is
enabled after it was disabled, and noted only where it is not known, as the time of an evaluation on
time that gets to a handler, and the first such evaluation since it was enabled; until it is enabled
again, it is never moved. -/
theorem memory_kept (sequential : Sequential engine start history)
    (found : start.get? id = some t₀) (fresh : t₀.Fresh) :
    (∀ before after, history = before ++ after →
      ∃ t, (carried start before).get? id = some t ∧
        t.lastEvaluatedAt = t.lastVerdict.map Trigger.Verdict.evaluatedAt ∧
        ∀ verdict, t.lastVerdict = some verdict → verdict.isSatisfied = true →
          t.lastFiredAt = t.lastEvaluatedAt) ∧
    (∀ before op path after, history = before ++ (op, path) :: after →
      ∃ t v, (carried start before).get? id = some t ∧
        (carried start (before ++ [(op, path)])).get? id = some v ∧
        (v.lastFiredAt = t.lastFiredAt ∨ (∃ write ∈ path, write.stored? = some v) ∧
          ∃ verdict, v.lastVerdict = some verdict ∧ verdict.isSatisfied = true ∧
            v.lastFiredAt = some verdict.evaluatedAt) ∧
        (v.enabledAt = t.enabledAt ∨
          op = .enable id ∧ t.enabled = false ∧ v.enabled = true ∧ v.enabledAt = none ∨
          ∃ now e, op.Judging engine path t now e ∧ t.enabledAt = none ∧ t.kind.isTimed = true ∧
            engine.Handles t now ∧ v.enabledAt = some now ∧
            ∀ early middle, before = early ++ middle →
              SamePeriod (carried start early) id middle →
                ∀ step ∈ middle, ¬ Notes engine step.1 step.2 id)) ∧
    ∀ early middle after, history = early ++ (middle ++ after) →
      SamePeriod (carried start early) id middle →
        ∀ time t, (carried start early).get? id = some t → t.enabledAt = some time →
          ∃ v, (carried start (early ++ middle)).get? id = some v ∧ v.enabledAt = some time := by
  refine ⟨?_, ?_, ?_⟩
  · rintro before after rfl
    obtain ⟨t, known, consistent⟩ := sequential.append.1.keeps
      (fun _ _ _ _ changed was => changed.consistent was) ⟨t₀, found, fresh.consistent⟩
    exact ⟨t, known, consistent.judged, consistent.fired⟩
  · rintro before op path after rfl
    obtain ⟨earlier, ⟨_, said⟩, follows, _⟩ := sequential.split
    obtain ⟨t, known, _⟩ := earlier.keeps (fun _ _ _ _ _ _ => trivial) ⟨t₀, found, trivial⟩
    obtain ⟨v, now, wrote⟩ := Operation.writes_alone said follows known
    refine ⟨t, v, known, by rwa [carried_append, carried_cons, carried_nil], ?_, ?_⟩
    · rcases wrote with rfl | ⟨stored, writes⟩
      · exact .inl rfl
      · exact writes.lastFiredAt.imp_right fun fired => ⟨stored, fired⟩
    · refine (Operation.enabledAt_alone said follows known now).imp_right (Or.imp_right ?_)
      rintro ⟨time, e, judging, unset, timed, handles, noted⟩
      refine ⟨time, e, judging, unset, timed, handles, noted, ?_⟩
      rintro early middle rfl same
      refine earlier.append.2.not_notes same ⟨t, ?_, unset⟩
      rwa [← carried_append]
  · rintro early middle after rfl same time t known set
    rw [carried_append]
    exact sequential.append.2.append.1.enabledAt_kept same ⟨t, known, set⟩

end Sequential

theorem memory_kept_pulseHistory :
    pulse.Fresh ∧
    (∀ before after, pulseHistory = before ++ after →
      ∃ t, (carried pulseShelf before).get? "pulse" = some t ∧
        t.lastEvaluatedAt = t.lastVerdict.map Trigger.Verdict.evaluatedAt) ∧
    (∃ v, (carried pulseShelf [pulseJudged]).get? "pulse" = some v ∧ v.enabledAt = some ⟨0, 0⟩) ∧
    ∃ v, (carried pulseShelf pulseHistory).get? "pulse" = some v ∧ v.enabledAt = some ⟨60, 0⟩ := by
  have fresh : pulse.Fresh := ⟨rfl, rfl, rfl, rfl⟩
  obtain ⟨consistent, _⟩ := pulseHistory_sequential.memory_kept
    (rfl : pulseShelf.get? "pulse" = some pulse) fresh
  refine ⟨fresh, fun before after same => ?_, ⟨pulse.pulsed ⟨0, 0⟩, rfl, rfl⟩,
    ⟨pulseOff.enable.pulsed ⟨60, 0⟩, rfl, rfl⟩⟩
  obtain ⟨t, known, judged, _⟩ := consistent before after same
  exact ⟨t, known, judged⟩

end Autopilot
