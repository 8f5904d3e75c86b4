import Autopilot.Proofs.Instant
import Autopilot.Proofs.Trigger.Operation

/-!
Triggers rest after they fire. Of the operations on stored triggers, only one that
judges a trigger to be satisfied changes when it last fired, and it does so only when
the trigger has rested since then. Enabling and disabling do not end the rest, so the
firings of a trigger are apart however operations follow each other, and with them the
runs of the commands behind it.
-/

namespace Autopilot

/-! ## What one operation does -/

/-- In its path an operation is told of a trigger, finds it satisfied at a time, and has
stored that it fired then. -/
def Fires (engine : Engine) (id : String) (path : List Exchange) (time : Instant) : Prop :=
  ∃ read ∈ path, ∃ t ∈ read.told, t.id = id ∧ ∃ e, engine.Judges path t time e ∧
    e.status = .satisfied ∧ ∃ write ∈ path, write.stored? = some (t.record e)

/-- In its path an operation runs a command behind a trigger that was judged for a time. -/
def RunsBehind (id : String) (op : Operation) (path : List Exchange) (time : Instant) : Prop :=
  ∃ sessionId commandId command answer, op = .gated sessionId commandId ∧
    ⟨.command commandId, .ok (some command)⟩ ∈ path ∧ command.triggerId = some id ∧
    ⟨.now, time⟩ ∈ path ∧ ⟨.execute sessionId commandId, answer⟩ ∈ path

section Judging

variable {engine : Engine} {path : List Exchange} {t : Trigger} {time : Instant}
  {e : Trigger.Evaluation}

theorem Engine.Judges.asked (judged : engine.Judges path t time e) : ⟨.now, time⟩ ∈ path := by
  obtain ⟨lead, judging, rest, rfl, _⟩ := judged
  exact List.mem_append_left _ (List.mem_append_right _ List.mem_cons_self)

theorem Engine.Judges.at (judged : engine.Judges path t time e) : e.verdict.evaluatedAt = time := by
  obtain ⟨_, _, _, _, said⟩ := judged
  exact Engine.evaluate_at said

theorem Engine.Judges.resting (judged : engine.Judges path t time e) (rests : t.Rests time) :
    e.status ≠ .satisfied ∧ e.baseline = none := by
  obtain ⟨_, _, _, _, said⟩ := judged
  exact (Engine.evaluate_resting said rests).2 e rfl

/-- A trigger that is found satisfied has rested since it last fired. -/
theorem Engine.Judges.rested (judged : engine.Judges path t time e)
    (satisfied : e.status = .satisfied) {fired : Instant} (last : t.lastFiredAt = some fired)
    (cools : 0 < t.cooldownSeconds) :
    (t.cooldownSeconds : Int) * 1000000000 ≤ time.since fired := by
  cases cooling : t.isCooling time with
  | true => exact absurd satisfied (judged.resting (.inr cooling)).1
  | false => exact Trigger.since_of_not_cooling cooling last cools

end Judging

section Changes

variable {engine : Engine} {path : List Exchange} {op : Operation} {t v : Trigger}

theorem Operation.Changes.cooldownSeconds (changed : op.Changes engine path t v) :
    v.cooldownSeconds = t.cooldownSeconds := by
  cases changed with
  | enable =>
    unfold Trigger.enable
    split <;> rfl
  | _ => rfl

/-- When a trigger last fired is changed only by judging it to be satisfied. -/
theorem Operation.Changes.lastFiredAt (changed : op.Changes engine path t v) :
    v.lastFiredAt = t.lastFiredAt ∨
      ∃ time e, engine.Judges path t time e ∧ e.status = .satisfied ∧ v = t.record e := by
  have recorded {time : Instant} {e : Trigger.Evaluation} (judged : engine.Judges path t time e) :
      (t.record e).lastFiredAt = t.lastFiredAt ∨ ∃ time other, engine.Judges path t time other ∧
        other.status = .satisfied ∧ t.record e = t.record other := by
    by_cases satisfied : e.status = .satisfied
    · exact .inr ⟨time, e, judged, satisfied, rfl⟩
    · exact .inl (t.record_of_unsatisfied satisfied)
  cases changed with
  | pass _ judged => exact recorded judged
  | judge judged => exact recorded judged
  | fire judged _ => exact recorded judged
  | enable =>
    refine .inl ?_
    unfold Trigger.enable
    split <;> rfl
  | disable => exact .inl rfl
  | baseline => exact .inl rfl

/-- Of a trigger that rests whenever it is judged, only enabling changes since when it is
enabled, and nothing changes when it last fired. -/
theorem Operation.Changes.resting (changed : op.Changes engine path t v)
    (rests : ∀ time, ⟨.now, time⟩ ∈ path → t.Rests time) (other : ∀ id, op ≠ .enable id) :
    v.lastFiredAt = t.lastFiredAt ∧ v.enabledAt = t.enabledAt := by
  have recorded {time : Instant} {e : Trigger.Evaluation} (judged : engine.Judges path t time e) :
      (t.record e).lastFiredAt = t.lastFiredAt ∧ (t.record e).enabledAt = t.enabledAt := by
    obtain ⟨unsatisfied, settled⟩ := judged.resting (rests time judged.asked)
    exact ⟨t.record_of_unsatisfied unsatisfied, t.record_of_settled settled⟩
  cases changed with
  | pass _ judged => exact recorded judged
  | judge judged => exact recorded judged
  | fire judged _ => exact recorded judged
  | enable => exact absurd rfl (other _)
  | disable => exact ⟨rfl, rfl⟩
  | baseline judged _ established =>
    rw [(judged.resting (rests _ judged.asked)).2] at established
    cases established

end Changes

section Alone

variable {engine : Engine} {op : Operation} {path : List Exchange} {success : Bool}
  {shelf : Shelf Trigger} {id : String}

/-- An operation that fires a trigger on its own found it on the shelf and leaves it fired. -/
theorem Fires.alone {time : Instant} (fires : Fires engine id path time)
    (said : Trace (op.dialogue engine) path success) (follows : Follows shelf path) :
    ∃ t e, shelf.get? id = some t ∧ engine.Judges path t time e ∧ e.status = .satisfied ∧
      (shelf.after path).get? id = some (t.record e) := by
  obtain ⟨read, asked, t, told, rfl, e, judged, satisfied, write, kept, stores⟩ := fires
  have found := (Operation.oneRead said).told_alone follows asked told
  obtain ⟨_, _, _, now⟩ := Operation.stored_alone said follows kept stores
  exact ⟨t, e, found, judged, satisfied, now⟩

/-- A trigger that an operation fires on its own was last fired then. -/
theorem Fires.lastFiredAt {time : Instant} (fires : Fires engine id path time)
    (said : Trace (op.dialogue engine) path success) (follows : Follows shelf path) :
    ∃ v, (shelf.after path).get? id = some v ∧ v.lastFiredAt = some time := by
  obtain ⟨t, e, _, judged, satisfied, now⟩ := fires.alone said follows
  exact ⟨t.record e, now, by rw [t.record_of_satisfied satisfied, judged.at]⟩

/-- On its own, an operation changes when a trigger last fired only by firing it. -/
theorem Operation.lastFiredAt_alone (said : Trace (op.dialogue engine) path success)
    (follows : Follows shelf path) {t : Trigger} (found : shelf.get? id = some t) :
    ∃ v, (shelf.after path).get? id = some v ∧ (v.lastFiredAt = t.lastFiredAt ∨
      ∃ time, Fires engine id path time ∧ v.lastFiredAt = some time) := by
  by_cases stored : ∃ exchange ∈ path, ∃ v, exchange.stored? = some v ∧ v.id = id
  · obtain ⟨write, kept, v, stores, rfl⟩ := stored
    obtain ⟨_, _, _, now⟩ := Operation.stored_alone said follows kept stores
    refine ⟨v, now, ?_⟩
    obtain ⟨before, after, split⟩ := List.append_of_mem kept
    obtain ⟨lead, read, middle, inBefore, _, source, told, changed⟩ :=
      (Operation.oneRead said).read_before split stores
    have asked : read ∈ path := by
      rw [split, inBefore]
      exact List.mem_append_left _ (List.mem_append_right _ List.mem_cons_self)
    have known := (Operation.oneRead said).told_alone follows asked told
    obtain rfl : source = t := by
      rw [← changed.id, found] at known
      exact (Option.some.inj known).symm
    rcases changed.lastFiredAt with same | ⟨time, e, judged, satisfied, rfl⟩
    · exact .inl same
    · refine .inr ⟨time, ?_, ?_⟩
      · exact ⟨read, asked, source, told, rfl, e, judged, satisfied, write, kept, stores⟩
      · rw [source.record_of_satisfied satisfied, judged.at]
  · refine ⟨t, ?_, .inl rfl⟩
    rw [shelf.get?_after_of_other fun exchange member u stores same =>
      stored ⟨exchange, member, u, stores, same⟩]
    exact found

/-- On its own, an operation that does not enable it leaves a resting trigger at rest. -/
theorem Operation.resting_alone (said : Trace (op.dialogue engine) path success)
    (follows : Follows shelf path) {t v : Trigger} (found : shelf.get? id = some t)
    (now : (shelf.after path).get? id = some v)
    (rests : ∀ time, ⟨.now, time⟩ ∈ path → t.Rests time) (other : op ≠ .enable id) :
    v.lastFiredAt = t.lastFiredAt ∧ v.enabledAt = t.enabledAt := by
  have unchanged (same : (shelf.after path).get? id = shelf.get? id) :
      v.lastFiredAt = t.lastFiredAt ∧ v.enabledAt = t.enabledAt := by
    obtain rfl : v = t := Option.some.inj (now.symm.trans (same.trans found))
    exact ⟨rfl, rfl⟩
  by_cases enables : ∃ different, op = .enable different
  · obtain ⟨different, rfl⟩ := enables
    have said : Trace ((Operation.switch true different).dialogue engine) path success := said
    exact unchanged (Operation.switch_others said follows fun same => other (same ▸ rfl))
  · rcases Operation.alone said follows id with same | ⟨u, w, known, changed, after⟩
    · exact unchanged same
    · obtain rfl : u = t := Option.some.inj (known.symm.trans found)
      obtain rfl : w = v := Option.some.inj (after.symm.trans now)
      exact changed.resting rests fun different same => enables ⟨different, same⟩

theorem Exchange.mem_of_mem_cons {exchange first : Exchange} {rest : List Exchange}
    (member : exchange ∈ first :: rest) (other : exchange.question ≠ first.question) :
    exchange ∈ rest := by
  rcases List.mem_cons.1 member with rfl | member
  · exact absurd rfl other
  · exact member

/-- While a trigger is judged, neither the time nor a command is asked for, and none is run. -/
theorem Engine.evaluate_not_asks {t : Trigger} {now : Instant} {judging : List Exchange}
    {outcome : Except TriggerError Trigger.Evaluation}
    (said : Trace (engine.evaluate t now).run judging outcome) {exchange : Exchange}
    (member : exchange ∈ judging) :
    exchange.question ≠ .now ∧ (∀ id, exchange.question ≠ .command id) ∧
      ∀ sessionId commandId, exchange.question ≠ .execute sessionId commandId := by
  rcases evaluate_asks said exchange member with same | ⟨_, same⟩
  · rw [same]
    exact ⟨nofun, nofun, nofun⟩
  · rw [same]
    exact ⟨nofun, nofun, nofun⟩

/-- When a command runs behind a trigger, that the trigger fires was stored just before. -/
theorem Engine.executeBehind_runs {sessionId commandId triggerId session command : String}
    {outcome : Except CommandError Outcome} {answer : Except CommandError Nat}
    (said : Trace (engine.executeBehind sessionId commandId triggerId).run path outcome)
    (executed : ⟨.execute session command, answer⟩ ∈ path) :
    ∃ t now judging e answer, path = ⟨.trigger triggerId, .ok (some t)⟩ :: ⟨.now, now⟩ :: judging ++
        [⟨.keep (t.record e), .ok ()⟩, ⟨.execute sessionId commandId, answer⟩] ∧
      Trace (engine.evaluate t now).run judging (.ok e) ∧ e.status = .satisfied := by
  rcases executeBehind_cases said with ⟨_, rfl⟩ | ⟨t, now, judging, ending, rfl, judged⟩
  · cases Exchange.mem_of_mem_cons executed nofun
  · replace executed := Exchange.mem_of_mem_cons (Exchange.mem_of_mem_cons executed nofun) nofun
    rcases List.mem_append.1 executed with early | late
    · rcases judged with ⟨_, _, evaluated⟩ | ⟨_, evaluated, _⟩
      · exact absurd rfl ((evaluate_not_asks evaluated early).2.2 _ _)
      · exact absurd rfl ((evaluate_not_asks evaluated early).2.2 _ _)
    · rcases judged with ⟨rfl, _⟩ | ⟨e, evaluated, after⟩
      · cases late
      · cases after with
        | unstored => cases Exchange.mem_of_mem_cons late nofun
        | run satisfied answer => exact ⟨t, now, judging, e, answer, rfl, evaluated, satisfied⟩
        | nothing => cases late
        | baseline => cases Exchange.mem_of_mem_cons late nofun

/-- A command runs behind a trigger only when the operation fires the trigger. -/
theorem RunsBehind.fires {time : Instant} (runs : RunsBehind id op path time)
    (said : Trace (op.dialogue engine) path success) (follows : Follows shelf path) :
    Fires engine id path time := by
  obtain ⟨sessionId, commandId, command, answer, rfl, given, behind, clock, executed⟩ := runs
  obtain ⟨outcome, said₁, _⟩ := Talk.succeeds_said said
  obtain ⟨session, rfl | ⟨_, rfl⟩ | ⟨other, rest, rfl, through⟩⟩ := Engine.executeGated_cases said₁
  · cases Exchange.mem_of_mem_cons executed nofun
  · cases Exchange.mem_of_mem_cons (Exchange.mem_of_mem_cons executed nofun) nofun
  · replace executed := Exchange.mem_of_mem_cons (Exchange.mem_of_mem_cons executed nofun) nofun
    replace clock := Exchange.mem_of_mem_cons (Exchange.mem_of_mem_cons clock nofun) nofun
    replace given := Exchange.mem_of_mem_cons given nofun
    rcases through with ⟨free, _, rfl⟩ | ⟨triggerId, same, said₂⟩
    · cases Exchange.mem_of_mem_cons clock nofun
    · obtain ⟨t, now, judging, e, answer, rfl, evaluated, satisfied⟩ :=
        Engine.executeBehind_runs said₂ executed
      obtain rfl : time = now := by
        rcases List.mem_cons.1 (Exchange.mem_of_mem_cons clock nofun) with same | clock
        · cases same
          rfl
        · rcases List.mem_append.1 clock with early | late
          · exact absurd rfl (Engine.evaluate_not_asks evaluated early).1
          · cases Exchange.mem_of_mem_cons (Exchange.mem_of_mem_cons late nofun) nofun
      obtain rfl : command = other := by
        rcases List.mem_cons.1 given with same | given
        · cases same
          rfl
        · replace given := Exchange.mem_of_mem_cons (Exchange.mem_of_mem_cons given nofun) nofun
          rcases List.mem_append.1 given with early | late
          · exact absurd rfl ((Engine.evaluate_not_asks evaluated early).2.1 _)
          · cases Exchange.mem_of_mem_cons (Exchange.mem_of_mem_cons late nofun) nofun
      obtain rfl : triggerId = id := Option.some.inj (same.symm.trans behind)
      have told : some t = ((shelf.next _).next _).get? triggerId := follows.2.2.1 (some t) rfl
      refine ⟨⟨.trigger triggerId, .ok (some t)⟩, ?_, t, List.mem_singleton.2 rfl,
        Shelf.recordId_of_get? told.symm, e, ⟨[_, _, _], judging, _, rfl, evaluated⟩, satisfied,
        ⟨.keep (t.record e), .ok ()⟩, ?_, rfl⟩
      · exact List.mem_cons_of_mem _ (List.mem_cons_of_mem _ List.mem_cons_self)
      · refine List.mem_cons_of_mem _ (List.mem_cons_of_mem _ ?_)
        exact List.mem_append_right _ List.mem_cons_self

end Alone

/-! ## What a history does -/

/-- Operations carried out one after another, each to its end and on the shelf that the one
before left. -/
inductive Sequential (engine : Engine) : Shelf Trigger → List (Operation × List Exchange) → Prop where
  | nil (shelf : Shelf Trigger) : Sequential engine shelf []
  | cons {shelf : Shelf Trigger} {op : Operation} {path : List Exchange} {success : Bool}
      {rest : List (Operation × List Exchange)} (said : Trace (op.dialogue engine) path success)
      (follows : Follows shelf path) (later : Sequential engine (shelf.after path) rest) :
      Sequential engine shelf ((op, path) :: rest)

/-- The shelf that operations leave. -/
def carried (shelf : Shelf Trigger) (history : List (Operation × List Exchange)) : Shelf Trigger :=
  shelf.after (history.flatMap Prod.snd)

/-- The cooldown of a trigger, and that it has last fired at some time or has rested since. -/
structure RestsSince (seconds : Nat) (time : Instant) (t : Trigger) : Prop where
  cooldown : t.cooldownSeconds = seconds
  fired : ∃ last, t.lastFiredAt = some last ∧
    (last = time ∨ (seconds : Int) * 1000000000 ≤ last.since time)

namespace RestsSince

variable {engine : Engine} {path : List Exchange} {seconds : Nat} {first : Instant} {t : Trigger}

/-- A trigger that is found satisfied has rested since each time that it fired. -/
theorem rested (since : RestsSince seconds first t) (cools : 0 < seconds) {time : Instant}
    {e : Trigger.Evaluation} (judged : engine.Judges path t time e)
    (satisfied : e.status = .satisfied) : (seconds : Int) * 1000000000 ≤ time.since first := by
  obtain ⟨rfl, last, fired, spaced⟩ := since
  have rest := judged.rested satisfied fired cools
  rcases spaced with rfl | spaced
  · exact rest
  · -- A leap second takes at most one second from the two rests, and each of them has one.
    have whole := Instant.since_add_le time last first
    omega

theorem changes (since : RestsSince seconds first t) (cools : 0 < seconds) {op : Operation}
    {v : Trigger} (changed : op.Changes engine path t v) : RestsSince seconds first v := by
  refine ⟨changed.cooldownSeconds.trans since.cooldown, ?_⟩
  rcases changed.lastFiredAt with same | ⟨time, e, judged, satisfied, rfl⟩
  · rw [same]
    exact since.fired
  · refine ⟨time, ?_, .inr (since.rested cools judged satisfied)⟩
    rw [t.record_of_satisfied satisfied, judged.at]

end RestsSince

@[simp] theorem carried_nil (shelf : Shelf Trigger) : carried shelf [] = shelf := rfl

@[simp] theorem carried_cons (shelf : Shelf Trigger) (op : Operation) (path : List Exchange)
    (rest : List (Operation × List Exchange)) :
    carried shelf ((op, path) :: rest) = carried (shelf.after path) rest := by
  unfold carried
  rw [List.flatMap_cons, Shelf.after_append]

@[simp] theorem carried_append (shelf : Shelf Trigger)
    (first rest : List (Operation × List Exchange)) :
    carried shelf (first ++ rest) = carried (carried shelf first) rest := by
  unfold carried
  rw [List.flatMap_append, Shelf.after_append]

namespace Sequential

variable {engine : Engine} {start : Shelf Trigger} {history : List (Operation × List Exchange)}
  {id : String} {t₀ : Trigger}

/-- An operation of a history is carried out on what the operations before it left. -/
theorem split {before after : List (Operation × List Exchange)} {op : Operation}
    {path : List Exchange} (sequential : Sequential engine start (before ++ (op, path) :: after)) :
    Sequential engine start before ∧ (∃ success, Trace (op.dialogue engine) path success) ∧
      Follows (carried start before) path ∧
      Sequential engine ((carried start before).after path) after := by
  induction before generalizing start with
  | nil =>
    cases sequential with
    | cons said follows later => exact ⟨.nil start, ⟨_, said⟩, follows, later⟩
  | cons first before ih =>
    cases sequential with
    | cons said follows later =>
      obtain ⟨earlier, rest⟩ := ih later
      rw [carried_cons]
      exact ⟨.cons said follows earlier, rest⟩

/-- What every change keeps is kept by a history. -/
theorem keeps {P : Trigger → Prop} (sequential : Sequential engine start history)
    (kept : ∀ op path t v, Operation.Changes engine path op t v → P t → P v)
    (was : ∃ t, start.get? id = some t ∧ P t) :
    ∃ t, (carried start history).get? id = some t ∧ P t := by
  induction sequential with
  | nil shelf => exact was
  | cons said follows _ ih =>
    rw [carried_cons]
    exact ih (Operation.keeps said follows (kept _ _) was)

/-- The cooldown of a trigger is fixed. -/
theorem cooldownSeconds (sequential : Sequential engine start history)
    (found : start.get? id = some t₀) :
    ∃ t, (carried start history).get? id = some t ∧ t.cooldownSeconds = t₀.cooldownSeconds :=
  sequential.keeps (fun _ _ _ _ changed same => changed.cooldownSeconds.trans same) ⟨t₀, found, rfl⟩

/-- Between two firings of a trigger lies its cooldown. -/
theorem firings_apart {before middle after : List (Operation × List Exchange)}
    {first second : Operation × List Exchange} {s t : Instant}
    (sequential : Sequential engine start (before ++ first :: (middle ++ second :: after)))
    (found : start.get? id = some t₀) (cools : 0 < t₀.cooldownSeconds)
    (fired : Fires engine id first.2 s) (fires : Fires engine id second.2 t) :
    (t₀.cooldownSeconds : Int) * 1000000000 ≤ t.since s := by
  obtain ⟨earlier, ⟨_, said₁⟩, follows₁, later⟩ := sequential.split
  obtain ⟨between, ⟨_, said₂⟩, follows₂, _⟩ := later.split
  obtain ⟨u, known, cooldown⟩ := earlier.cooldownSeconds found
  obtain ⟨u', e, known', judged, satisfied, now⟩ := fired.alone said₁ follows₁
  obtain rfl : u = u' := Option.some.inj (known.symm.trans known')
  have start : RestsSince t₀.cooldownSeconds s (u.record e) := by
    refine ⟨cooldown, s, ?_, .inl rfl⟩
    rw [u.record_of_satisfied satisfied, judged.at]
  obtain ⟨v, knownLater, since⟩ := between.keeps
    (fun _ _ _ _ changed since => RestsSince.changes since cools changed) ⟨_, now, start⟩
  obtain ⟨v', e', knownLater', judged', satisfied', _⟩ := fires.alone said₂ follows₂
  obtain rfl : v = v' := Option.some.inj (knownLater.symm.trans knownLater')
  exact since.rested cools judged' satisfied'

/-- Triggers keep their cooldown. However operations follow each other, the cooldown of a
trigger is fixed, only firing it changes when it last fired, two firings are at least the
cooldown apart, and so are two runs of commands behind the trigger. While the trigger
rests, nobody looks at the screen for it, and judging it changes neither when it last
fired nor since when it is enabled. -/
theorem cooldown_kept (sequential : Sequential engine start history)
    (found : start.get? id = some t₀) (cools : 0 < t₀.cooldownSeconds) :
    (∀ before op path after, history = before ++ (op, path) :: after →
      ∃ t v, (carried start before).get? id = some t ∧
        (carried start (before ++ [(op, path)])).get? id = some v ∧
        t.cooldownSeconds = t₀.cooldownSeconds ∧ v.cooldownSeconds = t₀.cooldownSeconds ∧
        (v.lastFiredAt = t.lastFiredAt ∨
          ∃ time, Fires engine id path time ∧ v.lastFiredAt = some time) ∧
        ((∀ time, ⟨.now, time⟩ ∈ path → t.Rests time) → op ≠ .enable id →
          v.lastFiredAt = t.lastFiredAt ∧ v.enabledAt = t.enabledAt)) ∧
    (∀ before op path after s t, history = before ++ (op, path) :: after →
      Fires engine id path s → Fires engine id path t → s = t) ∧
    (∀ before first middle second after s t,
      history = before ++ first :: (middle ++ second :: after) →
        Fires engine id first.2 s → Fires engine id second.2 t →
          (t₀.cooldownSeconds : Int) * 1000000000 ≤ t.since s) ∧
    (∀ before first middle second after s t,
      history = before ++ first :: (middle ++ second :: after) →
        RunsBehind id first.1 first.2 s → RunsBehind id second.1 second.2 t →
          (t₀.cooldownSeconds : Int) * 1000000000 ≤ t.since s) ∧
    ∀ (t : Trigger) now path outcome, Trace (engine.evaluate t now).run path outcome →
      t.Rests now → (∀ exchange ∈ path, exchange.question = .isCancelled) ∧
        ∀ e, outcome = .ok e → e.status ≠ .satisfied ∧ e.baseline = none ∧
          (t.record e).lastFiredAt = t.lastFiredAt ∧ (t.record e).enabledAt = t.enabledAt := by
  refine ⟨?_, ?_, ?_, ?_, ?_⟩
  · rintro before op path after rfl
    obtain ⟨earlier, ⟨_, said⟩, follows, _⟩ := sequential.split
    obtain ⟨t, known, cooldown⟩ := earlier.cooldownSeconds found
    obtain ⟨v, now, fired⟩ := Operation.lastFiredAt_alone said follows known
    have kept : v.cooldownSeconds = t₀.cooldownSeconds := by
      obtain ⟨w, now', same⟩ := Operation.keeps said follows
        (fun _ _ changed same => changed.cooldownSeconds.trans same) ⟨t, known, cooldown⟩
      obtain rfl : v = w := Option.some.inj (now.symm.trans now')
      exact same
    have ends : (carried start (before ++ [(op, path)])).get? id = some v := by
      rw [carried_append, carried_cons, carried_nil]
      exact now
    exact ⟨t, v, known, ends, cooldown, kept, fired,
      Operation.resting_alone said follows known now⟩
  · rintro before op path after s t rfl fired fires
    obtain ⟨_, ⟨_, said⟩, follows, _⟩ := sequential.split
    obtain ⟨v, now, last⟩ := fired.lastFiredAt said follows
    obtain ⟨v', now', last'⟩ := fires.lastFiredAt said follows
    obtain rfl : v = v' := Option.some.inj (now.symm.trans now')
    exact Option.some.inj (last.symm.trans last')
  · rintro before first middle second after s t rfl fired fires
    exact sequential.firings_apart found cools fired fires
  · rintro before first middle second after s t rfl ran runs
    obtain ⟨_, ⟨_, said₁⟩, follows₁, later⟩ := sequential.split
    obtain ⟨_, ⟨_, said₂⟩, follows₂, _⟩ := later.split
    exact sequential.firings_apart found cools (ran.fires said₁ follows₁) (runs.fires said₂ follows₂)
  · intro t now path outcome said rests
    obtain ⟨asks, judged⟩ := Engine.evaluate_resting said rests
    refine ⟨asks, fun e same => ?_⟩
    obtain ⟨unsatisfied, settled⟩ := judged e same
    exact ⟨unsatisfied, settled, t.record_of_unsatisfied unsatisfied, t.record_of_settled settled⟩

end Sequential


/-! ## A trigger that is switched off and on -/

/-- A trigger that holds as soon as it is enabled, and then rests for a minute. -/
def pulse : Trigger := (Trigger.ofDelay "pulse" 0).withCooldown 60

def pulseShelf : Shelf Trigger := ⟨[pulse], List.pairwise_singleton _ _⟩

/-- The trigger when it is found satisfied. -/
def Trigger.pulsed (t : Trigger) (time : Instant) : Trigger := t.record (t.judgeDelay 0 time)

def pulseOff : Trigger := (pulse.pulsed ⟨0, 0⟩).disable

def pulseCommand : Command := { id := "press", triggerId := some "pulse" }

/-- The trigger is judged and fires. -/
def pulseJudged : Operation × List Exchange :=
  (.judge "pulse", [⟨.trigger "pulse", .ok (some pulse)⟩, ⟨.now, ⟨0, 0⟩⟩, ⟨.isCancelled, false⟩,
    ⟨.keep (pulse.pulsed ⟨0, 0⟩), .ok ()⟩])

/-- A minute later a command runs behind it. -/
def pulseRun : Operation × List Exchange :=
  (.gated "s" "press", [⟨.session "s", some (.running "s")⟩,
    ⟨.command "press", .ok (some pulseCommand)⟩, ⟨.trigger "pulse", .ok (some pulseOff.enable)⟩,
    ⟨.now, ⟨60, 0⟩⟩, ⟨.isCancelled, false⟩, ⟨.keep (pulseOff.enable.pulsed ⟨60, 0⟩), .ok ()⟩,
    ⟨.execute "s" "press", .ok 1⟩])

/-- In between the trigger is disabled and enabled. -/
def pulseHistory : List (Operation × List Exchange) :=
  [pulseJudged,
    (.disable "pulse", [⟨.trigger "pulse", .ok (some (pulse.pulsed ⟨0, 0⟩))⟩,
      ⟨.keep pulseOff, .ok ()⟩]),
    (.enable "pulse", [⟨.trigger "pulse", .ok (some pulseOff)⟩, ⟨.keep pulseOff.enable, .ok ()⟩]),
    pulseRun]

theorem pulseHistory_sequential : Sequential (Engine.standard false) pulseShelf pulseHistory := by
  have answered {shelf : Shelf Trigger} {found : Option Trigger} (id : String)
      (stored : shelf.get? id = found) : Exchange.AnsweredBy shelf ⟨.trigger id, .ok found⟩ := by
    rintro other same
    cases same
    exact stored.symm
  refine .cons (.ask _ (.ask _ (.ask _ (.ask _ (.done true))))) ?_
    (.cons (.ask _ (.ask _ (.done true))) ?_ (.cons (.ask _ (.ask _ (.done true))) ?_
      (.cons (.ask _ (.ask _ (.ask _ (.ask _ (.ask _ (.ask _ (.ask _ (.done true)))))))) ?_
        (.nil _))))
  · exact ⟨answered "pulse" rfl, trivial, trivial, trivial, trivial⟩
  · exact ⟨answered "pulse" rfl, trivial, trivial⟩
  · exact ⟨answered "pulse" rfl, trivial, trivial⟩
  · exact ⟨trivial, trivial, answered "pulse" rfl, trivial, trivial, trivial, trivial, trivial⟩

/-- Switching the trigger off and on does not shorten its rest. -/
theorem pulseHistory_cooldown_kept :
    Fires (Engine.standard false) "pulse" pulseJudged.2 ⟨0, 0⟩ ∧
      RunsBehind "pulse" pulseRun.1 pulseRun.2 ⟨60, 0⟩ ∧
      (60 : Int) * 1000000000 ≤ (⟨60, 0⟩ : Instant).since ⟨0, 0⟩ := by
  obtain ⟨_, _, apart, _⟩ := Sequential.cooldown_kept pulseHistory_sequential
    (rfl : pulseShelf.get? "pulse" = some pulse) (by decide)
  have fired : Fires (Engine.standard false) "pulse" pulseJudged.2 ⟨0, 0⟩ :=
    ⟨_, .head _, pulse, .head _, rfl, _, ⟨[_], [_], [_], rfl, .ask _ (.done _)⟩, rfl, _,
      .tail _ (.tail _ (.tail _ (.head _))), rfl⟩
  have fires : Fires (Engine.standard false) "pulse" pulseRun.2 ⟨60, 0⟩ :=
    ⟨_, .tail _ (.tail _ (.head _)), pulseOff.enable, .head _, rfl, _,
      ⟨[_, _, _], [_], [_, _], rfl, .ask _ (.done _)⟩, rfl, _,
      .tail _ (.tail _ (.tail _ (.tail _ (.tail _ (.head _))))), rfl⟩
  have runs : RunsBehind "pulse" pulseRun.1 pulseRun.2 ⟨60, 0⟩ :=
    ⟨"s", "press", pulseCommand, .ok 1, rfl, .tail _ (.head _), rfl,
      .tail _ (.tail _ (.tail _ (.head _))),
      .tail _ (.tail _ (.tail _ (.tail _ (.tail _ (.tail _ (.head _))))))⟩
  exact ⟨fired, runs, apart [] pulseJudged [_, _] pulseRun [] _ _ rfl fired fires⟩

end Autopilot
