import Autopilot.Proofs.Trigger.Elapsing

/-!
Triggers on time, judged at one time after another. Such a trigger fires at each time when it holds
and does not cool down. Once it holds it holds for good, so that from then on it fires whenever it has
rested for long enough, unless it is a delay and some of the times lie in leap seconds: by a leap second
a later time can be less far away from the one when the trigger was enabled.
-/

namespace Autopilot

namespace Trigger

/-! ## What is expected -/

/-- Whether a trigger on time holds that is enabled since some time. -/
def Kind.holds (kind : Kind) (start now : Instant) : Bool :=
  match kind with
  | .delay seconds => (seconds : Int) * 1000000000 ≤ now.since start
  | .schedule time => time.le now
  | _ => false

/-- Whether the time of a trigger lay behind when it was enabled. -/
def Kind.isPast (kind : Kind) (start : Instant) : Bool :=
  match kind with
  | .schedule time => time.lt start
  | _ => false

/-- The statuses at one time after another of a trigger that fires when it holds, and rests for some
seconds when it has fired. -/
def course (holds : Instant → Bool) (seconds : Nat) : Option Instant → List Instant → List Status
  | _, [] => []
  | fired, now :: later =>
    if fired.any fun last => 0 < seconds && now.since last < (seconds : Int) * 1000000000 then
      .cooldown :: course holds seconds fired later
    else if holds now then .satisfied :: course holds seconds (some now) later
    else .pending :: course holds seconds fired later

/-- The statuses at one time after another of a trigger that fires first when it holds, and then
whenever it has rested for some seconds. -/
def greedy (holds : Instant → Bool) (seconds : Nat) : Option Instant → List Instant → List Status
  | _, [] => []
  | none, now :: later =>
    if holds now then .satisfied :: greedy holds seconds (some now) later
    else .pending :: greedy holds seconds none later
  | some fired, now :: later =>
    if seconds = 0 ∨ (seconds : Int) * 1000000000 ≤ now.since fired then
      .satisfied :: greedy holds seconds (some now) later
    else .cooldown :: greedy holds seconds (some fired) later

/-- A trigger that holds for good once it holds need not be asked again. -/
theorem course_eq_greedy {holds : Instant → Bool} {seconds : Nat} {fired : Option Instant}
    {times : List Instant} (lasting : times.Pairwise fun a b => holds a = true → holds b = true)
    (held : fired.isSome → ∀ time ∈ times, holds time = true) :
    course holds seconds fired times = greedy holds seconds fired times := by
  induction times generalizing fired with
  | nil => cases fired <;> rfl
  | cons now later ih =>
    obtain ⟨stays, lasting⟩ := List.pairwise_cons.1 lasting
    cases fired with
    | none =>
      unfold course greedy
      rw [Option.any_none, if_neg Bool.false_ne_true]
      split
      next now => rw [ih lasting fun _ time member => stays time member now]
      next => rw [ih lasting fun some => by cases some]
    | some last =>
      obtain ⟨here, there⟩ := List.forall_mem_cons.1 (held rfl)
      unfold course greedy
      rw [Option.any_some, if_pos here]
      by_cases rests : seconds = 0 ∨ (seconds : Int) * 1000000000 ≤ now.since last
      · rw [if_pos rests, if_neg, ih lasting fun _ => there]
        simp only [Bool.and_eq_true, decide_eq_true_eq]
        omega
      · rw [if_neg rests, if_pos, ih lasting fun _ => there]
        simp only [Bool.and_eq_true, decide_eq_true_eq]
        omega

/-! ## What is found -/

/-- The evaluation of an enabled trigger on time. -/
def timely (t : Trigger) (now : Instant) : Evaluation :=
  if t.isCooling now then ⟨Reason.cooldownActive.verdict now, none⟩
  else match t.kind with
    | .delay seconds => t.judgeDelay seconds now
    | .schedule time => t.judgeSchedule time now
    | _ => ⟨Reason.noEvaluator.verdict now, none⟩

/-- The evaluations at one time after another, each of them taken in before the next one. -/
def turns (t : Trigger) : List Instant → List Evaluation
  | [] => []
  | now :: later => t.timely now :: (t.record (t.timely now)).turns later

variable {t : Trigger} {start now : Instant}

theorem isCooling_of_told (first : now.Told) (second : ∀ fired ∈ t.lastFiredAt, fired.Told) :
    t.isCooling now = t.lastFiredAt.any fun last =>
      0 < t.cooldownSeconds && now.since last < (t.cooldownSeconds : Int) * 1000000000 := by
  unfold isCooling
  cases fired : t.lastFiredAt with
  | none => rfl
  | some last =>
    dsimp only
    rw [Option.any_some, spans_since first.representable (second last fired).representable,
      ← decide_not]
    simp only [Int.not_le]

theorem Kind.timed_cases {kind : Kind} (timed : kind.isTimed = true) :
    (∃ seconds, kind = .delay seconds) ∨ ∃ time, kind = .schedule time := by
  cases kind with
  | delay seconds => exact .inl ⟨seconds, rfl⟩
  | schedule time => exact .inr ⟨time, rfl⟩
  | imageMatch | textMatch => cases timed

theorem timely_at (timed : t.kind.isTimed = true) : (t.timely now).verdict.evaluatedAt = now := by
  unfold timely
  split
  · rfl
  · rcases Kind.timed_cases timed with ⟨_, kind⟩ | ⟨_, kind⟩
    all_goals
      rw [kind]
      rfl

/-- A trigger on time is judged by whether it is cooling down and whether it holds. -/
theorem status_timely (timed : t.kind.isTimed = true) (since : (t.baseline now).1 = start)
    (current : t.kind.isPast start = false) (first : start.Told) (second : now.Told) :
    (t.timely now).status =
      if t.isCooling now then .cooldown else if t.kind.holds start now then .satisfied else .pending := by
  unfold timely
  split
  next => rfl
  next =>
    rcases Kind.timed_cases timed with ⟨seconds, kind⟩ | ⟨time, kind⟩
    · rw [kind]
      unfold judgeDelay Kind.holds
      dsimp only
      rw [since, spans_since second.representable first.representable]
      split
      · rfl
      · split <;> rfl
    · rw [kind] at current ⊢
      unfold judgeSchedule Kind.holds
      dsimp only
      rw [since]
      unfold Kind.isPast at current
      dsimp only at current
      rw [current, if_neg Bool.false_ne_true]
      split <;> rfl

/-- A trigger that is not known to be enabled is taken to be enabled now. -/
theorem baseline_started (started : t.enabledAt = some start ∨ t.enabledAt = none ∧ now = start) :
    (t.baseline now).1 = start := by
  unfold baseline
  rcases started with known | ⟨unknown, same⟩
  · rw [known]
  · rw [unknown]
    exact same

/-- Since when a trigger on time is enabled is known when it has been judged without cooling down. -/
theorem baseline_timely (timed : t.kind.isTimed = true) (since : (t.baseline now).1 = start)
    (awake : t.isCooling now = false) : (t.record (t.timely now)).enabledAt = some start := by
  have established : (t.timely now).baseline = (t.baseline now).2 := by
    unfold timely
    rw [awake, if_neg Bool.false_ne_true]
    rcases Kind.timed_cases timed with ⟨_, kind⟩ | ⟨_, kind⟩
    all_goals
      rw [kind]
      rfl
  unfold record
  dsimp only
  rw [established]
  unfold baseline at since ⊢
  cases enabledAt : t.enabledAt with
  | none =>
    rw [enabledAt] at since
    exact congrArg some since
  | some time =>
    rw [enabledAt] at since
    exact congrArg some since

/-- A trigger runs its course, if its time was not behind when it was first judged. -/
theorem status_turns {times : List Instant} (timed : t.kind.isTimed = true)
    (current : t.kind.isPast start = false) (first : start.Told)
    (started : t.enabledAt = some start ∨
      t.enabledAt = none ∧ t.lastFiredAt = none ∧ ∀ time ∈ times.head?, time = start)
    (fired : ∀ last ∈ t.lastFiredAt, last.Told) (told : ∀ time ∈ times, time.Told) :
    (t.turns times).map Evaluation.status =
      course (t.kind.holds start) t.cooldownSeconds t.lastFiredAt times := by
  induction times generalizing t with
  | nil => rfl
  | cons now later ih =>
    obtain ⟨here, there⟩ := List.forall_mem_cons.1 told
    have since : (t.baseline now).1 = start :=
      baseline_started (started.imp_right fun ⟨unknown, _, same⟩ => ⟨unknown, same now rfl⟩)
    have next : (t.record (t.timely now)).enabledAt = some start := by
      cases cooling : t.isCooling now with
      | false => exact baseline_timely timed since cooling
      | true =>
        rcases started with known | ⟨_, never, _⟩
        · change t.enabledAt.or _ = _
          rw [known, Option.some_or]
        · unfold isCooling at cooling
          rw [never] at cooling
          cases cooling
    have status := status_timely timed since current first here
    have rest (found : ∀ last ∈ (t.record (t.timely now)).lastFiredAt, last.Told) :=
      ih (t := t.record (t.timely now)) timed current (.inl next) found there
    unfold turns course
    rw [List.map_cons, ← isCooling_of_told here fired, status]
    split
    next cooling =>
      rw [if_pos cooling] at status
      have kept := t.record_of_unsatisfied (e := t.timely now) (by rw [status]; decide)
      rw [kept] at rest
      exact congrArg _ (rest fired)
    next awake =>
      rw [if_neg awake] at status
      split
      next holds =>
        rw [if_pos holds] at status
        have fires := t.record_of_satisfied status
        rw [timely_at timed] at fires
        rw [fires] at rest
        have known : ∀ last ∈ some now, last.Told := by
          intro last same
          cases same
          exact here
        exact congrArg _ (rest known)
      next unheld =>
        rw [if_neg unheld] at status
        have kept := t.record_of_unsatisfied (e := t.timely now) (by rw [status]; decide)
        rw [kept] at rest
        exact congrArg _ (rest fired)

/-- A trigger whose time was behind when it was first judged is disabled for good. -/
theorem status_turns_of_past {times : List Instant} {time : Instant} (kind : t.kind = .schedule time)
    (past : time.lt start = true) (never : t.lastFiredAt = none)
    (started : t.enabledAt = some start ∨
      t.enabledAt = none ∧ ∀ time ∈ times.head?, time = start) :
    ∀ e ∈ t.turns times, e.status = .disabled := by
  induction times generalizing t with
  | nil => exact List.forall_mem_nil _
  | cons now later ih =>
    have awake : t.isCooling now = false := by
      unfold isCooling
      rw [never]
    have timed : t.kind.isTimed = true := by rw [kind]; rfl
    have since : (t.baseline now).1 = start :=
      baseline_started (started.imp_right fun ⟨unknown, same⟩ => ⟨unknown, same now rfl⟩)
    have disabled : (t.timely now).status = .disabled := by
      unfold timely
      rw [awake, if_neg Bool.false_ne_true, kind]
      dsimp only
      unfold judgeSchedule
      dsimp only
      rw [since, if_pos past]
      rfl
    have kept := t.record_of_unsatisfied (e := t.timely now) (by rw [disabled]; decide)
    exact List.forall_mem_cons.2 ⟨disabled,
      ih (t := t.record (t.timely now)) kind (kept.trans never) (.inl (baseline_timely timed since awake))⟩

end Trigger

/-! ## What an engine does -/

/-- An engine judges a trigger at one time after another, and each evaluation is taken in. -/
inductive Engine.Turns (engine : Engine) : Trigger → List Instant → List Trigger.Evaluation → Prop where
  | nil (t : Trigger) : Turns engine t [] []
  | cons {t : Trigger} {now : Instant} {path : List Exchange} {e : Trigger.Evaluation}
      {later : List Instant} {es : List Trigger.Evaluation}
      (said : Trace (engine.evaluate t now).run path (.ok e)) (rest : Turns engine (t.record e) later es) :
      Turns engine t (now :: later) (e :: es)

namespace Engine

open Trigger (Evaluation course greedy)

variable {t : Trigger}

theorem canJudge_standard (evaluator : Bool) (timed : t.kind.isTimed = true) :
    (standard evaluator).canJudge t = true := by
  unfold canJudge standard Trigger.family
  rcases Trigger.Kind.timed_cases timed with ⟨_, kind⟩ | ⟨_, kind⟩
  all_goals
    rw [kind]
    rfl

/-- An enabled trigger on time is judged in one way, and nothing is asked but whether to stop. -/
theorem evaluate_timed (evaluator : Bool) (enabled : t.enabled = true) (timed : t.kind.isTimed = true)
    (now : Instant) :
    Trace ((standard evaluator).evaluate t now).run [⟨.isCancelled, false⟩] (.ok (t.timely now)) ∧
    ∀ path e, Trace ((standard evaluator).evaluate t now).run path (.ok e) → e = t.timely now := by
  constructor
  · let rest : Talk TriggerError Evaluation :=
      if (!t.enabled) = true then pure ⟨Trigger.Reason.triggerDisabled.verdict now, none⟩
      else if t.isCooling now = true then pure ⟨Trigger.Reason.cooldownActive.verdict now, none⟩
      else if (standard evaluator).canJudge t = true then judge t now
      else pure ⟨Trigger.Reason.noEvaluator.verdict now, none⟩
    have settled : rest = pure (t.timely now) := by
      unfold rest
      rw [enabled, if_neg (by decide), canJudge_standard evaluator timed, if_pos rfl]
      unfold Trigger.timely judge
      split
      · rfl
      · rcases Trigger.Kind.timed_cases timed with ⟨_, kind⟩ | ⟨_, kind⟩
        all_goals rw [kind]
    have told : Trace rest.run [] (.ok (t.timely now)) := by
      rw [settled]
      exact .done _
    refine .ask _ ?_
    exact told
  · intro path e said
    rcases evaluate_cases said with ⟨_, same⟩ | ⟨_, _, ⟨off, _⟩ | ⟨_, cooling, _, same⟩ |
      ⟨_, awake, _, judged⟩ | ⟨_, _, unable, _⟩⟩
    · cases same
    · rw [enabled] at off
      cases off
    · cases same
      unfold Trigger.timely
      rw [if_pos cooling]
    · unfold Trigger.timely
      rw [awake, if_neg Bool.false_ne_true]
      rcases judge_cases judged with ⟨seconds, kind, _, same⟩ | ⟨time, kind, _, same⟩ |
        ⟨condition, _, asked, _⟩
      · rw [kind]
        exact Except.ok.inj same
      · rw [kind]
        exact Except.ok.inj same
      · rcases Trigger.Kind.timed_cases timed with ⟨_, kind⟩ | ⟨_, kind⟩
        all_goals
          rw [kind] at asked
          cases asked
    · rw [canJudge_standard evaluator timed] at unable
      cases unable

/-- There is one way in which an enabled trigger on time is judged at one time after another. -/
theorem turns_iff (evaluator : Bool) (enabled : t.enabled = true) (timed : t.kind.isTimed = true)
    {times : List Instant} {es : List Evaluation} :
    (standard evaluator).Turns t times es ↔ es = t.turns times := by
  constructor
  · intro judged
    induction judged with
    | nil => rfl
    | @cons t now path e later es said rest ih =>
      obtain rfl := (evaluate_timed evaluator enabled timed now).2 path e said
      exact congrArg _ (ih enabled timed)
  · rintro rfl
    induction times generalizing t with
    | nil => exact .nil t
    | cons now later ih =>
      exact .cons (evaluate_timed evaluator enabled timed now).1
        (ih (t := t.record (t.timely now)) enabled timed)

theorem turns_at {times : List Instant} (timed : t.kind.isTimed = true) :
    (t.turns times).map (fun e => e.verdict.evaluatedAt) = times := by
  induction times generalizing t with
  | nil => rfl
  | cons now later ih =>
    unfold Trigger.turns
    rw [List.map_cons, Trigger.timely_at timed, ih (t := t.record (t.timely now)) timed]

/-- A trigger on time that holds goes on to hold, if time goes on and there are no leap seconds where
it waits for a delay. -/
theorem holds_of_later {kind : Trigger.Kind} {start a b : Instant}
    (even : (∃ time, kind = .schedule time) ∨
      start.isLeap = false ∧ a.isLeap = false ∧ b.isLeap = false) (later : a.le b = true)
    (holds : kind.holds start a = true) : kind.holds start b = true := by
  unfold Trigger.Kind.holds at holds ⊢
  rcases even with ⟨time, rfl⟩ | ⟨ordinary, first, second⟩
  · exact Instant.le_trans holds later
  · cases kind with
    | delay seconds =>
      have further := Instant.since_le_since later first second ordinary
      dsimp only at holds ⊢
      rw [decide_eq_true_eq] at holds ⊢
      omega
    | schedule time => exact Instant.le_trans holds later
    | imageMatch | textMatch => cases holds

/-- An engine with the built-in handlers judges a fresh trigger on time in one way at one time after
another. A time that lay behind is never reached. Any other trigger fires first when it holds, and
again when it has rested and still holds; it is pending when it does not hold, and cools down when it
has not rested. It need not be asked again whether it still holds where time goes on, unless it is a
delay and some of the times lie in leap seconds. -/
theorem turns_course (evaluator : Bool) (fresh : t.Fresh) (enabled : t.enabled = true)
    (timed : t.kind.isTimed = true) {first : Instant} {rest : List Instant}
    (sorted : (first :: rest).Pairwise fun a b => a.le b = true)
    (told : ∀ time ∈ first :: rest, time.Told) :
    ∃ es, (∀ others, (standard evaluator).Turns t (first :: rest) others ↔ others = es) ∧
      es.map (fun e => e.verdict.evaluatedAt) = first :: rest ∧
      (t.kind.isPast first = true → ∀ e ∈ es, e.status = .disabled) ∧
      (t.kind.isPast first = false →
        es.map Evaluation.status =
          course (t.kind.holds first) t.cooldownSeconds none (first :: rest) ∧
        ((∃ time, t.kind = .schedule time) ∨ (∀ time ∈ first :: rest, time.isLeap = false) →
          es.map Evaluation.status =
            greedy (t.kind.holds first) t.cooldownSeconds none (first :: rest))) := by
  have head : ∀ time ∈ (first :: rest).head?, time = first := by
    rintro time same
    exact (Option.some.inj same).symm
  refine ⟨t.turns (first :: rest), fun others => turns_iff evaluator enabled timed, turns_at timed,
    fun past => ?_, fun current => ?_⟩
  · cases kind : t.kind with
    | schedule time =>
      rw [kind] at past
      exact Trigger.status_turns_of_past kind past fresh.lastFiredAt (.inr ⟨fresh.enabledAt, head⟩)
    | delay | imageMatch | textMatch =>
      rw [kind] at past
      cases past
  · have runs : (t.turns (first :: rest)).map Evaluation.status =
        course (t.kind.holds first) t.cooldownSeconds none (first :: rest) := by
      have never : ∀ last ∈ t.lastFiredAt, last.Told := by
        rw [fresh.lastFiredAt]
        exact nofun
      have ran := Trigger.status_turns timed current (told first List.mem_cons_self)
        (.inr ⟨fresh.enabledAt, fresh.lastFiredAt, head⟩) never told
      rwa [fresh.lastFiredAt] at ran
    refine ⟨runs, fun even => runs.trans (Trigger.course_eq_greedy ?_ fun some => by cases some)⟩
    refine sorted.imp_of_mem fun {a b} inside also later => holds_of_later ?_ later
    exact even.imp_right fun ordinary =>
      ⟨ordinary first List.mem_cons_self, ordinary a inside, ordinary b also⟩

/-- A trigger that waits for a minute, and then rests for half a minute when it has fired. -/
def minuteDelay : Trigger := (Trigger.ofDelay "rested" 60).withCooldown 30

theorem turns_course_minuteDelay :
    ∃ es, (standard false).Turns minuteDelay [⟨0, 0⟩, ⟨59, 0⟩, ⟨60, 0⟩, ⟨89, 0⟩, ⟨90, 0⟩] es ∧
      es.map Evaluation.status = [.pending, .pending, .satisfied, .cooldown, .satisfied] := by
  have sorted : ([⟨0, 0⟩, ⟨59, 0⟩, ⟨60, 0⟩, ⟨89, 0⟩, ⟨90, 0⟩] : List Instant).Pairwise
      fun a b => a.le b = true := by decide
  have whole {second : Int} (soon : 0 ≤ second ∧ second < 86400) : (⟨second, 0⟩ : Instant).Told := by
    refine ⟨?_, by simp, nofun⟩
    have today : second.fdiv 86400 = 0 := by
      rw [Int.fdiv_eq_ediv_of_nonneg _ (by decide)]
      omega
    rw [today]
    decide
  have told : ∀ time ∈ ([⟨0, 0⟩, ⟨59, 0⟩, ⟨60, 0⟩, ⟨89, 0⟩, ⟨90, 0⟩] : List Instant), time.Told := by
    simp [whole]
  obtain ⟨es, only, _, _, runs⟩ :=
    turns_course (t := minuteDelay) false ⟨rfl, rfl, rfl, rfl⟩ rfl rfl sorted told
  obtain ⟨_, rests⟩ := runs rfl
  exact ⟨es, (only es).2 rfl, rests (.inr (by decide))⟩

/-- Half a second into a minute, the end of the leap second that ends it, and the next minute. -/
def leapTimes : List Instant :=
  [⟨1780308000, 500000000⟩, ⟨1780308059, 1999000000⟩, ⟨1780308060, 0⟩]

/-- A trigger that waits for a minute fires in the leap second that ends it, and does not hold when
that second is over. -/
theorem turns_of_leapTimes :
    (Trigger.ofDelay "rested" 60).Fresh ∧ (leapTimes.Pairwise fun a b => a.le b = true) ∧
    (∀ time ∈ leapTimes, time.Told) ∧
    ∃ es, (∀ others, (standard false).Turns (Trigger.ofDelay "rested" 60) leapTimes others ↔
        others = es) ∧
      es.map Evaluation.status = [.pending, .satisfied, .pending] ∧
      greedy ((Trigger.ofDelay "rested" 60).kind.holds ⟨1780308000, 500000000⟩) 0 none leapTimes =
        [.pending, .satisfied, .satisfied] := by
  refine ⟨⟨rfl, rfl, rfl, rfl⟩, by decide, ?_, _, fun others => turns_iff false rfl rfl,
    by decide, by decide⟩
  simp only [leapTimes, List.forall_mem_cons]
  refine ⟨⟨by decide, by decide, by decide⟩, ⟨by decide, by decide, by decide⟩,
    ⟨by decide, by decide, by decide⟩, List.forall_mem_nil _⟩

end Engine
end Autopilot
