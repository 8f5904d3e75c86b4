import Autopilot.Proofs.Sequence.Attempts
import Mathlib.Algebra.Order.Floor.Div

/-!
When a gate is polled. Between two polls lies a rest, which the deadline cuts short, so that the last
poll of a gate that stays shut is one that ends at the deadline or after it. What the polls answer, and
how long they take, is up to whoever decides on the gate. Where answers take no time, the polls are the
interval apart from the beginning of the wait, and the last of them is at the deadline.
-/

namespace Autopilot

/-- A poll of a gate: when it is asked, how long the answer takes, and what it is. -/
structure Poll where
  asked : Nat
  elapsed : Nat
  answer : Except RunError Bool

/-- When the answer of a poll is there. -/
def Poll.answered (poll : Poll) : Nat := poll.asked + poll.elapsed

/-- What the journal lists, each with its time. -/
def Run.timed {World : Type} (run : Run World) : List (Nat × Act) :=
  run.journal.toList.map fun entry => (entry.time, entry.act)

@[simp] theorem Run.timed_noted {World : Type} (run : Run World) (act : Act) :
    (run.noted act).timed = run.timed ++ [(run.now, act)] := by
  simp only [timed, noted, Array.toList_push, List.map_append, List.map_cons, List.map_nil]

@[simp] theorem Run.timed_replied {World α : Type} (run : Run World) (reply : Reply World α) :
    (run.replied reply).timed = run.timed := rfl

/-- What the journal tells of a poll. Whoever decides on gates is asked, else the evaluator of
conditions; where there is neither, the gate is open at once, and nobody is asked. -/
inductive Poll.Told {World : Type} (hooks : Hooks World) (step : Step) (gate : Condition) :
    Poll → List (Nat × Act) → Prop where
  | decided (given : hooks.gate.isSome = true) (poll : Poll) :
      Told hooks step gate poll
        [(poll.asked, .gateAsked step.commandId), (poll.answered, .gateAnswered poll.answer)]
  | measured (undecided : hooks.gate = none) (given : hooks.condition.isSome = true)
      (asked elapsed : Nat) (answer : Except ConditionError Bool) :
      Told hooks step gate ⟨asked, elapsed, answer.mapError .ofCondition⟩
        [(asked, .conditionAsked gate), (asked + elapsed, .conditionAnswered answer)]
  | unasked (undecided : hooks.gate = none) (unevaluated : hooks.condition = none) (asked : Nat) :
      Told hooks step gate ⟨asked, 0, .ok true⟩ []

/-- The rest after a poll that was answered at this time. -/
def Poll.restAt (intervalMs : Nat) (deadline : Option Nat) (answered : Nat) : Nat :=
  match deadline with
  | none => intervalMs
  | some time => min intervalMs (time - answered)

/-- Polls that find a gate shut before its deadline, each with the rest after it, from a time until
another, and what the journal tells of them. -/
inductive Poll.Shut {World : Type} (hooks : Hooks World) (step : Step) (gate : Condition)
    (intervalMs : Nat) (deadline : Option Nat) :
    (began : Nat) → List Poll → List (Nat × Act) → (next : Nat) → Prop where
  | none (began : Nat) : Shut hooks step gate intervalMs deadline began [] [] began
  | again {poll : Poll} {polls : List Poll} {entries told : List (Nat × Act)} {rest next : Nat}
      (tells : poll.Told hooks step gate entries) (shut : poll.answer = .ok false)
      (early : ∀ time ∈ deadline, poll.answered < time)
      (rests : rest = Poll.restAt intervalMs deadline poll.answered)
      (later : Shut hooks step gate intervalMs deadline (poll.answered + rest) polls told next) :
      Shut hooks step gate intervalMs deadline poll.asked (poll :: polls)
        (entries ++ (poll.answered + rest, .slept rest) :: told) next

/-- How a poll ends the wait for a gate. -/
inductive Poll.Decides (deadline : Option Nat) (poll : Poll) : Except RunError Unit → Prop where
  | opens (isOpen : poll.answer = .ok true) : Decides deadline poll (.ok ())
  | late {time : Nat} (shut : poll.answer = .ok false) (given : deadline = some time)
      (late : time ≤ poll.answered) : Decides deadline poll (.error .gateTimeout)
  | fails {error : RunError} (failed : poll.answer = .error error) :
      Decides deadline poll (.error error)

/-- The time of a poll by the number of those before it, if all answers are there at once. -/
def Poll.timeOf (began intervalMs : Nat) (timeout : Option Nat) (earlier : Nat) : Nat :=
  match timeout with
  | none => began + earlier * intervalMs
  | some ms => began + min (earlier * intervalMs) ms

namespace Poll.Shut

variable {World : Type} {hooks : Hooks World} {step : Step} {gate : Condition}
  {intervalMs began next : Nat} {polls : List Poll} {told : List (Nat × Act)}

/-- A poll is only shut before the deadline, and each rest but the last is a whole interval. -/
theorem before_deadline {time : Nat}
    (shut : Poll.Shut hooks step gate intervalMs (some time) began polls told next) :
    polls = [] ∨ began + (polls.length - 1) * intervalMs < time := by
  induction shut with
  | none => exact .inl rfl
  | @again poll polls _ _ rest next _ _ early rests _ ih =>
    right
    have before : poll.answered < time := early time rfl
    have cut : rest = min intervalMs (time - poll.answered) := rests
    rw [List.length_cons, Nat.add_sub_cancel]
    unfold Poll.answered at before cut ih
    rcases ih with rfl | more
    · rw [List.length_nil, Nat.zero_mul]
      omega
    · have whole : rest = intervalMs := by omega
      cases polls with
      | nil => rw [List.length_nil, Nat.zero_mul]; omega
      | cons _ others =>
        rw [List.length_cons, Nat.add_sub_cancel] at more
        rw [List.length_cons, Nat.succ_mul]
        omega

/-- There are at most as many shut polls as intervals are begun before the deadline. -/
theorem length_le {timeout : Nat} (interval : 0 < intervalMs)
    (shut : Poll.Shut hooks step gate intervalMs (some (began + timeout)) began polls told next) :
    polls.length ≤ timeout ⌈/⌉ intervalMs := by
  rcases shut.before_deadline with rfl | early
  · exact Nat.zero_le _
  · by_contra more
    have enough : timeout ⌈/⌉ intervalMs ≤ polls.length - 1 := by omega
    have beyond := (ceilDiv_le_iff_le_mul interval).1 enough
    rw [Nat.mul_comm] at beyond
    omega

/-- Where answers take no time, the polls and the one that follows them are an interval apart, up to
the deadline. -/
theorem asked_eq {deadline : Option Nat}
    (shut : Poll.Shut hooks step gate intervalMs deadline began polls told next)
    (prompt : ∀ poll ∈ polls, poll.elapsed = 0) :
    polls.map Poll.asked ++ [next] =
      (List.range (polls.length + 1)).map
        (Poll.timeOf began intervalMs (deadline.map (· - began))) := by
  induction shut with
  | none began => cases deadline <;> simp [Poll.timeOf]
  | @again poll polls _ _ rest next _ _ early rests _ ih =>
    obtain ⟨at_once, others⟩ := List.forall_mem_cons.1 prompt
    have here : poll.answered = poll.asked := by rw [Poll.answered, at_once, Nat.add_zero]
    have indices : List.range (polls.length + 1 + 1) = 0 :: (List.range (polls.length + 1)).map Nat.succ :=
      List.range_succ_eq_map
    rw [List.map_cons, List.cons_append, ih others, List.length_cons, indices, List.map_cons,
      List.map_map]
    congr 1
    · cases deadline <;> simp [Poll.timeOf]
    · apply List.map_congr_left
      intro earlier _
      rw [here] at rests early ⊢
      simp only [Function.comp_apply]
      cases deadline with
      | none =>
        have whole : rest = intervalMs := rests
        simp only [Poll.timeOf, Option.map_none, Nat.succ_mul]
        omega
      | some time =>
        have before : poll.asked < time := early time rfl
        have cut : rest = min intervalMs (time - poll.asked) := rests
        simp only [Poll.timeOf, Option.map_some, Nat.succ_mul]
        omega

/-- The wait for a gate that stays shut ends at its deadline, after as many polls as intervals are
begun before. -/
theorem late {timeout : Nat} (interval : 0 < intervalMs)
    (shut : Poll.Shut hooks step gate intervalMs (some (began + timeout)) began polls told next)
    (prompt : ∀ poll ∈ polls, poll.elapsed = 0) (late : began + timeout ≤ next) :
    polls.length = timeout ⌈/⌉ intervalMs ∧ next = began + timeout := by
  have times := congrArg List.getLast? (shut.asked_eq prompt)
  rw [List.getLast?_concat, List.range_succ, List.map_append, List.map_singleton,
    List.getLast?_concat] at times
  have last : next = began + min (polls.length * intervalMs) timeout := by
    have given := Option.some.inj times
    simpa only [Poll.timeOf, Option.map_some, Nat.add_sub_cancel_left] using given
  have enough : timeout ≤ intervalMs * polls.length := by
    rw [Nat.mul_comm]
    omega
  exact ⟨le_antisymm (shut.length_le interval) ((ceilDiv_le_iff_le_mul interval).2 enough), by omega⟩

end Poll.Shut

namespace Runner

variable {World : Type} {hooks : Hooks World} {polling : Polling} {step : Step} {gate : Condition}
  {run after : Run World}

/-- A question is told when it is asked, and its answer when it is there. -/
theorem ask_timed {ε α : Type} (asked : Act) (answered : Except ε α → Act) (asError : ε → RunError)
    (question : World → Reply World (Except ε α)) (run : Run World) :
    ∃ elapsed, (ask asked answered asError question run).1 =
        (question run.world).answer.mapError (fun error => .failed (asError error)) ∧
      (ask asked answered asError question run).2.timed = run.timed ++
        [(run.now, asked), (run.now + elapsed, answered (question run.world).answer)] ∧
      (ask asked answered asError question run).2.now = run.now + elapsed := by
  refine ⟨(question run.world).elapsed, ?_⟩
  rw [ask_apply]
  refine ⟨rfl, ?_, rfl⟩
  simp only [Run.timed_noted, Run.timed_replied, List.append_assoc, List.cons_append, List.nil_append]
  rfl

/-- Looking at a gate is a poll that is asked at once. -/
theorem gateOpen_polls (hooks : Hooks World) (step : Step) (gate : Condition) (run : Run World) :
    ∃ (poll : Poll) (entries : List (Nat × Act)), poll.asked = run.now ∧
      poll.Told hooks step gate entries ∧
      (gateOpen hooks step gate run).1 = poll.answer.mapError .failed ∧
      (gateOpen hooks step gate run).2.timed = run.timed ++ entries ∧
      (gateOpen hooks step gate run).2.now = poll.answered := by
  cases decides : hooks.gate with
  | some decide =>
    have given : hooks.gate.isSome = true := by rw [decides]; rfl
    rw [gateOpen_of_decider step gate decides]
    obtain ⟨elapsed, ends, timed, now⟩ := ask_timed (.gateAsked step.commandId) .gateAnswered id
      (decide step) run
    exact ⟨⟨run.now, elapsed, (decide step run.world).answer⟩, _, rfl, .decided given _, ends, timed, now⟩
  | none =>
    cases evaluates : hooks.condition with
    | some evaluator =>
      have given : hooks.condition.isSome = true := by rw [evaluates]; rfl
      rw [gateOpen_of_evaluator step gate decides evaluates]
      obtain ⟨elapsed, ends, timed, now⟩ := ask_timed (.conditionAsked gate) .conditionAnswered
        .ofCondition (evaluator gate) run
      refine ⟨⟨run.now, elapsed, (evaluator gate run.world).answer.mapError .ofCondition⟩, _, rfl,
        .measured decides given run.now elapsed _, ?_, timed, now⟩
      refine ends.trans ?_
      cases (evaluator gate run.world).answer <;> rfl
    | none =>
      rw [gateOpen_of_nobody step gate decides evaluates]
      exact ⟨⟨run.now, 0, .ok true⟩, [], rfl, .unasked decides evaluates _, rfl,
        (List.append_nil _).symm, rfl⟩

/-- A rest that is not cut off is told when it is over. -/
theorem pause_timed {ms : Nat} (long : ms ≠ 0) {outcome : Except Halt Unit}
    (ended : pause hooks ms run = (outcome, after)) (going : outcome ≠ .error (.failed .cancelled)) :
    outcome = .ok () ∧ after.timed = run.timed ++ [(run.now + ms, .slept ms)] ∧
      after.now = run.now + ms := by
  rcases pause_cases hooks ms run with ⟨_, same⟩ | ⟨_, empty, _⟩ | ⟨_, _, _, same⟩ | ⟨_, _, same⟩
  · rw [same] at ended
    cases ended
    exact absurd rfl going
  · exact absurd empty long
  · rw [same] at ended
    cases ended
    exact absurd rfl going
  · rw [same] at ended
    cases ended
    exact ⟨rfl, Run.timed_noted _ _, rfl⟩

/-- Where a wait for a gate leads, after its shut polls: to a poll that decides, or to the end of all
patience. -/
def Waited (hooks : Hooks World) (step : Step) (gate : Condition) (intervalMs : Nat)
    (deadline : Option Nat) (patience : Nat) (run : Run World) (outcome : Except Halt Unit)
    (after : Run World) : Prop :=
  ∃ (polls : List Poll) (told : List (Nat × Act)) (next : Nat),
    Poll.Shut hooks step gate intervalMs deadline run.now polls told next ∧
    ((∃ (poll : Poll) (entries : List (Nat × Act)) (decision : Except RunError Unit),
        poll.asked = next ∧ poll.Told hooks step gate entries ∧ poll.Decides deadline decision ∧
        outcome = decision.mapError .failed ∧ after.timed = run.timed ++ (told ++ entries) ∧
        after.now = poll.answered ∧ polls.length < patience) ∨
      (outcome = .error .impatient ∧ polls.length = patience ∧ after.timed = run.timed ++ told))

section Waiting

variable {deadline : Option Nat} {patience : Nat} {outcome : Except Halt Unit} {poll : Poll}
  {entries : List (Nat × Act)} (asked : poll.asked = run.now) (tells : poll.Told hooks step gate entries)

include asked tells

/-- The first poll may decide. -/
theorem Waited.at_once {intervalMs : Nat} {decision : Except RunError Unit}
    (decides : poll.Decides deadline decision) (ends : outcome = decision.mapError .failed)
    (timed : after.timed = run.timed ++ entries) (now : after.now = poll.answered) :
    Waited hooks step gate intervalMs deadline (patience + 1) run outcome after :=
  ⟨[], [], run.now, .none _, .inl ⟨poll, entries, decision, asked, tells, decides, ends, timed, now,
    Nat.succ_pos _⟩⟩

/-- After a shut poll and a rest the wait goes on. -/
theorem Waited.again {intervalMs rest : Nat} {between : Run World} (shut : poll.answer = .ok false)
    (early : ∀ time ∈ deadline, poll.answered < time)
    (rests : rest = Poll.restAt intervalMs deadline poll.answered)
    (timed : between.timed = run.timed ++ entries ++ [(poll.answered + rest, .slept rest)])
    (now : between.now = poll.answered + rest)
    (later : Waited hooks step gate intervalMs deadline patience between outcome after) :
    Waited hooks step gate intervalMs deadline (patience + 1) run outcome after := by
  obtain ⟨polls, told, next, goesOn, ends⟩ := later
  rw [now] at goesOn
  have all := Poll.Shut.again tells shut early rests goesOn
  rw [asked] at all
  rw [timed] at ends
  refine ⟨_, _, next, all, ?_⟩
  rcases ends with ⟨last, final, decision, due, tells, decides, same, journal, time, few⟩ |
    ⟨same, length, journal⟩
  · refine .inl ⟨last, final, decision, due, tells, decides, same, ?_, time, Nat.succ_lt_succ few⟩
    simpa using journal
  · exact .inr ⟨same, congrArg Nat.succ length, by simpa using journal⟩

end Waiting

/-- The rest after a shut poll is not empty. -/
theorem untilNextPoll_early {deadline : Option Nat} (interval : 0 < polling.intervalMs)
    (early : ∀ time ∈ deadline, run.now < time) :
    untilNextPoll polling deadline run =
        (.ok (Poll.restAt polling.intervalMs deadline run.now), run) ∧
      Poll.restAt polling.intervalMs deadline run.now ≠ 0 := by
  rw [untilNextPoll_apply]
  cases deadline with
  | none => exact ⟨rfl, interval.ne'⟩
  | some time =>
    have before : run.now < time := early time rfl
    simp only [if_neg (not_le.2 before), Poll.restAt]
    exact ⟨trivial, by omega⟩

/-- A wait, by induction on how often the gate is still polled. -/
theorem awaitGate_waited (interval : 0 < polling.intervalMs) (deadline : Option Nat) (patience : Nat)
    {outcome : Except Halt Unit}
    (ended : awaitGate hooks polling step gate deadline patience run = (outcome, after))
    (going : outcome ≠ .error (.failed .cancelled)) :
    Waited hooks step gate polling.intervalMs deadline patience run outcome after := by
  induction patience generalizing run with
  | zero =>
    rcases awaitGate_zero hooks polling step gate deadline run with ⟨_, same⟩ | ⟨_, same⟩
    all_goals rw [same] at ended
    all_goals cases ended
    · exact absurd rfl going
    · exact ⟨[], [], _, .none _, .inr ⟨rfl, rfl, (List.append_nil _).symm⟩⟩
  | succ patience ih =>
    cases cancelled : run.cancelled with
    | true =>
      rw [awaitGate, bind_of_halt (checkCancel_of_cancelled cancelled)] at ended
      cases ended
      exact absurd rfl going
    | false =>
      rw [awaitGate, bind_of_ok (checkCancel_of_going cancelled)] at ended
      obtain ⟨poll, entries, asked, tells, answers, timed, now⟩ :=
        gateOpen_polls hooks step gate run
      rcases polled : gateOpen hooks step gate run with ⟨answered, middle⟩
      rw [polled] at answers timed now
      obtain rfl : answered = poll.answer.mapError Halt.failed := answers
      rcases answer : poll.answer with error | isOpen
      · rw [answer] at polled
        rw [bind_of_halt polled] at ended
        cases ended
        exact .at_once asked tells (.fails answer) rfl timed now
      · rw [answer] at polled
        rw [bind_of_ok polled] at ended
        cases isOpen with
        | true =>
          cases ended
          exact .at_once asked tells (.opens answer) rfl timed now
        | false =>
          by_cases late : ∃ time ∈ deadline, time ≤ middle.now
          · obtain ⟨time, given, late⟩ := late
            obtain rfl : deadline = some time := given
            have due := untilNextPoll_apply polling (some time) middle
            simp only [if_pos late] at due
            rw [if_neg Bool.false_ne_true, bind_of_halt due] at ended
            cases ended
            exact .at_once asked tells (.late answer rfl (now ▸ late)) rfl timed now
          · have early : ∀ time ∈ deadline, middle.now < time := fun time given =>
              not_le.1 fun past => late ⟨time, given, past⟩
            obtain ⟨rests, long⟩ := untilNextPoll_early interval early
            rw [if_neg Bool.false_ne_true, bind_of_ok rests] at ended
            rcases rested : pause hooks (Poll.restAt polling.intervalMs deadline middle.now) middle with
              ⟨slept, between⟩
            have awake : slept ≠ .error (.failed .cancelled) := by
              rintro rfl
              rw [bind_of_halt rested] at ended
              cases ended
              exact going rfl
            obtain ⟨rfl, told, moved⟩ := pause_timed long rested awake
            rw [bind_of_ok rested] at ended
            rw [now] at early told moved
            rw [timed] at told
            exact .again asked tells answer early rfl told moved (ih ended)

end Runner

/-! ## Steps -/

/-- What a step reports that ended so. -/
def Step.resultOf (step : Step) (delayMs : Nat) (ended : Except RunError Unit) : StepResult where
  commandId := step.commandId
  order := step.order
  status := match ended with
    | .ok _ => .succeeded
    | .error _ => .failed
  delayMs := delayMs
  error := match ended with
    | .ok _ => none
    | .error error => some error.message

/-- What the journal tells of a step before its gate is polled. -/
def Step.lead (step : Step) (now delayMs : Nat) : List (Nat × Act) :=
  (now, .step step.commandId) :: if delayMs = 0 then [] else [(now + delayMs, .slept delayMs)]

/-- How a step with a gate ends after the poll that decides: at once its command is called if that
found the gate open, and otherwise it is not called. -/
inductive Step.Follows (step : Step) (deadline : Option Nat) (poll : Poll) :
    List (Nat × Act) → Except RunError Unit → (now : Nat) → Prop where
  | called (isOpen : poll.answer = .ok true) (elapsed : Nat) (answer : Except RunError Unit) :
      Follows step deadline poll
        [(poll.answered, .commandCalled step.commandId),
          (poll.answered + elapsed, .commandAnswered answer)] answer (poll.answered + elapsed)
  | timedOut {time : Nat} (shut : poll.answer = .ok false) (given : deadline = some time)
      (late : time ≤ poll.answered) : Follows step deadline poll [] (.error .gateTimeout) poll.answered
  | failed {error : RunError} (failed : poll.answer = .error error) :
      Follows step deadline poll [] (.error error) poll.answered

/-- What follows a poll that found the gate shut is the end of the wait. -/
theorem Step.Follows.of_shut {step : Step} {deadline : Option Nat} {poll : Poll}
    {later : List (Nat × Act)} {ended : Except RunError Unit} {now : Nat}
    (follows : step.Follows deadline poll later ended now) (shut : poll.answer = .ok false) :
    now = poll.answered ∧ ∃ time, deadline = some time ∧ time ≤ poll.answered := by
  cases follows with
  | called isOpen =>
    rw [isOpen] at shut
    cases shut
  | timedOut _ given late => exact ⟨rfl, _, given, late⟩
  | failed failed =>
    rw [failed] at shut
    cases shut

namespace Runner

variable {World : Type} {hooks : Hooks World} {polling : Polling} {step : Step} {gate : Condition}
  {run before after : Run World}

/-- What goes wrong at the gate or in the command makes the step fail. -/
theorem performStep_eq (hooks : Hooks World) (polling : Polling) (step : Step) (delayMs : Nat) :
    performStep hooks polling step delayMs =
      (attempt (passGate hooks polling step >>= fun _ => callCommand hooks step) >>= fun ended =>
        pure (step.resultOf delayMs ended)) := by
  funext run
  unfold performStep
  rcases passed : passGate hooks polling step run with ⟨halt | _, middle⟩
  · cases settled : halt.settled? <;> simp [attempt, bind_apply, passed, settled, Step.resultOf]
  · rcases called : callCommand hooks step middle with ⟨halt | _, last⟩
    · cases settled : halt.settled? <;>
        simp [attempt, bind_apply, passed, called, settled, Step.resultOf]
    · simp [attempt, bind_apply, passed, called, Step.resultOf]

/-- A command is called at once. -/
theorem callCommand_follows (hooks : Hooks World) (step : Step) (deadline : Option Nat) {poll : Poll}
    (isOpen : poll.answer = .ok true) (now : run.now = poll.answered) :
    ∃ (answer : Except RunError Unit) (later : List (Nat × Act)),
      (callCommand hooks step run).1 = answer.mapError .failed ∧
      (callCommand hooks step run).2.timed = run.timed ++ later ∧
      step.Follows deadline poll later answer (callCommand hooks step run).2.now := by
  obtain ⟨elapsed, ends, timed, moved⟩ := ask_timed (.commandCalled step.commandId) .commandAnswered id
    (hooks.command step.commandId) run
  refine ⟨_, _, ends, timed, ?_⟩
  rw [now] at moved ⊢
  rw [show (callCommand hooks step run).2.now = poll.answered + elapsed from moved]
  exact .called isOpen elapsed _

/-- Where the wait for a step's gate leads, together with what follows it; `ends` says what becomes of
how that ends. -/
def Attended {α : Type} (hooks : Hooks World) (step : Step) (gate : Condition) (polling : Polling)
    (ends : Except RunError Unit → Except Halt α) (run : Run World) (outcome : Except Halt α)
    (after : Run World) : Prop :=
  ∃ (polls : List Poll) (told : List (Nat × Act)) (next : Nat),
    Poll.Shut hooks step gate polling.intervalMs (step.timeoutMs.map (run.now + ·)) run.now polls told
      next ∧
    ((∃ (poll : Poll) (entries later : List (Nat × Act)) (ended : Except RunError Unit),
        poll.asked = next ∧ poll.Told hooks step gate entries ∧
        step.Follows (step.timeoutMs.map (run.now + ·)) poll later ended after.now ∧
        outcome = ends ended ∧ after.timed = run.timed ++ (told ++ entries ++ later)) ∨
      (outcome = .error .impatient ∧ polls.length = polling.patience ∧ after.timed = run.timed ++ told))

theorem passGate_attended (given : step.gate = some gate) (interval : 0 < polling.intervalMs)
    {outcome : Except Halt Unit}
    (ended : (passGate hooks polling step >>= fun _ => callCommand hooks step) run = (outcome, after))
    (going : outcome ≠ .error (.failed .cancelled)) :
    Attended hooks step gate polling (·.mapError .failed) run outcome after := by
  rcases passed : passGate hooks polling step run with ⟨gone, middle⟩
  have heeded : gone ≠ .error (.failed .cancelled) := by
    rintro rfl
    rw [bind_of_halt passed] at ended
    cases ended
    exact going rfl
  rw [passGate_of_gate given] at passed
  obtain ⟨polls, told, next, shut, ends⟩ := awaitGate_waited interval _ _ passed heeded
  refine ⟨polls, told, next, shut, ?_⟩
  rw [← passGate_of_gate given] at passed
  rcases ends with ⟨poll, entries, decision, asked, tells, decides, rfl, timed, now, _⟩ |
    ⟨rfl, all, timed⟩
  · left
    refine ⟨poll, entries, ?_⟩
    cases decides with
    | opens isOpen =>
      rw [bind_of_ok passed] at ended
      obtain ⟨answer, later, answers, called, follows⟩ := callCommand_follows hooks step
        (step.timeoutMs.map (run.now + ·)) isOpen now
      rw [ended] at answers called follows
      refine ⟨later, answer, asked, tells, follows, answers, ?_⟩
      rw [called, timed, List.append_assoc]
    | late shut given late =>
      rw [bind_of_halt passed] at ended
      cases ended
      refine ⟨[], .error .gateTimeout, asked, tells, ?_, rfl, by rw [timed, List.append_nil]⟩
      rw [now]
      exact .timedOut shut given late
    | @fails error failed =>
      rw [bind_of_halt passed] at ended
      cases ended
      refine ⟨[], .error error, asked, tells, ?_, rfl, by rw [timed, List.append_nil]⟩
      rw [now]
      exact .failed failed
  · right
    rw [bind_of_halt passed] at ended
    cases ended
    exact ⟨rfl, all, timed⟩

theorem performStep_attended (given : step.gate = some gate) (interval : 0 < polling.intervalMs)
    {delayMs : Nat} {outcome : Except Halt StepResult}
    (ended : performStep hooks polling step delayMs run = (outcome, after))
    (going : outcome ≠ .error (.failed .cancelled)) :
    Attended hooks step gate polling (fun ended => .ok (step.resultOf delayMs ended)) run outcome after := by
  rw [performStep_eq] at ended
  rcases attempt_cases (passGate hooks polling step >>= fun _ => callCommand hooks step) run with
    ⟨_, last, went, tried⟩ | ⟨error, last, went, settled, tried⟩ | ⟨halt, last, went, final, tried⟩
  · rw [bind_of_ok tried] at ended
    cases ended
    obtain ⟨polls, told, next, shut, ⟨poll, entries, later, end_, asked, tells, follows, same, timed⟩ |
      ⟨same, _⟩⟩ := passGate_attended given interval went nofun
    · cases end_ <;> cases same
      exact ⟨polls, told, next, shut, .inl ⟨poll, entries, later, _, asked, tells, follows, rfl, timed⟩⟩
    · cases same
  · rw [bind_of_ok tried] at ended
    cases ended
    have other : (Except.error (.failed error) : Except Halt Unit) ≠ .error (.failed .cancelled) := by
      intro same
      cases same
      cases settled
    obtain ⟨polls, told, next, shut, ⟨poll, entries, later, end_, asked, tells, follows, same, timed⟩ |
      ⟨same, _⟩⟩ := passGate_attended given interval went other
    · cases end_ <;> cases same
      exact ⟨polls, told, next, shut, .inl ⟨poll, entries, later, _, asked, tells, follows, rfl, timed⟩⟩
    · cases same
  · rw [bind_of_halt tried] at ended
    cases ended
    have other : (Except.error halt : Except Halt Unit) ≠ .error (.failed .cancelled) := by
      intro same
      cases same
      exact going rfl
    obtain ⟨polls, told, next, shut, ⟨poll, entries, later, end_, asked, tells, follows, same, timed⟩ |
      ⟨same, all, timed⟩⟩ := passGate_attended given interval went other
    · cases end_ <;> cases same
      rcases Halt.settled_eq_none final with same | same
      · cases same
        exact absurd rfl going
      · cases same
    · cases same
      exact ⟨polls, told, next, shut, .inr ⟨rfl, all, timed⟩⟩

/-- A step begins at once, and is performed after its delay. -/
theorem runStep_begins {outcome : Except Halt StepResult}
    (ended : runStep hooks polling step before = (outcome, after))
    (going : outcome ≠ .error (.failed .cancelled)) :
    ∃ run : Run World, run.now = before.now + step.delay (hooks.random before.world).1 ∧
      run.timed = before.timed ++ step.lead before.now (step.delay (hooks.random before.world).1) ∧
      performStep hooks polling step (step.delay (hooks.random before.world).1) run =
        (outcome, after) := by
  cases cancelled : before.cancelled with
  | true =>
    rw [runStep, bind_of_halt (checkCancel_of_cancelled cancelled)] at ended
    cases ended
    exact absurd rfl going
  | false =>
    obtain ⟨world, drawn⟩ := drawDelay_cases hooks step (before.noted (.step step.commandId))
    have delayed : drawDelay hooks step (before.noted (.step step.commandId)) =
        (.ok (step.delay (hooks.random before.world).1),
          { before.noted (.step step.commandId) with world }) := drawn
    generalize step.delay (hooks.random before.world).1 = delayMs at delayed
    rw [runStep, bind_of_ok (checkCancel_of_going cancelled), bind_of_ok (note_apply _ _),
      bind_of_ok delayed] at ended
    have begun : ({ before.noted (.step step.commandId) with world } : Run World).timed =
        before.timed ++ [(before.now, .step step.commandId)] := before.timed_noted _
    by_cases instant : delayMs = 0
    · subst instant
      exact ⟨{ before.noted (.step step.commandId) with world }, rfl, begun, ended⟩
    · rw [if_pos instant] at ended
      rcases slept : pause hooks delayMs { before.noted (.step step.commandId) with world } with
        ⟨rested, run⟩
      have awake : rested ≠ .error (.failed .cancelled) := by
        rintro rfl
        rw [bind_of_halt slept] at ended
        cases ended
        exact going rfl
      obtain ⟨rfl, told, now⟩ := pause_timed instant slept awake
      rw [bind_of_ok slept] at ended
      refine ⟨run, now, ?_, ended⟩
      rw [told, begun, Step.lead, if_neg instant, List.append_assoc]
      rfl

/-- A step behind a gate. Its gate is polled after its delay, and again after each poll that finds it
shut, an interval later or at the deadline if that comes first. At the first poll that finds the gate
open, be it the one at the deadline, the command is called. The step times out only after a poll that
found the gate shut and was answered at the deadline or later. Where answers take no time, polls are
the interval apart, and the step times out at the deadline itself. A run that is not cancelled ends in
no other way, unless nobody waits any longer. -/
theorem runStep_polls (given : step.gate = some gate) (interval : 0 < polling.intervalMs)
    {outcome : Except Halt StepResult} (ended : runStep hooks polling step before = (outcome, after))
    (going : outcome ≠ .error (.failed .cancelled)) :
    let delayMs := step.delay (hooks.random before.world).1
    let began := before.now + delayMs
    let deadline := step.timeoutMs.map (began + ·)
    ∃ (polls : List Poll) (told : List (Nat × Act)) (next : Nat),
      Poll.Shut hooks step gate polling.intervalMs deadline began polls told next ∧
      (∀ timeout ∈ step.timeoutMs, polls.length ≤ timeout ⌈/⌉ polling.intervalMs) ∧
      ((∀ poll ∈ polls, poll.elapsed = 0) →
        polls.map Poll.asked ++ [next] = (List.range (polls.length + 1)).map
          (Poll.timeOf began polling.intervalMs step.timeoutMs)) ∧
      ((∃ (poll : Poll) (entries later : List (Nat × Act)) (end_ : Except RunError Unit),
          poll.asked = next ∧ poll.Told hooks step gate entries ∧
          step.Follows deadline poll later end_ after.now ∧
          outcome = .ok (step.resultOf delayMs end_) ∧
          after.timed = before.timed ++ step.lead before.now delayMs ++ (told ++ entries ++ later) ∧
          ∀ timeout ∈ step.timeoutMs, poll.answer = .ok false →
            (∀ other ∈ poll :: polls, other.elapsed = 0) →
              polls.length = timeout ⌈/⌉ polling.intervalMs ∧ after.now = began + timeout) ∨
        (outcome = .error .impatient ∧ polls.length = polling.patience ∧
          after.timed = before.timed ++ step.lead before.now delayMs ++ told)) := by
  intro delayMs began deadline
  obtain ⟨run, now, begun, performed⟩ := runStep_begins ended going
  obtain ⟨polls, told, next, shut, ends⟩ := performStep_attended given interval performed going
  rw [now] at shut ends
  rw [begun] at ends
  have few (timeout : Nat) (timed : timeout ∈ step.timeoutMs) :
      polls.length ≤ timeout ⌈/⌉ polling.intervalMs := by
    rw [show step.timeoutMs = some timeout from timed] at shut
    exact shut.length_le interval
  refine ⟨polls, told, next, shut, few, ?_, ?_⟩
  · intro prompt
    have times := shut.asked_eq prompt
    have relative : (step.timeoutMs.map (began + ·)).map (· - began) = step.timeoutMs := by
      cases step.timeoutMs <;> simp
    rwa [relative] at times
  · rcases ends with ⟨poll, entries, later, end_, asked, tells, follows, same, timed⟩ | ⟨same, all, timed⟩
    · refine .inl ⟨poll, entries, later, end_, asked, tells, follows, same, timed, ?_⟩
      intro timeout limited unopened prompt
      obtain ⟨at_once, others⟩ := List.forall_mem_cons.1 prompt
      have limit : step.timeoutMs = some timeout := limited
      have answered : poll.answered = next := by rw [Poll.answered, at_once, asked, Nat.add_zero]
      obtain ⟨last, time, given, late⟩ := follows.of_shut unopened
      rw [limit] at shut given
      cases given
      rw [last, answered]
      exact shut.late interval others (answered ▸ late)
    · exact .inr ⟨same, all, timed⟩

/-- A world that is its own clock, in which gates open at some time. -/
def openingAt (ms : Nat) : Hooks Nat where
  command _ now := { answer := .ok (), world := now }
  gate := some fun _ now => { answer := .ok (ms ≤ now), world := now }
  rest ms now := { world := now + ms }
  random now := (0, now)

/-- A step that waits at a door for a quarter of a second. -/
def entering : Step :=
  { commandId := "enter", gate := some { source := .image, targetId := "door" }, timeoutMs := some 250 }

/-- The door opens at the deadline, which is not too late. -/
theorem runStep_polls_entering :
    let after := (runStep (openingAt 250) { patience := 5 } entering { world := 0 }).2
    (after.timed.filterMap fun entry => entry.2.called?.map (entry.1, ·)) = [(250, "enter")] ∧
    ∃ (polls : List Poll) (told : List (Nat × Act)) (next : Nat),
      Poll.Shut (openingAt 250) entering { source := .image, targetId := "door" } 100 (some 250) 0 polls
        told next ∧ polls.length ≤ 3 := by
  have ends : (runStep (openingAt 250) { patience := 5 } entering { world := 0 }).1.isOk = true := by
    decide +kernel
  have calls : ((runStep (openingAt 250) { patience := 5 } entering { world := 0 }).2.timed.filterMap
      fun entry => entry.2.called?.map (entry.1, ·)) = [(250, "enter")] := by decide +kernel
  rcases ended : runStep (openingAt 250) { patience := 5 } entering { world := 0 } with
    ⟨halt | result, after⟩
  · rw [ended] at ends
    cases ends
  · rw [ended] at calls
    obtain ⟨polls, told, next, shut, few, _⟩ := runStep_polls rfl (by decide) ended nofun
    exact ⟨calls, polls, told, next, shut, few 250 rfl⟩

end Runner

end Autopilot
