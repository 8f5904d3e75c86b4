import Autopilot.Proofs.Sequence.Cancellation
import Autopilot.Proofs.Sequence.Invariant
import Autopilot.Proofs.Sequence.Outcome
import Autopilot.Proofs.Sorting

/-!
What was tried, told by the journal. An attempt of a step begins, waits, and then calls
the command of the step, unless the last answer about its gate refuses it. Attempts
follow one another, with nothing between them that concerns a step, and each leaves
one result: the results of a run are those of its attempts, in the same order.
-/

namespace Autopilot

/-- The command that is called. -/
def Act.called? : Act → Option String
  | .commandCalled commandId => some commandId
  | _ => none

/-- An answer that does not open a gate. -/
def Act.refuses : Act → Bool
  | .gateAnswered (.ok true) | .conditionAnswered (.ok true) => false
  | .gateAnswered _ | .conditionAnswered _ => true
  | _ => false

/-- Acts that are not part of an attempt, or only of its waiting. -/
def Act.isAside : Act → Bool
  | .step _ | .commandCalled _ | .commandAnswered _ => false
  | _ => true

theorem Act.isAside_of_isIncidental {act : Act} (incidental : act.isIncidental = true) :
    act.isAside = true := by
  cases act <;> first | rfl | cases incidental

theorem Act.isIncidental_of_isWaiting {act : Act} (waits : act.isWaiting = true) :
    act.isIncidental = true := by
  cases act <;> first | rfl | cases waits

theorem Act.called?_of_isAside {act : Act} (aside : act.isAside = true) : act.called? = none := by
  cases act <;> first | rfl | cases aside

/-- How an answer about its gate makes a step fail: the answer is an error, or the gate is
still shut and its time is up. -/
inductive Step.Refused (step : Step) : Act → RunError → Prop where
  | decider (error : RunError) : Refused step (.gateAnswered (.error error)) error
  | evaluator (error : ConditionError) :
      Refused step (.conditionAnswered (.error error)) (.ofCondition error)
  | shut (timed : step.timeoutMs.isSome) : Refused step (.gateAnswered (.ok false)) .gateTimeout
  | unmet (timed : step.timeoutMs.isSome) :
      Refused step (.conditionAnswered (.ok false)) .gateTimeout

theorem Step.Refused.refuses {step : Step} {answered : Act} {error : RunError}
    (refused : step.Refused answered error) : answered.refuses = true := by
  cases refused <;> rfl

/-- Whether what a step waited for ends with a refusal. -/
def endsRefused (waits : List Act) : Bool := waits.getLast?.any Act.refuses

/-- How an attempt of a step ends after its waiting, with the answer of the command, if it
was called, and the result. -/
inductive Step.Ends (step : Step) (delayMs : Nat) (waits : List Act) :
    Option (Except RunError Unit) → StepResult → Prop where
  | refused {answered : Act} {error : RunError} (last : waits.getLast? = some answered)
      (refused : step.Refused answered error) :
      Ends step delayMs waits none
        { commandId := step.commandId, order := step.order, status := .failed, delayMs,
          error := some error.message }
  | failed (error : RunError) (passed : endsRefused waits = false) :
      Ends step delayMs waits (some (.error error))
        { commandId := step.commandId, order := step.order, status := .failed, delayMs,
          error := some error.message }
  | succeeded (passed : endsRefused waits = false) :
      Ends step delayMs waits (some (.ok ()))
        { commandId := step.commandId, order := step.order, status := .succeeded, delayMs }

namespace Step.Ends

variable {step : Step} {delayMs : Nat} {waits : List Act} {answer : Option (Except RunError Unit)}
  {result : StepResult} (ends : step.Ends delayMs waits answer result)

include ends

theorem commandId_eq : result.commandId = step.commandId := by
  cases ends <;> rfl

theorem order_eq : result.order = step.order := by
  cases ends <;> rfl

/-- The command is called unless the gate refused the step. -/
theorem isSome_eq : answer.isSome = !endsRefused waits := by
  cases ends with
  | refused last refused =>
    simp only [endsRefused, last, Option.any_some, refused.refuses, Option.isSome_none, Bool.not_true]
  | failed error passed => rw [passed, Option.isSome_some, Bool.not_false]
  | succeeded passed => rw [passed, Option.isSome_some, Bool.not_false]

theorem succeeded_iff : result.status = .succeeded ↔ answer = some (.ok ()) := by
  cases ends <;> simp

end Step.Ends

/-- The acts of a command call that was answered. -/
def Step.calls (step : Step) : Option (Except RunError Unit) → List Act
  | none => []
  | some answer => [.commandCalled step.commandId, .commandAnswered answer]

/-- An attempt of a step: what happened since the one before it, what the step waited for,
what its command answered, and its result. -/
structure Attempt where
  lead : List Act
  step : Step
  waits : List Act
  answer : Option (Except RunError Unit)
  result : StepResult
  aside : ∀ act ∈ lead, act.isAside = true
  waiting : ∀ act ∈ waits, act.isWaiting = true
  ends : step.Ends result.delayMs waits answer result

namespace Attempt

/-- What the journal tells of an attempt. -/
def acts (attempt : Attempt) : List Act :=
  attempt.lead ++ .step attempt.step.commandId :: (attempt.waits ++ attempt.step.calls attempt.answer)

/-- Whether the last answer before the end of the attempt refused it at its gate. -/
def failedAtGate (attempt : Attempt) : Bool := endsRefused attempt.waits

/-- An attempt calls the command of its result, unless it failed at its gate. -/
theorem called (attempt : Attempt) :
    attempt.acts.filterMap Act.called? =
      if attempt.failedAtGate then [] else [attempt.result.commandId] := by
  have lead : attempt.lead.filterMap Act.called? = [] :=
    List.filterMap_eq_nil_iff.2 fun act member => Act.called?_of_isAside (attempt.aside act member)
  have waits : attempt.waits.filterMap Act.called? = [] := by
    apply List.filterMap_eq_nil_iff.2
    intro act member
    have incidental := Act.isIncidental_of_isWaiting (attempt.waiting act member)
    exact Act.called?_of_isAside (Act.isAside_of_isIncidental incidental)
  have calls : (attempt.step.calls attempt.answer).filterMap Act.called? =
      if attempt.answer.isSome then [attempt.step.commandId] else [] := by
    cases attempt.answer <;> rfl
  rw [attempt.ends.isSome_eq] at calls
  simp only [acts, List.filterMap_append, List.filterMap_cons, lead, waits, calls, Act.called?,
    failedAtGate, attempt.ends.commandId_eq, List.nil_append]
  cases endsRefused attempt.waits <;> rfl

end Attempt

namespace Run

variable {World α : Type}

/-- Since some earlier acts, the run waited. -/
structure Waited (earlier waits : List Act) (run : Run World) : Prop where
  acts : run.acts = earlier ++ waits
  waiting : ∀ act ∈ waits, act.isWaiting = true

/-- Since some earlier acts, the run waited, and no refusal came last. -/
def Passing (earlier : List Act) (run : Run World) : Prop :=
  ∃ waits, run.Waited earlier waits ∧ endsRefused waits = false

/-- The attempts that were made in a run, and what happened after the last of them. -/
structure Attempted (attempts : List Attempt) (tail : List Act) (run : Run World) : Prop where
  steps : run.steps.toList = attempts.map (·.result)
  acts : run.acts = attempts.flatMap (·.acts) ++ tail
  aside : ∀ act ∈ tail, act.isAside = true

variable {run : Run World} {earlier waits : List Act}

theorem Waited.consulted (waited : run.Waited earlier waits) {asked answered : Act}
    (asks : asked.isWaiting = true) (answers : answered.isWaiting = true) (reply : Reply World α) :
    (run.consulted asked reply answered).Waited earlier (waits ++ [asked] ++ [answered]) := by
  constructor
  · simp only [Run.consulted, Run.acts_noted, Run.acts_replied, waited.acts, List.append_assoc]
  · simp only [List.forall_mem_append, List.forall_mem_singleton]
    exact ⟨⟨waited.waiting, asks⟩, answers⟩

theorem Attempted.noted {attempts : List Attempt} {tail : List Act}
    (attempted : run.Attempted attempts tail) {act : Act} (aside : act.isAside = true) :
    (run.noted act).Attempted attempts (tail ++ [act]) := by
  refine ⟨attempted.steps, ?_, ?_⟩
  · rw [Run.acts_noted, attempted.acts, List.append_assoc]
  · rw [List.forall_mem_append, List.forall_mem_singleton]
    exact ⟨attempted.aside, aside⟩

/-- The commands that were called are those of the results, without the steps that failed
at their gates. -/
theorem Attempted.called {attempts : List Attempt} {tail : List Act}
    (attempted : run.Attempted attempts tail) :
    run.acts.filterMap Act.called? =
      (attempts.filter (!·.failedAtGate)).map (·.result.commandId) := by
  have after : tail.filterMap Act.called? = [] :=
    List.filterMap_eq_nil_iff.2 fun act member => Act.called?_of_isAside (attempted.aside act member)
  rw [attempted.acts, List.filterMap_append, after, List.append_nil]
  clear attempted after
  induction attempts with
  | nil => rfl
  | cons attempt rest ih =>
    rw [List.flatMap_cons, List.filterMap_append, ih, attempt.called]
    cases failed : attempt.failedAtGate <;> simp [failed]

end Run

namespace Runner

open Run

variable {World α : Type} {hooks : Hooks World} {polling : Polling} {step : Step}
  {earlier : List Act}

/-! ## Steps -/

/-- Halting for good, or with an error that an answer about a gate explains. -/
def RefusedAt (step : Step) (earlier : List Act) (halt : Halt) (run : Run World) : Prop :=
  ∀ error, halt.settled? = some error →
    ∃ waits answered, run.Waited earlier (waits ++ [answered]) ∧ step.Refused answered error

theorem RefusedAt.of_final {halt : Halt} (final : halt.settled? = none) (run : Run World) :
    RefusedAt step earlier halt run := by
  intro error settled
  rw [final] at settled
  cases settled

theorem RefusedAt.of_error {error : RunError} {run : Run World} {waits : List Act} {answered : Act}
    (waited : run.Waited earlier (waits ++ [answered])) (refused : step.Refused answered error) :
    RefusedAt step earlier (.failed error) run := by
  intro other settled
  rw [← Halt.settled_eq_some settled]
  exact ⟨waits, answered, waited, refused⟩

/-- What waits, and only halts for good. -/
theorem Waits.leads {part : Runner World α} (waits : Waits part) (settled : Settled part) :
    Leads (fun run => ∃ waits, run.Waited earlier waits) part
      (fun _ run => ∃ waits, run.Waited earlier waits) (RefusedAt step earlier) := by
  intro run ⟨before, waited⟩
  obtain ⟨more, acts, waiting⟩ := waits run
  rcases ended : part run with ⟨halt | value, after⟩
  · exact .of_final (settled run after halt ended) after
  · rw [ended] at acts
    refine ⟨before ++ more, by rw [acts, waited.acts, List.append_assoc], ?_⟩
    exact List.forall_mem_append.2 ⟨waited.waiting, waiting⟩

/-- If anybody decides on the gate, the last answer tells whether it is open. -/
theorem gateOpen_answers (decided : hooks.gate.isSome ∨ hooks.condition.isSome) (gate : Condition) :
    Leads (fun run => ∃ waits, run.Waited earlier waits) (gateOpen hooks step gate)
      (fun isOpen run => ∃ waits answered, run.Waited earlier (waits ++ [answered]) ∧
        answered.refuses = (!isOpen) ∧
        (isOpen = false → step.timeoutMs.isSome → step.Refused answered .gateTimeout))
      (RefusedAt step earlier) := by
  cases decides : hooks.gate with
  | some decide =>
    rw [gateOpen_of_decider step gate decides]
    apply ask_leads
    · intro run isOpen ⟨waits, waited⟩ _
      refine ⟨_, _, waited.consulted rfl rfl _, by cases isOpen <;> rfl, ?_⟩
      rintro rfl timed
      exact .shut timed
    · intro run error ⟨waits, waited⟩ _
      exact .of_error (waited.consulted rfl rfl _) (.decider error)
  | none =>
    cases evaluates : hooks.condition with
    | some evaluator =>
      rw [gateOpen_of_evaluator step gate decides evaluates]
      apply ask_leads
      · intro run isOpen ⟨waits, waited⟩ _
        refine ⟨_, _, waited.consulted rfl rfl _, by cases isOpen <;> rfl, ?_⟩
        rintro rfl timed
        exact .unmet timed
      · intro run error ⟨waits, waited⟩ _
        exact .of_error (waited.consulted rfl rfl _) (.evaluator error)
    | none => simp [decides, evaluates] at decided

/-- A gate that somebody decides on is left after an answer that opens it, by induction on
how often it is still polled. -/
theorem awaitGate_answers (decided : hooks.gate.isSome ∨ hooks.condition.isSome)
    (gate : Condition) {deadline : Option Nat} (timed : deadline.isSome → step.timeoutMs.isSome)
    (patience : Nat) :
    Leads (fun run => ∃ waits, run.Waited earlier waits)
      (awaitGate hooks polling step gate deadline patience)
      (fun _ => Passing earlier) (RefusedAt step earlier) := by
  induction patience with
  | zero =>
    intro run _
    rcases awaitGate_zero hooks polling step gate deadline run with ⟨_, same⟩ | ⟨_, same⟩
    all_goals rw [same]
    all_goals exact .of_final rfl run
  | succ patience ih =>
    have checked : Waits (checkCancel : Runner World Unit) :=
      .of_same fun run => congrArg Run.acts (checkCancel_same run)
    apply (checked.leads checkCancel_settled).bind
    intro _
    apply (gateOpen_answers decided gate).bind
    intro isOpen
    cases isOpen with
    | true =>
      intro run ⟨waits, answered, waited, opens, _⟩
      refine ⟨waits ++ [answered], waited, ?_⟩
      simpa only [endsRefused, List.getLast?_concat, Option.any_some, Bool.not_true] using opens
    | false =>
      have rested : Leads (fun run : Run World => ∃ waits answered,
          run.Waited earlier (waits ++ [answered]) ∧ answered.refuses = (!false) ∧
          (false = false → step.timeoutMs.isSome → step.Refused answered .gateTimeout))
          (untilNextPoll polling deadline) (fun _ run => ∃ waits, run.Waited earlier waits)
          (RefusedAt step earlier) := by
        intro run ⟨waits, answered, waited, _, refused⟩
        rw [untilNextPoll_apply]
        cases deadline with
        | none => exact ⟨_, waited⟩
        | some deadline =>
          by_cases late : deadline ≤ run.now
          · simp only [if_pos late]
            exact .of_error waited (refused rfl (timed rfl))
          · simp only [if_neg late]
            exact ⟨_, waited⟩
      apply rested.bind
      intro ms
      exact ((pause_waits ms).leads (pause_settled ms)).bind fun _ => ih

/-- The gate of a step is passed, or an answer refuses the step. -/
theorem passGate_answers :
    Leads (Passing earlier) (passGate hooks polling step) (fun _ => Passing earlier)
      (RefusedAt step earlier) := by
  intro run passing
  cases given : step.gate with
  | none =>
    unfold passGate
    rw [given]
    exact passing
  | some gate =>
    rw [passGate_of_gate given]
    by_cases decided : hooks.gate.isSome ∨ hooks.condition.isSome
    · have timed : (step.timeoutMs.map (run.now + ·)).isSome → step.timeoutMs.isSome := by simp
      obtain ⟨waits, waited, _⟩ := passing
      exact awaitGate_answers decided gate timed polling.patience run ⟨waits, waited⟩
    · have undecided : hooks.gate = none ∧ hooks.condition = none := by simpa using decided
      have opened : gateOpen hooks step gate = pure true :=
        gateOpen_of_nobody step gate undecided.1 undecided.2
      cases polling.patience with
      | zero =>
        rcases awaitGate_zero hooks polling step gate (step.timeoutMs.map (run.now + ·)) run with
          ⟨_, same⟩ | ⟨_, same⟩
        all_goals rw [same]
        all_goals exact .of_final rfl run
      | succ patience =>
        have checked : Leads (Passing earlier) checkCancel
            (fun _ (run : Run World) => Passing earlier run ∧ run.cancelled = false)
            (RefusedAt step earlier) := checkCancel_going fun run _ _ => .of_final rfl run
        unfold awaitGate
        rw [opened]
        exact (checked.bind fun _ run going => going.1) run passing

/-- The command of a step is called, with some answer, after its gate was passed. -/
def CalledAfter (step : Step) (earlier : List Act) (answer : Except RunError Unit) (run : Run World) :
    Prop :=
  ∃ waits, run.acts = earlier ++ waits ++ step.calls (some answer) ∧
    (∀ act ∈ waits, act.isWaiting = true) ∧ endsRefused waits = false

theorem callCommand_answers :
    Leads (Passing earlier) (callCommand hooks step) (fun _ => CalledAfter step earlier (.ok ()))
      (fun halt run => ∀ error, halt.settled? = some error →
        CalledAfter step earlier (.error error) run) := by
  have after {run : Run World} {waits : List Act} (waited : run.Waited earlier waits)
      (passed : endsRefused waits = false) (reply : Reply World (Except RunError Unit))
      (answer : Except RunError Unit) : CalledAfter step earlier answer
        (run.consulted (.commandCalled step.commandId) reply (.commandAnswered answer)) := by
    refine ⟨waits, ?_, waited.waiting, passed⟩
    simp only [Run.consulted, Run.acts_noted, Run.acts_replied, waited.acts, Step.calls,
      List.append_assoc, List.singleton_append]
  apply ask_leads
  · intro run value ⟨waits, waited, passed⟩ _
    exact after waited passed _ _
  · intro run error ⟨waits, waited, passed⟩ _ other settled
    rw [← Halt.settled_eq_some settled]
    exact after waited passed _ _

/-- What a step leaves in the journal when it ends: what it waited for and, unless it was
refused, the call of its command. -/
def EndedAfter (step : Step) (earlier : List Act) (result : StepResult) (run : Run World) : Prop :=
  ∃ waits answer, step.Ends result.delayMs waits answer result ∧
    run.acts = earlier ++ waits ++ step.calls answer ∧ ∀ act ∈ waits, act.isWaiting = true

theorem performStep_attempt (delayMs : Nat) :
    Leads (Passing earlier) (performStep hooks polling step delayMs) (EndedAfter step earlier)
      (fun _ _ => True) := by
  apply (passGate_answers.attempt.weaken (fun _ waited => waited)
    (fun _ _ told => told) fun _ _ _ => trivial).bind
  intro passed
  cases passed with
  | error error =>
    intro run ⟨settled, refused⟩
    obtain ⟨waits, answered, waited, refused⟩ := refused error settled
    refine ⟨waits ++ [answered], none, .refused List.getLast?_concat refused, ?_, waited.waiting⟩
    rw [waited.acts, Step.calls, List.append_nil]
  | ok _ =>
    apply (callCommand_answers.attempt.weaken (fun _ waited => waited)
      (fun _ _ told => told) fun _ _ _ => trivial).bind
    intro called
    cases called with
    | error error =>
      intro run ⟨settled, called⟩
      obtain ⟨waits, acts, waiting, passed⟩ := called error settled
      exact ⟨waits, some (.error error), .failed error passed, acts, waiting⟩
    | ok _ =>
      intro run ⟨waits, acts, waiting, passed⟩
      exact ⟨waits, some (.ok ()), .succeeded passed, acts, waiting⟩

/-- A delay that is slept out is no refusal. -/
theorem pause_passing (ms : Nat) :
    Leads (Passing earlier) (pause hooks ms) (fun _ => Passing earlier) (fun _ _ => True) := by
  intro run ⟨waits, waited, passing⟩
  rcases pause_cases hooks ms run with ⟨_, same⟩ | ⟨_, _, same⟩ | ⟨_, _, _, same⟩ | ⟨_, _, same⟩
  all_goals rw [same]
  · trivial
  · exact ⟨waits, waited, passing⟩
  · trivial
  · refine ⟨waits ++ [.slept ms], ⟨?_, ?_⟩, ?_⟩
    · rw [Run.acts_noted, ← List.append_assoc, ← waited.acts]
      rfl
    · rw [List.forall_mem_append, List.forall_mem_singleton]
      exact ⟨waited.waiting, rfl⟩
    · simp [endsRefused, Act.refuses]

/-- A step begins, sleeps out its delay, and goes on to its gate. -/
theorem runStep_attempt :
    Leads (fun run => run.acts = earlier) (runStep hooks polling step)
      (EndedAfter step (earlier ++ [.step step.commandId])) (fun _ _ => True) := by
  have slept (ms : Nat) : Leads (Passing (earlier ++ [.step step.commandId])) (pause hooks ms)
      (fun _ => Passing (earlier ++ [.step step.commandId])) (fun _ _ => True) := pause_passing ms
  apply runStep_leads_of (fun _ _ _ => trivial) _ _ slept performStep_attempt
  · intro run acts _
    refine ⟨[], ⟨?_, List.forall_mem_nil _⟩, rfl⟩
    rw [Run.acts_noted, acts, List.append_nil]
  · intro run world ⟨waits, waited, passing⟩
    exact ⟨waits, ⟨waited.acts, waited.waiting⟩, passing⟩

/-- A step that ends adds an attempt, and reports its result. -/
theorem runStep_attempted {attempts : List Attempt} {tail : List Act} :
    Leads (Attempted attempts tail) (runStep hooks polling step)
      (fun result run => ∃ attempt : Attempt, attempt.lead = tail ∧ attempt.step = step ∧
        attempt.result = result ∧ (run.reported result).Attempted (attempts ++ [attempt]) [])
      (Halting (fun _ => False) fun _ _ => True) := by
  intro run attempted
  rcases ended : runStep hooks polling step run with ⟨halt | result, after⟩
  · exact .of_cut (runStep_settled hooks polling step _ _ _ ended) trivial
  · obtain ⟨waits, answer, ends, acts, waiting⟩ := runStep_attempt.ended attempted.acts ended
    refine ⟨⟨tail, step, waits, answer, result, attempted.aside, waiting, ends⟩, rfl, rfl, rfl,
      ?_, ?_, List.forall_mem_nil _⟩
    · have same := (runStep_ended ended).1.steps
      simp only [Run.reported, Array.toList_push, same, attempted.steps, List.map_append,
        List.map_cons, List.map_nil]
    · show after.acts = _
      rw [acts]
      simp [Attempt.acts]

/-! ## Blocks -/

/-- Some attempts were made after the given ones, all of them of steps that may run. -/
def AttemptedSince (mayRun : Step → Prop) (attempts : List Attempt) (run : Run World) : Prop :=
  ∃ later tail, run.Attempted (attempts ++ later) tail ∧ ∀ attempt ∈ later, mayRun attempt.step

variable {mayRun : Step → Prop} {attempts : List Attempt}

theorem AttemptedSince.lasting :
    Lasting fun run : Run World => AttemptedSince mayRun attempts run where
  loose _ _ _ _ _ _ := fun ⟨later, _, attempted, runs⟩ =>
    ⟨later, _, ⟨attempted.steps, attempted.acts, attempted.aside⟩, runs⟩
  noted _ _ incidental := fun ⟨later, _, attempted, runs⟩ =>
    ⟨later, _, attempted.noted (Act.isAside_of_isIncidental incidental), runs⟩

theorem runStep_attemptedSince (runs : mayRun step) :
    Leads (AttemptedSince mayRun attempts) (runStep hooks polling step)
      (fun result run => AttemptedSince mayRun attempts (run.reported result))
      (Halting (AttemptedSince mayRun attempts) fun _ _ => True) := by
  intro run ⟨later, tail, attempted, ran⟩
  rcases ended : runStep hooks polling step run with ⟨halt | result, after⟩
  · exact .of_cut (runStep_settled hooks polling step _ _ _ ended) trivial
  · obtain ⟨attempt, _, same, _, attempted⟩ := runStep_attempted.ended attempted ended
    rw [← same] at runs
    refine ⟨later ++ [attempt], [], by rwa [← List.append_assoc], ?_⟩
    exact List.forall_mem_append.2 ⟨ran, List.forall_mem_singleton.2 runs⟩

theorem runBlocks_attemptedSince {records : List Datum}
    (runs : ∀ record ∈ records, ∀ step, Block.Holds record step → mayRun step) :
    Keeps (AttemptedSince mayRun attempts) (fun _ _ => True) (runBlocks hooks polling records) := by
  apply runBlocks_keeps (fun _ _ _ => trivial)
  · intro run ⟨later, tail, attempted, ran⟩ _
    exact ⟨later, _, attempted.noted rfl, ran⟩
  · intro record member
    apply AttemptedSince.lasting.runBlock_keeps
    intro step held
    exact runStep_attemptedSince (runs record member step held)

/-! ## Steps at the top -/

/-- The attempts of steps that were made one after the other: of all, and none failed, or
of all up to the first that failed. -/
structure Prefix (steps : List Step) (attempts : List Attempt) (failure : Option (Option String)) :
    Prop where
  taken : attempts.map (·.step) = steps.take attempts.length
  leads : ∀ attempt ∈ attempts, attempt.lead = []
  whole : failure = none → attempts.length = steps.length ∧
    ∀ attempt ∈ attempts, attempt.result.isFailed = false
  stopped : failure.isSome → ∃ earlier last, attempts = earlier ++ [last] ∧
    last.result.isFailed = true ∧ ∀ attempt ∈ earlier, attempt.result.isFailed = false

theorem runSteps_attempted {steps : List Step} {run after : Run World}
    {failure : Option (Option String)} (attempted : run.Attempted attempts [])
    (ended : runSteps hooks polling steps run = (.ok failure, after)) :
    ∃ more, after.Attempted (attempts ++ more) [] ∧ Prefix steps more failure := by
  induction steps generalizing run attempts with
  | nil =>
    cases ended
    refine ⟨[], by rwa [List.append_nil], rfl, List.forall_mem_nil _,
      fun _ => ⟨rfl, List.forall_mem_nil _⟩, ?_⟩
    intro failed
    cases failed
  | cons step rest ih =>
    obtain ⟨result, middle, began, ended⟩ := parts_of_ok ended
    obtain ⟨attempt, lead, same, rfl, attempted⟩ := runStep_attempted.ended attempted began
    have reported : (report attempt.result : Runner World Unit) middle =
        (.ok (), middle.reported attempt.result) := rfl
    rw [bind_of_ok reported] at ended
    cases failed : attempt.result.isFailed with
    | true =>
      rw [failed] at ended
      cases ended
      refine ⟨[attempt], attempted, ?_, ?_, nofun, fun _ => ⟨[], attempt, rfl, failed, List.forall_mem_nil _⟩⟩
      · simp [same]
      · simp [lead]
    | false =>
      rw [failed] at ended
      obtain ⟨more, attempted, known⟩ := ih attempted ended
      refine ⟨attempt :: more, by rwa [List.append_cons], ?_, ?_, ?_, ?_⟩
      · simp [same, known.taken]
      · simpa [lead] using known.leads
      · intro passed
        obtain ⟨length, fine⟩ := known.whole passed
        simpa [length, failed] using fine
      · intro stopped
        obtain ⟨earlier, last, rfl, isFailed, fine⟩ := known.stopped stopped
        refine ⟨attempt :: earlier, last, rfl, isFailed, ?_⟩
        simpa [failed] using fine

end Runner

namespace Sequence

open Runner

variable {World : Type}

/-- The steps at the top in the order in which they run: ascending, and as they are
declared where their order is the same. -/
theorem orderedSteps_arranged (sequence : Sequence) :
    (sequence.orderedSteps.Pairwise fun a b => a.order ≤ b.order) ∧
      ∀ order : Int, (sequence.orderedSteps.filter fun step => step.order = order) =
        sequence.steps.filter fun step => step.order = order :=
  ⟨pairwise_mergeSort_order Step.order sequence.steps,
    filter_mergeSort_order Step.order sequence.steps⟩

/-- The attempts of a run that ended account for its journal and for its results: one
result for each, in the same order, and a call of its command unless it failed at its
gate. The first are those of the steps at the top, all of them or up to the first that
failed, after which there is nothing else. -/
theorem execute_attempts (sequence : Sequence) (hooks : Hooks World) (polling : Polling)
    (epoch : Instant) (world : World) (now : Nat) (cancelled : Bool) {result : RunResult}
    {run : Run World}
    (ended : sequence.execute hooks polling epoch { world, now, cancelled } = (.ok result, run)) :
    ∃ (flat nested : List Attempt) (tail : List Act),
      result.steps = (flat ++ nested).map (·.result) ∧
      run.acts = (flat ++ nested).flatMap (·.acts) ++ tail ∧
      run.acts.filterMap Act.called? =
        ((flat ++ nested).filter (!·.failedAtGate)).map (·.result.commandId) ∧
      (∀ attempt ∈ flat ++ nested, attempt.result.commandId = attempt.step.commandId ∧
        attempt.result.order = attempt.step.order ∧
        (attempt.result.status = .succeeded ↔ attempt.answer = some (.ok ()))) ∧
      (∀ attempt ∈ nested, ∃ block ∈ sequence.blocks, Block.Holds (.ofJson block) attempt.step) ∧
      flat.map (·.step) = sequence.orderedSteps.take flat.length ∧
      (sequence.orderedSteps.Pairwise fun a b => a.order ≤ b.order) ∧
      (∀ order : Int, (sequence.orderedSteps.filter fun step => step.order = order) =
        sequence.steps.filter fun step => step.order = order) ∧
      ((flat.length = sequence.steps.length ∧ ∀ attempt ∈ flat, attempt.result.isFailed = false) ∨
        ∃ earlier last, flat = earlier ++ [last] ∧ last.result.isFailed = true ∧
          (∀ attempt ∈ earlier, attempt.result.isFailed = false) ∧ nested = [] ∧
          result.blocks = []) := by
  have fresh : ({ world, now, cancelled } : Run World).Attempted [] [] :=
    ⟨rfl, rfl, List.forall_mem_nil _⟩
  have clean : ({ world, now, cancelled } : Run World).Clean := ⟨nofun, nofun⟩
  have told (attempts : List Attempt) (attempt : Attempt) (_ : attempt ∈ attempts) :
      attempt.result.commandId = attempt.step.commandId ∧
        attempt.result.order = attempt.step.order ∧
        (attempt.result.status = .succeeded ↔ attempt.answer = some (.ok ())) :=
    ⟨attempt.ends.commandId_eq, attempt.ends.order_eq, attempt.ends.succeeded_iff⟩
  obtain ⟨ascending, stable⟩ := sequence.orderedSteps_arranged
  obtain ⟨failure, parts, rfl⟩ := execute_ended ended
  obtain ⟨stopped, middle, steps, parts⟩ := parts_of_ok parts
  obtain ⟨flat, attempted, known⟩ := runSteps_attempted fresh steps
  cases stopped with
  | some error =>
    cases parts
    obtain ⟨earlier, last, same, failed, fine⟩ := known.stopped rfl
    have none : run.blocks.toList = [] := congrArg Array.toList (runSteps_ended steps clean).1
    refine ⟨flat, [], [], ?_, ?_, ?_, told _, List.forall_mem_nil _, known.taken, ascending, stable,
      .inr ⟨earlier, last, same, failed, fine, rfl, none⟩⟩
    all_goals rw [List.append_nil flat]
    · exact attempted.steps
    · exact attempted.acts
    · exact attempted.called
  | none =>
    obtain ⟨length, fine⟩ := known.whole rfl
    have runs : ∀ record ∈ sequence.blocks.map Datum.ofJson, ∀ step, Block.Holds record step →
        ∃ block ∈ sequence.blocks, Block.Holds (.ofJson block) step := by
      intro record member step held
      obtain ⟨block, listed, rfl⟩ := List.mem_map.1 member
      exact ⟨block, listed, held⟩
    have since : AttemptedSince (fun step => ∃ block ∈ sequence.blocks,
        Block.Holds (.ofJson block) step) flat middle :=
      ⟨[], [], by rwa [List.append_nil], List.forall_mem_nil _⟩
    obtain ⟨nested, tail, attempted, held⟩ := (runBlocks_attemptedSince runs).ended since parts
    exact ⟨flat, nested, tail, attempted.steps, attempted.acts, attempted.called, told _, held,
      known.taken, ascending, stable, .inl ⟨length.trans sequence.length_orderedSteps, fine⟩⟩

/-- The refused command was called, and its step failed in its block. -/
theorem execute_attempts_stumbling :
    ∃ result run, stumbling.execute (refusing "locked") { patience := 1 } ⟨0, 0⟩ { world := () } =
        (.ok result, run) ∧
      ∃ flat nested : List Attempt, result.steps = (flat ++ nested).map (·.result) ∧
        run.acts.filterMap Act.called? =
          ((flat ++ nested).filter (!·.failedAtGate)).map (·.result.commandId) := by
  have ends : (stumbling.execute (refusing "locked") { patience := 1 } ⟨0, 0⟩
      { world := () }).1.isOk = true := by decide +kernel
  rcases ended : stumbling.execute (refusing "locked") { patience := 1 } ⟨0, 0⟩ { world := () } with
    ⟨halt | result, run⟩
  · rw [ended] at ends
    cases ends
  · obtain ⟨flat, nested, _, steps, _, called, _⟩ := execute_attempts stumbling (refusing "locked")
      { patience := 1 } ⟨0, 0⟩ () 0 false ended
    exact ⟨result, run, rfl, flat, nested, steps, called⟩

end Sequence

end Autopilot
