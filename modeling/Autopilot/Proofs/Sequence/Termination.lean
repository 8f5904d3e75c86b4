import Autopilot.Proofs.Sequence.Extent
import Autopilot.Proofs.Sequence.Invariant
import Autopilot.Proofs.Sequence.Patience

/-!
Why a run comes to an end. Blocks are limited, so that a run can only go on forever at a
gate that is polled again and again. A gate with a deadline is left when the deadline is
past, since every poll that finds it shut is followed by a rest; and a gate without one
is left when it opens or fails. So much patience is enough for every part of a run, one
after the other.
-/

namespace Autopilot

variable {World : Type}

/-- What the world becomes while a gate is found shut, if it is. -/
def Hooks.afterShut (hooks : Hooks World) (step : Step) (gate : Condition) (world : World) :
    Option World :=
  match hooks.gate, hooks.condition with
  | some decide, _ =>
    match (decide step world).answer with
    | .ok false => some (decide step world).world
    | _ => none
  | none, some evaluator =>
    match (evaluator gate world).answer with
    | .ok false => some (evaluator gate world).world
    | _ => none
  | none, none => none

/-- A gate that is polled at an interval opens or fails in the end. -/
inductive Hooks.Settles (hooks : Hooks World) (intervalMs : Nat) (step : Step) (gate : Condition) :
    World → Prop where
  | now {world : World} (settled : hooks.afterShut step gate world = none) :
      Settles hooks intervalMs step gate world
  | later {world after : World} (shut : hooks.afterShut step gate world = some after)
      (rest : Settles hooks intervalMs step gate (hooks.rest intervalMs after).world) :
      Settles hooks intervalMs step gate world

namespace Runner

variable {α β : Type} {hooks : Hooks World}

/-! ## Parts that never wait at a gate -/

/-- A part that ends for everybody. -/
def Patient (part : Runner World α) : Prop := ∀ run, (part run).1 ≠ .error .impatient

namespace Patient

theorem bind {part : Runner World α} {next : α → Runner World β} (first : Patient part)
    (later : ∀ value, Patient (next value)) : Patient (part >>= next) := by
  intro run
  rcases ended : part run with ⟨halt | value, middle⟩
  · have never : halt ≠ .impatient := halt_ne_impatient (first run) ended
    exact ne_impatient_of_halted (bind_of_halt ended next) never
  · rw [bind_of_ok ended]
    exact later value middle

theorem ask {ε : Type} (asked : Act) (answered : Except ε α → Act) (asError : ε → RunError)
    (question : World → Reply World (Except ε α)) :
    Patient (Runner.ask asked answered asError question) := by
  intro run
  rw [ask_apply]
  intro waits
  cases answer : (question run.world).answer with
  | ok value =>
    rw [answer] at waits
    cases waits
  | error error =>
    rw [answer] at waits
    cases waits

theorem pause (ms : Nat) : Patient (Runner.pause hooks ms) := by
  intro run
  rcases pause_cases hooks ms run with ⟨_, same⟩ | ⟨_, _, same⟩ | ⟨_, _, _, same⟩ | ⟨_, _, same⟩
  all_goals rw [same]
  all_goals simp

theorem checkCancel : Patient (Runner.checkCancel : Runner World Unit) := by
  intro run
  cases cancelled : run.cancelled with
  | true => simp [checkCancel_of_cancelled cancelled]
  | false => simp [checkCancel_of_going cancelled]

theorem get : Patient (MonadState.get : Runner World (Run World)) := fun _ => nofun

theorem note (act : Act) : Patient (Runner.note act : Runner World Unit) := fun _ => nofun

theorem report (result : StepResult) : Patient (Runner.report result : Runner World Unit) :=
  fun _ => nofun

theorem settleStep (result : StepResult) : Patient (Runner.settleStep result : Runner World Unit) := by
  intro run
  rw [settleStep_apply]
  cases result.isFailed <;> simp

theorem settleBlock (record : Datum) (status : BlockStatus) :
    Patient (Runner.settleBlock record status : Runner World Unit) := by
  intro run
  rw [settleBlock_apply]
  by_cases failed : status = .failed <;> simp [failed]

theorem attempt {part : Runner World α} (inner : Patient part) : Patient (Runner.attempt part) := by
  intro run
  rcases attempt_cases part run with ⟨_, _, _, tried⟩ | ⟨_, _, _, _, tried⟩ | ⟨_, _, went, _, tried⟩
  · simp [tried]
  · simp [tried]
  · exact ne_impatient_of_halted tried (halt_ne_impatient (inner run) went)

theorem leads {part : Runner World α} (patient : Patient part) :
    Leads (fun _ => True) part (fun _ _ => True) (fun halt _ => halt ≠ .impatient) := by
  intro run _
  rcases went : part run with ⟨halt | value, after⟩
  · exact halt_ne_impatient (patient run) went
  · trivial

theorem composes : Composes hooks fun {_} part => Patient (part ()) where
  pure _ _ := nofun
  bind := bind
  clock _ := nofun
  fail _ _ _ := by simp
  checkCancel := checkCancel
  count _ _ := nofun
  pause := pause
  evaluate _ _ _ := ask _ _ _ _

end Patient

theorem gateOpen_patient (step : Step) (gate : Condition) : Patient (gateOpen hooks step gate) :=
  gateOpen_composes Patient.composes (fun _ _ => Patient.ask _ _ _ _) step gate
    fun _ => trivial

/-! ## Gates -/

section Gates

variable {polling : Polling} {step : Step} {gate : Condition} {run after : Run World}

/-- A gate that is found shut takes its time for the answer. -/
theorem gateOpen_shut (shut : gateOpen hooks step gate run = (.ok false, after)) :
    hooks.afterShut step gate run.world = some after.world ∧ run.now ≤ after.now := by
  cases decides : hooks.gate with
  | some decide =>
    rw [gateOpen_of_decider step gate decides] at shut
    obtain ⟨answer, rfl⟩ := ask_ended shut
    simp [Hooks.afterShut, decides, answer, Run.consulted, Run.noted, Run.replied]
  | none =>
    cases evaluates : hooks.condition with
    | some evaluator =>
      rw [gateOpen_of_evaluator step gate decides evaluates] at shut
      obtain ⟨answer, rfl⟩ := ask_ended shut
      simp [Hooks.afterShut, decides, evaluates, answer, Run.consulted, Run.noted, Run.replied]
    | none =>
      rw [gateOpen_of_nobody step gate decides evaluates] at shut
      cases shut

/-- A rest that is slept out. -/
theorem pause_slept {ms : Nat} (long : ms ≠ 0) (ended : pause hooks ms run = (.ok (), after)) :
    after.world = (hooks.rest ms run.world).world ∧ after.now = run.now + ms := by
  rcases pause_cases hooks ms run with ⟨_, same⟩ | ⟨_, short, _⟩ | ⟨_, _, _, same⟩ | ⟨_, _, same⟩
  · rw [same] at ended
    cases ended
  · exact absurd short long
  · rw [same] at ended
    cases ended
  · rw [same] at ended
    cases ended
    exact ⟨rfl, rfl⟩

/-- One poll of a gate, with the rest after it. Tells whether the gate is polled again. -/
def poll (hooks : Hooks World) (polling : Polling) (step : Step) (gate : Condition)
    (deadline : Option Nat) : Runner World Bool := do
  checkCancel
  if ← gateOpen hooks step gate then return false
  pause hooks (← untilNextPoll polling deadline)
  return true

theorem awaitGate_succ (deadline : Option Nat) (patience : Nat) :
    awaitGate hooks polling step gate deadline (patience + 1) =
      (poll hooks polling step gate deadline >>= fun again =>
        if again then awaitGate hooks polling step gate deadline patience else pure ()) := by
  unfold poll
  simp only [awaitGate, bind_assoc]
  refine congrArg _ (funext fun _ => congrArg _ (funext fun isOpen => ?_))
  cases isOpen <;> simp

theorem poll_patient (deadline : Option Nat) : Patient (poll hooks polling step gate deadline) := by
  apply Patient.checkCancel.bind
  intro _
  apply (gateOpen_patient step gate).bind
  intro isOpen
  have due : Patient (untilNextPoll polling deadline : Runner World Nat) := by
    intro run
    rw [untilNextPoll_apply]
    cases deadline with
    | none => nofun
    | some time => by_cases late : time ≤ run.now <;> simp [late]
  have waits : Patient (do
      pause hooks (← untilNextPoll polling deadline)
      return true) := by
    apply due.bind
    intro ms
    exact (Patient.pause ms).bind fun _ _ => nofun
  cases isOpen with
  | true => exact fun _ => nofun
  | false => exact waits

/-- A gate is polled again when it was found shut, and some time after. -/
theorem poll_again {deadline : Option Nat} (interval : polling.intervalMs ≠ 0)
    (again : poll hooks polling step gate deadline run = (.ok true, after)) :
    (∃ world, hooks.afterShut step gate run.world = some world ∧
      (deadline = none → after.world = (hooks.rest polling.intervalMs world).world)) ∧
    ∀ time, deadline = some time → run.now < time ∧ run.now < after.now := by
  obtain ⟨_, first, checked, again⟩ := parts_of_ok again
  obtain ⟨isOpen, middle, asked, again⟩ := parts_of_ok again
  have same := checkCancel_same run
  rw [checked] at same
  obtain rfl : first = run := same
  cases isOpen with
  | true => cases again
  | false =>
    obtain ⟨shut, later⟩ := gateOpen_shut asked
    obtain ⟨ms, last, due, again⟩ := parts_of_ok again
    obtain ⟨_, final, slept, again⟩ := parts_of_ok again
    cases again
    rw [untilNextPoll_apply] at due
    cases deadline with
    | none =>
      cases due
      exact ⟨⟨middle.world, shut, fun _ => (pause_slept interval slept).1⟩, nofun⟩
    | some time =>
      by_cases late : time ≤ middle.now
      · simp only [if_pos late] at due
        cases due
      · simp only [if_neg late] at due
        cases due
        refine ⟨⟨middle.world, shut, nofun⟩, ?_⟩
        intro other same
        cases same
        have now := (pause_slept (by omega) slept).2
        omega

/-- Patience is counted apart from how a gate is polled. -/
theorem awaitGate_patience (more : Nat) (deadline : Option Nat) (patience : Nat) :
    awaitGate hooks { polling with patience := more } step gate deadline patience =
      awaitGate hooks polling step gate deadline patience := by
  induction patience with
  | zero => rfl
  | succ patience ih =>
    rw [awaitGate_succ, awaitGate_succ, ih]
    rfl

/-- Somebody with more patience goes on where another stops. -/
theorem awaitGate_resumes {deadline : Option Nat} {patience : Nat}
    (left : awaitGate hooks polling step gate deadline patience run = (.error .impatient, after))
    (more : Nat) :
    awaitGate hooks polling step gate deadline (patience + more) run =
      awaitGate hooks polling step gate deadline more after := by
  induction patience generalizing run with
  | zero =>
    rcases awaitGate_zero hooks polling step gate deadline run with ⟨_, same⟩ | ⟨_, same⟩
    · rw [same] at left
      cases left
    · rw [same] at left
      cases left
      rw [Nat.zero_add]
  | succ patience ih =>
    rw [Nat.succ_add, awaitGate_succ]
    rw [awaitGate_succ] at left
    rcases polled : poll hooks polling step gate deadline run with ⟨halt | again, middle⟩
    · rw [bind_of_halt polled] at left
      cases left
      exact absurd (congrArg Prod.fst polled) (poll_patient deadline run)
    · rw [bind_of_ok polled] at left ⊢
      cases again with
      | false => cases left
      | true => exact ih left

/-- A gate is left if it is left after the next poll. -/
theorem awaitGate_ends {deadline : Option Nat} {patience : Nat}
    (next : ∀ after, poll hooks polling step gate deadline run = (.ok true, after) →
      (awaitGate hooks polling step gate deadline patience after).1 ≠ .error .impatient) :
    (awaitGate hooks polling step gate deadline (patience + 1) run).1 ≠ .error .impatient := by
  rw [awaitGate_succ]
  rcases polled : poll hooks polling step gate deadline run with ⟨halt | again, middle⟩
  · have never : halt ≠ .impatient := halt_ne_impatient (poll_patient deadline run) polled
    exact ne_impatient_of_halted (bind_of_halt polled _) never
  · rw [bind_of_ok polled]
    cases again with
    | false => nofun
    | true => exact next middle polled

/-- A gate that settles is left, by induction on the polls until then. -/
theorem awaitGate_settles (interval : polling.intervalMs ≠ 0) {world : World}
    (settles : hooks.Settles polling.intervalMs step gate world) (here : run.world = world) :
    ∃ patience, (awaitGate hooks polling step gate none patience run).1 ≠ .error .impatient := by
  induction settles generalizing run with
  | @now world settled =>
    refine ⟨0 + 1, awaitGate_ends fun after again => ?_⟩
    obtain ⟨⟨_, shut, _⟩, _⟩ := poll_again interval again
    rw [here, settled] at shut
    cases shut
  | @later world left shut _ ih =>
    by_cases again : ∃ after, poll hooks polling step gate none run = (.ok true, after)
    · obtain ⟨after, again⟩ := again
      obtain ⟨⟨other, also, moved⟩, _⟩ := poll_again interval again
      rw [here, shut] at also
      cases also
      obtain ⟨patience, ends⟩ := ih (moved rfl)
      refine ⟨patience + 1, awaitGate_ends fun last same => ?_⟩
      rw [again] at same
      cases same
      exact ends
    · exact ⟨0 + 1, awaitGate_ends fun after polled => absurd ⟨after, polled⟩ again⟩

/-- A gate with a deadline is left when the time is over: every poll takes some of it. -/
theorem awaitGate_timed (interval : polling.intervalMs ≠ 0) {time patience : Nat}
    (enough : time - run.now < patience) :
    (awaitGate hooks polling step gate (some time) patience run).1 ≠ .error .impatient := by
  induction patience generalizing run with
  | zero => omega
  | succ patience ih =>
    apply awaitGate_ends
    intro after again
    obtain ⟨early, later⟩ := (poll_again interval again).2 time rfl
    exact ih (by omega)

end Gates

/-! ## Enough patience -/

/-- Wherever a part is left waiting by somebody patient enough, its gate settles. -/
def Hopeful (settles : Run World → Prop) (part : Nat → Runner World α) (run : Run World) : Prop :=
  ∃ enough, ∀ patience after, enough ≤ patience →
    part patience run = (.error .impatient, after) → settles after

/-- From such runs a part comes to an end for somebody patient enough. -/
def EndsFrom (P settles : Run World → Prop) (part : Nat → Runner World α) : Prop :=
  ∀ run, P run → Hopeful settles part run → ∃ patience, (part patience run).1 ≠ .error .impatient

/-- A part that takes some patience: who has more sees the same, and some is enough. -/
structure Ending (settles : Run World → Prop) (part : Nat → Runner World α) : Prop where
  outlasts : ∀ {patience more : Nat}, patience ≤ more → Outlasts (part more) (part patience)
  ends : EndsFrom (fun _ => True) settles part

section Ending

variable {P Q settles : Run World → Prop} {part : Nat → Runner World α}
  {next : Nat → α → Runner World β}

theorem EndsFrom.bind (ends : EndsFrom P settles part)
    (outlasts : ∀ {patience more : Nat}, patience ≤ more → Outlasts (part more) (part patience))
    (later : ∀ value, Ending settles fun patience => next patience value) :
    EndsFrom P settles fun patience => part patience >>= next patience := by
  intro run holds hopeful
  obtain ⟨enough, hope⟩ := hopeful
  have first : Hopeful settles part run := by
    refine ⟨enough, fun patience after patient left => hope patience after patient ?_⟩
    exact bind_of_halt left (next patience)
  obtain ⟨start, ended⟩ := ends run holds first
  have same (patience : Nat) (patient : start ≤ patience) : part patience run = part start run :=
    outlasts patient run ended
  rcases began : part start run with ⟨halt | value, middle⟩
  · have never : halt ≠ .impatient := halt_ne_impatient ended began
    exact ⟨start, ne_impatient_of_halted (bind_of_halt began (next start)) never⟩
  · -- From here on the rest of the part starts in the same run, for anybody this patient.
    have goesOn (patience : Nat) (patient : start ≤ patience) :
        (part patience >>= next patience) run = next patience value middle := by
      rw [bind_of_ok ((same patience patient).trans began)]
    have second : Hopeful settles (fun patience => next patience value) middle := by
      refine ⟨max start enough, fun patience after patient left => ?_⟩
      apply hope patience after (Nat.le_trans (Nat.le_max_right _ _) patient)
      exact (goesOn patience (Nat.le_trans (Nat.le_max_left _ _) patient)).trans left
    obtain ⟨patience, ends⟩ := (later value).ends middle trivial second
    refine ⟨max start patience, ?_⟩
    simp only [goesOn _ (Nat.le_max_left _ _)]
    rw [(later value).outlasts (Nat.le_max_right start patience) middle ends]
    exact ends

/-- What goes before, and never waits, may prepare the run. -/
theorem EndsFrom.after {first : Runner World α}
    (leads : Leads P first (fun _ => Q) (fun halt _ => halt ≠ .impatient))
    (later : ∀ value, EndsFrom Q settles fun patience => next patience value) :
    EndsFrom P settles fun patience => first >>= next patience := by
  intro run holds hopeful
  rcases began : first run with ⟨halt | value, middle⟩
  · have never : halt ≠ .impatient := leads.halted holds began
    exact ⟨0, ne_impatient_of_halted (bind_of_halt began (next 0)) never⟩
  · obtain ⟨enough, hope⟩ := hopeful
    simp only [bind_of_ok began] at hope ⊢
    exact later value middle (leads.ended holds began) ⟨enough, hope⟩

theorem EndsFrom.attempt (ends : EndsFrom P settles part) :
    EndsFrom P settles fun patience => attempt (part patience) := by
  intro run holds hopeful
  obtain ⟨enough, hope⟩ := hopeful
  have inner : Hopeful settles part run := by
    refine ⟨enough, fun patience after patient left => hope patience after patient ?_⟩
    exact attempt_of_final left rfl
  obtain ⟨patience, ended⟩ := ends run holds inner
  refine ⟨patience, ?_⟩
  dsimp only
  rcases attempt_cases (part patience) run with ⟨_, _, _, tried⟩ | ⟨_, _, _, _, tried⟩ |
    ⟨halt, _, went, _, tried⟩
  · simp [tried]
  · simp [tried]
  · exact ne_impatient_of_halted tried (halt_ne_impatient ended went)

/-- A part that never waits takes no patience. -/
theorem Ending.of_patient {part : Runner World α} (patient : Patient part) :
    Ending settles fun _ => part :=
  ⟨fun _ => .refl part, fun run _ _ => ⟨0, patient run⟩⟩

theorem Ending.bind (first : Ending settles part)
    (later : ∀ value, Ending settles fun patience => next patience value) :
    Ending settles fun patience => part patience >>= next patience where
  outlasts patient := (first.outlasts patient).bind fun value => (later value).outlasts patient
  ends := first.ends.bind first.outlasts later

theorem Ending.attempt (inner : Ending settles part) :
    Ending settles fun patience => attempt (part patience) :=
  ⟨fun patient => (inner.outlasts patient).attempt, inner.ends.attempt⟩

theorem Ending.reporting {content : Nat → Runner World BlockStatus} (inner : Ending settles content)
    (record : Datum) : Ending settles fun patience => reporting record (content patience) :=
  .bind (.of_patient fun _ => nofun) fun _ => .bind (.of_patient fun _ => nofun) fun _ =>
    .bind (.of_patient fun _ => nofun) fun _ => .bind inner.attempt fun _ =>
      .of_patient fun _ => nofun

theorem Ending.composes : Composes hooks fun {_} part => Ending settles part where
  pure _ := .of_patient fun _ => nofun
  bind := .bind
  clock := .of_patient fun _ => nofun
  fail _ _ := .of_patient fun _ => by simp
  checkCancel := .of_patient .checkCancel
  count _ := .of_patient fun _ => nofun
  pause ms := .of_patient (.pause ms)
  evaluate _ _ _ := .of_patient (.ask _ _ _ _)

end Ending

/-! ## Runs -/

/-- If the run waits at the gate of a step without a time limit, the gate settles. -/
def GateSettles (hooks : Hooks World) (intervalMs : Nat) (mayRun : Step → Prop) (run : Run World) :
    Prop :=
  ∀ step gate, mayRun step → step.gate = some gate → step.timeoutMs = none → run.Current step →
    hooks.Settles intervalMs step gate run.world

section Runs

variable {polling : Polling} (interval : polling.intervalMs ≠ 0) {mayRun : Step → Prop}

include interval

/-- A gate of the step that is running takes some patience. -/
theorem passGate_ends {step : Step} (runs : mayRun step) :
    EndsFrom (Run.Current step) (GateSettles hooks polling.intervalMs mayRun)
      fun patience => passGate hooks { polling with patience } step := by
  intro run current ⟨enough, hope⟩
  cases given : step.gate with
  | none =>
    refine ⟨0, ?_⟩
    simp [passGate, given]
  | some gate =>
    simp only [passGate_of_gate given, awaitGate_patience] at hope ⊢
    cases limit : step.timeoutMs with
    | some ms =>
      refine ⟨ms + 1, awaitGate_timed interval ?_⟩
      dsimp only
      omega
    | none =>
      simp only [limit, Option.map_none] at hope ⊢
      by_cases left : (awaitGate hooks polling step gate none enough run).1 = .error .impatient
      · -- The run is left waiting here, so this gate settles, and then it is left.
        rcases waited : awaitGate hooks polling step gate none enough run with ⟨outcome, after⟩
        rw [waited] at left
        cases left
        have same : passGate hooks { polling with patience := enough } step run =
            (.error .impatient, after) := by
          rw [passGate_of_gate given, awaitGate_patience, limit]
          exact waited
        have waits : Waits (passGate hooks { polling with patience := enough } step) :=
          passGate_waits _ step
        have still := waits.current current
        rw [same] at still
        have settles := hope enough after (Nat.le_refl _) waited step gate runs given limit still
        obtain ⟨more, ends⟩ := awaitGate_settles interval settles rfl
        refine ⟨enough + more, ?_⟩
        rw [awaitGate_resumes waited more]
        exact ends
      · exact ⟨enough, left⟩

theorem performStep_ending {step : Step} (runs : mayRun step) (delayMs : Nat) :
    EndsFrom (Run.Current step) (GateSettles hooks polling.intervalMs mayRun)
      fun patience => performStep hooks { polling with patience } step delayMs := by
  apply (passGate_ends interval runs).attempt.bind
  · intro patience more patient
    have outlasts : Outlasts (passGate hooks { polling with patience := more } step)
        (passGate hooks { polling with patience } step) := passGate_outlasts patient step
    exact outlasts.attempt
  · intro passed
    apply Ending.of_patient
    cases passed with
    | error error => exact fun _ => nofun
    | ok _ =>
      apply (Patient.ask _ _ _ _).attempt.bind
      intro called
      cases called with
      | error error => exact fun _ => nofun
      | ok _ => exact fun _ => nofun

/-- A step takes some patience: when it comes to its gate, it is the step that is running. -/
theorem runStep_ending {step : Step} (runs : mayRun step) :
    Ending (GateSettles hooks polling.intervalMs mayRun)
      fun patience => runStep hooks { polling with patience } step := by
  refine ⟨fun patient => runStep_outlasts patient step, ?_⟩
  have noted : Leads (fun _ => True) (note (.step step.commandId) : Runner World Unit)
      (fun _ => Run.Current step) (fun halt _ => halt ≠ .impatient) :=
    fun run _ => run.current_noted step
  have drawn : Leads (Run.Current step) (drawDelay hooks step) (fun _ => Run.Current step)
      (fun halt _ => halt ≠ .impatient) := by
    intro run current
    obtain ⟨world, same⟩ := drawDelay_cases hooks step run
    rw [same]
    exact current
  have slept (ms : Nat) : Leads (Run.Current step) (pause hooks ms) (fun _ => Run.Current step)
      (fun halt _ => halt ≠ .impatient) :=
    ((Patient.pause ms).leads.and ((pause_waits ms).current_leads step)).weaken
      (fun _ current => ⟨trivial, current⟩) (fun _ _ told => told.2) fun _ _ never => never
  apply EndsFrom.after Patient.checkCancel.leads
  intro _
  apply EndsFrom.after noted
  intro _
  apply EndsFrom.after drawn
  intro delayMs
  have performed : EndsFrom (Run.Current step) (GateSettles hooks polling.intervalMs mayRun)
      fun patience => performStep hooks { polling with patience } step delayMs :=
    performStep_ending interval runs delayMs
  by_cases instant : delayMs = 0
  · simpa [instant] using performed
  · simpa [instant] using EndsFrom.after (slept delayMs) fun _ => performed

theorem runSteps_ending {steps : List Step} (runs : ∀ step ∈ steps, mayRun step) :
    Ending (GateSettles hooks polling.intervalMs mayRun)
      fun patience => runSteps hooks { polling with patience } steps := by
  induction steps with
  | nil => exact .of_patient fun _ => nofun
  | cons step rest ih =>
    apply (runStep_ending interval (runs step List.mem_cons_self)).bind
    intro result
    apply Ending.bind (.of_patient (.report result))
    intro _
    cases result.isFailed with
    | true => exact .of_patient fun _ => nofun
    | false => exact ih fun other later => runs other (List.mem_cons_of_mem _ later)

/-- A block takes some patience if its steps do. -/
theorem runBlock_ending {record : Datum} (runs : ∀ step, Block.Holds record step → mayRun step) :
    Ending (GateSettles hooks polling.intervalMs mayRun)
      fun patience => runBlock hooks { polling with patience } record := by
  simp only [runBlock_eq]
  apply Ending.reporting
  have begins {act : Act} : Patient (do checkCancel; note act : Runner World Unit) :=
    Patient.checkCancel.bind fun _ _ => nofun
  apply blockContent_composes Ending.composes (.of_patient begins) (.of_patient begins)
    (fun patience => { polling with patience }) record fun _ _ _ => trivial
  · intro step held
    exact (runStep_ending interval (runs step held)).bind fun result =>
      .of_patient (.settleStep result)
  · intro inner content ending
    exact (ending.reporting inner).bind fun status => .of_patient (.settleBlock inner status)

theorem runBlocks_ending {records : List Datum}
    (runs : ∀ record ∈ records, ∀ step, Block.Holds record step → mayRun step) :
    Ending (GateSettles hooks polling.intervalMs mayRun)
      fun patience => runBlocks hooks { polling with patience } records := by
  induction records with
  | nil => exact .of_patient fun _ => nofun
  | cons record rest ih =>
    apply Ending.bind (.of_patient .checkCancel)
    intro _
    apply Ending.bind (.of_patient (.note .block))
    intro _
    apply (runBlock_ending interval (runs record List.mem_cons_self)).bind
    intro status
    apply Ending.bind (.of_patient .get)
    intro run
    apply (ih fun other later => runs other (List.mem_cons_of_mem _ later)).bind
    exact fun later => .of_patient fun _ => nofun

theorem runParts_ending (sequence : Sequence) :
    Ending (GateSettles hooks polling.intervalMs sequence.Holds)
      fun patience => runParts hooks { polling with patience } sequence := by
  apply (runSteps_ending interval fun step => Sequence.holds_of_mem_orderedSteps).bind
  intro failure
  cases failure with
  | some error => exact .of_patient fun _ => nofun
  | none =>
    apply runBlocks_ending interval
    intro record member step held
    exact Sequence.holds_of_block member held

end Runs

end Runner

namespace Sequence

/-- A run comes to an end: with patience enough it does not wait at a gate anymore, and it
is the same for everybody with more. Of the gates it needs only those that have no time
limit to settle, and those only where it is left waiting for them. It never reports more
steps than there are at the top and in the weights of the blocks. -/
theorem execute_ends (sequence : Sequence) (hooks : Hooks World) (polling : Polling)
    (epoch : Instant) (world : World) (now : Nat) (cancelled : Bool)
    (interval : 0 < polling.intervalMs)
    (settles : ∀ patience run, sequence.execute hooks { polling with patience } epoch
        { world, now, cancelled } = (.error .impatient, run) →
      ∀ step gate, sequence.Holds step → step.gate = some gate → step.timeoutMs = none →
        run.Current step → hooks.Settles polling.intervalMs step gate run.world) :
    let outcome (patience : Nat) :=
      sequence.execute hooks { polling with patience } epoch { world, now, cancelled }
    (∃ enough, (outcome enough).1 ≠ .error .impatient ∧
      ∀ patience, enough ≤ patience → outcome patience = outcome enough) ∧
    ∀ patience, (outcome patience).2.steps.size ≤ sequence.steps.length +
      (sequence.blocks.map fun block => Block.weight (.ofJson block)).sum := by
  have ending : Runner.Ending (Runner.GateSettles hooks polling.intervalMs sequence.Holds)
      fun patience => Runner.runParts hooks { polling with patience } sequence :=
    Runner.runParts_ending (Nat.ne_of_gt interval) sequence
  have hopeful : Runner.Hopeful (Runner.GateSettles hooks polling.intervalMs sequence.Holds)
      (fun patience => Runner.runParts hooks { polling with patience } sequence)
      { world, now, cancelled } :=
    ⟨0, fun patience run _ left => settles patience run (execute_of_parts epoch left)⟩
  constructor
  · obtain ⟨enough, ends⟩ := ending.ends _ trivial hopeful
    refine ⟨enough, ?_, fun patience more => ?_⟩
    all_goals dsimp only
    · rcases parts : Runner.runParts hooks { polling with patience := enough } sequence
        { world, now, cancelled } with ⟨halt | failure, run⟩
      · rw [execute_of_parts epoch parts]
        intro waits
        cases waits
        exact ends (congrArg Prod.fst parts)
      · rw [execute_of_parts epoch parts]
        nofun
    · have longer := ending.outlasts more _ ends
      unfold execute
      rw [longer]
  · intro patience
    have bound := Runner.runParts_adds hooks { polling with patience } sequence
      { world, now, cancelled }
    rcases parts : Runner.runParts hooks { polling with patience } sequence
      { world, now, cancelled } with ⟨ended, run⟩
    rw [parts] at bound
    dsimp only
    rw [execute_of_parts epoch parts]
    simpa using bound

/-- A step that waits for a gate without a time limit, and then a block. -/
def patientErrand : Sequence :=
  { id := "errand"
    steps := [{ commandId := "enter", gate := some { source := .image, targetId := "door" } }]
    blocks := [.object [("type", .str "repeatCount"), ("maxIterations", .ofNat 2),
      ("steps", .arr [.object [("commandId", .str "knock")]])]] }

/-- Collaborators whose gate opens after some polls; the world counts those still to come. -/
def openingLater : Hooks Nat where
  command _ polls := { answer := .ok (), world := polls }
  gate := some fun _ polls => { answer := .ok (polls == 0), world := polls - 1 }
  rest _ polls := { world := polls }
  random polls := (0, polls)

theorem openingLater_settles (intervalMs : Nat) (step : Step) (gate : Condition) (polls : Nat) :
    openingLater.Settles intervalMs step gate polls := by
  induction polls with
  | zero => exact .now rfl
  | succ polls ih => exact .later rfl ih

theorem execute_ends_patientErrand :
    ∃ enough, (patientErrand.execute openingLater { patience := enough } ⟨0, 0⟩
      { world := 3 }).1 ≠ .error .impatient := by
  have whole := execute_ends patientErrand openingLater { patience := 0 } ⟨0, 0⟩ 3 0 false (by decide)
    fun _ run _ step gate _ _ _ _ => openingLater_settles 100 step gate run.world
  obtain ⟨enough, ends, _⟩ := whole.1
  exact ⟨enough, ends⟩

end Sequence

end Autopilot
