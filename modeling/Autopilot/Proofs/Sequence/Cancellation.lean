import Autopilot.Proofs.Sequence.Patience

/-!
How a run ends early. Whatever goes wrong becomes a result, apart from a
cancellation, which crosses every fold of errors. The journal shows it: an answer
that tells of a cancellation is the last entry of the run.
-/

namespace Autopilot

variable {World : Type}

/-- An answer by which a collaborator cancels the run. -/
def Act.tellsCancelled : Act → Bool
  | .gateAnswered (.error .cancelled) => true
  | .conditionAnswered (.error .cancelled) => true
  | .commandAnswered (.error .cancelled) => true
  | _ => false

/-- The report of a record that is no block. -/
def BlockFault.report (fault : BlockFault) (record : Datum) : BlockResult :=
  { blockType := Block.typeName record
    iterations := 0
    conditionsEvaluated := 0
    durationMs := 0
    status := .failed
    error := some (RunError.invalidBlock fault).message }

namespace Run

/-- No answer so far told of a cancellation. -/
def Untold (run : Run World) : Prop :=
  ∀ entry ∈ run.journal, entry.act.tellsCancelled = false

/-- The run was cancelled from outside, or by the last answer and by no earlier one. -/
def CutOff (run : Run World) : Prop :=
  (run.Untold ∧ run.cancelled = true) ∨
    ∃ earlier last, run.journal = Array.push earlier last ∧ last.act.tellsCancelled = true ∧
      ∀ entry ∈ earlier, entry.act.tellsCancelled = false

theorem Untold.fresh (world : World) (now : Nat) (cancelled : Bool) :
    ({ world, now, cancelled } : Run World).Untold := by
  intro entry member
  exact absurd member (Array.not_mem_empty entry)

theorem Untold.noted {run : Run World} (untold : run.Untold) {act : Act}
    (other : act.tellsCancelled = false) : (run.noted act).Untold := by
  intro entry member
  rcases Array.mem_push.1 member with old | new
  · exact untold entry old
  · rw [new, other]

theorem Untold.rested {run : Run World} (untold : run.Untold) (ms : Nat) (rest : Rest World) :
    (run.rested ms rest).Untold := untold

/-- Only the last answer of a run that was cut off can tell of a cancellation. -/
theorem CutOff.last {run : Run World} (cut : run.CutOff) {i : Nat} {entry : Entry}
    (found : run.journal[i]? = some entry) (tells : entry.act.tellsCancelled) :
    i + 1 = run.journal.size := by
  rcases cut with ⟨untold, _⟩ | ⟨earlier, last, journal, _, untold⟩
  · rw [untold entry (Array.mem_of_getElem? found)] at tells
    cases tells
  · rw [journal, Array.getElem?_push] at found
    rw [journal, Array.size_push]
    split at found
    next last => rw [last]
    next =>
      rw [untold entry (Array.mem_of_getElem? found)] at tells
      cases tells

theorem CutOff.reason {run : Run World} (cut : run.CutOff) :
    run.cancelled ∨ ∃ entry ∈ run.journal, entry.act.tellsCancelled := by
  rcases cut with ⟨_, cancelled⟩ | ⟨earlier, last, journal, tells, _⟩
  · exact .inl cancelled
  · rw [journal]
    exact .inr ⟨last, Array.mem_push_self, tells⟩

end Run

theorem Halt.settled_eq_none {halt : Halt} (settled : halt.settled? = none) :
    halt = .failed .cancelled ∨ halt = .impatient := by
  unfold Halt.settled? at settled
  split at settled
  · exact .inl rfl
  · cases settled
  · exact .inr rfl

theorem Halt.settled_eq_some {error other : RunError}
    (settled : (Halt.failed error).settled? = some other) : error = other := by
  cases error <;> first | cases settled; rfl | cases settled

namespace Runner

variable {α β : Type} {hooks : Hooks World}

/-- A part that heeds cancellations ends by each that it is told of, at once, and by no
other. -/
structure Heeds (part : Runner World α) : Prop where
  untold : ∀ {run after : Run World} {outcome : Except Halt α}, part run = (outcome, after) →
    run.Untold → outcome ≠ .error (.failed .cancelled) → after.Untold
  cutOff : ∀ {run after : Run World}, part run = (.error (.failed .cancelled), after) →
    run.Untold → after.CutOff

/-- A part that does not touch the journal, and does not fail by a cancellation. -/
theorem Heeds.of_same {part : Runner World α}
    (same : ∀ run, (part run).2.journal = run.journal)
    (otherwise : ∀ run, (part run).1 ≠ .error (.failed .cancelled)) : Heeds part := by
  constructor
  · intro run after outcome ended untold _
    have kept := same run
    rw [ended] at kept
    unfold Run.Untold
    rwa [kept]
  · intro run after ended
    exact absurd (congrArg Prod.fst ended) (otherwise run)

theorem Heeds.bind {part : Runner World α} {next : α → Runner World β} (first : Heeds part)
    (later : ∀ value, Heeds (next value)) : Heeds (part >>= next) := by
  constructor
  · intro run after outcome ended untold otherwise
    rcases began : part run with ⟨halt | value, middle⟩
    · rw [bind_of_halt began] at ended
      cases ended
      refine first.untold began untold fun same => otherwise ?_
      cases same
      rfl
    · rw [bind_of_ok began] at ended
      exact (later value).untold ended (first.untold began untold nofun) otherwise
  · intro run after ended untold
    rcases began : part run with ⟨halt | value, middle⟩
    · rw [bind_of_halt began] at ended
      cases ended
      exact first.cutOff began untold
    · rw [bind_of_ok began] at ended
      exact (later value).cutOff ended (first.untold began untold nofun)

theorem Heeds.ite {condition : Prop} [Decidable condition] {part other : Runner World α}
    (first : Heeds part) (second : Heeds other) : Heeds (if condition then part else other) := by
  split
  · exact first
  · exact second

theorem Heeds.attempt {part : Runner World α} (inner : Heeds part) : Heeds (attempt part) := by
  constructor
  · intro run after outcome ended untold otherwise
    rcases attempt_cases part run with ⟨value, _, went, told⟩ | ⟨error, _, went, settled, told⟩ |
      ⟨halt, _, went, _, told⟩
    all_goals rw [told] at ended
    all_goals cases ended
    · exact inner.untold went untold nofun
    · refine inner.untold went untold fun same => ?_
      cases same
      cases settled
    · refine inner.untold went untold fun same => otherwise ?_
      cases same
      rfl
  · intro run after ended untold
    rcases attempt_cases part run with ⟨value, _, went, told⟩ | ⟨error, _, went, _, told⟩ |
      ⟨halt, _, went, _, told⟩
    all_goals rw [told] at ended
    all_goals cases ended
    exact inner.cutOff went untold

theorem checkCancel_heeds : Heeds (checkCancel : Runner World Unit) := by
  constructor
  · intro run after outcome ended untold otherwise
    cases cancelled : run.cancelled with
    | true =>
      rw [checkCancel_of_cancelled cancelled] at ended
      cases ended
      exact absurd rfl otherwise
    | false =>
      rw [checkCancel_of_going cancelled] at ended
      cases ended
      exact untold
  · intro run after ended untold
    cases cancelled : run.cancelled with
    | true =>
      rw [checkCancel_of_cancelled cancelled] at ended
      cases ended
      exact .inl ⟨untold, cancelled⟩
    | false =>
      rw [checkCancel_of_going cancelled] at ended
      cases ended

theorem note_heeds {act : Act} (other : act.tellsCancelled = false) :
    Heeds (note act : Runner World Unit) := by
  constructor
  · intro run after outcome ended untold _
    cases ended
    exact untold.noted other
  · intro run after ended
    cases ended

theorem pause_heeds (ms : Nat) : Heeds (pause hooks ms) := by
  constructor
  · intro run after outcome ended untold otherwise
    rcases pause_cases hooks ms run with ⟨_, same⟩ | ⟨_, _, same⟩ | ⟨_, _, _, same⟩ |
      ⟨_, _, same⟩
    all_goals rw [same] at ended
    all_goals cases ended
    · exact absurd rfl otherwise
    · exact untold
    · exact absurd rfl otherwise
    · exact (untold.rested ms _).noted rfl
  · intro run after ended untold
    rcases pause_cases hooks ms run with ⟨cancelled, same⟩ | ⟨_, _, same⟩ | ⟨_, _, _, same⟩ |
      ⟨_, _, same⟩
    all_goals rw [same] at ended
    all_goals cases ended
    · exact .inl ⟨untold, cancelled⟩
    · exact .inl ⟨untold, rfl⟩

/-- A question whose answers tell of a cancellation exactly where they become one. -/
theorem ask_heeds {ε : Type} {asked : Act} {answered : Except ε α → Act} {asError : ε → RunError}
    (question : World → Reply World (Except ε α)) (call : asked.tellsCancelled = false)
    (fine : ∀ value, (answered (.ok value)).tellsCancelled = false)
    (tells : ∀ error, (answered (.error error)).tellsCancelled = true ↔ asError error = .cancelled) :
    Heeds (ask asked answered asError question) := by
  have called (run : Run World) (untold : run.Untold) :
      ((run.noted asked).replied (question run.world)).Untold := untold.noted call
  constructor
  · intro run after outcome ended untold otherwise
    rw [ask_apply] at ended
    cases answer : (question run.world).answer with
    | ok value =>
      rw [answer] at ended
      cases ended
      exact (called run untold).noted (fine value)
    | error error =>
      rw [answer] at ended
      cases ended
      refine (called run untold).noted (Bool.eq_false_iff.2 fun told => otherwise ?_)
      rw [← (tells error).1 told]
      rfl
  · intro run after ended untold
    rw [ask_apply] at ended
    cases answer : (question run.world).answer with
    | ok value =>
      rw [answer] at ended
      cases ended
    | error error =>
      rw [answer] at ended
      obtain ⟨failed, rfl⟩ := Prod.mk.inj ended
      have became : asError error = .cancelled := Halt.failed.inj (Except.error.inj failed)
      exact .inr ⟨_, _, rfl, (tells error).2 became, called run untold⟩

theorem ofCondition_eq_cancelled_iff (error : ConditionError) :
    RunError.ofCondition error = .cancelled ↔ error = .cancelled := by
  cases error <;> simp [RunError.ofCondition]

theorem Silent.heeds {part : Runner World α} (quiet : Silent hooks part) : Heeds part := by
  induction quiet with
  | pure value => exact .of_same (fun _ => rfl) (fun _ => nofun)
  | bind _ _ first later => exact first.bind later
  | get => exact .of_same (fun _ => rfl) (fun _ => nofun)
  | fail error notCancelled =>
    refine .of_same (fun _ => rfl) fun run same => notCancelled ?_
    exact Halt.failed.inj (Except.error.inj same)
  | impatient => exact .of_same (fun _ => rfl) (fun _ => nofun)
  | checkCancel => exact checkCancel_heeds
  | note act begun =>
    refine note_heeds ?_
    cases act <;> first | rfl | cases begun
  | count f => exact .of_same (fun _ => rfl) (fun _ => nofun)
  | pause ms => exact pause_heeds ms
  | draw step =>
    constructor
    · intro run after outcome ended untold _
      obtain ⟨world, drawn⟩ := drawDelay_cases hooks step run
      rw [drawn] at ended
      cases ended
      exact untold
    · intro run after ended
      obtain ⟨world, drawn⟩ := drawDelay_cases hooks step run
      rw [drawn] at ended
      cases ended
  | askGate given step =>
    refine ask_heeds _ rfl (fun _ => rfl) fun error => ?_
    cases error <;> simp [Act.tellsCancelled]
  | evaluate given condition =>
    refine ask_heeds _ rfl (fun _ => rfl) fun error => ?_
    rw [ofCondition_eq_cancelled_iff]
    cases error <;> simp [Act.tellsCancelled]
  | callCommand step =>
    refine ask_heeds _ rfl (fun _ => rfl) fun error => ?_
    cases error <;> simp [Act.tellsCancelled]
  | attempt _ inner => exact inner.attempt

theorem reporting_heeds {content : Runner World BlockStatus} (inner : Heeds content)
    (record : Datum) : Heeds (reporting record content) := by
  constructor
  · intro before after outcome ended untold otherwise
    rcases reporting_cases record content before with ⟨_, middle, tried, same⟩ |
      ⟨halt, middle, tried, same⟩
    · rw [same] at ended
      cases ended
      have kept : middle.Untold := inner.attempt.untold tried untold nofun
      exact kept
    · rw [same] at ended
      cases ended
      refine inner.attempt.untold tried untold fun failed => otherwise ?_
      cases failed
      rfl
  · intro before after ended untold
    rcases reporting_cases record content before with ⟨_, middle, tried, same⟩ |
      ⟨halt, middle, tried, same⟩
    · rw [same] at ended
      cases ended
    · rw [same] at ended
      cases ended
      exact inner.attempt.cutOff tried untold

theorem settleStep_heeds (result : StepResult) :
    Heeds (settleStep result : Runner World Unit) := by
  refine .of_same (fun run => ?_) (fun run same => ?_)
  · rw [settleStep_apply]
  · rw [settleStep_apply] at same
    split at same
    · cases same
    · cases same

theorem settleBlock_heeds (record : Datum) (status : BlockStatus) :
    Heeds (settleBlock record status : Runner World Unit) := by
  refine .of_same (fun run => ?_) (fun run same => ?_)
  · rw [settleBlock_apply]
  · rw [settleBlock_apply] at same
    split at same
    · cases same
    · cases same

theorem Working.heeds {part : Runner World α} (works : Working hooks part) : Heeds part := by
  induction works with
  | silent quiet => exact quiet.heeds
  | bind _ _ first later => exact first.bind later
  | settleStep result => exact settleStep_heeds result
  | nested record _ inner =>
    exact (reporting_heeds inner record).bind fun status => settleBlock_heeds record status

/-- A part that turns all of its errors into results: it halts only where it is cancelled
or runs out of patience. -/
def Settled (part : Runner World α) : Prop :=
  ∀ (run after : Run World) (halt : Halt), part run = (.error halt, after) → halt.settled? = none

theorem Settled.of_ok {part : Runner World α} (ends : ∀ run, ∃ value after, part run = (.ok value, after)) :
    Settled part := by
  intro run after halt ended
  obtain ⟨value, other, same⟩ := ends run
  rw [same] at ended
  cases ended

theorem Settled.bind {part : Runner World α} {next : α → Runner World β} (first : Settled part)
    (later : ∀ value, Settled (next value)) : Settled (part >>= next) := by
  intro run after halt ended
  rcases began : part run with ⟨_ | value, middle⟩
  · rw [bind_of_halt began] at ended
    cases ended
    exact first run after halt began
  · rw [bind_of_ok began] at ended
    exact later value middle after halt ended

theorem Settled.ite {condition : Prop} [Decidable condition] {part other : Runner World α}
    (first : Settled part) (second : Settled other) :
    Settled (if condition then part else other) := by
  split
  · exact first
  · exact second

theorem attempt_settled (part : Runner World α) : Settled (attempt part) := by
  intro run after halt ended
  rcases attempt_cases part run with ⟨_, _, _, told⟩ | ⟨_, _, _, _, told⟩ | ⟨_, _, _, settled, told⟩
  all_goals rw [told] at ended
  all_goals cases ended
  exact settled

theorem checkCancel_settled : Settled (checkCancel : Runner World Unit) := by
  intro run after halt ended
  cases cancelled : run.cancelled with
  | true =>
    rw [checkCancel_of_cancelled cancelled] at ended
    cases ended
    rfl
  | false =>
    rw [checkCancel_of_going cancelled] at ended
    cases ended

theorem pause_settled (ms : Nat) : Settled (pause hooks ms) := by
  intro run after halt ended
  rcases pause_cases hooks ms run with ⟨_, same⟩ | ⟨_, _, same⟩ | ⟨_, _, _, same⟩ | ⟨_, _, same⟩
  all_goals rw [same] at ended
  all_goals cases ended
  all_goals rfl

theorem drawDelay_settled (step : Step) : Settled (drawDelay hooks step) :=
  .of_ok fun run => by
    obtain ⟨world, drawn⟩ := drawDelay_cases hooks step run
    exact ⟨_, _, drawn⟩

theorem reporting_settled (record : Datum) (content : Runner World BlockStatus) :
    Settled (reporting record content) := by
  intro before after halt ended
  rcases reporting_cases record content before with ⟨_, _, _, same⟩ | ⟨_, _, tried, same⟩
  · rw [same] at ended
    cases ended
  · rw [same] at ended
    cases ended
    exact attempt_settled content _ _ _ tried

/-! ## Steps and blocks at the top -/

section Top

variable (hooks) (polling : Polling)

theorem performStep_settled (step : Step) (delayMs : Nat) :
    Settled (performStep hooks polling step delayMs) := by
  refine (attempt_settled _).bind fun passed => ?_
  cases passed with
  | error error => exact .of_ok fun run => ⟨_, run, rfl⟩
  | ok _ =>
    refine (attempt_settled _).bind fun called => ?_
    cases called with
    | error error => exact .of_ok fun run => ⟨_, run, rfl⟩
    | ok _ => exact .of_ok fun run => ⟨_, run, rfl⟩

theorem runStep_settled (step : Step) : Settled (runStep hooks polling step) := by
  refine checkCancel_settled.bind fun _ => ?_
  refine .bind (.of_ok fun run => ⟨_, _, note_apply _ run⟩) fun _ => ?_
  refine (drawDelay_settled step).bind fun ms => .ite ?_ ?_
  · exact (pause_settled ms).bind fun _ => performStep_settled hooks polling step ms
  · exact performStep_settled hooks polling step ms

theorem runSteps_settled (steps : List Step) : Settled (runSteps hooks polling steps) := by
  induction steps with
  | nil => exact .of_ok fun run => ⟨_, run, rfl⟩
  | cons step rest ih =>
    refine (runStep_settled hooks polling step).bind fun result => ?_
    refine .bind (.of_ok fun run => ⟨_, _, modify_apply _ run⟩) fun _ => ?_
    exact .ite (.of_ok fun run => ⟨_, run, rfl⟩) ih

theorem runBlock_settled (record : Datum) : Settled (runBlock hooks polling record) := by
  rw [runBlock_eq]
  exact reporting_settled record _

theorem runBlocks_settled (records : List Datum) : Settled (runBlocks hooks polling records) := by
  induction records with
  | nil => exact .of_ok fun run => ⟨_, run, rfl⟩
  | cons record rest ih =>
    refine checkCancel_settled.bind fun _ => ?_
    refine .bind (.of_ok fun run => ⟨_, _, note_apply _ run⟩) fun _ => ?_
    refine (runBlock_settled hooks polling record).bind fun status => ?_
    refine .bind (.of_ok fun run => ⟨_, _, get_apply run⟩) fun run => ?_
    exact ih.bind fun later => .of_ok fun run => ⟨_, run, rfl⟩

theorem runParts_settled (sequence : Sequence) : Settled (runParts hooks polling sequence) := by
  refine (runSteps_settled hooks polling _).bind fun failure => ?_
  cases failure with
  | some error => exact .of_ok fun run => ⟨_, run, rfl⟩
  | none => exact runBlocks_settled hooks polling _

theorem runSteps_heeds (steps : List Step) : Heeds (runSteps hooks polling steps) := by
  induction steps with
  | nil => exact .of_same (fun _ => rfl) (fun _ => nofun)
  | cons step rest ih =>
    refine (runStep_silent polling step).heeds.bind fun result => ?_
    refine .bind (.of_same (fun _ => rfl) (fun _ => nofun)) fun _ => ?_
    exact .ite (.of_same (fun _ => rfl) (fun _ => nofun)) ih

theorem runBlock_heeds (record : Datum) : Heeds (runBlock hooks polling record) := by
  rw [runBlock_eq]
  exact reporting_heeds (blockContent_working polling record).heeds record

theorem runBlocks_heeds (records : List Datum) : Heeds (runBlocks hooks polling records) := by
  induction records with
  | nil => exact .of_same (fun _ => rfl) (fun _ => nofun)
  | cons record rest ih =>
    refine checkCancel_heeds.bind fun _ => (note_heeds rfl).bind fun _ => ?_
    refine (runBlock_heeds hooks polling record).bind fun status => ?_
    refine .bind (.of_same (fun _ => rfl) (fun _ => nofun)) fun run => ?_
    exact ih.bind fun later => .of_same (fun _ => rfl) (fun _ => nofun)

theorem runParts_heeds (sequence : Sequence) : Heeds (runParts hooks polling sequence) := by
  refine (runSteps_heeds hooks polling _).bind fun failure => ?_
  cases failure with
  | some error => exact .of_same (fun _ => rfl) (fun _ => nofun)
  | none => exact runBlocks_heeds hooks polling _

/-- A record that is no block reports a failure at once, and nothing else happens. -/
theorem runBlock_of_invalid {record : Datum} {fault : BlockFault}
    (invalid : Block.read record = .error fault) (before : Run World) :
    runBlock hooks polling record before =
      (.ok .failed, { before with blocks := before.blocks.push (fault.report record) }) := by
  have content : blockContent hooks polling record = fail (.invalidBlock fault) := by
    unfold blockContent
    rw [invalid]
  have reported : reporting record (fail (.invalidBlock fault)) before =
      (.ok .failed, { before with
        blocks := before.blocks.push
          { fault.report record with durationMs := before.now - before.now } }) := rfl
  rw [runBlock_eq, content, reported, Nat.sub_self]
  rfl

end Top

end Runner

end Autopilot
