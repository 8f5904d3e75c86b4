import Autopilot.Proofs.Sequence.Parts

/-!
Properties of runs that parts lead to, and invariants that they keep. A failure may
become a result further out, so it has to keep an invariant as well; of a part that is
cancelled, or that still waits at a gate, something else may hold, for nothing follows
it. An invariant that steps keep, and that what a block does by itself keeps, is kept
by every block.
-/

namespace Autopilot

/-- The run with one more step reported. -/
def Run.reported {World : Type} (run : Run World) (result : StepResult) : Run World :=
  { run with steps := run.steps.push result }

/-- Acts of waiting: for a delay, for a gate, for a condition. -/
def Act.isWaiting : Act → Bool
  | .slept _ | .gateAsked _ | .gateAnswered _ | .conditionAsked _ | .conditionAnswered _ => true
  | _ => false

/-- Acts of a block by itself: it waits, and it begins passes and items. -/
def Act.isIncidental : Act → Bool
  | .head | .item => true
  | act => act.isWaiting

/-- What the journal of a run lists. -/
def Run.acts {World : Type} (run : Run World) : List Act := run.journal.toList.map (·.act)

@[simp] theorem Run.acts_noted {World : Type} (run : Run World) (act : Act) :
    (run.noted act).acts = run.acts ++ [act] := by
  simp only [acts, noted, Array.toList_push, List.map_append, List.map_cons, List.map_nil]

/-- What entries tell of the beginnings of steps, items, passes and blocks, in order. -/
def Entry.begun (entries : List Entry) : List Act := (entries.map (·.act)).filter (·.isBeginning)

theorem Entry.begun_append (earlier later : List Entry) :
    begun (earlier ++ later) = begun earlier ++ begun later := by
  simp only [begun, List.map_append, List.filter_append]

theorem Entry.begun_eq {World : Type} (run : Run World) :
    begun run.journal.toList = run.acts.filter (·.isBeginning) := rfl

/-- The run began this step last. -/
def Run.Current {World : Type} (step : Step) (run : Run World) : Prop :=
  (Entry.begun run.journal.toList).getLast? = some (.step step.commandId)

theorem Run.current_noted {World : Type} (run : Run World) (step : Step) :
    (run.noted (.step step.commandId)).Current step := by
  simp [Current, Entry.begun_eq, Act.isBeginning]

/-- The last entry of the run is the beginning of this step. -/
def Run.Begun {World : Type} (step : Step) (run : Run World) : Prop :=
  ∃ entry, run.journal.toList.getLast? = some entry ∧ entry.act = .step step.commandId

theorem Run.begun_noted {World : Type} (run : Run World) (step : Step) :
    (run.noted (.step step.commandId)).Begun step := by
  refine ⟨⟨run.now, run.cancelled, .step step.commandId⟩, ?_, rfl⟩
  rw [noted, Array.toList_push, List.getLast?_concat]

theorem Run.Begun.current {World : Type} {step : Step} {run : Run World} (begun : run.Begun step) :
    run.Current step := by
  obtain ⟨entry, last, begins⟩ := begun
  obtain ⟨earlier, journal⟩ := List.getLast?_eq_some_iff.1 last
  simp [Current, Entry.begun, journal, begins, Act.isBeginning]

/-- The run after a call and its answer, both noted. -/
def Run.consulted {World α : Type} (run : Run World) (asked : Act) (reply : Reply World α)
    (answered : Act) : Run World :=
  ((run.noted asked).replied reply).noted answered

@[simp] theorem Run.acts_replied {World α : Type} (run : Run World) (reply : Reply World α) :
    (run.replied reply).acts = run.acts := rfl

namespace Runner

variable {World α β : Type}

/-- What a part leads to from a run with `P`: it ends with `Q`, or it halts with `E`. -/
def Leads (P : Run World → Prop) (part : Runner World α) (Q : α → Run World → Prop)
    (E : Halt → Run World → Prop) : Prop :=
  ∀ run, P run → match part run with
    | (.ok value, after) => Q value after
    | (.error halt, after) => E halt after

section Leads

variable {P P' : Run World → Prop} {Q Q' : α → Run World → Prop} {R : β → Run World → Prop}
  {E E' : Halt → Run World → Prop} {part other : Runner World α} {next : α → Runner World β}

theorem Leads.ended (leads : Leads P part Q E) {run after : Run World} {value : α} (holds : P run)
    (ended : part run = (.ok value, after)) : Q value after := by
  have told := leads run holds
  rwa [ended] at told

theorem Leads.halted (leads : Leads P part Q E) {run after : Run World} {halt : Halt}
    (holds : P run) (halted : part run = (.error halt, after)) : E halt after := by
  have told := leads run holds
  rwa [halted] at told

theorem Leads.bind (first : Leads P part Q E) (later : ∀ value, Leads (Q value) (next value) R E) :
    Leads P (part >>= next) R E := by
  intro run holds
  rcases began : part run with ⟨halt | value, middle⟩
  · rw [bind_of_halt began]
    exact first.halted holds began
  · rw [bind_of_ok began]
    exact later value middle (first.ended holds began)

theorem Leads.ite {condition : Prop} [Decidable condition]
    (first : condition → Leads P part Q E) (second : ¬condition → Leads P other Q E) :
    Leads P (if condition then part else other) Q E := by
  by_cases holds : condition
  · simpa only [if_pos holds] using first holds
  · simpa only [if_neg holds] using second holds

theorem Leads.weaken (leads : Leads P part Q E) (before : ∀ run, P' run → P run)
    (after : ∀ value run, Q value run → Q' value run) (halts : ∀ halt run, E halt run → E' halt run) :
    Leads P' part Q' E' := by
  intro run holds
  rcases ended : part run with ⟨halt | value, final⟩
  · exact halts halt final (leads.halted (before run holds) ended)
  · exact after value final (leads.ended (before run holds) ended)

theorem Leads.and {F F' : Halt → Run World → Prop} (leads : Leads P part Q F)
    (also : Leads P' part Q' F') :
    Leads (fun run => P run ∧ P' run) part (fun value run => Q value run ∧ Q' value run) F := by
  intro run holds
  rcases ended : part run with ⟨halt | value, final⟩
  · exact leads.halted holds.1 ended
  · exact ⟨leads.ended holds.1 ended, also.ended holds.2 ended⟩

/-- A question leads where its answers lead. -/
theorem ask_leads {ε : Type} {asked : Act} {answered : Except ε α → Act} {asError : ε → RunError}
    {question : World → Reply World (Except ε α)}
    (tells : ∀ run value, P run → (question run.world).answer = .ok value →
      Q value (run.consulted asked (question run.world) (answered (.ok value))))
    (fails : ∀ run error, P run → (question run.world).answer = .error error →
      E (.failed (asError error)) (run.consulted asked (question run.world)
        (answered (.error error)))) :
    Leads P (ask asked answered asError question) Q E := by
  intro run holds
  rw [ask_apply]
  cases answer : (question run.world).answer with
  | ok value => exact tells run value holds answer
  | error error => exact fails run error holds answer

/-- What a question was answered when it ends well. -/
theorem ask_ended {ε : Type} {asked : Act} {answered : Except ε α → Act} {asError : ε → RunError}
    {question : World → Reply World (Except ε α)} {run after : Run World} {value : α}
    (ended : ask asked answered asError question run = (.ok value, after)) :
    (question run.world).answer = .ok value ∧
      after = run.consulted asked (question run.world) (answered (.ok value)) := by
  rw [ask_apply] at ended
  cases answer : (question run.world).answer with
  | error error =>
    rw [answer] at ended
    cases ended
  | ok other =>
    rw [answer] at ended
    cases ended
    exact ⟨rfl, rfl⟩

/-- An attempt halts with what no result is made of. -/
theorem Leads.attempt_final (leads : Leads P part Q E) :
    Leads P (attempt part) (fun outcome run => match outcome with
      | .ok value => Q value run
      | .error error => (Halt.failed error).settled? = some error ∧ E (.failed error) run)
      (fun halt run => halt.settled? = none ∧ E halt run) := by
  intro run holds
  rcases attempt_cases part run with ⟨value, after, went, tried⟩ | ⟨error, after, went, settled, tried⟩ |
    ⟨halt, after, went, final, tried⟩
  · rw [tried]
    exact leads.ended holds went
  · rw [tried]
    exact ⟨settled, leads.halted holds went⟩
  · rw [tried]
    exact ⟨final, leads.halted holds went⟩

/-- Where an attempt ends with an error, the part halted with it. -/
theorem Leads.attempt (leads : Leads P part Q E) :
    Leads P (attempt part) (fun outcome run => match outcome with
      | .ok value => Q value run
      | .error error => (Halt.failed error).settled? = some error ∧ E (.failed error) run) E :=
  leads.attempt_final.weaken (fun _ holds => holds) (fun _ _ ended => ended) fun _ _ halted => halted.2

/-- What goes on after a look at the flag goes on in a run that is not cancelled. -/
theorem checkCancel_going (stopped : ∀ run, P run → run.cancelled = true → E (.failed .cancelled) run) :
    Leads P checkCancel (fun _ run => P run ∧ run.cancelled = false) E := by
  intro run holds
  cases cancelled : run.cancelled with
  | true =>
    rw [checkCancel_of_cancelled cancelled]
    exact stopped run holds cancelled
  | false =>
    rw [checkCancel_of_going cancelled]
    exact ⟨holds, cancelled⟩

/-- A step begins, draws its delay and sleeps it out, and is then performed. -/
theorem runStep_leads_past {hooks : Hooks World} {polling : Polling} {step : Step}
    {B B' : Run World → Prop} {S : StepResult → Run World → Prop}
    (stopped : ∀ run, P run → run.cancelled = true → E (.failed .cancelled) run)
    (begun : ∀ run, P run → run.cancelled = false → B (run.noted (.step step.commandId)))
    (draws : Leads B (drawDelay hooks step) (fun _ => B) E) (prompt : ∀ run, B run → B' run)
    (slept : ∀ ms : Nat, Leads B (pause hooks ms) (fun _ => B') E)
    (performed : ∀ delayMs, Leads B' (performStep hooks polling step delayMs) S E) :
    Leads P (runStep hooks polling step) S E := by
  apply (checkCancel_going stopped).bind
  intro _
  have noted : Leads (fun run => P run ∧ run.cancelled = false)
      (note (.step step.commandId) : Runner World Unit) (fun _ => B) E :=
    fun run going => begun run going.1 going.2
  apply noted.bind
  intro _
  apply draws.bind
  intro delayMs
  apply Leads.ite
  · exact fun _ => (slept delayMs).bind fun _ => performed delayMs
  · exact fun _ => (performed delayMs).weaken prompt (fun _ _ ended => ended) fun _ _ halted => halted

/-- A step, where its delay leaves as it is what holds when it has begun. -/
theorem runStep_leads_by {hooks : Hooks World} {polling : Polling} {step : Step}
    {B : Run World → Prop} {S : StepResult → Run World → Prop}
    (stopped : ∀ run, P run → run.cancelled = true → E (.failed .cancelled) run)
    (begun : ∀ run, P run → run.cancelled = false → B (run.noted (.step step.commandId)))
    (draws : Leads B (drawDelay hooks step) (fun _ => B) E)
    (slept : ∀ ms : Nat, Leads B (pause hooks ms) (fun _ => B) E)
    (performed : ∀ delayMs, Leads B (performStep hooks polling step delayMs) S E) :
    Leads P (runStep hooks polling step) S E :=
  runStep_leads_past stopped begun draws (fun _ holds => holds) slept performed

/-- A step, where it does not matter what drawing its delay does to the world. -/
theorem runStep_leads_of {hooks : Hooks World} {polling : Polling} {step : Step}
    {B : Run World → Prop} {S : StepResult → Run World → Prop}
    (stopped : ∀ run, P run → run.cancelled = true → E (.failed .cancelled) run)
    (begun : ∀ run, P run → run.cancelled = false → B (run.noted (.step step.commandId)))
    (drawn : ∀ (run : Run World) (world : World), B run → B { run with world })
    (slept : ∀ ms : Nat, Leads B (pause hooks ms) (fun _ => B) E)
    (performed : ∀ delayMs, Leads B (performStep hooks polling step delayMs) S E) :
    Leads P (runStep hooks polling step) S E := by
  apply runStep_leads_by stopped begun _ slept performed
  intro run holds
  obtain ⟨world, same⟩ := drawDelay_cases hooks step run
  rw [same]
  exact drawn run world holds

end Leads

/-! ## Invariants -/

/-- What holds where a part halts that keeps an invariant. -/
def Halting (I : Run World → Prop) (cut : Halt → Run World → Prop) (halt : Halt)
    (run : Run World) : Prop :=
  match halt.settled? with
  | some _ => I run
  | none => cut halt run

theorem Halting.of_failed {I : Run World → Prop} {cut : Halt → Run World → Prop} {error : RunError}
    {run : Run World} (other : error ≠ .cancelled) (holds : I run) :
    Halting I cut (.failed error) run := by
  cases error <;> first | exact holds | exact absurd rfl other

theorem Halting.of_settled {I : Run World → Prop} {cut : Halt → Run World → Prop} {error : RunError}
    {run : Run World} (settled : (Halt.failed error).settled? = some error)
    (holds : Halting I cut (.failed error) run) : I run := by
  unfold Halting at holds
  rwa [settled] at holds

theorem Halting.cut {I : Run World → Prop} {cut : Halt → Run World → Prop} {halt : Halt}
    {run : Run World} (final : halt.settled? = none) (holds : Halting I cut halt run) :
    cut halt run := by
  unfold Halting at holds
  rwa [final] at holds

theorem Halting.of_cut {I : Run World → Prop} {cut : Halt → Run World → Prop} {halt : Halt}
    {run : Run World} (final : halt.settled? = none) (holds : cut halt run) :
    Halting I cut halt run := by
  unfold Halting
  rwa [final]

theorem Halting.of_holds {I : Run World → Prop} {halt : Halt} {run : Run World} (holds : I run) :
    Halting I (fun _ _ => True) halt run := by
  unfold Halting
  cases halt.settled? with
  | none => trivial
  | some error => exact holds

/-- A part that keeps an invariant, and leaves something else behind where it is cut off. -/
def Keeps (I : Run World → Prop) (cut : Halt → Run World → Prop) (part : Runner World α) : Prop :=
  Leads I part (fun _ => I) (Halting I cut)

section Keeps

variable {I : Run World → Prop} {cut : Halt → Run World → Prop} {hooks : Hooks World}
  {polling : Polling}

theorem pure_keeps (value : α) : Keeps I cut (pure value : Runner World α) := fun _ holds => holds

theorem Keeps.attempt {part : Runner World α} (keeps : Keeps I cut part) :
    Keeps I cut (Runner.attempt part) := by
  apply (Leads.attempt keeps).weaken (fun _ holds => holds) _ fun _ _ halted => halted
  intro outcome run told
  cases outcome with
  | ok value => exact told
  | error error => exact told.2.of_settled told.1

/-- A report of a step, and the failure of the body that may follow it. -/
theorem settleStep_leads (result : StepResult) :
    Leads (fun run => I (run.reported result)) (settleStep result) (fun _ => I)
      (Halting I cut) := by
  intro run holds
  rw [settleStep_apply]
  cases result.isFailed with
  | true => exact Halting.of_failed nofun holds
  | false => exact holds

theorem settleBlock_keeps (record : Datum) (status : BlockStatus) :
    Keeps I cut (settleBlock record status) := by
  intro run holds
  rw [settleBlock_apply]
  by_cases failed : status = .failed
  · rw [if_pos failed]
    exact Halting.of_failed nofun holds
  · rw [if_neg failed]
    exact holds

/-- An invariant that neither looks at counters nor at blocks survives their reports. -/
theorem reporting_keeps (loose : ∀ (run : Run World) (tally : Tally) (blocks : Array BlockResult),
      I run → I { run with tally, blocks }) {content : Runner World BlockStatus}
    (inner : Keeps I cut content) (record : Datum) : Keeps I cut (reporting record content) := by
  intro before holds
  have opened : I before.opened := loose before {} before.blocks holds
  rcases reporting_cases record content before with ⟨outcome, after, tried, same⟩ |
    ⟨halt, after, tried, same⟩
  · have kept := inner.attempt.ended opened tried
    rw [same]
    exact loose after _ _ kept
  · rw [same]
    exact inner.attempt.halted opened tried

variable (loose : ∀ (run : Run World) (tally : Tally) (blocks : Array BlockResult),
    I run → I { run with tally, blocks })
  (stopped : ∀ run, I run → run.cancelled = true → cut (.failed .cancelled) run)
  (resting : ∀ ms : Nat, Keeps I cut (pause hooks ms)) {mayAsk : Condition → Prop}
  (asking : ∀ {evaluator : Condition → World → Reply World (Except ConditionError Bool)},
    hooks.condition = some evaluator → ∀ condition, mayAsk condition →
      Keeps I cut (evaluate evaluator condition))

include stopped in
theorem checkCancel_leads :
    Leads I checkCancel (fun _ run => I run ∧ run.cancelled = false) (Halting I cut) :=
  checkCancel_going stopped

include stopped in
/-- What is only begun in a run that goes on. -/
theorem begin_keeps {act : Act} (noted : ∀ run, I run → run.cancelled = false → I (run.noted act)) :
    Keeps I cut (do checkCancel; note act) := by
  apply (checkCancel_leads stopped).bind
  intro _ run going
  exact noted run going.1 going.2

include stopped resting asking

theorem Keeps.composes (counting : ∀ (run : Run World) (tally : Tally), I run → I { run with tally }) :
    Composes hooks (fun {_} part => Keeps I cut (part ())) mayAsk where
  pure := pure_keeps
  bind := Leads.bind
  clock _ holds := holds
  fail _ other _ holds := Halting.of_failed other holds
  checkCancel := (checkCancel_leads stopped).weaken (fun _ holds => holds)
    (fun _ _ going => going.1) fun _ _ halted => halted
  count f run holds := counting run (f run.tally) holds
  pause := resting
  evaluate := asking

include loose

/-- Invariants of blocks: beside resting and asking, only what is begun counts, and the
steps, each with its report. -/
theorem runBlock_keeps (head : ∀ run, I run → run.cancelled = false → I (run.noted .head))
    (item : ∀ run, I run → run.cancelled = false → I (run.noted .item)) (record : Datum)
    (asked : ∀ {d : Datum} {block : Block Datum}, Block.read d = .ok block →
      ∀ c ∈ block.conditions, mayAsk c)
    (steps : ∀ step, Block.Holds record step → Leads I (runStep hooks polling step)
      (fun result run => I (run.reported result)) (Halting I cut)) :
    Keeps I cut (runBlock hooks polling record) := by
  have closed := Keeps.composes stopped resting asking fun run tally => loose run tally run.blocks
  rw [runBlock_eq]
  apply reporting_keeps loose
  apply blockContent_composes closed (begin_keeps stopped head) (begin_keeps stopped item)
    (fun _ => polling) record asked
  · intro step held
    exact (steps step held).bind settleStep_leads
  · intro inner content keeps
    exact (reporting_keeps loose keeps inner).bind fun status => settleBlock_keeps inner status

end Keeps

/-! ## Invariants of steps -/

/-- An invariant that looks at the steps only, and at what the journal tells of them. -/
structure Lasting (I : Run World → Prop) : Prop where
  loose : ∀ (run : Run World) (world : World) (now : Nat) (cancelled : Bool) (tally : Tally)
    (blocks : Array BlockResult), I run → I { run with world, now, cancelled, tally, blocks }
  noted : ∀ (run : Run World) {act : Act}, act.isIncidental = true → I run → I (run.noted act)

section Lasting

variable {I : Run World → Prop} {hooks : Hooks World} {polling : Polling} (lasting : Lasting I)

include lasting

theorem Lasting.replied {run : Run World} (holds : I run) (reply : Reply World α) :
    I (run.replied reply) :=
  lasting.loose run _ _ _ run.tally run.blocks holds

theorem Lasting.pause_keeps (ms : Nat) : Keeps I (fun _ _ => True) (pause hooks ms) := by
  intro run holds
  rcases pause_cases hooks ms run with ⟨_, same⟩ | ⟨_, _, same⟩ | ⟨_, early, _, same⟩ | ⟨_, _, same⟩
  all_goals rw [same]
  · exact .of_cut rfl trivial
  · exact holds
  · exact .of_cut rfl trivial
  · exact lasting.noted _ rfl (lasting.loose run _ _ _ run.tally run.blocks holds)

theorem Lasting.evaluate_keeps
    (evaluator : Condition → World → Reply World (Except ConditionError Bool))
    (condition : Condition) : Keeps I (fun _ _ => True) (evaluate evaluator condition) := by
  have after {run : Run World} (holds : I run) (answer : Except ConditionError Bool)
      (reply : Reply World (Except ConditionError Bool)) :
      I (run.consulted (.conditionAsked condition) reply (.conditionAnswered answer)) :=
    lasting.noted _ rfl (lasting.replied (lasting.noted _ rfl holds) reply)
  apply ask_leads
  · intro run value holds _
    exact after holds _ _
  · intro run error holds _
    exact .of_holds (after holds _ _)

/-- What a block adds to its steps does not matter for the invariant. -/
theorem Lasting.runBlock_keeps (record : Datum)
    (steps : ∀ step, Block.Holds record step → Leads I (runStep hooks polling step)
      (fun result run => I (run.reported result)) (Halting I fun _ _ => True)) :
    Keeps I (fun _ _ => True) (runBlock hooks polling record) := by
  apply Runner.runBlock_keeps (fun run tally blocks => lasting.loose run _ _ _ tally blocks)
    (fun _ _ _ => trivial) lasting.pause_keeps fun _ condition _ => lasting.evaluate_keeps _ condition
  · exact fun run holds _ => lasting.noted run rfl holds
  · exact fun run holds _ => lasting.noted run rfl holds
  · exact fun _ _ _ => trivial
  · exact steps

end Lasting

/-! ## Waiting -/

/-- A part that adds nothing to the journal but what it waited for. -/
def Waits (part : Runner World α) : Prop :=
  ∀ run, ∃ waits, (part run).2.acts = run.acts ++ waits ∧ ∀ act ∈ waits, act.isWaiting = true

section Waits

variable {hooks : Hooks World}

theorem Waits.of_same {part : Runner World α} (same : ∀ run, (part run).2.acts = run.acts) :
    Waits part := by
  intro run
  exact ⟨[], by rw [same, List.append_nil], List.forall_mem_nil _⟩

theorem Waits.bind {part : Runner World α} {next : α → Runner World β} (first : Waits part)
    (later : ∀ value, Waits (next value)) : Waits (part >>= next) := by
  intro run
  obtain ⟨waits, added, known⟩ := first run
  rcases ended : part run with ⟨halt | value, middle⟩
  · rw [bind_of_halt ended]
    rw [ended] at added
    exact ⟨waits, added, known⟩
  · rw [bind_of_ok ended]
    rw [ended] at added
    obtain ⟨more, addedMore, knownMore⟩ := later value middle
    refine ⟨waits ++ more, by rw [addedMore, added, List.append_assoc], ?_⟩
    exact List.forall_mem_append.2 ⟨known, knownMore⟩

theorem ask_waits {ε : Type} {asked : Act} {answered : Except ε α → Act} {asError : ε → RunError}
    (question : World → Reply World (Except ε α)) (call : asked.isWaiting = true)
    (reply : ∀ answer, (answered answer).isWaiting = true) :
    Waits (ask asked answered asError question) := by
  intro run
  refine ⟨[asked, answered (question run.world).answer], ?_, ?_⟩
  · simp only [ask_apply, Run.acts_noted, Run.acts_replied, List.append_assoc, List.cons_append,
      List.nil_append]
  · rw [List.forall_mem_cons, List.forall_mem_singleton]
    exact ⟨call, reply _⟩

theorem pause_waits (ms : Nat) : Waits (pause hooks ms) := by
  intro run
  have quiet (same : (pause hooks ms run).2.acts = run.acts) :
      ∃ waits, (pause hooks ms run).2.acts = run.acts ++ waits ∧
        ∀ act ∈ waits, act.isWaiting = true := ⟨[], by rw [same, List.append_nil], List.forall_mem_nil _⟩
  rcases pause_cases hooks ms run with ⟨_, same⟩ | ⟨_, _, same⟩ | ⟨_, _, _, same⟩ | ⟨_, _, same⟩
  · exact quiet (by rw [same])
  · exact quiet (by rw [same])
  · exact quiet (by rw [same]; rfl)
  · refine ⟨[.slept ms], by rw [same, Run.acts_noted]; rfl, ?_⟩
    rw [List.forall_mem_singleton]
    rfl

theorem Waits.composes : Composes hooks fun {_} part => Waits (part ()) where
  pure _ := .of_same fun _ => rfl
  bind := .bind
  clock := .of_same fun _ => rfl
  fail _ _ := .of_same fun _ => rfl
  checkCancel := .of_same fun run => congrArg Run.acts (checkCancel_same run)
  count _ := .of_same fun _ => rfl
  pause := pause_waits
  evaluate _ _ _ := ask_waits _ rfl fun _ => rfl

theorem passGate_waits (polling : Polling) (step : Step) : Waits (passGate hooks polling step) :=
  passGate_composes Waits.composes (.of_same fun _ => rfl)
    (fun _ _ => ask_waits _ rfl fun _ => rfl) polling step fun _ _ _ => trivial

/-- Waiting begins nothing. -/
theorem Waits.current {part : Runner World α} (waits : Waits part) {step : Step} {run : Run World}
    (current : run.Current step) : (part run).2.Current step := by
  obtain ⟨added, acts, waiting⟩ := waits run
  have nothing : added.filter (·.isBeginning) = [] := by
    rw [List.filter_eq_nil_iff]
    intro act member begins
    have waits := waiting act member
    cases act <;> simp [Act.isWaiting, Act.isBeginning] at waits begins
  unfold Run.Current at current ⊢
  rw [Entry.begun_eq] at current ⊢
  rwa [acts, List.filter_append, nothing, List.append_nil]

theorem Waits.current_leads {part : Runner World α} (waits : Waits part) (step : Step) :
    Leads (Run.Current step) part (fun _ => Run.Current step) (fun _ => Run.Current step) := by
  intro run current
  have still := waits.current current
  rcases ended : part run with ⟨halt | value, after⟩
  all_goals rw [ended] at still
  all_goals exact still

end Waits

/-! ## Steps and blocks at the top -/

section Top

variable {I : Run World → Prop} {cut : Halt → Run World → Prop} {hooks : Hooks World}
  {polling : Polling}

theorem runSteps_keeps {list : List Step}
    (steps : ∀ step ∈ list, Leads I (runStep hooks polling step)
      (fun result run => I (run.reported result)) (Halting I cut)) :
    Keeps I cut (runSteps hooks polling list) := by
  induction list with
  | nil => exact pure_keeps none
  | cons step rest ih =>
    apply (steps step List.mem_cons_self).bind
    intro result
    have told : Leads (fun run => I (run.reported result)) (report result : Runner World Unit)
        (fun _ => I) (Halting I cut) := fun _ holds => holds
    apply told.bind
    intro _
    apply Leads.ite
    · exact fun _ => pure_keeps _
    · exact fun _ => ih fun other later => steps other (List.mem_cons_of_mem _ later)

theorem runBlocks_keeps (stopped : ∀ run, I run → run.cancelled = true → cut (.failed .cancelled) run)
    (begun : ∀ run, I run → run.cancelled = false → I (run.noted .block)) {records : List Datum}
    (blocks : ∀ record ∈ records, Keeps I cut (runBlock hooks polling record)) :
    Keeps I cut (runBlocks hooks polling records) := by
  induction records with
  | nil => exact pure_keeps none
  | cons record rest ih =>
    apply (checkCancel_leads stopped).bind
    intro _
    have noted : Leads (fun run => I run ∧ run.cancelled = false)
        (note .block : Runner World Unit) (fun _ => I) (Halting I cut) :=
      fun run going => begun run going.1 going.2
    apply noted.bind
    intro _
    apply (blocks record List.mem_cons_self).bind
    intro status
    have looked : Keeps I cut (get : Runner World (Run World)) := fun _ holds => holds
    apply looked.bind
    intro run
    apply Leads.bind (ih fun other later => blocks other (List.mem_cons_of_mem _ later))
    exact fun later => pure_keeps _

end Top

end Runner

end Autopilot
