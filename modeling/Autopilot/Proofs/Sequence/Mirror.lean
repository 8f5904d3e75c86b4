import Autopilot.Proofs.Sequence.Parts

/-!
Loops that wait for opposite things. Whether a target is there or gone is judged by one
measurement, so a loop that goes on while a condition holds does what a loop does that
goes on until the opposite holds. The second counts a pass before it looks at its head and
takes it back there, which makes no difference as long as no measurement fails. The two
runs need not be equal, since the collaborators may keep a record of what they were asked;
it is enough that their answers do not depend on it.
-/

namespace Autopilot

def Mode.opposite : Mode → Mode
  | .present => .absent
  | .absent => .present

namespace Condition

/-- The condition that a target is gone in place of there, or there in place of gone. -/
def opposite (c : Condition) : Condition := { c with mode := c.mode.opposite }

theorem satisfiedBy_opposite (c : Condition) (m : Measure) :
    c.opposite.satisfiedBy m = !c.satisfiedBy m := by
  have same : c.opposite.meets m = c.meets m := rfl
  have mode : c.opposite.mode = c.mode.opposite := rfl
  unfold satisfiedBy
  rw [same, mode]
  cases c.mode <;> simp [Mode.opposite]

/-- The answer on a condition by what was measured for it. -/
def judged {World : Type} (c : Condition) (reply : Reply World (Except ConditionError Measure)) :
    Reply World (Except ConditionError Bool) :=
  { reply with answer := reply.answer.map c.satisfiedBy }

end Condition

/-- Replies that can be told apart by the worlds only in which they leave the collaborators. -/
structure Reply.Agrees {World α : Type} (alike : World → World → Prop) (reply other : Reply World α) :
    Prop where
  answer : other.answer = reply.answer
  elapsed : other.elapsed = reply.elapsed
  cancels : other.cancels = reply.cancels
  world : alike reply.world other.world

/-- Rests that can be told apart by the worlds only in which they leave the collaborators. -/
structure Rest.Agrees {World : Type} (alike : World → World → Prop) (rest other : Rest World) :
    Prop where
  cancelledAfter : other.cancelledAfter = rest.cancelledAfter
  overslept : other.overslept = rest.overslept
  world : alike rest.world other.world

/-- Collaborators that answer for conditions by measuring them. No measurement fails, and none
depends on whether its target is to be there or to be gone; `alike` are worlds in which the
collaborators do the same. -/
structure Hooks.Measures {World : Type} (hooks : Hooks World)
    (measure : Condition → World → Reply World (Except ConditionError Measure))
    (alike : World → World → Prop) : Prop where
  judges : hooks.condition = some fun c world => c.judged (measure c world)
  succeeds : ∀ c world, ∃ m, (measure c world).answer = .ok m
  refl : ∀ world, alike world world
  measured : ∀ {world other}, alike world other → ∀ c mode,
    (measure c world).Agrees alike (measure { c with mode } other)
  command : ∀ {world other}, alike world other → ∀ id,
    (hooks.command id world).Agrees alike (hooks.command id other)
  gate : ∀ {world other}, alike world other → ∀ {decide}, hooks.gate = some decide → ∀ step,
    (decide step world).Agrees alike (decide step other)
  rest : ∀ {world other}, alike world other → ∀ ms,
    (hooks.rest ms world).Agrees alike (hooks.rest ms other)
  random : ∀ {world other}, alike world other →
    (hooks.random other).1 = (hooks.random world).1 ∧
      alike (hooks.random world).2 (hooks.random other).2

/-- Journals of two runs that began with one journal. They tell the same, but that the second
asked for the opposite where the first asked for the condition, and heard the opposite. -/
inductive Mirrored (c : Condition) : Array Entry → Array Entry → Prop where
  | refl (journal : Array Entry) : Mirrored c journal journal
  | same {journal mirror : Array Entry} (before : Mirrored c journal mirror) (entry : Entry) :
      Mirrored c (journal.push entry) (mirror.push entry)
  | opposite {journal mirror : Array Entry} (before : Mirrored c journal mirror)
      (asked answered : Nat) (cancelled struck holds : Bool) :
      Mirrored c
        ((journal.push ⟨asked, cancelled, .conditionAsked c⟩).push
          ⟨answered, struck, .conditionAnswered (.ok holds)⟩)
        ((mirror.push ⟨asked, cancelled, .conditionAsked c.opposite⟩).push
          ⟨answered, struck, .conditionAnswered (.ok !holds)⟩)

/-- Two runs at the same point, of which one asks for the opposite of what the other asks for. -/
structure Run.Mirrors {World : Type} (alike : World → World → Prop) (c : Condition)
    (run mirror : Run World) : Prop where
  world : alike run.world mirror.world
  now : mirror.now = run.now
  cancelled : mirror.cancelled = run.cancelled
  tally : mirror.tally = run.tally
  steps : mirror.steps = run.steps
  blocks : mirror.blocks = run.blocks
  journal : Mirrored c run.journal mirror.journal

namespace Run

variable {World : Type}

/-- The run with another count of passes. -/
def recounted (run : Run World) (f : UInt32 → UInt32) : Run World :=
  { run with tally := { run.tally with iterations := f run.tally.iterations } }

/-- The run with one more check counted. -/
def checked (run : Run World) : Run World :=
  { run with
    tally := { run.tally with conditionsEvaluated := run.tally.conditionsEvaluated + 1 } }

/-- A pass that is counted and taken back leaves no trace. -/
theorem recounted_back (run : Run World) : (run.recounted (· + 1)).recounted (· - 1) = run := by
  simp only [recounted, UInt32.add_sub_cancel]

end Run

namespace Run.Mirrors

variable {World α : Type} {alike : World → World → Prop} {c : Condition} {run mirror : Run World}
  (mirrors : run.Mirrors alike c mirror)

include mirrors

theorem noted (act : Act) : (run.noted act).Mirrors alike c (mirror.noted act) where
  world := mirrors.world
  now := mirrors.now
  cancelled := mirrors.cancelled
  tally := mirrors.tally
  steps := mirrors.steps
  blocks := mirrors.blocks
  journal := by
    simp only [Run.noted, mirrors.now, mirrors.cancelled]
    exact mirrors.journal.same _

theorem replied {reply other : Reply World α} (agrees : reply.Agrees alike other) :
    (run.replied reply).Mirrors alike c (mirror.replied other) where
  world := agrees.world
  now := by simp only [Run.replied, mirrors.now, agrees.elapsed]
  cancelled := by simp only [Run.replied, mirrors.cancelled, agrees.cancels]
  tally := mirrors.tally
  steps := mirrors.steps
  blocks := mirrors.blocks
  journal := mirrors.journal

theorem moved {world other : World} (same : alike world other) {now later : Nat}
    (time : later = now) {cancelled struck : Bool} (flag : struck = cancelled) :
    ({ run with world, now, cancelled } : Run World).Mirrors alike c
      { mirror with world := other, now := later, cancelled := struck } where
  world := same
  now := time
  cancelled := flag
  tally := mirrors.tally
  steps := mirrors.steps
  blocks := mirrors.blocks
  journal := mirrors.journal

theorem counted (f : Tally → Tally) :
    ({ run with tally := f run.tally } : Run World).Mirrors alike c
      { mirror with tally := f mirror.tally } :=
  { mirrors with tally := congrArg f mirrors.tally }

theorem reported (result : StepResult) :
    ({ run with steps := run.steps.push result } : Run World).Mirrors alike c
      { mirror with steps := mirror.steps.push result } :=
  { mirrors with steps := by simp only [mirrors.steps] }

theorem opened : run.opened.Mirrors alike c mirror.opened := { mirrors with tally := rfl }

theorem closed {after reflected : Run World} (later : after.Mirrors alike c reflected)
    (result : BlockResult) :
    (run.closed after result).Mirrors alike c (mirror.closed reflected result) :=
  { later with
    tally := mirrors.tally
    blocks := by simp only [Run.closed, later.blocks] }

/-- A check of the condition in one run, and of its opposite in the other. -/
theorem opposed {reply other : Reply World (Except ConditionError Bool)} {holds : Bool}
    (said : reply.answer = .ok holds) (denied : other.answer = .ok !holds)
    (elapsed : other.elapsed = reply.elapsed) (cancels : other.cancels = reply.cancels)
    (world : alike reply.world other.world) :
    (((run.checked.noted (.conditionAsked c)).replied reply).noted
        (.conditionAnswered reply.answer)).Mirrors alike c
      (((mirror.checked.noted (.conditionAsked c.opposite)).replied other).noted
        (.conditionAnswered other.answer)) where
  world := world
  now := by simp only [Run.noted, Run.replied, Run.checked, mirrors.now, elapsed]
  cancelled := by simp only [Run.noted, Run.replied, Run.checked, mirrors.cancelled, cancels]
  tally := by simp only [Run.noted, Run.replied, Run.checked, mirrors.tally]
  steps := mirrors.steps
  blocks := mirrors.blocks
  journal := by
    simp only [Run.noted, Run.replied, Run.checked, said, denied, elapsed, cancels, mirrors.now,
      mirrors.cancelled]
    exact mirrors.journal.opposite _ _ _ _ holds

/-- Two blocks that end in runs at the same point report the same, but for their names. -/
theorem blockResult_eq (record other : Datum) (started : Nat) (outcome : Except RunError BlockStatus) :
    Runner.blockResult other started mirror outcome =
      { Runner.blockResult record started run outcome with blockType := Block.typeName other } := by
  unfold Runner.blockResult
  rw [mirrors.now, mirrors.tally]

end Run.Mirrors

namespace Runner

variable {World α β : Type} {hooks : Hooks World} {polling : Polling} {c : Condition}
  {measure : Condition → World → Reply World (Except ConditionError Measure)}
  {alike : World → World → Prop}

/-- Parts that do the same in two runs at the same point, up to the condition that the second asks
for in the opposite way. -/
def Reflects (alike : World → World → Prop) (c : Condition) (part other : Runner World α) : Prop :=
  ∀ run mirror : Run World, run.Mirrors alike c mirror →
    (other mirror).1 = (part run).1 ∧ (part run).2.Mirrors alike c (other mirror).2

namespace Reflects

theorem bind {part other : Runner World α} {next later : α → Runner World β}
    (first : Reflects alike c part other)
    (rest : ∀ value, Reflects alike c (next value) (later value)) :
    Reflects alike c (part >>= next) (other >>= later) := by
  intro run mirror mirrors
  obtain ⟨same, left⟩ := first run mirror mirrors
  rcases ended : part run with ⟨outcome, after⟩
  rcases began : other mirror with ⟨reflected, last⟩
  rw [ended, began] at same left
  obtain rfl : reflected = outcome := same
  cases reflected with
  | error halt =>
    rw [bind_of_halt ended, bind_of_halt began]
    exact ⟨rfl, left⟩
  | ok value =>
    rw [bind_of_ok ended, bind_of_ok began]
    exact rest value after last left

theorem ite {condition : Prop} [Decidable condition] {part other first second : Runner World α}
    (holds : Reflects alike c part first) (fails : Reflects alike c other second) :
    Reflects alike c (if condition then part else other) (if condition then first else second) := by
  split
  · exact holds
  · exact fails

theorem pure (value : α) : Reflects alike c (pure value : Runner World α) (pure value) :=
  fun _ _ mirrors => ⟨rfl, mirrors⟩

theorem fail (error : RunError) :
    Reflects alike c (Runner.fail error : Runner World α) (Runner.fail error) :=
  fun _ _ mirrors => ⟨rfl, mirrors⟩

theorem note (act : Act) : Reflects alike c (Runner.note act : Runner World Unit) (Runner.note act) :=
  fun _ _ mirrors => ⟨rfl, mirrors.noted act⟩

theorem count (f : Tally → Tally) :
    Reflects alike c (Runner.count f : Runner World Unit) (Runner.count f) :=
  fun _ _ mirrors => ⟨rfl, mirrors.counted f⟩

theorem clock : Reflects alike c (Runner.clock : Runner World Nat) Runner.clock :=
  fun _ _ mirrors => ⟨congrArg Except.ok mirrors.now, mirrors⟩

theorem checkCancel :
    Reflects alike c (Runner.checkCancel : Runner World Unit) Runner.checkCancel := by
  intro run mirror mirrors
  cases cancelled : run.cancelled with
  | true =>
    rw [checkCancel_of_cancelled cancelled,
      checkCancel_of_cancelled (mirrors.cancelled.trans cancelled)]
    exact ⟨rfl, mirrors⟩
  | false =>
    rw [checkCancel_of_going cancelled, checkCancel_of_going (mirrors.cancelled.trans cancelled)]
    exact ⟨rfl, mirrors⟩

theorem beginning (act : Act) :
    Reflects alike c (do Runner.checkCancel; Runner.note act : Runner World Unit)
      (do Runner.checkCancel; Runner.note act) :=
  checkCancel.bind fun _ => note act

theorem ask {ε : Type} {asked : Act} {answered : Except ε α → Act} {asError : ε → RunError}
    {question : World → Reply World (Except ε α)}
    (agrees : ∀ {world other}, alike world other → (question world).Agrees alike (question other)) :
    Reflects alike c (Runner.ask asked answered asError question)
      (Runner.ask asked answered asError question) := by
  intro run mirror mirrors
  have same := agrees mirrors.world
  rw [ask_apply, ask_apply, same.answer]
  exact ⟨rfl, ((mirrors.noted asked).replied same).noted _⟩

theorem attempt {part other : Runner World α} (inner : Reflects alike c part other) :
    Reflects alike c (Runner.attempt part) (Runner.attempt other) := by
  intro run mirror mirrors
  obtain ⟨same, left⟩ := inner run mirror mirrors
  rcases ended : part run with ⟨outcome, after⟩
  rcases began : other mirror with ⟨reflected, last⟩
  rw [ended, began] at same left
  obtain rfl : reflected = outcome := same
  cases reflected with
  | error halt =>
    simp only [Runner.attempt, ended, began]
    cases halt.settled? <;> exact ⟨rfl, left⟩
  | ok value =>
    simp only [Runner.attempt, ended, began]
    exact ⟨trivial, left⟩

theorem reporting {content : Runner World BlockStatus} (inner : Reflects alike c content content)
    (record : Datum) :
    Reflects alike c (Runner.reporting record content) (Runner.reporting record content) := by
  intro run mirror mirrors
  obtain ⟨same, left⟩ := inner.attempt run.opened mirror.opened mirrors.opened
  rw [reporting_apply, reporting_apply, mirrors.now]
  rcases tried : Runner.attempt content run.opened with ⟨outcome, after⟩
  rcases retried : Runner.attempt content mirror.opened with ⟨reflected, last⟩
  rw [tried, retried] at same left
  obtain rfl : reflected = outcome := same
  cases reflected with
  | error halt => exact ⟨rfl, left⟩
  | ok outcome =>
    have told := left.blockResult_eq record record run.now outcome
    refine ⟨congrArg (fun result : BlockResult => Except.ok result.status) told, ?_⟩
    dsimp only
    rw [told]
    exact mirrors.closed left _

theorem settleStep (result : StepResult) :
    Reflects alike c (Runner.settleStep result : Runner World Unit) (Runner.settleStep result) := by
  intro run mirror mirrors
  rw [settleStep_apply, settleStep_apply]
  exact ⟨rfl, mirrors.reported result⟩

theorem settleBlock (record : Datum) (status : BlockStatus) :
    Reflects alike c (Runner.settleBlock record status : Runner World Unit)
      (Runner.settleBlock record status) := by
  intro run mirror mirrors
  rw [settleBlock_apply, settleBlock_apply]
  exact ⟨rfl, mirrors⟩

variable (measures : hooks.Measures measure alike)

include measures

theorem pause (ms : Nat) : Reflects alike c (Runner.pause hooks ms) (Runner.pause hooks ms) := by
  intro run mirror mirrors
  have rests := measures.rest mirrors.world ms
  have slept : ((run.rested ms (hooks.rest ms run.world)).noted (.slept ms)).Mirrors alike c
      ((mirror.rested ms (hooks.rest ms mirror.world)).noted (.slept ms)) := by
    unfold Run.rested
    rw [rests.cancelledAfter, mirrors.now, mirrors.cancelled]
    exact (mirrors.moved rests.world rfl rfl).noted _
  rw [pause_apply, pause_apply, mirrors.cancelled, rests.overslept, rests.cancelledAfter,
    mirrors.now]
  by_cases empty : ms = 0
  · rw [if_pos empty, if_pos empty]
    exact Reflects.checkCancel run mirror mirrors
  · rw [if_neg empty, if_neg empty]
    cases (hooks.rest ms run.world).overslept with
    | true => exact ⟨rfl, slept⟩
    | false =>
      cases run.cancelled with
      | true => exact ⟨rfl, mirrors⟩
      | false =>
        cases (hooks.rest ms run.world).cancelledAfter with
        | some early => exact ⟨rfl, mirrors.moved rests.world rfl rfl⟩
        | none => exact ⟨rfl, slept⟩

theorem evaluate {evaluator : Condition → World → Reply World (Except ConditionError Bool)}
    (given : hooks.condition = some evaluator) (condition : Condition) :
    Reflects alike c (Runner.evaluate evaluator condition) (Runner.evaluate evaluator condition) := by
  obtain rfl : (fun c world => c.judged (measure c world)) = evaluator :=
    Option.some.inj (measures.judges.symm.trans given)
  apply ask
  intro world other same
  have agrees := measures.measured same condition condition.mode
  exact {
    answer := congrArg (Except.map condition.satisfiedBy) agrees.answer
    elapsed := agrees.elapsed
    cancels := agrees.cancels
    world := agrees.world }

theorem composes : Composes hooks fun {_} part => Reflects alike c (part ()) (part ()) where
  pure := pure
  bind := bind
  clock := clock
  fail error _ := fail error
  checkCancel := checkCancel
  count := count
  pause := pause measures
  evaluate given condition _ := evaluate measures given condition

/-! ## Bodies -/

theorem drawDelay (step : Step) :
    Reflects alike c (Runner.drawDelay hooks step) (Runner.drawDelay hooks step) := by
  intro run mirror mirrors
  obtain ⟨random, world⟩ := measures.random mirrors.world
  unfold Runner.drawDelay
  cases step.delayRange with
  | none => exact ⟨rfl, mirrors⟩
  | some range =>
    exact ⟨congrArg (fun random => Except.ok (step.delay random)) random,
      mirrors.moved world mirrors.now mirrors.cancelled⟩

theorem runStep (step : Step) :
    Reflects alike c (Runner.runStep hooks polling step) (Runner.runStep hooks polling step) := by
  have impatient : Reflects alike c (throw .impatient : Runner World Unit) (throw .impatient) :=
    fun _ _ mirrors => ⟨rfl, mirrors⟩
  exact runStep_composes (composes measures) impatient
    (fun given step => ask fun same => measures.gate same given step) attempt
    (fun _ _ _ => trivial) (ask fun same => measures.command same step.commandId) (note _) (drawDelay measures step) polling

theorem blockContent (record : Datum) :
    Reflects alike c (Runner.blockContent hooks polling record)
      (Runner.blockContent hooks polling record) := by
  apply blockContent_composes (composes measures) (beginning .head) (beginning .item) (fun _ => polling)
    record fun _ _ _ => trivial
  · intro step _
    exact (runStep measures step).bind fun result => settleStep result
  · intro inner content same
    exact (reporting same inner).bind fun status => settleBlock inner status

end Reflects

/-! ## Heads of loops -/

section Heads

variable {Item : Type} {loop : Block.Loop Item}

theorem setIterations_apply (f : UInt32 → UInt32) (run : Run World) :
    (setIterations f : Runner World Unit) run = (.ok (), run.recounted f) := rfl

/-- A check is counted, and leaves its question and the answer in the journal. -/
theorem check_apply {evaluator : Condition → World → Reply World (Except ConditionError Bool)}
    (given : hooks.condition = some evaluator) (condition : Condition) (run : Run World) :
    check hooks condition run =
      ((evaluator condition run.world).answer.mapError fun error => .failed (.ofCondition error),
        (((run.checked).noted (.conditionAsked condition)).replied
          (evaluator condition run.world)).noted
            (.conditionAnswered (evaluator condition run.world).answer)) := by
  have counts : (count fun tally =>
      { tally with conditionsEvaluated := tally.conditionsEvaluated + 1 } : Runner World Unit) run =
      (.ok (), run.checked) := rfl
  unfold check
  simp only [given]
  rw [bind_of_ok counts]
  exact ask_apply _ _ _ _ _

/-- To check a condition, nobody looks at the count of passes. -/
theorem check_recounted (condition : Condition) (f : UInt32 → UInt32) (run : Run World) :
    check hooks condition (run.recounted f) =
      ((check hooks condition run).1, (check hooks condition run).2.recounted f) := by
  cases given : hooks.condition with
  | none => simp only [check, given, fail_apply]
  | some evaluator =>
    rw [check_apply given, check_apply given]
    rfl

theorem checkOptional_recounted (condition : Option Condition) (f : UInt32 → UInt32)
    (run : Run World) :
    checkOptional hooks condition (run.recounted f) =
      ((checkOptional hooks condition run).1, (checkOptional hooks condition run).2.recounted f) := by
  cases condition with
  | none => rfl
  | some condition => exact check_recounted condition f run

variable (measures : hooks.Measures measure alike)

include measures

theorem check_succeeds (condition : Condition) (run : Run World) :
    ∃ holds after, check hooks condition run = (.ok holds, after) := by
  obtain ⟨m, measured⟩ := measures.succeeds condition run.world
  have answered : (condition.judged (measure condition run.world)).answer =
      .ok (condition.satisfiedBy m) := congrArg (Except.map condition.satisfiedBy) measured
  rw [check_apply measures.judges, answered]
  exact ⟨_, _, rfl⟩

theorem checkOptional_succeeds (condition : Option Condition) (run : Run World) :
    ∃ holds after, checkOptional hooks condition run = (.ok holds, after) := by
  cases condition with
  | none => exact ⟨false, run, rfl⟩
  | some condition => exact check_succeeds measures condition run

/-- A pass may as well be counted when it is sure that it follows. -/
theorem enterUntil_eq (condition : Condition) :
    loop.enterUntil hooks condition = do
      if ← checkOptional hooks loop.breakOn then return false
      if ← check hooks condition then return false
      setIterations (· + 1)
      return true := by
  funext run
  obtain ⟨broken, middle, breaks⟩ := checkOptional_succeeds measures loop.breakOn run
  have counted : checkOptional hooks loop.breakOn (run.recounted (· + 1)) =
      (.ok broken, middle.recounted (· + 1)) := by
    rw [checkOptional_recounted, breaks]
  unfold Block.Loop.enterUntil
  rw [bind_of_ok (setIterations_apply _ run), bind_of_ok counted, bind_of_ok breaks]
  cases broken with
  | true =>
    show (Except.ok false, (middle.recounted (· + 1)).recounted (· - 1)) = (Except.ok false, middle)
    rw [Run.recounted_back]
  | false =>
    obtain ⟨holds, after, checks⟩ := check_succeeds measures condition middle
    have counted : check hooks condition (middle.recounted (· + 1)) =
        (.ok holds, after.recounted (· + 1)) := by
      rw [check_recounted, checks]
    simp only [Bool.false_eq_true, if_false]
    rw [bind_of_ok counted, bind_of_ok checks]
    cases holds with
    | true =>
      show (Except.ok false, (after.recounted (· + 1)).recounted (· - 1)) = (Except.ok false, after)
      rw [Run.recounted_back]
    | false => rfl

/-- Whoever asks for the opposite hears the opposite. -/
theorem check_opposite :
    Reflects alike c (check hooks c) (check hooks c.opposite >>= fun holds => pure !holds) := by
  intro run mirror mirrors
  obtain ⟨m, measured⟩ := measures.succeeds c run.world
  have agrees : (measure c run.world).Agrees alike (measure c.opposite mirror.world) :=
    measures.measured mirrors.world c c.mode.opposite
  have answered : (c.judged (measure c run.world)).answer = .ok (c.satisfiedBy m) :=
    congrArg (Except.map c.satisfiedBy) measured
  have reversed : (c.opposite.judged (measure c.opposite mirror.world)).answer =
      .ok !c.satisfiedBy m := by
    rw [← Condition.satisfiedBy_opposite]
    exact congrArg (Except.map c.opposite.satisfiedBy) (agrees.answer.trans measured)
  have asked := check_apply measures.judges c run
  have mirrored := check_apply measures.judges c.opposite mirror
  have left := mirrors.opposed answered reversed agrees.elapsed agrees.cancels agrees.world
  rw [answered] at asked left
  rw [reversed] at mirrored left
  rw [asked, bind_of_ok mirrored]
  exact ⟨congrArg Except.ok (Bool.not_not _), left⟩

theorem enter_reflects :
    Reflects alike c (loop.enterWhile hooks c) (loop.enterUntil hooks c.opposite) := by
  have reversed : loop.enterUntil hooks c.opposite = (do
      if ← checkOptional hooks loop.breakOn then return false
      (check hooks c.opposite >>= fun holds => pure !holds) >>= fun holds =>
        if holds then setIterations (· + 1) >>= fun _ => pure true else pure false) := by
    rw [enterUntil_eq measures]
    congr 1
    funext broken
    cases broken with
    | true => rfl
    | false =>
      simp only [Bool.false_eq_true, if_false, bind_assoc, pure_bind]
      congr 1
      funext holds
      cases holds <;> rfl
  have breaks : Reflects alike c (checkOptional hooks loop.breakOn) (checkOptional hooks loop.breakOn) :=
    checkOptional_composes (Reflects.composes measures) loop.breakOn fun _ _ => trivial
  rw [reversed]
  apply breaks.bind
  intro broken
  apply Reflects.ite (.pure false)
  apply (check_opposite measures).bind
  intro holds
  exact .ite ((Reflects.count _).bind fun _ => .pure true) (.pure false)

/-- The two heads do the same, and lead to a pass in the same cases. -/
theorem turn_reflects {runItem : Item → Runner World Unit}
    (each : ∀ item ∈ loop.items, Reflects alike c (runItem item) (runItem item)) :
    Reflects alike c (loop.turn hooks runItem (loop.enterWhile hooks c))
      (loop.turn hooks runItem (loop.enterUntil hooks c.opposite)) := by
  have pass : Reflects alike c (loop.pass hooks runItem) (loop.pass hooks runItem) :=
    @pass_composes _ Unit _ _ _ (Reflects.composes measures) _ (fun _ => runItem) _
      (fun _ _ => trivial) each
  apply Reflects.checkCancel.bind
  intro _
  apply (Reflects.note _).bind
  intro _
  apply (enter_reflects measures).bind
  intro entered
  exact .ite (pass.bind fun flow => .pure _) (.pure false)

/-- The loops make the same passes, by induction on the passes that they have left. -/
theorem passes_reflects {runItem : Item → Runner World Unit}
    (each : ∀ item ∈ loop.items, Reflects alike c (runItem item) (runItem item)) (started more : Nat) :
    Reflects alike c (loop.passes hooks runItem (loop.enterWhile hooks c) started more)
      (loop.passes hooks runItem (loop.enterUntil hooks c.opposite) started more) := by
  induction more with
  | zero =>
    apply (turn_reflects measures each).bind
    intro goesOn
    exact .ite (.fail _) (.pure ())
  | succ more ih =>
    apply (turn_reflects measures each).bind
    intro goesOn
    apply Reflects.ite _ (.pure ())
    intro run mirror mirrors
    have goOn := (Reflects.pause measures loop.cadenceMs).bind fun _ => ih
    rw [bind_of_ok (get_apply run), bind_of_ok (get_apply mirror), mirrors.now]
    exact Reflects.ite ((Reflects.fail _).bind fun _ => goOn) goOn run mirror mirrors

end Heads

/-! ## Records -/

section Records

variable (measures : hooks.Measures measure alike)

include measures

theorem runItem_reflects (item : Datum) :
    Reflects alike c (runItem hooks polling (runBlock hooks polling item) item)
      (runItem hooks polling (runBlock hooks polling item) item) := by
  apply runItem_composes (Reflects.composes measures) (Reflects.beginning .item) (fun _ => polling)
    (fun _ => runBlock hooks polling item) item
  · intro step _
    exact (Reflects.runStep measures step).bind fun result => .settleStep result
  · intro _
    have inner : Reflects alike c (blockContent hooks polling item) (blockContent hooks polling item) :=
      Reflects.blockContent measures item
    have block := inner.reporting item
    rw [← runBlock_eq] at block
    exact block.bind fun status => .settleBlock item status

variable {record mirror : Datum} {loop : Block.Loop Datum}

theorem blockContent_reflects (goesOn : Block.read record = .ok (.whileHolds c loop))
    (waits : Block.read mirror = .ok (.untilHolds c.opposite loop)) :
    Reflects alike c (blockContent hooks polling record) (blockContent hooks polling mirror) := by
  simp only [blockContent, goesOn, waits, Block.run]
  intro run other mirrors
  rw [bind_of_ok (get_apply run), bind_of_ok (get_apply other), mirrors.now]
  have each : ∀ item ∈ loop.items,
      Reflects alike c (runItem hooks polling (runBlock hooks polling item) item)
        (runItem hooks polling (runBlock hooks polling item) item) :=
    fun item _ => runItem_reflects measures item
  have passes := passes_reflects measures each run.now (loop.cap - 1)
  exact passes.bind (fun _ => Reflects.pure BlockStatus.succeeded) run other mirrors

/-- A loop that goes on while a condition holds, and one that goes on until the opposite holds,
do the same from the same run. Their collaborators are asked the same at the same times, up to
the opposite condition and its answer. Either both halt at the same point, or both end with the
same steps and nested blocks reported, and report the same of themselves, but for their names. -/
theorem runBlock_opposite (polling : Polling) (goesOn : Block.read record = .ok (.whileHolds c loop))
    (waits : Block.read mirror = .ok (.untilHolds c.opposite loop)) (start : Run World) :
    let outcome := (runBlock hooks polling record start).1
    let after := (runBlock hooks polling record start).2
    let last := (runBlock hooks polling mirror start).2
    (runBlock hooks polling mirror start).1 = outcome ∧
      alike after.world last.world ∧ last.now = after.now ∧ last.cancelled = after.cancelled ∧
      last.tally = after.tally ∧ last.steps = after.steps ∧
      Mirrored c after.journal last.journal ∧
      match outcome with
      | .ok status => ∃ (nested : Array BlockResult) (own : BlockResult), own.status = status ∧
          own.blockType = Block.typeName record ∧ after.blocks = nested.push own ∧
          last.blocks = nested.push { own with blockType := Block.typeName mirror }
      | .error _ => last.blocks = after.blocks := by
  have same : start.Mirrors alike c start :=
    ⟨measures.refl start.world, rfl, rfl, rfl, rfl, rfl, .refl start.journal⟩
  have content : Reflects alike c (blockContent hooks polling record)
      (blockContent hooks polling mirror) := blockContent_reflects measures goesOn waits
  obtain ⟨ends, left⟩ := content.attempt start.opened start.opened same.opened
  rw [runBlock_eq, runBlock_eq, reporting_apply, reporting_apply]
  rcases tried : Runner.attempt (blockContent hooks polling record) start.opened with
    ⟨outcome, after⟩
  rcases retried : Runner.attempt (blockContent hooks polling mirror) start.opened with
    ⟨reflected, last⟩
  rw [tried, retried] at ends left
  obtain rfl : reflected = outcome := ends
  replace left : after.Mirrors alike c last := left
  cases reflected with
  | error halt =>
    exact ⟨rfl, left.world, left.now, left.cancelled, left.tally, left.steps, left.journal, left.blocks⟩
  | ok outcome =>
    have told := left.blockResult_eq record mirror start.now outcome
    dsimp only
    rw [told]
    refine ⟨rfl, left.world, left.now, left.cancelled, rfl, left.steps, left.journal,
      after.blocks, _, rfl, rfl, rfl, ?_⟩
    simp only [Run.closed, left.blocks]

end Records

/-- Collaborators that note whatever they look for, and see it at the first looks. -/
def leavingSoon : Hooks (List Condition) where
  command _ world := { answer := .ok (), world, elapsed := 3 }
  condition := some fun c world =>
    { answer := .ok (c.satisfiedBy { found := world.length < 5 }), world := c :: world, elapsed := 5 }
  rest _ world := { world }
  random world := (0, world)

theorem leavingSoon_measures :
    leavingSoon.Measures
      (fun c world =>
        { answer := .ok { found := world.length < 5 }, world := c :: world, elapsed := 5 })
      (fun world other => other.length = world.length) where
  judges := rfl
  succeeds c world := ⟨_, rfl⟩
  refl world := rfl
  measured same c mode := by constructor <;> simp [same]
  command same id := ⟨rfl, rfl, rfl, same⟩
  gate same decide given := by cases given
  rest same ms := ⟨rfl, rfl, same⟩
  random same := ⟨rfl, same⟩

/-- A loop that knocks at a door, unless the alarm is off. -/
def knocking (type mode : String) : Datum :=
  .ofJson (.object [("type", .str type),
    ("condition", .object [("source", .str "image"), ("targetId", .str "door"), ("mode", .str mode)]),
    ("breakOn", .object [("source", .str "text"), ("targetId", .str "alarm"), ("mode", .str "absent")]),
    ("steps", .arr [.object [("commandId", .str "knock")]])])

/-- Knocking while the door is there is knocking until it is gone; here the alarm ends both in the
second pass. -/
theorem runBlock_opposite_knocking :
    let start : Run (List Condition) := { world := [] }
    let after := (runBlock leavingSoon { patience := 1 } (knocking "while" "present") start).2
    let last := (runBlock leavingSoon { patience := 1 } (knocking "repeatUntil" "absent") start).2
    after.blocks = #[⟨"while", 2, 6, 286, .succeeded, none, none⟩] ∧
    last.blocks = #[⟨"repeatUntil", 2, 6, 286, .succeeded, none, none⟩] ∧
    Mirrored { source := .image, targetId := "door" } after.journal last.journal := by
  let loop : Block.Loop Datum :=
    { breakOn := some { source := .text, targetId := "alarm", mode := .absent }, continueOn := none,
      cadenceMs := 250, timeoutMs := none, maxIterations := none,
      items := [.ofJson (.object [("commandId", .str "knock")])] }
  have goesOn : Block.read (knocking "while" "present") =
      .ok (.whileHolds { source := .image, targetId := "door" } loop) := rfl
  have waits : Block.read (knocking "repeatUntil" "absent") =
      .ok (.untilHolds (Condition.opposite { source := .image, targetId := "door" }) loop) := rfl
  obtain ⟨_, _, _, _, _, _, journal, _⟩ :=
    runBlock_opposite leavingSoon_measures { patience := 1 } goesOn waits { world := [] }
  exact ⟨by decide +kernel, by decide +kernel, journal⟩

end Runner

end Autopilot
