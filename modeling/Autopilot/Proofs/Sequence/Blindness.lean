import Autopilot.Proofs.Sequence.Invariant

/-!
Runs in which no condition can be told. Asking for one is an error, be it at a gate, at the head of
a loop or after an item. So no gate opens, and a block that asks for a condition before its first
item never comes to an item: it makes no difference how its items would be run.
-/

namespace Autopilot

/-- A block that asks for a condition before its first item. -/
def Block.isConditional {Item : Type} : Block Item → Bool
  | .ifElse .. | .whileHolds .. | .untilHolds .. => true
  | .times .. => false

/-- A step stands in the body of a block that counts its passes, or of such a block nested in it;
no block around the step asks for a condition before its first item. -/
inductive Block.Exposes : Datum → Step → Prop where
  | item {record item : Datum} {block : Block Datum} {step : Step}
      (read : Block.read record = .ok block) (counts : block.isConditional = false)
      (member : item ∈ block.items) (isStep : Item.read item = .ok (.step step)) :
      Exposes record step
  | nested {record item : Datum} {block : Block Datum} {step : Step}
      (read : Block.read record = .ok block) (counts : block.isConditional = false)
      (member : item ∈ block.items) (isBlock : Item.read item = .ok .block)
      (inner : Exposes item step) : Exposes record step

/-- A step of a sequence, at the top or exposed in one of its blocks. -/
def Sequence.Exposes (sequence : Sequence) (step : Step) : Prop :=
  step ∈ sequence.steps ∨ ∃ block ∈ sequence.blocks, Block.Exposes (.ofJson block) step

/-- Hooks that fail at every condition, in worlds that stay dark whatever is called. -/
structure Hooks.Blind {World : Type} (hooks : Hooks World) (dark : World → Prop) : Prop where
  undecided : hooks.gate = none
  evaluates : hooks.condition.isSome
  fails : ∀ {evaluator : Condition → World → Reply World (Except ConditionError Bool)},
    hooks.condition = some evaluator → ∀ condition world, dark world →
    ∃ error, (evaluator condition world).answer = .error error
  asks : ∀ {evaluator : Condition → World → Reply World (Except ConditionError Bool)},
    hooks.condition = some evaluator → ∀ condition world, dark world →
    dark (evaluator condition world).world
  rests : ∀ ms world, dark world → dark (hooks.rest ms world).world
  draws : ∀ world, dark world → dark (hooks.random world).2
  calls : ∀ id world, dark world → dark (hooks.command id world).world

namespace Runner

variable {World : Type}

/-! ## Other ways to run the items -/

/-- Runs a block record like `runBlock`, but has a way of its own to run the items of blocks that
ask for a condition first. -/
def runBlockWith (hooks : Hooks World) (polling : Polling)
    (enter : Runner World BlockStatus → Datum → Runner World Unit) (record : Datum) :
    Runner World BlockStatus :=
  reporting record <|
    match read : Block.read record with
    | .error fault => fail (.invalidBlock fault)
    | .ok block => block.attach.run hooks fun (item : { item // item ∈ block.items }) =>
      have := Block.sizeOf_lt_of_mem_items read item.2
      (if block.isConditional then enter else runItem hooks polling)
        (runBlockWith hooks polling enter item.1) item.1
termination_by sizeOf record

/-- Runs all blocks like `runBlocks`, with a given way to run each. -/
def runBlocksWith (asBlock : Datum → Runner World BlockStatus) :
    List Datum → Runner World (Option (Option String))
  | [] => return none
  | record :: rest => do
    checkCancel
    note .block
    let status ← asBlock record
    let error := (← get).blocks.back?.bind (·.error)
    let later ← runBlocksWith asBlock rest
    return if status = .failed then some error else later

/-- Runs a sequence like `runParts`, but has a way of its own to run the items of blocks that ask
for a condition first. -/
def runPartsWith (hooks : Hooks World) (polling : Polling)
    (enter : Runner World BlockStatus → Datum → Runner World Unit) (sequence : Sequence) :
    Runner World (Option (Option String)) := do
  match ← runSteps hooks polling sequence.orderedSteps with
  | some error => return some error
  | none => runBlocksWith (runBlockWith hooks polling enter) (sequence.blocks.map Datum.ofJson)

/-- What goes on inside the block that a record describes. -/
def blockContentWith (hooks : Hooks World) (polling : Polling)
    (enter : Runner World BlockStatus → Datum → Runner World Unit) (record : Datum) :
    Runner World BlockStatus :=
  match Block.read record with
  | .error fault => fail (.invalidBlock fault)
  | .ok block => block.run hooks fun item =>
    (if block.isConditional then enter else runItem hooks polling)
      (runBlockWith hooks polling enter item) item

section With

variable {hooks : Hooks World} {polling : Polling}

theorem runBlockWith_eq (enter : Runner World BlockStatus → Datum → Runner World Unit)
    (record : Datum) :
    runBlockWith hooks polling enter record =
      reporting record (blockContentWith hooks polling enter record) := by
  rw [runBlockWith, blockContentWith]
  congr 1
  split
  next fault read => simp only [read]
  next block read =>
    simp only [read]
    exact run_attach (fun item => (if block.isConditional then enter else runItem hooks polling)
      (runBlockWith hooks polling enter item) item) block

/-- Only the items of its own body matter for a block. -/
theorem run_congr {Item : Type} {block : Block Item} {runItem other : Item → Runner World Unit}
    (same : ∀ item ∈ block.items, runItem item = other item) :
    block.run hooks runItem = block.run hooks other := by
  have closed : Composes hooks fun {α} (part : Bool → Runner World α) => part true = part false :=
    { pure := fun _ => rfl
      bind := fun first later => congr (congrArg bind first) (funext later)
      clock := rfl
      fail := fun _ _ => rfl
      checkCancel := rfl
      count := fun _ => rfl
      pause := fun _ => rfl
      evaluate := fun _ _ _ => rfl }
  exact @block_composes World Bool hooks _ _ closed Item
    (fun first => if first then runItem else other) rfl block (fun _ _ => trivial) same

/-- The usual way to run items makes the usual blocks. -/
theorem runBlockWith_runItem (record : Datum) :
    runBlockWith hooks polling (runItem hooks polling) record = runBlock hooks polling record := by
  rw [runBlockWith_eq, runBlock_eq, blockContentWith, blockContent]
  cases read : Block.read record with
  | error fault => rfl
  | ok block =>
    congr 1
    apply run_congr
    intro item member
    have smaller := Block.sizeOf_lt_of_mem_items read member
    rw [ite_self, runBlockWith_runItem item]
termination_by sizeOf record

theorem runBlocksWith_runBlock (records : List Datum) :
    runBlocksWith (runBlock hooks polling) records = runBlocks hooks polling records := by
  induction records with
  | nil => rfl
  | cons record rest ih => simp only [runBlocksWith, runBlocks, ih]

theorem runPartsWith_runItem (sequence : Sequence) :
    runPartsWith hooks polling (runItem hooks polling) sequence =
      runParts hooks polling sequence := by
  unfold runPartsWith runParts
  rw [funext runBlockWith_runItem]
  congr 1
  funext stopped
  cases stopped with
  | some error => rfl
  | none => exact runBlocksWith_runBlock _

/-- A block record has the property if its exposed steps and the reports of nested blocks have it,
and the blocks that ask for a condition have it whatever their items do. -/
theorem blockContentWith_composes {ι : Type} {C : {α : Type} → (ι → Runner World α) → Prop}
    (closed : Composes hooks C) (head : C fun _ => beginHead) (item : C fun _ => beginItem)
    (enter : ι → Runner World BlockStatus → Datum → Runner World Unit) (record : Datum)
    (conditional : ∀ {block : Block Datum}, block.isConditional = true →
      ∀ items : ι → Datum → Runner World Unit, C fun i => block.run hooks (items i))
    (steps : ∀ step, Block.Exposes record step →
      C fun _ => runStep hooks polling step >>= settleStep)
    (nested : ∀ (inner : Datum) {content : ι → Runner World BlockStatus}, C content →
      C fun i => reporting inner (content i) >>= settleBlock inner) :
    C fun i => blockContentWith hooks polling (enter i) record := by
  unfold blockContentWith
  split
  next => exact closed.fail _ nofun
  next block read =>
    cases asks : block.isConditional with
    | true => exact conditional asks _
    | false =>
      apply block_composes closed head fun _ _ => trivial
      intro inner member
      apply runItem_composes closed item fun _ => polling
      · intro step isStep
        exact steps step (.item read asks member isStep)
      · intro isBlock
        have smaller := Block.sizeOf_lt_of_mem_items read member
        simp only [runBlockWith_eq]
        apply nested inner
        exact blockContentWith_composes closed head item enter inner conditional
          (fun step exposed => steps step (.nested read asks member isBlock exposed)) nested
termination_by sizeOf record

end With

/-! ## In the dark -/

/-- A part that leaves a dark run dark. -/
def Steady {α : Type} (dark : World → Prop) (part : Runner World α) : Prop :=
  Leads (fun run => dark run.world) part (fun _ run => dark run.world) fun _ run => dark run.world

/-- A part that halts in the dark. -/
def Stops {α : Type} (dark : World → Prop) (part : Runner World α) : Prop :=
  Leads (fun run => dark run.world) part (fun _ _ => False) fun _ run => dark run.world

/-- Parts among which it makes no difference in the dark. -/
def Agree {ι α : Type} (dark : World → Prop) (part : ι → Runner World α) : Prop :=
  ∀ i run, dark run.world → dark (part i run).2.world ∧ ∀ j, part i run = part j run

section Agree

variable {ι α β : Type} {dark : World → Prop}

theorem Stops.steady {part : Runner World α} (stops : Stops dark part) : Steady dark part :=
  Leads.weaken stops (fun _ holds => holds) (fun _ _ never => never.elim) fun _ _ holds => holds

theorem Steady.after {part : Runner World α} (steady : Steady dark part) {run : Run World}
    (begun : dark run.world) : dark (part run).2.world := by
  rcases ended : part run with ⟨halt | value, after⟩
  · exact steady.halted begun ended
  · exact steady.ended begun ended

theorem Steady.agree {part : Runner World α} (steady : Steady dark part) :
    Agree dark fun _ : ι => part :=
  fun _ _ begun => ⟨steady.after begun, fun _ => rfl⟩

theorem Agree.bind {part : ι → Runner World α} {next : ι → α → Runner World β}
    (first : Agree dark part) (later : ∀ value, Agree dark fun i => next i value) :
    Agree dark fun i => part i >>= next i := by
  intro i run begun
  obtain ⟨after, same⟩ := first i run begun
  dsimp only
  rcases ended : part i run with ⟨halt | value, middle⟩
  all_goals rw [ended] at after same
  · rw [bind_of_halt ended]
    exact ⟨after, fun j => (bind_of_halt (same j).symm _).symm⟩
  · obtain ⟨last, agree⟩ := later value i middle after
    rw [bind_of_ok ended]
    exact ⟨last, fun j => (agree j).trans (bind_of_ok (same j).symm _).symm⟩

/-- What would follow a part that halts makes no difference. -/
theorem Agree.bind_stops {part : ι → Runner World α} (first : Agree dark part)
    (stops : ∀ i, Stops dark (part i)) (next : ι → α → Runner World β) :
    Agree dark fun i => part i >>= next i := by
  intro i run begun
  obtain ⟨after, same⟩ := first i run begun
  dsimp only
  rcases ended : part i run with ⟨halt | value, middle⟩
  all_goals rw [ended] at after same
  · rw [bind_of_halt ended]
    exact ⟨after, fun j => (bind_of_halt (same j).symm _).symm⟩
  · exact ((stops i).ended begun ended).elim

theorem Stops.bind {part : Runner World α} (stops : Stops dark part)
    (next : α → Runner World β) : Stops dark (part >>= next) :=
  Leads.bind stops fun _ _ never => never.elim

/-- An attempt leaves behind what the part leaves behind. -/
theorem attempt_same (part : Runner World α) (run : Run World) :
    (attempt part run).2 = (part run).2 := by
  unfold attempt
  rcases part run with ⟨halt | value, after⟩
  · cases settled : halt.settled? <;> simp only [settled]
  · rfl

theorem world_reporting (record : Datum) (content : Runner World BlockStatus) (before : Run World) :
    (reporting record content before).2.world = (content before.opened).2.world := by
  rw [reporting_apply, ← attempt_same]
  rcases attempt content before.opened with ⟨halt | outcome, after⟩ <;> rfl

theorem Agree.reporting {content : ι → Runner World BlockStatus} (inner : Agree dark content)
    (record : Datum) : Agree dark fun i => reporting record (content i) := by
  intro i before begun
  obtain ⟨after, same⟩ := inner i before.opened begun
  refine ⟨(world_reporting record (content i) before).symm ▸ after, fun j => ?_⟩
  have alike : attempt (content i) before.opened = attempt (content j) before.opened := by
    unfold attempt
    rw [same j]
  dsimp only
  rw [reporting_apply, reporting_apply, alike]

theorem settleBlock_steady (record : Datum) (status : BlockStatus) :
    Steady dark (settleBlock record status) := by
  intro run begun
  rw [settleBlock_apply]
  by_cases failed : status = .failed
  · rw [if_pos failed]
    exact begun
  · rw [if_neg failed]
    exact begun

end Agree

section Blind

variable {dark : World → Prop} {hooks : Hooks World} {polling : Polling}
  (blind : hooks.Blind dark)

include blind

/-! ### Conditions -/

theorem evaluate_stops
    {evaluator : Condition → World → Reply World (Except ConditionError Bool)}
    (given : hooks.condition = some evaluator) (condition : Condition) :
    Stops dark (evaluate evaluator condition) := by
  apply ask_leads
  · intro run value begun answered
    obtain ⟨error, failed⟩ := blind.fails given condition run.world begun
    cases failed.symm.trans answered
  · exact fun run _ begun _ => blind.asks given condition run.world begun

theorem check_stops (condition : Condition) : Stops dark (check hooks condition) := by
  unfold check
  cases given : hooks.condition with
  | none =>
    have evaluates := blind.evaluates
    rw [given] at evaluates
    cases evaluates
  | some evaluator =>
    have counted : Steady dark (count fun tally =>
        { tally with conditionsEvaluated := tally.conditionsEvaluated + 1 } : Runner World Unit) :=
      fun _ begun => begun
    exact Leads.bind counted fun _ => evaluate_stops blind given condition

/-- Only an absent condition is passed over. -/
theorem checkOptional_leads (condition : Option Condition) :
    Leads (fun run => dark run.world) (checkOptional hooks condition)
      (fun holds run => holds = false ∧ dark run.world) (fun _ run => dark run.world) := by
  cases condition with
  | none => exact fun _ begun => ⟨rfl, begun⟩
  | some condition =>
    exact Leads.weaken (check_stops blind condition) (fun _ holds => holds)
      (fun _ _ never => never.elim) fun _ _ holds => holds

/-! ### Steps -/

theorem pause_steady (ms : Nat) : Steady dark (pause hooks ms) := by
  intro run begun
  have rested := blind.rests ms run.world begun
  rcases pause_cases hooks ms run with ⟨_, same⟩ | ⟨_, _, same⟩ | ⟨_, _, _, same⟩ | ⟨_, _, same⟩
  all_goals rw [same]
  · exact begun
  · exact begun
  · exact rested
  · exact rested

theorem steady_composes : Composes hooks fun {_} part => Steady dark (part ()) where
  pure _ _ begun := begun
  bind := Leads.bind
  clock _ begun := begun
  fail _ _ _ begun := begun
  checkCancel := (checkCancel_going fun _ begun _ => begun).weaken (fun _ holds => holds)
    (fun _ _ going => going.1) fun _ _ holds => holds
  count _ _ begun := begun
  pause := pause_steady blind
  evaluate given condition _ := (evaluate_stops blind given condition).steady

theorem begin_steady (act : Act) : Steady dark (do checkCancel; note act : Runner World Unit) :=
  Leads.bind (steady_composes blind).checkCancel fun _ _ begun => begun

theorem callCommand_steady (step : Step) : Steady dark (callCommand hooks step) := by
  apply ask_leads
  · exact fun run _ begun _ => blind.calls step.commandId run.world begun
  · exact fun run _ begun _ => blind.calls step.commandId run.world begun

theorem performStep_steady (step : Step) (delayMs : Nat) :
    Steady dark (performStep hooks polling step delayMs) := by
  have attempted {α : Type} {part : Runner World α} (steady : Steady dark part) :
      Steady dark (attempt part) := by
    intro run begun
    have after := steady.after begun
    rw [← attempt_same] at after
    rcases tried : attempt part run with ⟨halt | outcome, later⟩
    all_goals rwa [tried] at after
  have undecided {decide : Step → World → Reply World (Except RunError Bool)}
      (decides : hooks.gate = some decide) : False := by
    rw [blind.undecided] at decides
    cases decides
  exact performStep_composes (steady_composes blind) (fun _ begun => begun)
    (fun decides => (undecided decides).elim) attempted (fun _ _ _ => trivial)
    (callCommand_steady blind step) polling delayMs

theorem runStep_steady (step : Step) : Steady dark (runStep hooks polling step) := by
  apply runStep_leads_by (fun _ begun _ => begun) (fun _ begun _ => begun) _ (pause_steady blind)
    (performStep_steady blind step)
  intro run begun
  unfold drawDelay
  cases step.delayRange with
  | none => exact begun
  | some range => exact blind.draws run.world begun

/-- A gate never opens: it fails as soon as it is asked, unless the run is cancelled before. -/
theorem passGate_fails {I : Run World → Prop} {E : Halt → Run World → Prop} {step : Step}
    {gate : Condition} (gated : step.gate = some gate) (patient : polling.patience ≠ 0)
    (stopped : ∀ run, I run → run.cancelled = true → E (.failed .cancelled) run)
    (asking : ∀ {evaluator : Condition → World → Reply World (Except ConditionError Bool)},
      hooks.condition = some evaluator → Leads I (evaluate evaluator gate) (fun _ _ => False) E) :
    Leads I (passGate hooks polling step) (fun _ _ => False) E := by
  obtain ⟨evaluator, given⟩ := Option.isSome_iff_exists.1 blind.evaluates
  obtain ⟨more, some⟩ := Nat.exists_eq_succ_of_ne_zero patient
  intro run holds
  rw [passGate_of_gate gated, some]
  refine Leads.bind (checkCancel_going stopped) (fun _ => ?_) run holds
  rw [gateOpen_of_evaluator step gate blind.undecided given]
  refine Leads.bind (Leads.weaken (asking given) (fun _ going => going.1) (fun _ _ never => never)
    fun _ _ holds => holds) fun _ _ never => never.elim

/-! ### Blocks -/

theorem agree_composes {ι : Type} :
    Composes hooks fun {_} (part : ι → Runner World _) => Agree dark part where
  pure value := ((steady_composes blind).pure value).agree
  bind := Agree.bind
  clock := (steady_composes blind).clock.agree
  fail error other := ((steady_composes blind).fail error other).agree
  checkCancel := (steady_composes blind).checkCancel.agree
  count f := ((steady_composes blind).count f).agree
  pause ms := ((steady_composes blind).pause ms).agree
  evaluate given condition asked := ((steady_composes blind).evaluate given condition asked).agree

section Conditional

variable {Item : Type}

theorem enterWhile_stops (loop : Block.Loop Item) (condition : Condition) :
    Stops dark (loop.enterWhile hooks condition) := by
  apply Leads.bind (checkOptional_leads blind loop.breakOn)
  rintro _ run ⟨rfl, begun⟩
  exact (check_stops blind condition).bind _ run begun

theorem enterUntil_stops (loop : Block.Loop Item) (condition : Condition) :
    Stops dark (loop.enterUntil hooks condition) := by
  have counted : Steady dark (setIterations (· + 1) : Runner World Unit) := fun _ begun => begun
  apply Leads.bind counted
  intro _
  apply Leads.bind (checkOptional_leads blind loop.breakOn)
  rintro _ run ⟨rfl, begun⟩
  exact (check_stops blind condition).bind _ run begun

/-- A loop whose head halts does not get to its items. -/
theorem turn_agrees {loop : Block.Loop Item} {enter : Runner World Bool} (stops : Stops dark enter) :
    (Agree dark fun runItem : Item → Runner World Unit => loop.turn hooks runItem enter) ∧
      ∀ runItem : Item → Runner World Unit, Stops dark (loop.turn hooks runItem enter) := by
  have head : Stops dark (beginHead >>= fun _ => enter : Runner World Bool) := by
    exact Leads.bind (begin_steady blind .head) fun _ => stops
  have begun (runItem : Item → Runner World Unit) : loop.turn hooks runItem enter =
      ((beginHead >>= fun _ => enter) >>= fun entered =>
        if entered then loop.pass hooks runItem >>= fun flow => pure (decide (flow = .completed))
        else pure false) := by
    simp only [Block.Loop.turn, beginHead, bind_assoc]
  simp only [begun]
  exact ⟨.bind_stops head.steady.agree (fun _ => head) _, fun _ => head.bind _⟩

theorem passes_agree {loop : Block.Loop Item} {enter : Runner World Bool} (stops : Stops dark enter)
    (started more : Nat) :
    Agree dark fun runItem : Item → Runner World Unit =>
      loop.passes hooks runItem enter started more := by
  have agrees : Agree dark fun runItem : Item → Runner World Unit =>
    loop.turn hooks runItem enter := (turn_agrees blind stops).1
  cases more with
  | zero => exact agrees.bind_stops (turn_agrees blind stops).2 _
  | succ more => exact agrees.bind_stops (turn_agrees blind stops).2 _

/-- How a block that asks for a condition first would run its items makes no difference. -/
theorem run_agrees {block : Block Item} (conditional : block.isConditional = true) :
    Agree dark fun runItem : Item → Runner World Unit => block.run hooks runItem := by
  have closed : Composes hooks fun {_} (part : (Item → Runner World Unit) → Runner World _) =>
    Agree dark part := agree_composes blind
  cases block with
  | ifElse condition thenItems elseItems =>
    have stops := check_stops blind condition
    exact .bind_stops stops.steady.agree (fun _ => stops) _
  | whileHolds condition loop =>
    apply timed_composes closed (fun runItem started => do
      loop.passes hooks runItem (loop.enterWhile hooks condition) started (loop.cap - 1)
      return BlockStatus.succeeded)
    intro started
    exact (passes_agree blind (enterWhile_stops blind loop condition) started _).bind fun _ =>
      closed.pure _
  | untilHolds condition loop =>
    apply timed_composes closed (fun runItem started => do
      loop.passes hooks runItem (loop.enterUntil hooks condition) started (loop.cap - 1)
      return BlockStatus.succeeded)
    intro started
    exact (passes_agree blind (enterUntil_stops blind loop condition) started _).bind fun _ =>
      closed.pure _
  | times => cases conditional

end Conditional

/-- How the items of such blocks would be run makes no difference, at whatever depth. -/
theorem runBlockWith_agrees (record : Datum) :
    Agree dark fun enter => runBlockWith hooks polling enter record := by
  simp only [runBlockWith_eq]
  apply Agree.reporting
  apply blockContentWith_composes (agree_composes blind) (begin_steady blind .head).agree
    (begin_steady blind .item).agree
  · intro block conditional items i run begun
    obtain ⟨after, same⟩ := run_agrees blind conditional (items i) run begun
    exact ⟨after, fun j => same (items j)⟩
  · intro step _
    refine Steady.agree (Leads.bind (runStep_steady blind step) fun result run begun => ?_)
    rw [settleStep_apply]
    cases result.isFailed <;> exact begun
  · intro inner content agrees
    exact (agrees.reporting inner).bind fun status => (settleBlock_steady inner status).agree

/-- A whole run is the same, however the items of such blocks would be run. -/
theorem runPartsWith_agrees (sequence : Sequence) :
    Agree dark fun enter => runPartsWith hooks polling enter sequence := by
  have closed : Composes hooks fun {_} (part : (Runner World BlockStatus → Datum →
    Runner World Unit) → Runner World _) => Agree dark part := agree_composes blind
  have steps (list : List Step) : Steady dark (runSteps hooks polling list) := by
    induction list with
    | nil => exact (steady_composes blind).pure _
    | cons step rest ih =>
      apply Leads.bind (runStep_steady blind step)
      intro result
      have reported : Steady dark (report result : Runner World Unit) := fun _ begun => begun
      exact Leads.bind reported fun _ =>
        Leads.ite (fun _ => (steady_composes blind).pure _) fun _ => ih
  have blocks (records : List Datum) : Agree dark fun enter =>
      runBlocksWith (runBlockWith hooks polling enter) records := by
    induction records with
    | nil => exact closed.pure _
    | cons record rest ih =>
      apply closed.bind closed.checkCancel
      intro _
      have noted : Steady dark (note .block : Runner World Unit) := fun _ begun => begun
      apply closed.bind noted.agree
      intro _
      apply closed.bind (runBlockWith_agrees blind record)
      intro status
      have looked : Steady dark (get : Runner World (Run World)) := fun _ begun => begun
      apply closed.bind looked.agree
      intro run
      exact closed.bind ih fun later => closed.pure _
  apply closed.bind (steps _).agree
  intro stopped
  cases stopped with
  | some error => exact closed.pure _
  | none => exact blocks _

/-- Invariants of blocks in the dark: of the steps, only the exposed ones matter. -/
theorem runBlock_keeps_exposed {I : Run World → Prop} {cut : Halt → Run World → Prop}
    (shaded : ∀ run, I run → dark run.world)
    (loose : ∀ (run : Run World) (tally : Tally) (blocks : Array BlockResult),
      I run → I { run with tally, blocks })
    (stopped : ∀ run, I run → run.cancelled = true → cut (.failed .cancelled) run)
    (resting : ∀ ms : Nat, Keeps I cut (pause hooks ms))
    (asking : ∀ {evaluator : Condition → World → Reply World (Except ConditionError Bool)},
      hooks.condition = some evaluator → ∀ condition, Keeps I cut (evaluate evaluator condition))
    (head : ∀ run, I run → run.cancelled = false → I (run.noted .head))
    (item : ∀ run, I run → run.cancelled = false → I (run.noted .item)) (record : Datum)
    (steps : ∀ step, Block.Exposes record step → Leads I (runStep hooks polling step)
      (fun result run => I (run.reported result)) (Halting I cut)) :
    Keeps I cut (runBlock hooks polling record) := by
  have closed : Composes hooks fun {_} (part : Unit → Runner World _) => Keeps I cut (part ()) :=
    Keeps.composes stopped resting (fun given condition _ => asking given condition) fun run tally =>
      loose run tally run.blocks
  rw [← runBlockWith_runItem, runBlockWith_eq]
  apply reporting_keeps loose
  apply blockContentWith_composes closed (begin_keeps stopped head) (begin_keeps stopped item)
    fun _ => runItem hooks polling
  · intro block conditional items run holds
    have idle : Keeps I cut (block.run hooks fun _ => (pure () : Runner World Unit)) :=
      @block_composes World Unit hooks _ _ closed Datum (fun _ _ => pure ())
        (begin_keeps stopped head) block (fun _ _ => trivial) fun _ _ => pure_keeps ()
    rw [(run_agrees blind conditional (items ()) run (shaded run holds)).2 fun _ => pure ()]
    exact idle run holds
  · exact fun step exposed => (steps step exposed).bind settleStep_leads
  · exact fun inner _ keeps =>
      (reporting_keeps loose keeps inner).bind fun status => settleBlock_keeps inner status

end Blind

end Runner

end Autopilot
