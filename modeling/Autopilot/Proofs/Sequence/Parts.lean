import Autopilot.Proofs.Sequence.Composition

/-!
What the parts of a run are made of. A silent part talks to the collaborators,
waits and counts, but reports no result; a working part also reports steps and
nested blocks. Everything that can go on inside a block is a working part, so that
a property of runs has to be looked at once for each way to make a part, and not
once for each kind of loop.
-/

namespace Autopilot

/-- Acts that a run begins by itself, in contrast to calls, answers and rests. -/
def Act.isBeginning : Act → Bool
  | .step _ | .item | .head | .block => true
  | _ => false

/-- The run after a collaborator's reply. -/
def Run.replied {World α : Type} (run : Run World) (reply : Reply World α) : Run World :=
  { run with
    world := reply.world
    now := run.now + reply.elapsed
    cancelled := run.cancelled || reply.cancels }

/-- The run with fresh counters, for a block that begins. -/
def Run.opened {World : Type} (run : Run World) : Run World := { run with tally := {} }

/-- The run that a block leaves behind: it has reported itself, and the counters around
it are back. -/
def Run.closed {World : Type} (before after : Run World) (result : BlockResult) : Run World :=
  { after with tally := before.tally, blocks := after.blocks.push result }

namespace Runner

variable {World α β : Type}

@[simp] theorem pure_apply (value : α) (run : Run World) :
    (pure value : Runner World α) run = (.ok value, run) := rfl

@[simp] theorem fail_apply (error : RunError) (run : Run World) :
    (fail error : Runner World α) run = (.error (.failed error), run) := rfl

@[simp] theorem get_apply (run : Run World) : (get : Runner World (Run World)) run = (.ok run, run) :=
  rfl

@[simp] theorem modify_apply (f : Run World → Run World) (run : Run World) :
    (modify f : Runner World Unit) run = (.ok (), f run) := rfl

@[simp] theorem note_apply (act : Act) (run : Run World) :
    (note act : Runner World Unit) run = (.ok (), run.noted act) := rfl

/-- What comes after a part sees the run that the part leaves behind, unless it halts. -/
theorem bind_apply (part : Runner World α) (next : α → Runner World β) (run : Run World) :
    (part >>= next) run =
      match part run with
      | (.ok value, later) => next value later
      | (.error halt, later) => (.error halt, later) := by
  change (match part run with | (outcome, later) => ExceptT.bindCont next outcome later) = _
  rcases part run with ⟨_ | _, later⟩ <;> rfl

theorem bind_of_ok {part : Runner World α} {run later : Run World} {value : α}
    (ended : part run = (.ok value, later)) (next : α → Runner World β) :
    (part >>= next) run = next value later := by
  rw [bind_apply, ended]

theorem bind_of_halt {part : Runner World α} {run later : Run World} {halt : Halt}
    (halted : part run = (.error halt, later)) (next : α → Runner World β) :
    (part >>= next) run = (.error halt, later) := by
  rw [bind_apply, halted]

/-- What ends well has a first part that ends well. -/
theorem parts_of_ok {part : Runner World α} {next : α → Runner World β} {run after : Run World}
    {value : β} (ended : (part >>= next) run = (.ok value, after)) :
    ∃ middle between, part run = (.ok middle, between) ∧ next middle between = (.ok value, after) := by
  rcases began : part run with ⟨halt | middle, between⟩
  · rw [bind_of_halt began] at ended
    cases ended
  · rw [bind_of_ok began] at ended
    exact ⟨middle, between, rfl, ended⟩

/-- An attempt halts only where a cancellation or a closed gate halts the part. -/
theorem attempt_cases (part : Runner World α) (run : Run World) :
    (∃ value after, part run = (.ok value, after) ∧ attempt part run = (.ok (.ok value), after)) ∨
    (∃ error after, part run = (.error (.failed error), after) ∧
      (Halt.failed error).settled? = some error ∧ attempt part run = (.ok (.error error), after)) ∨
    (∃ halt after, part run = (.error halt, after) ∧ halt.settled? = none ∧
      attempt part run = (.error halt, after)) := by
  unfold attempt
  rcases ended : part run with ⟨halt | value, after⟩
  · refine .inr ?_
    cases settled : halt.settled? with
    | none => exact .inr ⟨halt, after, rfl, settled, by simp only [settled]⟩
    | some error =>
      obtain rfl : halt = .failed error := by
        unfold Halt.settled? at settled
        split at settled <;> simp_all
      exact .inl ⟨error, after, rfl, settled, by simp only [settled]⟩
  · exact .inl ⟨value, after, rfl, rfl⟩

theorem attempt_of_final {part : Runner World α} {run after : Run World} {halt : Halt}
    (halted : part run = (.error halt, after)) (final : halt.settled? = none) :
    attempt part run = (.error halt, after) := by
  simp only [attempt, halted, final]

theorem checkCancel_of_cancelled {run : Run World} (cancelled : run.cancelled = true) :
    checkCancel run = (.error (.failed .cancelled), run) := by
  rw [checkCancel, bind_of_ok (get_apply run)]
  simp only [cancelled, if_true, fail_apply]

theorem checkCancel_of_going {run : Run World} (going : run.cancelled = false) :
    checkCancel run = (.ok (), run) := by
  rw [checkCancel, bind_of_ok (get_apply run)]
  simp only [going, Bool.false_eq_true, if_false, pure_apply]

theorem checkCancel_same (run : Run World) : (checkCancel run).2 = run := by
  cases cancelled : run.cancelled with
  | true => rw [checkCancel_of_cancelled cancelled]
  | false => rw [checkCancel_of_going cancelled]

theorem consult_apply (asked : Act) (answered : α → Act) (question : World → Reply World α)
    (run : Run World) :
    consult asked answered question run =
      (.ok (question run.world).answer,
        ((run.noted asked).replied (question run.world)).noted
          (answered (question run.world).answer)) := rfl

/-- A question leaves its call and its answer in the journal. -/
theorem ask_apply {ε : Type} (asked : Act) (answered : Except ε α → Act) (asError : ε → RunError)
    (question : World → Reply World (Except ε α)) (run : Run World) :
    ask asked answered asError question run =
      ((question run.world).answer.mapError fun error => .failed (asError error),
        ((run.noted asked).replied (question run.world)).noted
          (answered (question run.world).answer)) := by
  rw [ask, bind_of_ok (consult_apply asked answered question run)]
  cases (question run.world).answer with
  | ok value => rfl
  | error error => rfl

/-- An empty rest only looks whether the run is cancelled. Any other is slept out if it is overslept;
else it does not begin in a cancelled run, and is cut off where the run is cancelled. -/
theorem pause_apply (hooks : Hooks World) (ms : Nat) (run : Run World) :
    pause hooks ms run =
      if ms = 0 then checkCancel run
      else if (hooks.rest ms run.world).overslept then
        (.ok (), (run.rested ms (hooks.rest ms run.world)).noted (.slept ms))
      else if run.cancelled then (.error (.failed .cancelled), run)
      else match (hooks.rest ms run.world).cancelledAfter with
        | some early => (.error (.failed .cancelled),
          { run with
            world := (hooks.rest ms run.world).world
            now := run.now + min early ms
            cancelled := true })
        | none => (.ok (), (run.rested ms (hooks.rest ms run.world)).noted (.slept ms)) := by
  unfold pause
  by_cases empty : ms = 0
  · rw [if_pos empty, if_pos empty]
  · rw [if_neg empty, if_neg empty, bind_of_ok (get_apply run)]
    cases overslept : (hooks.rest ms run.world).overslept with
    | true => rfl
    | false =>
      rw [if_neg Bool.false_ne_true, if_neg Bool.false_ne_true]
      cases cancelled : run.cancelled with
      | true => rw [bind_of_halt (checkCancel_of_cancelled cancelled), if_pos rfl]
      | false =>
        rw [bind_of_ok (checkCancel_of_going cancelled), if_neg Bool.false_ne_true]
        cases (hooks.rest ms run.world).cancelledAfter <;> rfl

@[simp] theorem pause_zero (hooks : Hooks World) : pause hooks 0 = checkCancel := by
  funext run
  rw [pause_apply, if_pos rfl]

/-- How a rest goes: it does not begin in a cancelled run, or is empty, or is cut off where the run
is cancelled, or is slept out, which in a cancelled run only happens if it is overslept. -/
theorem pause_cases (hooks : Hooks World) (ms : Nat) (run : Run World) :
    (run.cancelled = true ∧ pause hooks ms run = (.error (.failed .cancelled), run)) ∨
    (run.cancelled = false ∧ ms = 0 ∧ pause hooks ms run = (.ok (), run)) ∨
    (run.cancelled = false ∧ ∃ early, hooks.rest ms run.world =
        { world := (hooks.rest ms run.world).world, cancelledAfter := some early } ∧
      pause hooks ms run = (.error (.failed .cancelled),
        { run with
          world := (hooks.rest ms run.world).world
          now := run.now + min early ms
          cancelled := true })) ∨
    (ms ≠ 0 ∧ ((run.rested ms (hooks.rest ms run.world)).cancelled = true →
        (hooks.rest ms run.world).overslept = true) ∧
      pause hooks ms run =
        (.ok (), (run.rested ms (hooks.rest ms run.world)).noted (.slept ms))) := by
  rw [pause_apply]
  by_cases empty : ms = 0
  · rw [if_pos empty]
    cases cancelled : run.cancelled with
    | true => exact .inl ⟨rfl, checkCancel_of_cancelled cancelled⟩
    | false => exact .inr (.inl ⟨rfl, empty, checkCancel_of_going cancelled⟩)
  · rw [if_neg empty]
    cases overslept : (hooks.rest ms run.world).overslept with
    | true => exact .inr (.inr (.inr ⟨empty, fun _ => rfl, if_pos rfl⟩))
    | false =>
      rw [if_neg Bool.false_ne_true]
      cases cancelled : run.cancelled with
      | true => exact .inl ⟨rfl, if_pos rfl⟩
      | false =>
        rw [if_neg Bool.false_ne_true]
        cases struck : (hooks.rest ms run.world).cancelledAfter with
        | some early =>
          refine .inr (.inr (.inl ⟨rfl, early, ?_, rfl⟩))
          rw [← struck, ← overslept]
        | none =>
          refine .inr (.inr (.inr ⟨empty, fun late => ?_, rfl⟩))
          simp only [Run.rested, cancelled, struck, Option.isSome_none, Bool.or_self] at late
          cases late

/-- Where patience ends, a gate is left: by a cancellation if there was one, and else still waiting. -/
theorem awaitGate_zero (hooks : Hooks World) (polling : Polling) (step : Step) (gate : Condition)
    (deadline : Option Nat) (run : Run World) :
    (run.cancelled = true ∧
      awaitGate hooks polling step gate deadline 0 run = (.error (.failed .cancelled), run)) ∨
    (run.cancelled = false ∧
      awaitGate hooks polling step gate deadline 0 run = (.error .impatient, run)) := by
  unfold awaitGate
  cases cancelled : run.cancelled with
  | true => exact .inl ⟨rfl, bind_of_halt (checkCancel_of_cancelled cancelled) _⟩
  | false => exact .inr ⟨rfl, bind_of_ok (checkCancel_of_going cancelled) _⟩

section Deciding

variable {hooks : Hooks World} (step : Step) (gate : Condition)

theorem gateOpen_of_decider {decide : Step → World → Reply World (Except RunError Bool)}
    (decides : hooks.gate = some decide) : gateOpen hooks step gate = askGate decide step := by
  unfold gateOpen
  rw [decides]

theorem gateOpen_of_evaluator
    {evaluator : Condition → World → Reply World (Except ConditionError Bool)}
    (undecided : hooks.gate = none) (evaluates : hooks.condition = some evaluator) :
    gateOpen hooks step gate = evaluate evaluator gate := by
  unfold gateOpen
  rw [undecided, evaluates]

/-- A gate that nobody decides on is open. -/
theorem gateOpen_of_nobody (undecided : hooks.gate = none) (unevaluated : hooks.condition = none) :
    gateOpen hooks step gate = (pure true : Runner World Bool) := by
  unfold gateOpen
  rw [undecided, unevaluated]

end Deciding

/-- The next poll is due after the interval, or earlier if the time is up before. -/
theorem untilNextPoll_apply (polling : Polling) (deadline : Option Nat) (run : Run World) :
    untilNextPoll polling deadline run =
      (match deadline with
        | none => .ok polling.intervalMs
        | some deadline =>
          if deadline ≤ run.now then .error (.failed .gateTimeout)
          else .ok (min polling.intervalMs (deadline - run.now)), run) := by
  cases deadline with
  | none => rfl
  | some deadline =>
    unfold untilNextPoll
    dsimp only
    rw [bind_of_ok (get_apply run)]
    split <;> rfl

theorem passGate_of_gate {step : Step} {gate : Condition} (given : step.gate = some gate)
    (hooks : Hooks World) (polling : Polling) (run : Run World) :
    passGate hooks polling step run =
      awaitGate hooks polling step gate (step.timeoutMs.map (run.now + ·)) polling.patience run := by
  unfold passGate
  rw [given]
  rfl

/-- Drawing a delay may only change the world. -/
theorem drawDelay_cases (hooks : Hooks World) (step : Step) (run : Run World) :
    ∃ world, drawDelay hooks step run =
      (.ok (step.delay (hooks.random run.world).1), { run with world }) := by
  unfold drawDelay
  cases range : step.delayRange with
  | none =>
    refine ⟨run.world, ?_⟩
    simp only [pure_apply, Step.delay, range]
    cases step.delayMs <;> rfl
  | some range => exact ⟨(hooks.random run.world).2, rfl⟩

theorem settleStep_apply (result : StepResult) (run : Run World) :
    settleStep result run =
      (if result.isFailed then .error (.failed (.stepFailed (result.error.getD ""))) else .ok (),
        { run with steps := run.steps.push result }) := by
  have reported : (report result : Runner World Unit) run =
      (.ok (), { run with steps := run.steps.push result }) := rfl
  rw [settleStep, bind_of_ok reported]
  cases result.isFailed <;> rfl

theorem settleBlock_apply (record : Datum) (status : BlockStatus) (run : Run World) :
    settleBlock record status run =
      (if status = .failed then .error (.failed (.nestedFailed (Block.typeName record)))
        else .ok (), run) := by
  unfold settleBlock
  split <;> rfl

/-- A block that comes to an end reports itself last. -/
theorem reporting_apply (record : Datum) (content : Runner World BlockStatus)
    (before : Run World) :
    reporting record content before =
      match attempt content before.opened with
      | (.ok outcome, after) =>
        (.ok (blockResult record before.now after outcome).status,
          before.closed after (blockResult record before.now after outcome))
      | (.error halt, after) => (.error halt, after) := by
  unfold reporting
  rw [bind_of_ok (get_apply before), bind_of_ok (get_apply before),
    bind_of_ok (modify_apply _ before)]
  rcases ended : attempt content before.opened with ⟨halt | outcome, after⟩
  · exact bind_of_halt ended _
  · exact bind_of_ok ended _

theorem reporting_cases (record : Datum) (content : Runner World BlockStatus)
    (before : Run World) :
    (∃ outcome after, attempt content before.opened = (.ok outcome, after) ∧
      reporting record content before =
        (.ok (blockResult record before.now after outcome).status,
          before.closed after (blockResult record before.now after outcome))) ∨
    (∃ halt after, attempt content before.opened = (.error halt, after) ∧
      reporting record content before = (.error halt, after)) := by
  rw [reporting_apply]
  rcases attempt content before.opened with ⟨halt | outcome, after⟩
  · exact .inr ⟨halt, after, rfl, rfl⟩
  · exact .inl ⟨outcome, after, rfl, rfl⟩

/-- Parts that talk to the collaborators, wait and count, but report nothing. -/
inductive Silent (hooks : Hooks World) : {α : Type} → Runner World α → Prop where
  | pure {α : Type} (value : α) : Silent hooks (pure value)
  | bind {α β : Type} {part : Runner World α} {next : α → Runner World β}
      (first : Silent hooks part) (later : ∀ value, Silent hooks (next value)) :
      Silent hooks (part >>= next)
  | get : Silent hooks (get : Runner World (Run World))
  | fail {α : Type} (error : RunError) (notCancelled : error ≠ .cancelled) :
      Silent hooks (fail error : Runner World α)
  | impatient {α : Type} : Silent hooks (throw .impatient : Runner World α)
  | checkCancel : Silent hooks checkCancel
  | note (act : Act) (begun : act.isBeginning = true) : Silent hooks (note act)
  | count (f : Tally → Tally) : Silent hooks (count f)
  | pause (ms : Nat) : Silent hooks (pause hooks ms)
  | draw (step : Step) : Silent hooks (drawDelay hooks step)
  | askGate {decide : Step → World → Reply World (Except RunError Bool)}
      (given : hooks.gate = some decide) (step : Step) : Silent hooks (askGate decide step)
  | evaluate {evaluator : Condition → World → Reply World (Except ConditionError Bool)}
      (given : hooks.condition = some evaluator) (condition : Condition) :
      Silent hooks (evaluate evaluator condition)
  | callCommand (step : Step) : Silent hooks (callCommand hooks step)
  | attempt {α : Type} {part : Runner World α} (inner : Silent hooks part) :
      Silent hooks (attempt part)

/-- Parts that may also report steps and nested blocks. A body cannot go on after a
result that failed. -/
inductive Working (hooks : Hooks World) : {α : Type} → Runner World α → Prop where
  | silent {α : Type} {part : Runner World α} (quiet : Silent hooks part) : Working hooks part
  | bind {α β : Type} {part : Runner World α} {next : α → Runner World β}
      (first : Working hooks part) (later : ∀ value, Working hooks (next value)) :
      Working hooks (part >>= next)
  | settleStep (result : StepResult) : Working hooks (settleStep result)
  | nested {content : Runner World BlockStatus} (record : Datum) (inner : Working hooks content) :
      Working hooks (reporting record content >>= settleBlock record)

section Silent

variable {hooks : Hooks World}

theorem Silent.ite {condition : Prop} [Decidable condition] {part other : Runner World α}
    (first : Silent hooks part) (second : Silent hooks other) :
    Silent hooks (if condition then part else other) := by
  split
  · exact first
  · exact second

theorem Silent.composes : Composes hooks fun {_} part => Silent hooks (part ()) where
  pure := .pure
  bind := .bind
  clock := .bind .get fun _ => .pure _
  fail := .fail
  checkCancel := .checkCancel
  count := .count
  pause := .pause
  evaluate given condition _ := .evaluate given condition

theorem runStep_silent (polling : Polling) (step : Step) : Silent hooks (runStep hooks polling step) :=
  runStep_composes Silent.composes .impatient .askGate .attempt (fun _ _ _ => trivial)
    (.callCommand step) (.note _ rfl) (.draw step) polling

theorem Working.composes : Composes hooks fun {_} part => Working hooks (part ()) where
  pure value := .silent (.pure value)
  bind := .bind
  clock := .silent Silent.composes.clock
  fail error other := .silent (.fail error other)
  checkCancel := .silent .checkCancel
  count f := .silent (.count f)
  pause ms := .silent (.pause ms)
  evaluate given condition _ := .silent (.evaluate given condition)

end Silent

/-! ## Nested blocks -/

section Attached

variable {hooks : Hooks World} {Item Other : Type} {runItem : Item → Runner World Unit}

theorem map_val_attach {p : Item → Prop} {items : List Item}
    (f : { item // item ∈ items } → { item // p item }) (keeps : ∀ item, (f item).1 = item.1) :
    (items.attach.map f).map Subtype.val = items := by
  rw [List.map_map, show Subtype.val ∘ f = Subtype.val from funext keeps,
    List.attach_map_subtype_val]

theorem runBody_map (breakOn continueOn : Option Condition) (f : Other → Item)
    (others : List Other) :
    runBody hooks breakOn continueOn (fun other => runItem (f other)) others =
      runBody hooks breakOn continueOn runItem (others.map f) := by
  induction others with
  | nil => rfl
  | cons other rest ih => simp only [runBody, List.map_cons, ih]

theorem pass_attach (loop : Block.Loop Item) :
    Block.Loop.pass hooks { loop with items := loop.items.attach } (fun item => runItem item.1) =
      loop.pass hooks runItem := by
  unfold Block.Loop.pass
  rw [runBody_map, List.attach_map_subtype_val]

theorem passes_attach (loop : Block.Loop Item) (enter : Runner World Bool) (started more : Nat) :
    Block.Loop.passes hooks { loop with items := loop.items.attach } (fun item => runItem item.1)
        enter started more =
      loop.passes hooks runItem enter started more := by
  induction more with
  | zero => simp only [Block.Loop.passes, Block.Loop.turn, pass_attach, Block.Loop.cap]
  | succ more ih =>
    simp only [Block.Loop.passes, Block.Loop.turn, pass_attach, ih]
    rfl

theorem counted_attach (loop : Block.Loop Item) (first : Bool) (passes : Nat) :
    Block.Loop.counted hooks { loop with items := loop.items.attach } (fun item => runItem item.1)
        first passes =
      loop.counted hooks runItem first passes := by
  induction passes generalizing first with
  | zero => rfl
  | succ passes ih => simp only [Block.Loop.counted, pass_attach, ih]

/-- That items are known to be items does not matter for running them. -/
theorem run_attach (runItem : Item → Runner World Unit) (block : Block Item) :
    block.attach.run hooks (fun item => runItem item.1) = block.run hooks runItem := by
  cases block with
  | ifElse condition thenItems elseItems =>
    have first : ∀ f : { item // item ∈ thenItems } →
        { item // item ∈ (Block.ifElse condition thenItems elseItems).items },
        (∀ item, (f item).1 = item.1) → (thenItems.attach.map f).map Subtype.val = thenItems :=
      map_val_attach
    have second : ∀ f : { item // item ∈ elseItems } →
        { item // item ∈ (Block.ifElse condition thenItems elseItems).items },
        (∀ item, (f item).1 = item.1) → (elseItems.attach.map f).map Subtype.val = elseItems :=
      map_val_attach
    simp only [Block.attach, Block.run, runBody_map]
    rw [first _ fun _ => rfl, second _ fun _ => rfl]
  | whileHolds condition loop =>
    simp only [Block.attach, Block.run]
    exact congrArg _ (funext fun run => congrArg (· >>= _) (passes_attach loop _ _ _))
  | untilHolds condition loop =>
    simp only [Block.attach, Block.run]
    exact congrArg _ (funext fun run => congrArg (· >>= _) (passes_attach loop _ _ _))
  | times condition loop =>
    simp only [Block.attach, Block.run]
    split
    · rfl
    · exact ite_congr rfl (fun _ => rfl) fun _ => congrArg (· >>= _) (counted_attach loop true _)

end Attached

/-- What goes on inside the block that a record describes. -/
def blockContent (hooks : Hooks World) (polling : Polling) (record : Datum) :
    Runner World BlockStatus :=
  match Block.read record with
  | .error fault => fail (.invalidBlock fault)
  | .ok block => block.run hooks fun item => runItem hooks polling (runBlock hooks polling item) item

theorem runBlock_eq (hooks : Hooks World) (polling : Polling) (record : Datum) :
    runBlock hooks polling record = reporting record (blockContent hooks polling record) := by
  rw [runBlock, blockContent]
  congr 1
  split
  next fault read => simp only [read]
  next block read =>
    simp only [read]
    exact run_attach (fun item => runItem hooks polling (runBlock hooks polling item) item) block

theorem runBlock_of_tried {hooks : Hooks World} {polling : Polling} {record : Datum}
    {before inside : Run World} {outcome : Except RunError BlockStatus}
    (tried : attempt (blockContent hooks polling record) before.opened = (.ok outcome, inside)) :
    runBlock hooks polling record before =
      (.ok (blockResult record before.now inside outcome).status,
        before.closed inside (blockResult record before.now inside outcome)) := by
  rw [runBlock_eq, reporting_apply, tried]

section Nested

variable {hooks : Hooks World}

/-- A block record has the property if its steps, at whatever depth, and the reports of
nested blocks have it, and blocks may ask for their conditions; by induction on the record,
since every item is a smaller datum. -/
theorem blockContent_composes {ι : Type} {C : {α : Type} → (ι → Runner World α) → Prop}
    {mayAsk : Condition → Prop} (closed : Composes hooks C mayAsk) (head : C fun _ => beginHead)
    (item : C fun _ => beginItem) (polling : ι → Polling) (record : Datum)
    (asked : ∀ {d : Datum} {block : Block Datum}, Block.read d = .ok block →
      ∀ c ∈ block.conditions, mayAsk c)
    (steps : ∀ step, Block.Holds record step →
      C fun i => runStep hooks (polling i) step >>= settleStep)
    (nested : ∀ (inner : Datum) {content : ι → Runner World BlockStatus}, C content →
      C fun i => reporting inner (content i) >>= settleBlock inner) :
    C fun i => blockContent hooks (polling i) record := by
  unfold blockContent
  split
  next => exact closed.fail _ nofun
  next block read =>
    apply block_composes closed head (asked read)
    intro inner member
    apply runItem_composes closed item polling
    · intro step isStep
      exact steps step (.item read member isStep)
    · intro isBlock
      have smaller := Block.sizeOf_lt_of_mem_items read member
      simp only [runBlock_eq]
      apply nested inner
      exact blockContent_composes closed head item polling inner asked
        (fun step held => steps step (.nested read member isBlock held)) nested
termination_by sizeOf record

/-- Everything that goes on inside a block is a working part. -/
theorem blockContent_working (polling : Polling) (record : Datum) :
    Working hooks (blockContent hooks polling record) := by
  have begun {act : Act} (begins : act.isBeginning = true) :
      Working hooks (do checkCancel; note act) :=
    .silent (.bind .checkCancel fun _ => .note act begins)
  apply blockContent_composes Working.composes (begun rfl) (begun rfl) (fun _ => polling) record
    fun _ _ _ => trivial
  · intro step _
    exact .bind (.silent (runStep_silent polling step)) fun result => .settleStep result
  · intro inner content works
    exact .nested inner works

end Nested

end Runner

/-- How a run of a sequence ends, by how its parts end. -/
theorem Sequence.execute_of_parts {World : Type} {sequence : Sequence} {hooks : Hooks World}
    {polling : Polling} {start after : Run World} {ended : Except Halt (Option (Option String))}
    (epoch : Instant) (parts : Runner.runParts hooks polling sequence start = (ended, after)) :
    sequence.execute hooks polling epoch start =
      (ended.map (sequence.resultOf epoch start.now after), after) := by
  unfold execute
  rw [parts]
  cases ended <;> rfl

end Autopilot
