import Autopilot.Sequence.Execution

/-!
How a property of the parts of a run becomes one of whole blocks. By itself a block
does little: it looks at the clock, counts, asks for conditions, begins passes and
rests. A property of all that, which is kept by doing one thing after another, holds
of a block as soon as it holds of the items of its body. It is stated for families of
parts, so that it may also be a comparison of runs that differ in their items only; and
it may be one that only some conditions can be asked for without losing it.
-/

namespace Autopilot

/-- A step stands in the body of a block, or in the body of a block nested in it. -/
inductive Block.Holds : Datum → Step → Prop where
  | item {record item : Datum} {block : Block Datum} {step : Step}
      (read : Block.read record = .ok block) (member : item ∈ block.items)
      (isStep : Item.read item = .ok (.step step)) : Holds record step
  | nested {record item : Datum} {block : Block Datum} {step : Step}
      (read : Block.read record = .ok block) (member : item ∈ block.items)
      (isBlock : Item.read item = .ok .block) (inner : Holds item step) : Holds record step

/-- A step of a sequence, at the top or in one of its blocks. -/
def Sequence.Holds (sequence : Sequence) (step : Step) : Prop :=
  step ∈ sequence.steps ∨ ∃ block ∈ sequence.blocks, Block.Holds (.ofJson block) step

theorem Sequence.holds_of_mem_orderedSteps {sequence : Sequence} {step : Step}
    (member : step ∈ sequence.orderedSteps) : sequence.Holds step :=
  .inl (List.mem_mergeSort.1 member)

theorem Sequence.holds_of_block {sequence : Sequence} {record : Datum} {step : Step}
    (member : record ∈ sequence.blocks.map Datum.ofJson) (held : Block.Holds record step) :
    sequence.Holds step := by
  obtain ⟨block, listed, rfl⟩ := List.mem_map.1 member
  exact .inr ⟨block, listed, held⟩

theorem Sequence.length_orderedSteps (sequence : Sequence) :
    sequence.orderedSteps.length = sequence.steps.length :=
  (List.mergeSort_perm sequence.steps _).length_eq

namespace Block

variable {Item : Type}

/-- The conditions that are asked after each item. -/
def Loop.conditions (loop : Loop Item) : List Condition :=
  loop.breakOn.toList ++ loop.continueOn.toList

/-- All conditions that a block asks for itself. -/
def conditions : Block Item → List Condition
  | .ifElse condition _ _ => [condition]
  | .whileHolds condition loop => condition :: loop.conditions
  | .untilHolds condition loop => condition :: loop.conditions
  | .times _ loop => loop.conditions

theorem Loop.mem_conditions_of_breakOn {loop : Loop Item} {condition : Condition}
    (breaks : condition ∈ loop.breakOn) : condition ∈ loop.conditions :=
  List.mem_append_left _ (Option.mem_toList.2 breaks)

theorem Loop.mem_conditions_of_continueOn {loop : Loop Item} {condition : Condition}
    (continues : condition ∈ loop.continueOn) : condition ∈ loop.conditions :=
  List.mem_append_right _ (Option.mem_toList.2 continues)

end Block

namespace Runner

variable {World : Type} {ι : Type}

/-- What the clock of the run shows. -/
def clock : Runner World Nat := return (← get).now

/-- The head of a loop, which is not begun in a cancelled run. -/
def beginHead : Runner World Unit := do
  checkCancel
  note .head

/-- An item of a body, which is not begun in a cancelled run. -/
def beginItem : Runner World Unit := do
  checkCancel
  note .item

section Beginnings

variable {hooks : Hooks World} {Item : Type} (loop : Block.Loop Item) (runItem : Item → Runner World Unit)

theorem turn_eq (enter : Runner World Bool) :
    loop.turn hooks runItem enter =
      (beginHead >>= fun _ => enter >>= fun entered =>
        if entered then loop.pass hooks runItem >>= fun flow => pure (decide (flow = .completed))
        else pure false) := by
  simp only [Block.Loop.turn, beginHead, bind_assoc]

theorem counted_succ (first : Bool) (passes : Nat) :
    loop.counted hooks runItem first (passes + 1) =
      (beginHead >>= fun _ => do
        if !first then pause hooks loop.cadenceMs
        if ← checkOptional hooks loop.breakOn then return
        setIterations (· + 1)
        if (← loop.pass hooks runItem) = .broken then return
        loop.counted hooks runItem false passes) := by
  simp only [Block.Loop.counted, beginHead, bind_assoc]

end Beginnings

/-- A property of parts that is kept by doing one thing after another, and that holds of
what a block does by itself, if all it asks for are conditions that may be asked for. -/
structure Composes (hooks : Hooks World) (C : {α : Type} → (ι → Runner World α) → Prop)
    (mayAsk : Condition → Prop := fun _ => True) : Prop where
  pure : ∀ {α : Type} (value : α), C fun _ => (pure value : Runner World α)
  bind : ∀ {α β : Type} {part : ι → Runner World α} {next : ι → α → Runner World β},
    C part → (∀ value, C fun i => next i value) → C fun i => part i >>= next i
  clock : C fun _ => clock
  fail : ∀ {α : Type} (error : RunError), error ≠ .cancelled →
    C fun _ => (fail error : Runner World α)
  checkCancel : C fun _ => checkCancel
  count : ∀ f : Tally → Tally, C fun _ => count f
  pause : ∀ ms : Nat, C fun _ => pause hooks ms
  evaluate : ∀ {evaluator : Condition → World → Reply World (Except ConditionError Bool)},
    hooks.condition = some evaluator → ∀ condition, mayAsk condition →
      C fun _ => evaluate evaluator condition

section Composes

variable {hooks : Hooks World} {C : {α : Type} → (ι → Runner World α) → Prop}
  {mayAsk : Condition → Prop} {α β : Type} (closed : Composes hooks C mayAsk)

theorem ite_composes {condition : Prop} [Decidable condition] {part other : ι → Runner World α}
    (first : C part) (second : C other) :
    C fun i => if condition then part i else other i := by
  by_cases holds : condition
  · simpa only [if_pos holds] using first
  · simpa only [if_neg holds] using second

include closed

/-- What follows a look at the clock depends on the time only. -/
theorem timed_composes (next : ι → Nat → Runner World α) (later : ∀ now, C fun i => next i now) :
    C fun i => (get >>= fun run => next i run.now : Runner World α) := by
  have looked : C fun i => clock >>= next i := closed.bind closed.clock later
  exact looked

theorem check_composes (condition : Condition) (asked : mayAsk condition) :
    C fun _ => check hooks condition := by
  unfold check
  cases given : hooks.condition with
  | none => exact closed.fail _ nofun
  | some evaluator =>
    exact closed.bind (closed.count _) fun _ => closed.evaluate given condition asked

theorem checkOptional_composes (condition : Option Condition)
    (asked : ∀ c ∈ condition, mayAsk c) : C fun _ => checkOptional hooks condition := by
  cases condition with
  | none => exact closed.pure false
  | some condition => exact check_composes closed condition (asked condition rfl)

section Gates

variable (impatient : C fun _ => (throw .impatient : Runner World Unit))
  (askGate : ∀ {decide : Step → World → Reply World (Except RunError Bool)},
    hooks.gate = some decide → ∀ step, C fun _ => askGate decide step)

include askGate in
/-- Whoever decides on gates is not asked for a condition. -/
theorem gateOpen_composes (step : Step) (gate : Condition) (asked : hooks.gate = none → mayAsk gate) :
    C fun _ => gateOpen hooks step gate := by
  unfold gateOpen
  cases decides : hooks.gate with
  | some decide => exact askGate decides step
  | none =>
    cases given : hooks.condition with
    | some evaluator => exact closed.evaluate given gate (asked decides)
    | none => exact closed.pure true

theorem untilNextPoll_composes (polling : Polling) (deadline : Option Nat) :
    C fun _ => (untilNextPoll polling deadline : Runner World Nat) := by
  cases deadline with
  | none => exact closed.pure _
  | some deadline =>
    apply timed_composes closed (fun _ now => do
      if deadline ≤ now then fail .gateTimeout
      return min polling.intervalMs (deadline - now))
    intro now
    exact ite_composes (closed.bind (closed.fail _ nofun) fun _ => closed.pure _) (closed.pure _)

include impatient askGate

/-- A gate, by induction on how often it is still polled. -/
theorem awaitGate_composes (polling : Polling) (step : Step) (gate : Condition)
    (asked : hooks.gate = none → mayAsk gate) (deadline : Option Nat) (patience : Nat) :
    C fun _ => awaitGate hooks polling step gate deadline patience := by
  induction patience with
  | zero => exact closed.bind closed.checkCancel fun _ => impatient
  | succ patience ih =>
    apply closed.bind closed.checkCancel
    intro _
    apply closed.bind (gateOpen_composes closed askGate step gate asked)
    intro isOpen
    apply ite_composes (closed.pure ())
    apply closed.bind (untilNextPoll_composes closed polling deadline)
    intro ms
    exact closed.bind (closed.pause ms) fun _ => ih

theorem passGate_composes (polling : Polling) (step : Step)
    (asked : ∀ gate ∈ step.gate, hooks.gate = none → mayAsk gate) :
    C fun _ => passGate hooks polling step := by
  unfold passGate
  cases given : step.gate with
  | none => exact closed.pure ()
  | some gate =>
    apply timed_composes closed (fun _ now =>
      awaitGate hooks polling step gate (step.timeoutMs.map (now + ·)) polling.patience)
    intro now
    exact awaitGate_composes closed impatient askGate polling step gate (asked gate given) _ _

section Steps

variable (attempted : ∀ {α : Type} {part : ι → Runner World α}, C part → C fun i => attempt (part i))
  {step : Step} (asked : ∀ gate ∈ step.gate, hooks.gate = none → mayAsk gate)
  (called : C fun _ => callCommand hooks step)

include attempted asked called

theorem performStep_composes (polling : Polling) (delayMs : Nat) :
    C fun _ => performStep hooks polling step delayMs := by
  apply closed.bind (attempted (passGate_composes closed impatient askGate polling step asked))
  intro passed
  cases passed with
  | error error => exact closed.pure _
  | ok _ =>
    apply closed.bind (attempted called)
    intro ended
    cases ended with
    | error error => exact closed.pure _
    | ok _ => exact closed.pure _

theorem runStep_composes (noted : C fun _ => note (.step step.commandId))
    (drawn : C fun _ => drawDelay hooks step) (polling : Polling) :
    C fun _ => runStep hooks polling step := by
  have performed := performStep_composes closed impatient askGate attempted asked called polling
  apply closed.bind closed.checkCancel
  intro _
  apply closed.bind noted
  intro _
  apply closed.bind drawn
  intro delayMs
  exact ite_composes (closed.bind (closed.pause delayMs) fun _ => performed delayMs) (performed delayMs)

end Steps

end Gates

/-! ## Blocks -/

/-- What follows the beginning of an item. -/
theorem after_item {rest : ι → Runner World α} (item : C fun _ => beginItem) (later : C rest) :
    C fun i => (do
      checkCancel
      note .item
      rest i) := by
  have begun (i : ι) : (do checkCancel; note .item; rest i) = beginItem >>= fun _ => rest i := by
    simp only [beginItem, bind_assoc]
  simp only [begun]
  exact closed.bind item fun _ => later

theorem runItem_composes (item : C fun _ => beginItem) (polling : ι → Polling)
    (asBlock : ι → Runner World BlockStatus) (record : Datum)
    (step : ∀ step, Item.read record = .ok (.step step) →
      C fun i => runStep hooks (polling i) step >>= settleStep)
    (nested : Item.read record = .ok .block → C fun i => asBlock i >>= settleBlock record) :
    C fun i => runItem hooks (polling i) (asBlock i) record := by
  unfold runItem
  apply after_item closed item
  cases read : Item.read record with
  | error fault => exact closed.fail _ nofun
  | ok content =>
    cases content with
    | step content => exact step content read
    | block => exact nested read

section Blocks

variable {Item : Type} {runItem : ι → Item → Runner World Unit}

theorem runBody_composes (breakOn continueOn : Option Condition)
    (breaks : ∀ c ∈ breakOn, mayAsk c) (continues : ∀ c ∈ continueOn, mayAsk c) {items : List Item}
    (each : ∀ item ∈ items, C fun i => runItem i item) :
    C fun i => runBody hooks breakOn continueOn (runItem i) items := by
  induction items with
  | nil => exact closed.pure _
  | cons item rest ih =>
    apply closed.bind (each item List.mem_cons_self)
    intro _
    apply closed.bind (checkOptional_composes closed breakOn breaks)
    intro broken
    apply ite_composes (closed.pure _)
    apply closed.bind (checkOptional_composes closed continueOn continues)
    intro continued
    exact ite_composes (closed.pure _) (ih fun other later => each other (List.mem_cons_of_mem _ later))

/-- The head of a loop asks for the break condition, and for the condition of the loop. -/
theorem enterWhile_composes (loop : Block.Loop Item) (condition : Condition)
    (breaks : ∀ c ∈ loop.breakOn, mayAsk c) (asked : mayAsk condition) :
    C fun _ => loop.enterWhile hooks condition := by
  apply closed.bind (checkOptional_composes closed _ breaks)
  intro broken
  apply ite_composes (closed.pure false)
  apply closed.bind (check_composes closed condition asked)
  intro holds
  exact ite_composes (closed.bind (closed.count _) fun _ => closed.pure true) (closed.pure false)

theorem enterUntil_composes (loop : Block.Loop Item) (condition : Condition)
    (breaks : ∀ c ∈ loop.breakOn, mayAsk c) (asked : mayAsk condition) :
    C fun _ => loop.enterUntil hooks condition := by
  apply closed.bind (closed.count _)
  intro _
  apply closed.bind (checkOptional_composes closed _ breaks)
  intro broken
  apply ite_composes (closed.bind (closed.count _) fun _ => closed.pure false)
  apply closed.bind (check_composes closed condition asked)
  intro holds
  exact ite_composes (closed.bind (closed.count _) fun _ => closed.pure false) (closed.pure true)

variable (head : C fun _ => beginHead)

section Loops

variable {loop : Block.Loop Item} (asked : ∀ c ∈ loop.conditions, mayAsk c)
  (each : ∀ item ∈ loop.items, C fun i => runItem i item)

include asked each in
theorem pass_composes : C fun i => loop.pass hooks (runItem i) :=
  runBody_composes closed _ _ (fun c breaks => asked c (Block.Loop.mem_conditions_of_breakOn breaks))
    (fun c continues => asked c (Block.Loop.mem_conditions_of_continueOn continues)) each

include head asked each

theorem turn_composes {enter : Runner World Bool} (entering : C fun _ => enter) :
    C fun i => loop.turn hooks (runItem i) enter := by
  simp only [turn_eq]
  apply closed.bind head
  intro _
  apply closed.bind entering
  intro entered
  apply ite_composes _ (closed.pure _)
  exact closed.bind (pass_composes closed asked each) fun flow => closed.pure _

/-- A loop that waits for a condition, by induction on the passes that it has left. -/
theorem passes_composes {enter : Runner World Bool} (entering : C fun _ => enter) (started more : Nat) :
    C fun i => loop.passes hooks (runItem i) enter started more := by
  induction more with
  | zero =>
    apply closed.bind (turn_composes closed head asked each entering)
    intro goesOn
    exact ite_composes (closed.fail _ nofun) (closed.pure ())
  | succ more ih =>
    apply closed.bind (turn_composes closed head asked each entering)
    intro goesOn
    apply ite_composes _ (closed.pure ())
    apply timed_composes closed (fun i now => do
      if loop.timedOut started now then fail .timeout
      pause hooks loop.cadenceMs
      loop.passes hooks (runItem i) enter started more)
    intro now
    have goOn : C fun i => (do
        pause hooks loop.cadenceMs
        loop.passes hooks (runItem i) enter started more) :=
      closed.bind (closed.pause _) fun _ => ih
    exact ite_composes (closed.bind (closed.fail _ nofun) fun _ => goOn) goOn

theorem counted_composes (first : Bool) (passes : Nat) :
    C fun i => loop.counted hooks (runItem i) first passes := by
  induction passes generalizing first with
  | zero => exact closed.pure ()
  | succ passes ih =>
    have pass : C fun i => (do
        if ← checkOptional hooks loop.breakOn then return
        setIterations (· + 1)
        if (← loop.pass hooks (runItem i)) = .broken then return
        loop.counted hooks (runItem i) false passes) := by
      apply closed.bind (checkOptional_composes closed _ fun c breaks =>
        asked c (Block.Loop.mem_conditions_of_breakOn breaks))
      intro broken
      apply ite_composes (closed.pure ())
      apply closed.bind (closed.count _)
      intro _
      apply closed.bind (pass_composes closed asked each)
      intro flow
      exact ite_composes (closed.pure ()) (ih false)
    simp only [counted_succ]
    apply closed.bind head
    intro _
    exact ite_composes (closed.bind (closed.pause _) fun _ => pass) pass

end Loops

include head

/-- A block has the property if the items of its body have it, and it may ask for its
conditions. -/
theorem block_composes {block : Block Item} (asked : ∀ c ∈ block.conditions, mayAsk c)
    (each : ∀ item ∈ block.items, C fun i => runItem i item) :
    C fun i => block.run hooks (runItem i) := by
  cases block with
  | ifElse condition thenItems elseItems =>
    apply closed.bind (check_composes closed condition (asked condition List.mem_cons_self))
    intro holds
    apply ite_composes
    · apply closed.bind (closed.count _)
      intro _
      apply closed.bind (runBody_composes closed none none nofun nofun fun item member =>
        each item (List.mem_append_left _ member))
      exact fun _ => closed.pure _
    · apply closed.bind (closed.count _)
      intro _
      apply closed.bind (runBody_composes closed none none nofun nofun fun item member =>
        each item (List.mem_append_right _ member))
      exact fun _ => closed.pure _
  | whileHolds condition loop =>
    apply timed_composes closed (fun i started => do
      loop.passes hooks (runItem i) (loop.enterWhile hooks condition) started (loop.cap - 1)
      return BlockStatus.succeeded)
    intro started
    obtain ⟨own, looped⟩ := List.forall_mem_cons.1 asked
    have entering := enterWhile_composes closed loop condition
      (fun c breaks => looped c (Block.Loop.mem_conditions_of_breakOn breaks)) own
    exact closed.bind (passes_composes closed head looped each entering started _) fun _ =>
      closed.pure _
  | untilHolds condition loop =>
    apply timed_composes closed (fun i started => do
      loop.passes hooks (runItem i) (loop.enterUntil hooks condition) started (loop.cap - 1)
      return BlockStatus.succeeded)
    intro started
    obtain ⟨own, looped⟩ := List.forall_mem_cons.1 asked
    have entering := enterUntil_composes closed loop condition
      (fun c breaks => looped c (Block.Loop.mem_conditions_of_breakOn breaks)) own
    exact closed.bind (passes_composes closed head looped each entering started _) fun _ =>
      closed.pure _
  | times condition loop =>
    simp only [Block.run]
    cases loop.maxIterations with
    | none => exact closed.pure _
    | some n =>
      apply ite_composes (closed.pure _)
      exact closed.bind (counted_composes closed head asked each true _) fun _ => closed.pure _

end Blocks

end Composes

end Runner

end Autopilot
