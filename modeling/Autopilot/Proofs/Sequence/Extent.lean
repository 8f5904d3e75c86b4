import Autopilot.Proofs.Sequence.Outcome
import Mathlib.Algebra.GroupWithZero.Nat

/-!
How large a run can get. Loops are limited, each by its own number of passes, so a block
has a weight: the most results of steps that it can leave. Weights add up along a body,
and they multiply where loops are nested.
-/

namespace Autopilot

namespace Block

section Weigh

variable {Item : Type}

/-- The weight of a block whose items have weights. -/
def weigh (weight : Item → Nat) : Block Item → Nat
  | .ifElse _ thenItems elseItems => max (thenItems.map weight).sum (elseItems.map weight).sum
  | .whileHolds _ loop | .untilHolds _ loop => loop.cap * (loop.items.map weight).sum
  | .times _ loop => (loop.maxIterations.getD 0).toNat * (loop.items.map weight).sum

/-- That items are known to be items does not matter for their weight. -/
theorem weigh_attach (weight : Item → Nat) (block : Block Item) :
    block.attach.weigh (fun item => weight item.1) = block.weigh weight := by
  have along (items : List Item) :
      (items.attach.map fun item => weight item.1).sum = (items.map weight).sum := by
    rw [List.attach_map_val]
  cases block with
  | ifElse condition thenItems elseItems =>
    simp only [attach, weigh, List.map_map, Function.comp_def, along]
  | whileHolds condition loop => exact congrArg (loop.cap * ·) (along loop.items)
  | untilHolds condition loop => exact congrArg (loop.cap * ·) (along loop.items)
  | times condition loop =>
    exact congrArg ((loop.maxIterations.getD 0).toNat * ·) (along loop.items)

end Weigh

/-- The most results of steps that the block of a record can leave; a record that is no
block leaves none. -/
def weight (record : Datum) : Nat :=
  match read : Block.read record with
  | .error _ => 0
  | .ok block => block.attach.weigh fun (item : { item // item ∈ block.items }) =>
    have := Block.sizeOf_lt_of_mem_items read item.2
    match Item.read item.1 with
    | .error _ => 0
    | .ok (.step _) => 1
    | .ok .block => weight item.1
termination_by sizeOf record

end Block

/-- The most results of steps that an item of a body can leave. -/
def Item.weight (item : Datum) : Nat :=
  match Item.read item with
  | .error _ => 0
  | .ok (.step _) => 1
  | .ok .block => Block.weight item

theorem Block.weight_eq {record : Datum} {block : Block Datum}
    (read : Block.read record = .ok block) : Block.weight record = block.weigh Item.weight := by
  rw [Block.weight]
  split
  next fault invalid =>
    rw [read] at invalid
    cases invalid
  next other known =>
    rw [read] at known
    cases known
    exact weigh_attach Item.weight block

namespace Runner

variable {World α β : Type} (hooks : Hooks World)

/-- A part that adds at most so many results of steps. -/
def Adds (most : Nat) (part : Runner World α) : Prop :=
  ∀ run, (part run).2.steps.size ≤ run.steps.size + most

namespace Adds

variable {most more : Nat} {part other : Runner World α}

theorem of_silent (quiet : Silent hooks part) (most : Nat) : Adds most part := by
  intro run
  rw [(quiet.sameReports run).steps]
  exact Nat.le_add_right _ _

theorem mono (adds : Adds most part) (le : most ≤ more) : Adds more part := by
  intro run
  have bound := adds run
  omega

theorem bind {next : α → Runner World β} (first : Adds most part)
    (later : ∀ value, Adds more (next value)) : Adds (most + more) (part >>= next) := by
  intro run
  have start := first run
  rcases ended : part run with ⟨halt | value, middle⟩
  · rw [ended] at start
    rw [bind_of_halt ended]
    dsimp only at start ⊢
    omega
  · rw [ended] at start
    rw [bind_of_ok ended]
    have rest := later value middle
    dsimp only at start
    omega

/-- Silent parts add nothing to what follows them. -/
theorem after {next : α → Runner World β} (quiet : Silent hooks part)
    (later : ∀ value, Adds more (next value)) : Adds more (part >>= next) := by
  have whole := (Adds.of_silent hooks quiet 0).bind later
  rwa [Nat.zero_add] at whole

/-- Silent parts add nothing to what goes before them. -/
theorem before {next : α → Runner World β} (first : Adds most part)
    (quiet : ∀ value, Silent hooks (next value)) : Adds most (part >>= next) :=
  first.bind fun value => Adds.of_silent hooks (quiet value) 0

theorem ite {condition : Prop} [Decidable condition] (first : Adds most part)
    (second : Adds most other) : Adds most (if condition then part else other) := by
  by_cases holds : condition
  · simpa only [if_pos holds] using first
  · simpa only [if_neg holds] using second

theorem reporting {content : Runner World BlockStatus} (inner : Adds most content)
    (record : Datum) : Adds most (Runner.reporting record content) := by
  intro before
  have bound := inner before.opened
  have tried : (attempt content before.opened).2.steps.size ≤ before.steps.size + most := by
    rcases attempt_cases content before.opened with ⟨_, _, ended, tried⟩ | ⟨_, _, ended, _, tried⟩ |
      ⟨_, _, ended, _, tried⟩
    all_goals rw [ended] at bound
    all_goals rw [tried]
    all_goals exact bound
  rcases reporting_cases record content before with ⟨_, _, ended, same⟩ | ⟨_, _, ended, same⟩
  all_goals rw [ended] at tried
  all_goals rw [same]
  all_goals exact tried

end Adds

/-! ## Blocks -/

section Blocks

variable {Item : Type} {runItem : Item → Runner World Unit} {weight : Item → Nat}

theorem runBody_adds (breakOn continueOn : Option Condition) {items : List Item}
    (each : ∀ item ∈ items, Adds (weight item) (runItem item)) :
    Adds (items.map weight).sum (runBody hooks breakOn continueOn runItem items) := by
  induction items with
  | nil => exact .of_silent hooks (.pure _) _
  | cons item rest ih =>
    rw [List.map_cons, List.sum_cons]
    apply (each item List.mem_cons_self).bind
    intro _
    apply Adds.after hooks (checkOptional_composes Silent.composes breakOn fun _ _ => trivial)
    intro broken
    apply Adds.ite (.of_silent hooks (.pure _) _)
    apply Adds.after hooks (checkOptional_composes Silent.composes continueOn fun _ _ => trivial)
    intro continued
    apply Adds.ite (.of_silent hooks (.pure _) _)
    exact ih fun other later => each other (List.mem_cons_of_mem _ later)

section Loops

variable {loop : Block.Loop Item} (each : ∀ item ∈ loop.items, Adds (weight item) (runItem item))

include each

theorem turn_adds {enter : Runner World Bool} (entering : Silent hooks enter) :
    Adds (loop.items.map weight).sum (loop.turn hooks runItem enter) := by
  apply Adds.after hooks .checkCancel
  intro _
  apply Adds.after hooks (.note .head rfl)
  intro _
  apply Adds.after hooks entering
  intro entered
  apply Adds.ite _ (.of_silent hooks (.pure _) _)
  exact (runBody_adds hooks loop.breakOn loop.continueOn each).before hooks fun _ => .pure _

/-- A loop that waits for a condition, by induction on the passes that it has left. -/
theorem passes_adds {enter : Runner World Bool} (entering : Silent hooks enter) (started more : Nat) :
    Adds ((more + 1) * (loop.items.map weight).sum) (loop.passes hooks runItem enter started more) := by
  have turn := turn_adds hooks each entering
  induction more with
  | zero =>
    rw [Nat.zero_add, Nat.one_mul]
    exact turn.before hooks fun _ => .ite (.fail _ nofun) (.pure ())
  | succ more ih =>
    rw [Nat.succ_mul, Nat.add_comm]
    apply turn.bind
    intro goesOn
    apply Adds.ite _ (.of_silent hooks (.pure _) _)
    apply Adds.after hooks .get
    intro run
    have goOn : Adds ((more + 1) * (loop.items.map weight).sum) (do
        pause hooks loop.cadenceMs
        loop.passes hooks runItem enter started more) := Adds.after hooks (.pause _) fun _ => ih
    exact .ite (Adds.after hooks (.fail .timeout nofun) fun _ => goOn) goOn

theorem counted_adds (first : Bool) (passes : Nat) :
    Adds (passes * (loop.items.map weight).sum) (loop.counted hooks runItem first passes) := by
  induction passes generalizing first with
  | zero => exact .of_silent hooks (.pure _) _
  | succ passes ih =>
    have pass : Adds ((passes + 1) * (loop.items.map weight).sum) (do
        if ← checkOptional hooks loop.breakOn then return
        setIterations (· + 1)
        if (← loop.pass hooks runItem) = .broken then return
        loop.counted hooks runItem false passes) := by
      apply Adds.after hooks (checkOptional_composes Silent.composes _ fun _ _ => trivial)
      intro broken
      apply Adds.ite (.of_silent hooks (.pure _) _)
      apply Adds.after hooks (.count _)
      intro _
      rw [Nat.succ_mul, Nat.add_comm]
      apply (runBody_adds hooks _ _ each).bind
      intro flow
      exact .ite (.of_silent hooks (.pure _) _) (ih false)
    apply Adds.after hooks .checkCancel
    intro _
    apply Adds.after hooks (.note .head rfl)
    intro _
    exact .ite (Adds.after hooks (.pause _) fun _ => pass) pass

end Loops

theorem cap_pos (loop : Block.Loop Item) : 0 < loop.cap := by
  unfold Block.Loop.cap
  split
  next n _ =>
    split
    next positive => omega
    next => decide
  next => decide

/-- A block adds at most its weight. -/
theorem block_adds {block : Block Item} (each : ∀ item ∈ block.items, Adds (weight item) (runItem item)) :
    Adds (block.weigh weight) (block.run hooks runItem) := by
  cases block with
  | ifElse condition thenItems elseItems =>
    apply Adds.after hooks (check_composes Silent.composes condition trivial)
    intro holds
    apply Adds.ite
    · apply Adds.after hooks (.count _)
      intro _
      have body := runBody_adds hooks none none fun item member =>
        each item (List.mem_append_left _ member)
      exact (body.mono (Nat.le_max_left _ _)).before hooks fun _ => .pure _
    · apply Adds.after hooks (.count _)
      intro _
      have body := runBody_adds hooks none none fun item member =>
        each item (List.mem_append_right _ member)
      exact (body.mono (Nat.le_max_right _ _)).before hooks fun _ => .pure _
  | whileHolds condition loop =>
    apply Adds.after hooks .get
    intro run
    have entering : Silent hooks (loop.enterWhile hooks condition) :=
      enterWhile_composes Silent.composes loop condition (fun _ _ => trivial) trivial
    have passes := passes_adds hooks each entering run.now (loop.cap - 1)
    rw [Nat.sub_add_cancel (cap_pos loop)] at passes
    exact passes.before hooks fun _ => .pure _
  | untilHolds condition loop =>
    apply Adds.after hooks .get
    intro run
    have entering : Silent hooks (loop.enterUntil hooks condition) :=
      enterUntil_composes Silent.composes loop condition (fun _ _ => trivial) trivial
    have passes := passes_adds hooks each entering run.now (loop.cap - 1)
    rw [Nat.sub_add_cancel (cap_pos loop)] at passes
    exact passes.before hooks fun _ => .pure _
  | times condition loop =>
    simp only [Block.run, Block.weigh]
    cases loop.maxIterations with
    | none => exact .of_silent hooks (.pure _) _
    | some n =>
      apply Adds.ite (.of_silent hooks (.pure _) _)
      exact (counted_adds hooks each true n.toNat).before hooks fun _ => .pure _

end Blocks

/-! ## Records -/

section Records

variable (polling : Polling)

theorem settleStep_adds (result : StepResult) : Adds 1 (settleStep result : Runner World Unit) := by
  intro run
  rw [settleStep_apply]
  simp

theorem settleBlock_adds (record : Datum) (status : BlockStatus) (most : Nat) :
    Adds most (settleBlock record status : Runner World Unit) := by
  intro run
  rw [settleBlock_apply]
  exact Nat.le_add_right _ _

/-- A block record adds at most its weight, by induction on the record. -/
theorem runBlock_adds (record : Datum) :
    Adds (Block.weight record) (runBlock hooks polling record) := by
  rw [runBlock_eq]
  apply Adds.reporting
  unfold blockContent
  split
  next fault _ => exact .of_silent hooks (.fail (.invalidBlock fault) nofun) _
  next block read =>
    rw [Block.weight_eq read]
    apply block_adds hooks
    intro item member
    have smaller := Block.sizeOf_lt_of_mem_items read member
    have inner := runBlock_adds item
    unfold runItem
    apply Adds.after hooks .checkCancel
    intro _
    apply Adds.after hooks (.note .item rfl)
    intro _
    unfold Item.weight
    cases Item.read item with
    | error fault => exact .of_silent hooks (.fail (.invalidStep fault) nofun) _
    | ok content =>
      cases content with
      | step step =>
        exact Adds.after hooks (runStep_silent polling step) fun result => settleStep_adds result
      | block => exact inner.bind fun status => settleBlock_adds item status 0
termination_by sizeOf record

theorem runBlocks_adds (records : List Datum) :
    Adds (records.map Block.weight).sum (runBlocks hooks polling records) := by
  induction records with
  | nil => exact .of_silent hooks (.pure _) _
  | cons record rest ih =>
    rw [List.map_cons, List.sum_cons]
    apply Adds.after hooks .checkCancel
    intro _
    apply Adds.after hooks (.note .block rfl)
    intro _
    apply (runBlock_adds hooks polling record).bind
    intro status
    apply Adds.after hooks .get
    intro run
    exact ih.before hooks fun _ => .pure _

theorem runSteps_adds (steps : List Step) : Adds steps.length (runSteps hooks polling steps) := by
  induction steps with
  | nil => exact .of_silent hooks (.pure _) _
  | cons step rest ih =>
    rw [List.length_cons, Nat.add_comm]
    apply Adds.after hooks (runStep_silent polling step)
    intro result
    have reported : Adds 1 (report result : Runner World Unit) := by
      intro run
      exact Nat.le_of_eq (Array.size_push result)
    apply reported.bind
    intro _
    exact .ite (.of_silent hooks (.pure _) _) ih

/-- A run reports at most one step for each at the top, and the weights of the blocks. -/
theorem runParts_adds (sequence : Sequence) :
    Adds (sequence.steps.length + (sequence.blocks.map fun block => Block.weight (.ofJson block)).sum)
      (runParts hooks polling sequence) := by
  have steps := runSteps_adds hooks polling sequence.orderedSteps
  rw [sequence.length_orderedSteps] at steps
  apply steps.bind
  intro failure
  cases failure with
  | some error => exact .of_silent hooks (.pure _) _
  | none =>
    have blocks := runBlocks_adds hooks polling (sequence.blocks.map Datum.ofJson)
    rwa [List.map_map] at blocks

end Records

end Runner

end Autopilot
