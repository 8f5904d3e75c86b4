import Autopilot.Sequence.Block
import Autopilot.Record.Lemmas

/-!
Blocks nest finitely: every item of a block is a smaller datum than the record of
the block, which is why a run through nested blocks comes to an end.
-/

namespace Autopilot.Block

theorem mem_items_of_mem_then {Item : Type} {condition : Condition} {thenItems elseItems : List Item}
    {item : Item} (member : item ∈ thenItems) :
    item ∈ (ifElse condition thenItems elseItems).items :=
  List.mem_append_left _ member

theorem mem_items_of_mem_else {Item : Type} {condition : Condition} {thenItems elseItems : List Item}
    {item : Item} (member : item ∈ elseItems) :
    item ∈ (ifElse condition thenItems elseItems).items :=
  List.mem_append_right _ member

/-- The block with every item known to be one of its items. -/
def attach {Item : Type} : (block : Block Item) → Block { item // item ∈ block.items }
  | .ifElse condition thenItems elseItems =>
    .ifElse condition
      (thenItems.attach.map fun item => ⟨item.1, mem_items_of_mem_then item.2⟩)
      (elseItems.attach.map fun item => ⟨item.1, mem_items_of_mem_else item.2⟩)
  | .whileHolds condition loop => .whileHolds condition { loop with items := loop.items.attach }
  | .untilHolds condition loop => .untilHolds condition { loop with items := loop.items.attach }
  | .times condition loop => .times condition { loop with items := loop.items.attach }

theorem Wire.sizeOf_lt {d : Datum} {wire : Wire} (read : Wire.read .json d = .ok wire)
    {item : Datum} (member : item ∈ wire.steps ++ wire.elseSteps) : sizeOf item < sizeOf d := by
  unfold Wire.read at read
  cases opened : Record.read "struct BlockRecord" 9 .json d with
  | error fault => simp [opened, bind, Except.bind] at read
  | ok r =>
    simp only [opened, bind, Except.bind] at read
    simp only [Reading.toExcept_eq_ok_iff, Reading.seqLeft_eq_done_iff, Reading.seq_eq_done_iff,
      Reading.map_eq_done_iff] at read
    obtain ⟨⟨_, ⟨_, parts, steps, stepsRead, rfl⟩, elseSteps, elseRead, rfl⟩, _⟩ := read
    obtain ⟨_, ⟨_, ⟨_, ⟨_, ⟨_, ⟨_, ⟨_, _, rfl⟩, _, _, rfl⟩, _, _, rfl⟩, _, _, rfl⟩, _, _, rfl⟩,
      _, _, rfl⟩, _, _, rfl⟩ := parts
    have inside : ∀ {items : List Datum} {position : Nat} {names : List String},
        r.withDefault position names [] (.list whole) = .done items →
        ∀ item ∈ items, sizeOf item < sizeOf d := by
      intro items position names done item member
      rcases Record.field_eq_done done with absent | ⟨value, held, listed⟩
      · cases absent
        cases member
      · have within := Reads.sizeOf_lt_of_list listed member
        have small := Record.sizeOf_lt_of_mem_values opened held
        omega
    rcases List.mem_append.1 member with first | second
    · exact inside stepsRead item first
    · exact inside elseRead item second

theorem sizeOf_lt_of_mem_items {d : Datum} {block : Block Datum} (read : Block.read d = .ok block)
    {item : Datum} (member : item ∈ block.items) : sizeOf item < sizeOf d := by
  unfold Block.read at read
  cases wired : Wire.read .json d with
  | error fault =>
    have failed : (Except.error fault : Except Fault Wire).mapError BlockFault.record =
        .error (.record fault) := rfl
    simp [wired, failed, bind, Except.bind] at read
  | ok wire =>
    apply Wire.sizeOf_lt wired
    have passed : (Except.ok wire : Except Fault Wire).mapError BlockFault.record =
        .ok wire := rfl
    simp only [wired, passed, bind, Except.bind] at read
    repeat' split at read
    all_goals simp only [reduceCtorEq, pure, Except.pure, Except.ok.injEq] at read
    all_goals subst read
    all_goals simp_all [items, Wire.loop]

end Autopilot.Block
