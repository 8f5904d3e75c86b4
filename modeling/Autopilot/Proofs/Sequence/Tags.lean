import Autopilot.Proofs.Sequence.Acceptance

/-!
How a record tells which kind of block it is. The kind is told by its name, or by an object from its
name to nothing, and it stands under `type` in an object, or first in a list. Whoever reads blocks
takes all four. A report, though, gives a name only if the record gives it under `type`, and an item
of a body is a block only if it is an object: a list is read as a step.
-/

namespace Autopilot

namespace Block

/-- A value that tells a kind: its name, or an object from its name to nothing. -/
inductive Kind.Tag (kind : Kind) : Json → Prop where
  | name : Tag kind (.str kind.name)
  | object : Tag kind (.obj [(kind.name, .null)])

theorem Kind.named_iff (name : String) (kind : Kind) :
    Reads.named Kind.variants name = .ok kind ↔ name = kind.name := by
  constructor
  · intro told
    unfold Reads.named at told
    split at told
    next value names found =>
      cases told
      have known := List.mem_of_find?_eq_some found
      have holds := List.find?_some found
      simp only [Kind.variants, List.mem_cons, Prod.mk.injEq, List.not_mem_nil, or_false] at known
      rcases known with ⟨rfl, rfl⟩ | ⟨rfl, rfl⟩ | ⟨rfl, rfl⟩ | ⟨rfl, rfl⟩
      all_goals simpa using holds
    next => cases told
  · rintro rfl
    cases kind <;> rfl

/-- Of the values of JSON just these are read as the kind. -/
theorem Kind.tag_iff (v : Json) (kind : Kind) :
    Reads.variant Kind.variants .json (.ofJson v) = .ok kind ↔ kind.Tag v := by
  constructor
  · intro told
    cases v with
    | str name =>
      obtain rfl := (Kind.named_iff name kind).1 told
      exact .name
    | obj fields =>
      rcases fields with _ | ⟨⟨name, content⟩, _ | ⟨other, rest⟩⟩
      · cases told
      · obtain ⟨other, named, told⟩ := ok_of_bind told
        obtain ⟨_, nothing, same⟩ := ok_of_bind told
        cases same
        obtain rfl := (Kind.named_iff name kind).1 named
        cases content with
        | null => exact .object
        | num n => cases n <;> cases nothing
        | _ => cases nothing
      · cases told
    | num n => cases n <;> cases told
    | _ => cases told
  · rintro (_ | _)
    · exact (Kind.named_iff _ kind).2 rfl
    · cases kind <;> rfl

theorem Wire.block_kind {wire : Wire} {condition breakOn continueOn : Option Condition}
    {block : Block Datum} (made : wire.block condition breakOn continueOn = .ok block) :
    block.kind = wire.kind := by
  obtain ⟨kind, _⟩ := wire
  cases kind with
  | times =>
    cases made
    rfl
  | _ =>
    obtain ⟨_, _, same⟩ := ok_of_bind made
    cases same
    rfl

/-- A record that is read as a block tells its kind in the first of its fields. -/
theorem read_tag {v : Json} {block : Block Datum} (accepted : Block.read (.ofJson v) = .ok block) :
    ∃ tag, v.field? 0 "type" = some tag ∧ block.kind.Tag tag := by
  obtain ⟨wire, _, _, _, decoded, _, _, _, made⟩ := read_ok_iff.1 accepted
  obtain ⟨r, opened, parts⟩ := ok_of_bind decoded
  have done := Record.parts_done parts
  simp only [Reading.seq_eq_done_iff, Reading.map_eq_done_iff] at done
  obtain ⟨_, ⟨_, ⟨_, ⟨_, ⟨_, ⟨_, ⟨_, ⟨_, ⟨kind, told, rfl⟩, _, _, rfl⟩, _, _, rfl⟩, _, _, rfl⟩,
    _, _, rfl⟩, _, _, rfl⟩, _, _, rfl⟩, _, _, rfl⟩, _, _, rfl⟩ := done
  rw [Wire.block_kind made]
  rcases Record.field_told opened told with ⟨_, absent⟩ | ⟨tag, held, read⟩
  · cases absent
  · exact ⟨tag, held, (Kind.tag_iff tag kind).1 read⟩

/-- A record is an object, or a list in which the kind stands first. -/
theorem read_shape {v : Json} {block : Block Datum} (accepted : Block.read (.ofJson v) = .ok block) :
    (∃ fields, v = .obj fields) ∨ ∃ tag rest, v = .arr (tag :: rest) ∧ block.kind.Tag tag := by
  obtain ⟨tag, held, tells⟩ := read_tag accepted
  cases v with
  | obj fields => exact .inl ⟨fields, rfl⟩
  | arr items =>
    cases items with
    | nil => cases held
    | cons first rest =>
      cases held
      exact .inr ⟨_, rest, rfl, tells⟩
  | _ => cases held

/-! ## Names in reports -/

/-- The type field of an object is what the object holds for it. -/
theorem typeField?_obj (fields : List (String × Json)) (position : Nat) :
    typeField? (.ofJson (.obj fields)) = ((Json.obj fields).field? position "type").map .ofJson := by
  have rows : typeField? (.ofJson (.obj fields)) =
      ((Datum.ofFields fields).find? fun row => row.1.isText "type").map Prod.snd := rfl
  rw [rows, Datum.ofFields_eq_map, List.find?_map, Json.field?, Option.map_map, Option.map_map]
  have same : (fun row : Datum × Datum => row.1.isText "type") ∘
      (fun field : String × Json => (Datum.text field.1, Datum.ofJson field.2)) =
        fun field => ["type"].contains field.1 := by
    funext field
    simp [Datum.isText]
  rw [same]
  rfl

/-- A record that tells its kind by name, under `type`. -/
def Named (kind : Kind) (v : Json) : Prop :=
  ∃ fields, v = .obj fields ∧ v.field? 0 "type" = some (.str kind.name)

theorem typeName_of_named {v : Json} {kind : Kind} (named : Named kind v) :
    typeName (.ofJson v) = kind.name := by
  obtain ⟨fields, rfl, told⟩ := named
  unfold typeName
  rw [typeField?_obj fields 0, told]
  rfl

/-- Any other record that is read as a block has no name in reports. -/
theorem typeName_of_unnamed {v : Json} {block : Block Datum}
    (accepted : Block.read (.ofJson v) = .ok block) (unnamed : ¬Named block.kind v) :
    typeName (.ofJson v) = "unknown" := by
  obtain ⟨tag, held, tells⟩ := read_tag accepted
  unfold typeName
  rcases read_shape accepted with ⟨fields, rfl⟩ | ⟨first, rest, rfl, _⟩
  · rw [typeField?_obj fields 0, held]
    cases tells with
    | name => exact absurd ⟨fields, rfl, held⟩ unnamed
    | object => rfl
  · rfl

/-! ## Items -/

theorem item_of_object {fields : List (String × Json)} {tag : Json}
    (held : (Json.obj fields).field? 0 "type" = some tag) :
    Item.read (.ofJson (.obj fields)) = .ok .block := by
  unfold Item.read
  rw [typeField?_obj fields 0, held]
  rfl

/-- What a list of fields must give for a step: a command, and no order but a number. -/
theorem step_told {items : List Json} {step : Step}
    (read : Step.read .json (.ofJson (.arr items)) = .ok step) :
    (∃ commandId, items[0]? = some (.str commandId)) ∧
      ∀ order, items[1]? = some order → ∃ n, order = .num (.int n) := by
  obtain ⟨r, opened, parts⟩ := ok_of_bind read
  have done := Record.parts_done parts
  simp only [Reading.seq_eq_done_iff, Reading.map_eq_done_iff] at done
  obtain ⟨_, ⟨_, ⟨_, ⟨_, ⟨_, ⟨_, command, rfl⟩, _, rank, rfl⟩, _, _, rfl⟩, _, _, rfl⟩, _, _, rfl⟩,
    _, _, rfl⟩ := done
  constructor
  · rcases Record.field_told opened command with ⟨_, absent⟩ | ⟨held, some, text⟩
    · cases absent
    · cases held with
      | str commandId => exact ⟨commandId, some⟩
      | num n => cases n <;> cases text
      | _ => cases text
  · intro order given
    rcases Record.field_told opened rank with ⟨none, _⟩ | ⟨held, some, number⟩
    · cases none.symm.trans given
    · cases some.symm.trans given
      have same := (Reads.whole_eq_ok_iff.1 number).1
      cases order with
      | num n =>
        cases n with
        | int n => exact ⟨n, rfl⟩
        | real x => cases same
      | _ => cases same

/-- What a record gives for a condition is no number. -/
theorem read_condition {v : Json} {block : Block Datum}
    (accepted : Block.read (.ofJson v) = .ok block) (n : Int) :
    v.field? 1 "condition" ≠ some (.num (.int n)) := by
  intro held
  obtain ⟨_, _, accepts, _⟩ := (read_iff v).1 ⟨block, accepted⟩
  have given : v.given? 1 "condition" = some (.num (.int n)) := by rw [Json.given?, held]
  obtain ⟨_, decoded, _⟩ := accepts _ given
  cases decoded

/-- Only a loop with a given number of passes does without a condition. -/
theorem kind_of_no_condition {v : Json} {block : Block Datum}
    (accepted : Block.read (.ofJson v) = .ok block) (none : v.field? 1 "condition" = none) :
    block.kind = .times := by
  obtain ⟨wire, condition, breakOn, continueOn, _, one, _, _, made⟩ := read_ok_iff.1 accepted
  have lacking : (v.given? 1 "condition").isSome = false := by rw [Json.given?, none]; rfl
  rw [← (readCondition_ok one).1] at lacking
  rw [Wire.block_kind made]
  by_contra other
  rw [(Wire.block_ok_iff breakOn continueOn).1 ⟨block, made⟩ other] at lacking
  cases lacking

/-- A list that is read as a block can be read as a step only if it is the mere name of a kind that
needs nothing else. -/
theorem name_of_step {items : List Json} {block : Block Datum} {step : Step}
    (accepted : Block.read (.ofJson (.arr items)) = .ok block)
    (read : Step.read .json (.ofJson (.arr items)) = .ok step) : items = [.str "repeatCount"] := by
  obtain ⟨⟨commandId, command⟩, ranked⟩ := step_told read
  obtain ⟨tag, first, tells⟩ := read_tag accepted
  obtain rfl : tag = .str commandId := Option.some.inj (first.symm.trans command)
  match items, command, ranked, accepted with
  | _ :: order :: _, _, ranked, accepted =>
    obtain ⟨n, rfl⟩ := ranked order rfl
    exact absurd rfl (read_condition accepted n)
  | [_], command, _, accepted =>
    cases command
    have times : block.kind = .times := kind_of_no_condition accepted rfl
    rw [times] at tells
    cases tells
    rfl

theorem item_of_list {items : List Json} {block : Block Datum}
    (accepted : Block.read (.ofJson (.arr items)) = .ok block) (more : items ≠ [.str "repeatCount"]) :
    ∃ fault, Item.read (.ofJson (.arr items)) = .error fault := by
  have asStep : Item.read (.ofJson (.arr items)) =
      (Step.read .json (.ofJson (.arr items))).map .step := rfl
  rw [asStep]
  cases read : Step.read .json (.ofJson (.arr items)) with
  | error fault => exact ⟨fault, rfl⟩
  | ok step => exact absurd (name_of_step accepted read) more

end Block

namespace Runner

variable {World : Type}

/-- A block that ends reports itself last, under the name of its record. -/
theorem runBlock_reports {hooks : Hooks World} {polling : Polling} {record : Datum}
    {before after : Run World} {status : BlockStatus}
    (ended : runBlock hooks polling record before = (.ok status, after)) :
    ∃ (earlier : Array BlockResult) (result : BlockResult), after.blocks = earlier.push result ∧
      result.blockType = Block.typeName record ∧ result.status = status := by
  rw [runBlock_eq] at ended
  rcases reporting_cases record (blockContent hooks polling record) before with
    ⟨outcome, inside, _, same⟩ | ⟨_, _, _, same⟩
  · cases same.symm.trans ended
    exact ⟨inside.blocks, blockResult record before.now inside outcome, rfl, rfl, rfl⟩
  · cases same.symm.trans ended

/-- An item that is a block runs as this block does by itself. -/
theorem runItem_of_block (hooks : Hooks World) (polling : Polling) (asBlock : Runner World BlockStatus)
    {record : Datum} (isBlock : Item.read record = .ok .block) :
    runItem hooks polling asBlock record = (do
      beginItem
      settleBlock record (← asBlock)) := by
  simp only [runItem, beginItem, isBlock, bind_assoc]

/-- What comes of a value that is read as a block. It tells its kind, by name or by an object, under
`type` or first in a list. If it gives the name under `type`, the block is reported under it, and
otherwise under no name. If it is an object, it is a block also as an item of a body, and runs there as
it does by itself. If it is a list, it is read as a step instead: the mere name of a counted loop calls
the command of this name, and any other is no step either. -/
theorem read_reports (v : Json) {block : Block Datum}
    (accepted : Block.read (.ofJson v) = .ok block) :
    (∃ tag, v.field? 0 "type" = some tag ∧ block.kind.Tag tag) ∧
    (Block.Named block.kind v → Block.typeName (.ofJson v) = block.kind.name) ∧
    (¬Block.Named block.kind v → Block.typeName (.ofJson v) = "unknown") ∧
    (Item.read (.ofJson v) = .ok .block ↔ ∃ fields, v = .obj fields) ∧
    (∀ step, Item.read (.ofJson v) = .ok (.step step) ↔
      v = .arr [.str "repeatCount"] ∧ step = { commandId := "repeatCount" }) ∧
    ∀ {World : Type} (hooks : Hooks World) (polling : Polling),
      ((∃ fields, v = .obj fields) →
        runItem hooks polling (runBlock hooks polling (.ofJson v)) (.ofJson v) = (do
          beginItem
          settleBlock (.ofJson v) (← runBlock hooks polling (.ofJson v)))) ∧
      ∀ before after status, runBlock hooks polling (.ofJson v) before = (.ok status, after) →
        ∃ (earlier : Array BlockResult) (result : BlockResult), after.blocks = earlier.push result ∧
          result.blockType = Block.typeName (.ofJson v) ∧ result.status = status := by
  have alone : Item.read (.ofJson (.arr [.str "repeatCount"])) =
      .ok (.step { commandId := "repeatCount" }) := rfl
  have asBlock : (∃ fields, v = .obj fields) → Item.read (.ofJson v) = .ok .block := by
    rintro ⟨fields, rfl⟩
    obtain ⟨tag, held, _⟩ := Block.read_tag accepted
    exact Block.item_of_object held
  refine ⟨Block.read_tag accepted, Block.typeName_of_named, Block.typeName_of_unnamed accepted,
    ⟨fun isBlock => ?_, asBlock⟩, fun step => ⟨fun isStep => ?_, ?_⟩, fun hooks polling => ⟨?_, ?_⟩⟩
  · rcases Block.read_shape accepted with object | ⟨tag, rest, rfl, _⟩
    · exact object
    · by_cases mere : tag :: rest = [.str "repeatCount"]
      · rw [mere, alone] at isBlock
        cases isBlock
      · obtain ⟨fault, failed⟩ := Block.item_of_list accepted mere
        rw [failed] at isBlock
        cases isBlock
  · rcases Block.read_shape accepted with object | ⟨tag, rest, rfl, _⟩
    · rw [asBlock object] at isStep
      cases isStep
    · by_cases mere : tag :: rest = [.str "repeatCount"]
      · rw [mere, alone] at isStep
        cases isStep
        exact ⟨congrArg Json.arr mere, rfl⟩
      · obtain ⟨fault, failed⟩ := Block.item_of_list accepted mere
        rw [failed] at isStep
        cases isStep
  · rintro ⟨rfl, rfl⟩
    exact alone
  · exact fun object => runItem_of_block hooks polling _ (asBlock object)
  · exact fun before after status ended => runBlock_reports ended

/-- A loop that tells its kind by name, under `type`. -/
def waiting : Json :=
  .object [("type", .str "while"),
    ("condition", .object [("source", .str "image"), ("targetId", .str "veil")])]

theorem read_reports_waiting :
    ∃ block, Block.read (.ofJson waiting) = .ok block ∧ block.kind = .whileHolds ∧
      Block.typeName (.ofJson waiting) = "while" ∧ Item.read (.ofJson waiting) = .ok .block := by
  have accepted : ∃ block, Block.read (.ofJson waiting) = .ok block ∧ block.kind = .whileHolds :=
    ⟨_, rfl, rfl⟩
  obtain ⟨block, accepted, kind⟩ := accepted
  obtain ⟨_, named, _, items, _⟩ := read_reports waiting accepted
  rw [kind] at named
  exact ⟨block, accepted, kind, named ⟨_, rfl, rfl⟩, items.2 ⟨_, rfl⟩⟩

/-- A counted loop as a list of its fields, with nothing but its kind: it is read as a block, but
reported under no name, and as an item it is no block but a step. Another tells its kind by an object:
it is a block as an item, too, and yet is reported under no name. -/
theorem listed_unnamed :
    (∃ block, Block.read (.ofJson (.arr [.str "repeatCount"])) = .ok block ∧
      block.kind.name = "repeatCount" ∧
      Block.typeName (.ofJson (.arr [.str "repeatCount"])) = "unknown" ∧
      Item.read (.ofJson (.arr [.str "repeatCount"])) = .ok (.step { commandId := "repeatCount" })) ∧
    ∃ block, Block.read (.ofJson (.obj [("type", .obj [("repeatCount", .null)])])) = .ok block ∧
      block.kind.name = "repeatCount" ∧
      Block.typeName (.ofJson (.obj [("type", .obj [("repeatCount", .null)])])) = "unknown" :=
  ⟨⟨_, rfl, rfl, rfl, rfl⟩, _, rfl, rfl, rfl⟩

end Runner

end Autopilot
