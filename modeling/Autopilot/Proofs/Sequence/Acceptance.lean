import Autopilot.Proofs.Record
import Autopilot.Proofs.Sequence.Tallies

/-!
Which values are blocks. A value decodes as the fields of all kinds of blocks together, whatever its
own kind; then each condition that it gives is read and validated, also one that its kind does not
use, and only then it matters whether its kind needs a condition. What is read so needs no second
look: nothing that goes wrong while a block runs says that it was no block.
-/

namespace Autopilot

/-! ## Fields of values -/

/-- What a value holds for a field: an object under the field's name, a list in the field's place. -/
def Json.field? (v : Json) (position : Nat) (name : String) : Option Json :=
  match v with
  | .obj fields => (fields.find? fun field => [name].contains field.1).map Prod.snd
  | .arr items => items[position]?
  | _ => none

/-- What a value holds for a field, if that is not null. -/
def Json.given? (v : Json) (position : Nat) (name : String) : Option Json :=
  match v.field? position name with
  | some .null => none
  | held => held

/-- The items that a value lists in a field. -/
def Json.listed (v : Json) (position : Nat) (name : String) : List Json :=
  match v.field? position name with
  | some (.arr items) => items
  | _ => []

namespace Record

/-- Of a field that is told twice neither is found. -/
theorem find_shown_twice {fields : List (String × Json)} {names : List String} {v w : Json}
    {rest : List Json}
    (tells : (fields.filter fun field => names.contains field.1).map Prod.snd = v :: w :: rest)
    (kind : String) (size : Nat) (ofTagged : Bool) (position : Nat) :
    ∃ place value again, (shown kind size fields ofTagged).find position names =
      .twice place value again := by
  have rows := filter_shown kind size fields ofTagged position names
  rw [tells, List.map_cons, List.map_cons] at rows
  obtain ⟨⟨⟨key, value⟩, place⟩, others, one, _, more⟩ := List.map_eq_cons_iff.1 rows
  obtain ⟨⟨other, again⟩, _, two, _, _⟩ := List.map_eq_cons_iff.1 more
  refine ⟨place, value, again, ?_⟩
  unfold find
  simp only [shown] at one ⊢
  rw [one, two]

/-- What a record finds for a field is what the value holds for it, unless it is told twice. -/
theorem find_told {kind : String} {size : Nat} {v : Json} {r : Record}
    (opened : Record.read kind size .json (.ofJson v) = .ok r) (position : Nat) (name : String) :
    r.origin = .json ∧
      ((v.field? position name = none ∧ r.find position [name] = .absent) ∨
        (∃ held place, v.field? position name = some held ∧
          r.find position [name] = .single place (.ofJson held)) ∨
        ∃ place value again, r.find position [name] = .twice place value again) := by
  cases v with
  | obj fields =>
    cases opened
    have first : (Json.obj fields).field? position name =
        ((fields.filter fun field => [name].contains field.1).map Prod.snd).head? := by
      rw [Json.field?, ← List.head?_filter, List.head?_map]
    refine ⟨rfl, ?_⟩
    rcases tells : (fields.filter fun field => [name].contains field.1).map Prod.snd with
      _ | ⟨value, _ | ⟨other, rest⟩⟩
    · rw [tells] at first
      exact .inl ⟨first, find_shown_none tells kind size false position⟩
    · rw [tells] at first
      obtain ⟨place, found⟩ := find_shown_some tells kind size false position
      exact .inr (.inl ⟨value, place, first, found⟩)
    · exact .inr (.inr (find_shown_twice tells kind size false position))
  | arr items =>
    cases opened
    have listed : (Datum.ofItems items)[position]? = items[position]?.map Datum.ofJson := by
      rw [Datum.ofItems_eq_map, List.getElem?_map]
    refine ⟨rfl, ?_⟩
    cases inside : items[position]? with
    | none =>
      refine .inl ⟨inside, ?_⟩
      simp only [find, listed, inside, Option.map_none]
    | some value =>
      refine .inr (.inl ⟨value, position, inside, ?_⟩)
      simp only [find, listed, inside, Option.map_some]
  | num n => cases n <;> cases opened
  | _ => cases opened

/-- A field that was read is that of the value. -/
theorem field_told {α : Type} {kind : String} {size : Nat} {v : Json} {r : Record} {position : Nat}
    {name : String} {absent : Except Fault α} {read : Reads α} {a : α}
    (opened : Record.read kind size .json (.ofJson v) = .ok r)
    (done : r.field position [name] absent read = .done a) :
    (v.field? position name = none ∧ absent = .ok a) ∨
      ∃ held, v.field? position name = some held ∧ read .json (.ofJson held) = .ok a := by
  obtain ⟨origin, ⟨none, found⟩ | ⟨held, place, some, found⟩ | ⟨place, value, again, found⟩⟩ :=
    find_told opened position name
  all_goals unfold field at done
  all_goals rw [found] at done
  · refine .inl ⟨none, ?_⟩
    cases absent <;> simp_all
  · refine .inr ⟨held, some, ?_⟩
    unfold present at done
    rw [origin] at done
    cases given : read .json (.ofJson held) <;> simp_all
  · unfold present at done
    cases given : read r.origin value <;> simp_all

/-- What was read of a field that may be absent or null. -/
theorem optional_told {kind : String} {size : Nat} {v : Json} {r : Record} {position : Nat}
    {name : String} {value : Option Datum}
    (opened : Record.read kind size .json (.ofJson v) = .ok r)
    (done : r.optional position [name] Block.whole = .done value) :
    value = (v.given? position name).map Datum.ofJson := by
  unfold Json.given?
  rcases field_told opened done with ⟨none, absent⟩ | ⟨held, some, reads⟩
  · cases absent
    rw [none]
    rfl
  · rw [some]
    cases held with
    | num n => cases n <;> exact (Except.ok.inj reads).symm
    | _ => exact (Except.ok.inj reads).symm

/-- What was read of a list that may be absent. -/
theorem list_told {kind : String} {size : Nat} {v : Json} {r : Record} {position : Nat}
    {name : String} {items : List Datum}
    (opened : Record.read kind size .json (.ofJson v) = .ok r)
    (done : r.withDefault position [name] [] (.list Block.whole) = .done items) :
    items = (v.listed position name).map Datum.ofJson := by
  unfold Json.listed
  rcases field_told opened done with ⟨none, absent⟩ | ⟨held, some, reads⟩
  · cases absent
    rw [none]
    rfl
  · rw [some]
    cases held with
    | arr inner =>
      have same : Reads.list Block.whole .json (.ofJson (.arr inner)) = .ok (Datum.ofItems inner) :=
        Reads.mapM_ok _
      rw [same, Datum.ofItems_eq_map] at reads
      exact (Except.ok.inj reads).symm
    | num n => cases n <;> cases reads
    | _ => cases reads

end Record

/-! ## Conditions -/

/-- A condition names a target, and its threshold, if it has one, is a confidence. -/
def Condition.Valid (c : Condition) : Prop :=
  Text.allBlank c.targetId = false ∧ ∀ threshold ∈ c.confidenceThreshold, 0.0 ≤ threshold ∧ threshold ≤ 1.0

theorem Condition.validate_iff (c : Condition) : c.validate = .ok () ↔ c.Valid := by
  unfold validate Valid
  cases Text.allBlank c.targetId with
  | true => simp
  | false =>
    cases c.confidenceThreshold with
    | none => simp
    | some threshold => simp [isConfidence]

/-- A condition is accepted if it decodes and is valid. -/
theorem Condition.ofDatum_iff (d : Datum) (c : Condition) :
    Condition.ofDatum d = .ok c ↔ Condition.read .json d = .ok c ∧ c.Valid := by
  rw [← validate_iff]
  unfold ofDatum
  constructor
  · intro accepted
    obtain ⟨other, decoded, later⟩ := ok_of_bind accepted
    obtain ⟨_, validated, same⟩ := ok_of_bind later
    cases same
    exact ⟨ok_of_mapError decoded, validated⟩
  · rintro ⟨decoded, validated⟩
    rw [decoded]
    exact (congrArg (· >>= fun _ => Except.ok c) validated : _)

namespace Block

/-- What a value holds for a condition of a block is accepted, if it is there and not null. -/
def Accepts (v : Json) (position : Nat) (name : String) : Prop :=
  ∀ held, v.given? position name = some held →
    ∃ c, Condition.read .json (.ofJson held) = .ok c ∧ c.Valid

theorem readCondition_some (kind : Kind) (field : String) (d : Datum) (condition : Option Condition) :
    readCondition kind field (some d) = .ok condition ↔
      ∃ c, condition = some c ∧ Condition.ofDatum d = .ok c := by
  cases accepted : Condition.ofDatum d <;>
    simp [readCondition, accepted, Except.map, Except.mapError, eq_comm]

/-- A condition of a block is read if and only if the value for it is accepted. -/
theorem readCondition_iff (kind : Kind) {v : Json} {position : Nat} {name : String} :
    (∃ condition, readCondition kind name ((v.given? position name).map Datum.ofJson) = .ok condition) ↔
      Accepts v position name := by
  unfold Accepts
  cases v.given? position name with
  | none => exact ⟨fun _ => nofun, fun _ => ⟨none, rfl⟩⟩
  | some held =>
    simp only [Option.map_some, readCondition_some, Condition.ofDatum_iff, Option.some.injEq,
      forall_eq']
    constructor
    · rintro ⟨_, c, rfl, accepted⟩
      exact ⟨c, accepted⟩
    · rintro ⟨c, accepted⟩
      exact ⟨some c, c, rfl, accepted⟩

theorem readCondition_valid {kind : Kind} {field : String} {given : Option Datum}
    {condition : Option Condition} (read : readCondition kind field given = .ok condition) :
    ∀ c ∈ condition, c.Valid := by
  cases given with
  | none =>
    cases read
    exact nofun
  | some d =>
    obtain ⟨c, rfl, accepted⟩ := (readCondition_some kind field d condition).1 read
    rintro _ ⟨⟩
    exact ((Condition.ofDatum_iff d c).1 accepted).2

/-- The condition that is read is there if and only if the value gives one, and it is valid. -/
theorem readCondition_ok {kind : Kind} {v : Json} {position : Nat} {name : String}
    {condition : Option Condition}
    (read : readCondition kind name ((v.given? position name).map Datum.ofJson) = .ok condition) :
    condition.isSome = (v.given? position name).isSome ∧ ∀ c ∈ condition, c.Valid := by
  refine ⟨?_, readCondition_valid read⟩
  cases given : v.given? position name with
  | none =>
    rw [given] at read
    cases read
    rfl
  | some held =>
    rw [given, Option.map_some, readCondition_some] at read
    obtain ⟨c, rfl, _⟩ := read
    rfl

/-- The block of a record whose conditions have been read. -/
def Wire.block (wire : Wire) (condition breakOn continueOn : Option Condition) :
    Except BlockFault (Block Datum) :=
  match wire.kind with
  | .ifElse => do return .ifElse (← demand wire.kind condition) wire.steps wire.elseSteps
  | .whileHolds => do
    return .whileHolds (← demand wire.kind condition)
      (wire.loop breakOn continueOn wire.clampedCadence)
  | .untilHolds => do
    return .untilHolds (← demand wire.kind condition)
      (wire.loop breakOn continueOn wire.clampedCadence)
  | .times => return .times condition (wire.loop breakOn continueOn (wire.cadenceMs.getD 0))

theorem read_eq (d : Datum) :
    Block.read d = (do
      let wire ← (Wire.read .json d).mapError .record
      let condition ← readCondition wire.kind "condition" wire.condition
      let breakOn ← readCondition wire.kind "breakOn" wire.breakOn
      let continueOn ← readCondition wire.kind "continueOn" wire.continueOn
      wire.block condition breakOn continueOn) := rfl

theorem Wire.read_told {v : Json} {wire : Wire} (read : Wire.read .json (.ofJson v) = .ok wire) :
    wire.condition = (v.given? 1 "condition").map Datum.ofJson ∧
      wire.breakOn = (v.given? 2 "breakOn").map Datum.ofJson ∧
      wire.continueOn = (v.given? 3 "continueOn").map Datum.ofJson ∧
      wire.steps = (v.listed 7 "steps").map Datum.ofJson ∧
      wire.elseSteps = (v.listed 8 "elseSteps").map Datum.ofJson := by
  obtain ⟨r, opened, parts⟩ := ok_of_bind read
  have done := Record.parts_done parts
  simp only [Reading.seq_eq_done_iff, Reading.map_eq_done_iff] at done
  obtain ⟨_, ⟨_, ⟨_, ⟨_, ⟨_, ⟨_, ⟨_, ⟨_, ⟨kind, _, rfl⟩, condition, one, rfl⟩, breakOn, two, rfl⟩,
    continueOn, three, rfl⟩, cadenceMs, _, rfl⟩, timeoutMs, _, rfl⟩, maxIterations, _, rfl⟩,
    steps, seven, rfl⟩, elseSteps, eight, rfl⟩ := done
  exact ⟨Record.optional_told opened one, Record.optional_told opened two,
    Record.optional_told opened three, Record.list_told opened seven, Record.list_told opened eight⟩

/-- A block is read in this order: the record, its three conditions, and the block. -/
theorem read_ok_iff {v : Json} {block : Block Datum} :
    Block.read (.ofJson v) = .ok block ↔
      ∃ wire condition breakOn continueOn, Wire.read .json (.ofJson v) = .ok wire ∧
        readCondition wire.kind "condition" ((v.given? 1 "condition").map .ofJson) = .ok condition ∧
        readCondition wire.kind "breakOn" ((v.given? 2 "breakOn").map .ofJson) = .ok breakOn ∧
        readCondition wire.kind "continueOn" ((v.given? 3 "continueOn").map .ofJson) = .ok continueOn ∧
        wire.block condition breakOn continueOn = .ok block := by
  rw [read_eq]
  constructor
  · intro read
    obtain ⟨wire, decoded, read⟩ := ok_of_bind read
    obtain ⟨condition, one, read⟩ := ok_of_bind read
    obtain ⟨breakOn, two, read⟩ := ok_of_bind read
    obtain ⟨continueOn, three, read⟩ := ok_of_bind read
    have decoded := ok_of_mapError decoded
    obtain ⟨first, second, third, _⟩ := Wire.read_told decoded
    rw [first] at one
    rw [second] at two
    rw [third] at three
    exact ⟨wire, condition, breakOn, continueOn, decoded, one, two, three, read⟩
  · rintro ⟨wire, condition, breakOn, continueOn, decoded, one, two, three, read⟩
    obtain ⟨first, second, third, _⟩ := Wire.read_told decoded
    rw [← first] at one
    rw [← second] at two
    rw [← third] at three
    simp only [decoded, Except.mapError, bind, Except.bind, one, two, three, read]

/-- Only a block with a given number of passes does without a condition. -/
theorem Wire.block_ok_iff {wire : Wire} {condition : Option Condition}
    (breakOn continueOn : Option Condition) :
    (∃ block, wire.block condition breakOn continueOn = .ok block) ↔
      (wire.kind ≠ .times → condition.isSome = true) := by
  obtain ⟨kind, _⟩ := wire
  cases kind <;> cases condition <;> simp [Wire.block, demand, bind, Except.bind, pure, Except.pure]

/-- A value is a block if and only if it decodes as a record of one, each of the three conditions that
it gives is accepted, and it gives the condition that it needs. -/
theorem read_iff (v : Json) :
    (∃ block, Block.read (.ofJson v) = .ok block) ↔
      ∃ wire, Wire.read .json (.ofJson v) = .ok wire ∧ Accepts v 1 "condition" ∧
        Accepts v 2 "breakOn" ∧ Accepts v 3 "continueOn" ∧
        (wire.kind ≠ .times → (v.given? 1 "condition").isSome = true) := by
  simp only [read_ok_iff]
  constructor
  · rintro ⟨block, wire, condition, breakOn, continueOn, decoded, one, two, three, read⟩
    refine ⟨wire, decoded, (readCondition_iff wire.kind).1 ⟨_, one⟩,
      (readCondition_iff wire.kind).1 ⟨_, two⟩, (readCondition_iff wire.kind).1 ⟨_, three⟩, ?_⟩
    rw [← (readCondition_ok one).1]
    exact (Wire.block_ok_iff breakOn continueOn).1 ⟨block, read⟩
  · rintro ⟨wire, decoded, one, two, three, needed⟩
    obtain ⟨condition, one⟩ := (readCondition_iff wire.kind).2 one
    obtain ⟨breakOn, two⟩ := (readCondition_iff wire.kind).2 two
    obtain ⟨continueOn, three⟩ := (readCondition_iff wire.kind).2 three
    rw [← (readCondition_ok one).1] at needed
    obtain ⟨block, read⟩ := (Wire.block_ok_iff breakOn continueOn).2 needed
    exact ⟨block, wire, condition, breakOn, continueOn, decoded, one, two, three, read⟩

/-- The condition that a block has of itself. -/
def condition? {Item : Type} : Block Item → Option Condition
  | .ifElse condition _ _ => some condition
  | .whileHolds condition _ => some condition
  | .untilHolds condition _ => some condition
  | .times condition _ => condition

/-- The loop that a block is, unless it is a branch. -/
def loop? {Item : Type} : Block Item → Option (Loop Item)
  | .ifElse _ _ _ => none
  | .whileHolds _ loop => some loop
  | .untilHolds _ loop => some loop
  | .times _ loop => some loop

/-- All conditions that a block holds. -/
def held {Item : Type} (block : Block Item) : List Condition :=
  block.condition?.toList ++ block.loop?.toList.flatMap Loop.conditions

/-- What a block is that was read from a value: its conditions are valid, it has the condition that it
needs, a loop that waits for one rests and ends within the limits, and the items of its body are those
of the value. -/
structure Sound (v : Json) (block : Block Datum) : Prop where
  valid : ∀ c ∈ block.held, c.Valid
  conditioned : block.kind ≠ .times → block.condition?.isSome = true
  cadence : ∀ loop ∈ block.loop?, block.kind ≠ .times →
    minCadenceMs ≤ loop.cadenceMs ∧ loop.cadenceMs ≤ maxCadenceMs ∧ 1 ≤ loop.cap
  loopItems : ∀ loop ∈ block.loop?, loop.items = (v.listed 7 "steps").map Datum.ofJson
  branches : ∀ condition thenItems elseItems, block = .ifElse condition thenItems elseItems →
    thenItems = (v.listed 7 "steps").map Datum.ofJson ∧
      elseItems = (v.listed 8 "elseSteps").map Datum.ofJson

theorem Wire.clampedCadence_within (wire : Wire) :
    minCadenceMs ≤ wire.clampedCadence ∧ wire.clampedCadence ≤ maxCadenceMs :=
  ⟨le_max_left _ _, max_le (by decide) (min_le_left _ _)⟩

/-- The blocks that a record can be, by its kind. -/
theorem Wire.block_cases {wire : Wire} {condition breakOn continueOn : Option Condition}
    {block : Block Datum} (made : wire.block condition breakOn continueOn = .ok block) :
    (∃ c, condition = some c ∧ block = .ifElse c wire.steps wire.elseSteps) ∨
      (∃ c, condition = some c ∧
        (block = .whileHolds c (wire.loop breakOn continueOn wire.clampedCadence) ∨
          block = .untilHolds c (wire.loop breakOn continueOn wire.clampedCadence))) ∨
      block = .times condition (wire.loop breakOn continueOn (wire.cadenceMs.getD 0)) := by
  unfold Wire.block at made
  split at made
  · obtain ⟨c, demanded, same⟩ := ok_of_bind made
    cases condition <;> cases demanded
    cases same
    exact .inl ⟨c, rfl, rfl⟩
  · obtain ⟨c, demanded, same⟩ := ok_of_bind made
    cases condition <;> cases demanded
    cases same
    exact .inr (.inl ⟨c, rfl, .inl rfl⟩)
  · obtain ⟨c, demanded, same⟩ := ok_of_bind made
    cases condition <;> cases demanded
    cases same
    exact .inr (.inl ⟨c, rfl, .inr rfl⟩)
  · cases made
    exact .inr (.inr rfl)

/-- A block holds those conditions that have been read. -/
theorem Wire.forall_held {wire : Wire} {condition breakOn continueOn : Option Condition}
    {block : Block Datum} (made : wire.block condition breakOn continueOn = .ok block)
    {P : Condition → Prop} (own : ∀ c ∈ condition, P c) (breaks : ∀ c ∈ breakOn, P c)
    (continues : ∀ c ∈ continueOn, P c) : ∀ c ∈ block.held, P c := by
  have looped (cadenceMs : Nat) : ∀ c ∈ (wire.loop breakOn continueOn cadenceMs).conditions, P c := by
    simpa [loop, Loop.conditions, or_imp, forall_and] using ⟨breaks, continues⟩
  rcases Wire.block_cases made with ⟨c, rfl, rfl⟩ | ⟨c, rfl, rfl | rfl⟩ | rfl
  · simpa [held, condition?, loop?] using own
  · simpa [held, condition?, loop?] using ⟨own c rfl, looped wire.clampedCadence⟩
  · simpa [held, condition?, loop?] using ⟨own c rfl, looped wire.clampedCadence⟩
  · simpa [held, condition?, loop?, or_imp, forall_and] using ⟨own, looped (wire.cadenceMs.getD 0)⟩

/-- Whatever the record, the conditions of a block that was read from it are valid. -/
theorem read_valid {d : Datum} {block : Block Datum} (read : Block.read d = .ok block) :
    ∀ c ∈ block.held, c.Valid := by
  rw [read_eq] at read
  obtain ⟨wire, _, read⟩ := ok_of_bind read
  obtain ⟨condition, one, read⟩ := ok_of_bind read
  obtain ⟨breakOn, two, read⟩ := ok_of_bind read
  obtain ⟨continueOn, three, made⟩ := ok_of_bind read
  exact Wire.forall_held made (readCondition_valid one) (readCondition_valid two)
    (readCondition_valid three)

theorem mem_held_of_mem_conditions {Item : Type} {block : Block Item} {condition : Condition}
    (asked : condition ∈ block.conditions) : condition ∈ block.held := by
  cases block with
  | ifElse => simpa [held, condition?, loop?, conditions] using asked
  | whileHolds => simpa [held, condition?, loop?, conditions] using asked
  | untilHolds => simpa [held, condition?, loop?, conditions] using asked
  | times => exact List.mem_append_right _ (by simpa [loop?, conditions] using asked)

theorem read_sound {v : Json} {block : Block Datum} (read : Block.read (.ofJson v) = .ok block) :
    Sound v block := by
  have valid := read_valid read
  obtain ⟨wire, condition, breakOn, continueOn, decoded, one, two, three, made⟩ := read_ok_iff.1 read
  obtain ⟨_, _, _, steps, elseSteps⟩ := Wire.read_told decoded
  have clamped := wire.clampedCadence_within
  have capped (cadenceMs : Nat) : 1 ≤ (wire.loop breakOn continueOn cadenceMs).cap :=
    Runner.cap_pos _
  rcases Wire.block_cases made with ⟨c, rfl, rfl⟩ | ⟨c, rfl, rfl | rfl⟩ | rfl
  · refine ⟨valid, fun _ => rfl, by simp [loop?], by simp [loop?], ?_⟩
    rintro _ _ _ ⟨⟩
    exact ⟨steps, elseSteps⟩
  · refine ⟨valid, fun _ => rfl, ?_, ?_, nofun⟩
    · rintro _ ⟨⟩ _
      exact ⟨clamped.1, clamped.2, capped _⟩
    · rintro _ ⟨⟩
      exact steps
  · refine ⟨valid, fun _ => rfl, ?_, ?_, nofun⟩
    · rintro _ ⟨⟩ _
      exact ⟨clamped.1, clamped.2, capped _⟩
    · rintro _ ⟨⟩
      exact steps
  · refine ⟨valid, fun needed => absurd rfl needed, fun _ _ needed => absurd rfl needed, ?_, nofun⟩
    rintro _ ⟨⟩
    exact steps

end Block

/-! ## Runs -/

namespace Runner

variable {World Item : Type} {hooks : Hooks World} {polling : Polling}

/-- A block that was read does not fail as one that was not. -/
theorem Failed.ne_invalidBlock {block : Block Item} {error : RunError} {tally : Tally}
    (failed : Failed block error tally) (fault : BlockFault) : error ≠ .invalidBlock fault := by
  rintro rfl
  cases block with
  | ifElse => exact failed.1
  | whileHolds => simpa [RunError.OfPass] using failed.2
  | untilHolds => simpa [RunError.OfPass] using failed.2
  | times => exact failed.2.1

/-- A value is a block if and only if it decodes as a record of one, each of the conditions that it
gives is accepted, and it gives a condition unless it is a loop with a given number of passes. Of any
other value the run says that the block is invalid, and does nothing. What is read is sound, and
whatever happens while it runs, it does not fail as an invalid block. -/
theorem blockContent_accepts (v : Json) :
    ((∃ block, Block.read (.ofJson v) = .ok block) ↔
      ∃ wire, Block.Wire.read .json (.ofJson v) = .ok wire ∧ Block.Accepts v 1 "condition" ∧
        Block.Accepts v 2 "breakOn" ∧ Block.Accepts v 3 "continueOn" ∧
        (wire.kind ≠ .times → (v.given? 1 "condition").isSome = true)) ∧
    (∀ fault, Block.read (.ofJson v) = .error fault →
      ∀ {World : Type} (hooks : Hooks World) (polling : Polling) (run : Run World),
        blockContent hooks polling (.ofJson v) run = (.error (.failed (.invalidBlock fault)), run)) ∧
    ∀ block, Block.read (.ofJson v) = .ok block →
      Block.Sound v block ∧
      ∀ {World : Type} (hooks : Hooks World) (polling : Polling) (run : Run World) (fault : BlockFault),
        (blockContent hooks polling (.ofJson v) run.opened).1 ≠
          .error (.failed (.invalidBlock fault)) := by
  refine ⟨Block.read_iff v, ?_, ?_⟩
  · intro fault unread World hooks polling run
    simp only [blockContent, unread, fail_apply]
  · intro block read
    refine ⟨Block.read_sound read, ?_⟩
    intro World hooks polling run fault halted
    rcases ended : blockContent hooks polling (.ofJson v) run.opened with ⟨outcome, after⟩
    rw [ended] at halted
    obtain rfl : outcome = .error (.failed (.invalidBlock fault)) := halted
    have failed := (blockContent_tallies read).halted rfl ended (.invalidBlock fault) rfl
    exact failed.ne_invalidBlock fault rfl

/-- A branch that gives a condition to break on, which no branch has any use for, but with no target. -/
def fussy : Json :=
  .object [("type", .str "ifElse"),
    ("condition", .object [("source", .str "text"), ("targetId", .str "banner")]),
    ("breakOn", .object [("source", .str "text"), ("targetId", .str " ")])]

theorem read_fussy : Block.read (.ofJson fussy) =
    .error (.condition .ifElse "breakOn" (.invalid "targetId is empty")) := rfl

/-- The branch is refused for the condition that it would not use. -/
theorem blockContent_accepts_fussy :
    ¬(Block.Accepts fussy 1 "condition" ∧ Block.Accepts fussy 2 "breakOn" ∧
        Block.Accepts fussy 3 "continueOn") ∧
      ∀ {World : Type} (hooks : Hooks World) (polling : Polling) (run : Run World),
        blockContent hooks polling (.ofJson fussy) run =
          (.error (.failed (.invalidBlock
            (.condition .ifElse "breakOn" (.invalid "targetId is empty")))), run) := by
  refine ⟨?_, (blockContent_accepts fussy).2.1 _ read_fussy⟩
  rintro ⟨condition, breakOn, continueOn⟩
  have decoded : ∃ wire, Block.Wire.read .json (.ofJson fussy) = .ok wire := ⟨_, rfl⟩
  obtain ⟨wire, decoded⟩ := decoded
  obtain ⟨block, read⟩ := (blockContent_accepts fussy).1.2
    ⟨wire, decoded, condition, breakOn, continueOn, fun _ => rfl⟩
  rw [read_fussy] at read
  cases read

end Runner

end Autopilot
