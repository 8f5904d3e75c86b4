import Autopilot.Proofs.Sequence.Charges

/-!
How a run of a sequence is settled. Whatever goes wrong in it becomes part of its result, and only a
cancellation ends it without one. A record that is no block, at whatever depth, is settled by its
report: nobody is called for it.
-/

namespace Autopilot

/-- In a chronicle, a record that is no block has no acts, and one report. -/
theorem Block.Chronicle.of_invalid {World : Type} {hooks : Hooks World} {polling : Polling}
    {told : List Act} {record : Datum} {fault : BlockFault} {chapter : Chapter}
    (invalid : Block.read record = .error fault)
    (chronicle : Block.Chronicle hooks polling told record chapter) :
    chapter.acts = [] ∧ chapter.results = [fault.report record] := by
  cases chronicle with
  | unread _ left =>
    obtain ⟨before, after, status, _, ran, _, blocks⟩ := left
    rw [Runner.runBlock_of_invalid hooks polling invalid] at ran
    cases ran
    rw [Array.toList_push, List.append_cancel_left_eq] at blocks
    exact ⟨rfl, blocks.symm⟩
  | ran read =>
    rw [invalid] at read
    cases read

namespace Sequence

variable {World : Type}

/-- A run ends with a result or by a cancellation, unless it still waits at a gate; when
it ends, it ends so for anybody with more patience. An answer that tells of a
cancellation ends it, before anybody else is called; and only that or a cancellation
from outside does. A record that is no block adds one failure and nothing else, and in a
run with a result each such record, at whatever depth, has had no act and this report alone. -/
theorem execute_settled (sequence : Sequence) (hooks : Hooks World) (polling : Polling)
    (epoch : Instant) (world : World) (now : Nat) (cancelled : Bool) :
    let outcome := (sequence.execute hooks polling epoch { world, now, cancelled }).1
    let run := (sequence.execute hooks polling epoch { world, now, cancelled }).2
    ((∃ result, outcome = .ok result) ∨ outcome = .error (.failed .cancelled) ∨
      outcome = .error .impatient) ∧
    (outcome ≠ .error .impatient → ∀ patience, polling.patience ≤ patience →
      sequence.execute hooks { polling with patience } epoch { world, now, cancelled } =
        sequence.execute hooks polling epoch { world, now, cancelled }) ∧
    (∀ (i : Nat) (entry : Entry), run.journal[i]? = some entry → entry.act.tellsCancelled →
      outcome = .error (.failed .cancelled) ∧ i + 1 = run.journal.size) ∧
    (outcome = .error (.failed .cancelled) →
      run.cancelled ∨ ∃ entry ∈ run.journal, entry.act.tellsCancelled) ∧
    (∀ (record : Datum) (fault : BlockFault), Block.read record = .error fault →
      ∀ before : Run World, Runner.runBlock hooks polling record before =
        (.ok .failed, { before with
          blocks := before.blocks.push
            { blockType := Block.typeName record
              iterations := 0
              conditionsEvaluated := 0
              durationMs := 0
              status := .failed
              error := some (RunError.invalidBlock fault).message } })) ∧
    (∀ result, outcome = .ok result → ∃ deeds : List Deed,
      run.acts = deeds.flatMap Deed.acts ∧ result.blocks = deeds.flatMap Deed.results ∧
      Deed.InPlace (Deed.OfSequence hooks polling sequence) [] deeds ∧
      ∀ (told : List Act) (record : Datum) (chapter : Chapter) (fault : BlockFault),
        Block.Chronicle hooks polling told record chapter → Block.read record = .error fault →
          chapter.acts = [] ∧ chapter.results = [fault.report record]) := by
  have fresh := Run.Untold.fresh world now cancelled
  have heeds := Runner.runParts_heeds hooks polling sequence
  have longer (patience : Nat) (patient : polling.patience ≤ patience) :=
    sequence.execute_of_patient hooks polling epoch { world, now, cancelled } patient
  refine ⟨?_, fun ended patience patient => longer patience patient ended, ?_, ?_,
    fun _ _ invalid => Runner.runBlock_of_invalid hooks polling invalid, ?reported⟩
  case reported =>
    intro result ended
    obtain ⟨deeds, acts, blocks, inPlace⟩ := execute_narrates (Prod.ext ended rfl)
    exact ⟨deeds, acts, blocks, inPlace, fun _ _ _ _ chronicle invalid => chronicle.of_invalid invalid⟩
  all_goals unfold execute
  all_goals rcases parts : Runner.runParts hooks polling sequence { world, now, cancelled } with
    ⟨halt | failure, after⟩
  · refine .inr ?_
    rcases Halt.settled_eq_none (Runner.runParts_settled hooks polling sequence _ _ _ parts) with
      rfl | rfl
    · exact .inl rfl
    · exact .inr rfl
  · exact .inl ⟨_, rfl⟩
  · intro i entry found tells
    rcases Halt.settled_eq_none (Runner.runParts_settled hooks polling sequence _ _ _ parts) with
      rfl | rfl
    · exact ⟨rfl, (heeds.cutOff parts fresh).last found tells⟩
    · have untold := heeds.untold parts fresh nofun entry (Array.mem_of_getElem? found)
      rw [untold] at tells
      cases tells
  · intro i entry found tells
    have untold := heeds.untold parts fresh nofun entry (Array.mem_of_getElem? found)
    rw [untold] at tells
    cases tells
  · intro same
    cases same
    exact (heeds.cutOff parts fresh).reason
  · nofun

/-- Two records that are no blocks, one of them in a loop, and a block that looks at a door. -/
def draft : Sequence :=
  { id := "draft"
    steps := []
    blocks := [.object [("type", .str "repeatCount"), ("maxIterations", .ofNat 1),
        ("steps", .arr [.object [("type", .str "ifElse")]])],
      .str "later",
      .object [("type", .str "ifElse"),
        ("condition", .object [("source", .str "image"), ("targetId", .str "door")])]] }

/-- An evaluator that cancels the run at its first question. -/
def callingOff : Hooks Nat :=
  { nearSighted with
    condition := some fun _ calls => { answer := .error .cancelled, world := calls + 1 } }

/-- The evaluator is asked about the door alone, and calls the run off. Where it answers, the records
that are no blocks are told by their reports. -/
theorem execute_settled_draft :
    let cut := draft.execute callingOff { patience := 1 } ⟨0, 0⟩ { world := 0 }
    cut.1 = .error (.failed .cancelled) ∧ cut.2.world = 1 ∧
    ∃ (result : RunResult) (run : Run Nat) (deeds : List Deed),
      draft.execute nearSighted { patience := 1 } ⟨0, 0⟩ { world := 0 } = (.ok result, run) ∧
      run.world = 1 ∧
      result.blocks.map (fun report => (report.blockType, report.iterations, report.error)) =
        [("ifElse", 0, some "Invalid block: ifElse block requires a condition"),
          ("repeatCount", 1, some "Nested ifElse block failed"),
          ("unknown", 0,
            some "Invalid block: invalid type: string \"later\", expected struct BlockRecord"),
          ("ifElse", 1, none)] ∧
      run.acts = deeds.flatMap Deed.acts ∧ result.blocks = deeds.flatMap Deed.results ∧
      ∀ (told : List Act) (record : Datum) (chapter : Chapter) (fault : BlockFault),
        Block.Chronicle nearSighted { patience := 1 } told record chapter →
          Block.read record = .error fault →
            chapter.acts = [] ∧ chapter.results = [fault.report record] := by
  have answered : ((draft.execute callingOff { patience := 1 } ⟨0, 0⟩
      { world := 0 }).2.journal[6]?.map (·.act.tellsCancelled)) = some true := by decide +kernel
  have asked : (draft.execute callingOff { patience := 1 } ⟨0, 0⟩ { world := 0 }).2.world = 1 := by
    decide +kernel
  have reports : (draft.execute nearSighted { patience := 1 } ⟨0, 0⟩ { world := 0 }).1.toOption.map
      (·.blocks.map fun report => (report.blockType, report.iterations, report.error)) =
        some [("ifElse", 0, some "Invalid block: ifElse block requires a condition"),
          ("repeatCount", 1, some "Nested ifElse block failed"),
          ("unknown", 0,
            some "Invalid block: invalid type: string \"later\", expected struct BlockRecord"),
          ("ifElse", 1, none)] := by decide +kernel
  have looked : (draft.execute nearSighted { patience := 1 } ⟨0, 0⟩ { world := 0 }).2.world = 1 := by
    decide +kernel
  obtain ⟨entry, found, tells⟩ := Option.map_eq_some_iff.1 answered
  obtain ⟨_, _, last, _⟩ := execute_settled draft callingOff { patience := 1 } ⟨0, 0⟩ 0 0 false
  obtain ⟨_, _, _, _, _, reported⟩ :=
    execute_settled draft nearSighted { patience := 1 } ⟨0, 0⟩ 0 0 false
  refine ⟨(last 6 entry found tells).1, asked, ?_⟩
  rcases ended : draft.execute nearSighted { patience := 1 } ⟨0, 0⟩ { world := 0 } with
    ⟨halt | result, run⟩
  · rw [ended] at reports
    cases reports
  · rw [ended] at reports looked reported
    obtain ⟨deeds, acts, blocks, _, refused⟩ := reported result rfl
    exact ⟨result, run, deeds, rfl, looked, Option.some.inj reports, acts, blocks, refused⟩

end Sequence

end Autopilot
