import Autopilot.Proofs.Sequence.Chronicle

/-!
What the counters of a block tell. The passes that a loop reports are those that it has begun; a
loop that goes on until a condition holds also counts the one before which a check failed. Both
counters are true modulo the range of 32 bits. A loop that waits for a condition cannot make more
passes than that, but a given number of passes can be any.
-/

namespace Autopilot

/-! ## Limits -/

namespace Block

variable {Item : Type}

theorem Loop.cap_le (loop : Loop Item) : loop.cap ≤ 4294967295 := by
  unfold Loop.cap
  split
  next n _ =>
    split
    · exact Nat.min_le_right _ _
    · decide
  next => decide

/-- Whether a block makes a given number of passes. -/
def isTimes : Block Item → Bool
  | .times _ _ => true
  | _ => false

/-- Only a given number of passes can be too large for 32 bits. -/
theorem limit_le {block : Block Item} (waits : block.isTimes = false) : block.limit ≤ 4294967295 := by
  cases block with
  | ifElse => exact Nat.le_of_ble_eq_true rfl
  | whileHolds condition loop => exact loop.cap_le
  | untilHolds condition loop => exact loop.cap_le
  | times => cases waits

/-- The most checks that a block makes itself. -/
def mostChecks : Block Item → Nat
  | .ifElse _ _ _ => 1
  | loop => loop.limit * (loop.head.length + loop.itemChecks)

end Block

theorem countedPasses_le (early : Bool) (outcomes : List (Option Bool)) :
    countedPasses early outcomes ≤ outcomes.length := by
  have apart : outcomes.count (some true) + outcomes.count none ≤ outcomes.length := by
    induction outcomes with
    | nil => exact Nat.le_refl 0
    | cons outcome rest ih =>
      rw [List.count_cons, List.count_cons, List.length_cons]
      rcases outcome with _ | _ | _ <;> simp <;> omega
  unfold countedPasses
  split <;> omega

/-- Only the last round can be one whose checks fail. -/
theorem countedPasses_eq (early : Bool) {outcomes : List (Option Bool)}
    (others : ∀ outcome ∈ outcomes.dropLast, outcome = some true) :
    countedPasses early outcomes =
      outcomes.count (some true) + if early = true ∧ none ∈ outcomes then 1 else 0 := by
  rcases List.eq_nil_or_concat outcomes with rfl | ⟨earlier, last, rfl⟩
  · cases early <;> rfl
  · rw [List.concat_eq_append] at others ⊢
    rw [List.dropLast_concat] at others
    have absent : none ∉ earlier := fun member => nomatch others none member
    have none : earlier.count none = 0 := List.count_eq_zero.2 absent
    unfold countedPasses
    cases last <;> cases early <;> simp [absent, none]

/-- The true numbers behind the counters of a block, by what it did itself: how many passes it
counted, and how often it asked for a condition. -/
structure Block.Tallies {Item : Type} (block : Block Item) (own : List Act) (passes : Nat) : Prop where
  rounds : block.kind ≠ .ifElse → ∃ outcomes, Rounds block.head block.itemChecks outcomes own ∧
    passes = countedPasses block.countsEarly outcomes
  within : passes ≤ block.limit
  few : Act.questions own ≤ block.mostChecks

theorem Block.Counts.tallies {Item : Type} {block : Block Item} {own : List Act} {iterations : UInt32}
    (counts : block.Counts own iterations) :
    ∃ passes, block.Tallies own passes ∧ iterations = UInt32.ofNat passes := by
  have looped (finished : Over block.head block.itemChecks block.countsEarly block.limit own iterations)
      (most : block.mostChecks = block.limit * (block.head.length + block.itemChecks)) :
      ∃ passes, block.Tallies own passes ∧ iterations = UInt32.ofNat passes := by
    obtain ⟨outcomes, rounds, within, _, counted⟩ := finished
    refine ⟨_, ⟨fun _ => ⟨outcomes, rounds, rfl⟩, (countedPasses_le _ _).trans within, ?_⟩, counted⟩
    rw [most]
    exact rounds.questions_le.trans (Nat.mul_le_mul_right _ within)
  cases block with
  | ifElse condition thenItems elseItems =>
    obtain ⟨few, none | once⟩ := counts
    · exact ⟨0, ⟨fun loops => absurd rfl loops, Nat.zero_le _, few⟩, none⟩
    · exact ⟨1, ⟨fun loops => absurd rfl loops, Nat.le_refl 1, few⟩, once⟩
  | whileHolds => exact looped counts rfl
  | untilHolds => exact looped counts rfl
  | times => exact looped counts rfl

/-! ## Reports -/

namespace Runner

variable {World : Type} {hooks : Hooks World} {polling : Polling} {record : Datum}
  {block : Block Datum} {before after : Run World} {status : BlockStatus}

/-- What a block that was read leaves when it has ended, with its own report at the end. -/
theorem runBlock_ran (read : Block.read record = .ok block)
    (ended : runBlock hooks polling record before = (.ok status, after)) :
    ∃ (deeds : List Deed) (result : BlockResult),
      Block.Chronicle hooks polling before.acts record (Deed.chapter deeds result) ∧
      after.acts = before.acts ++ deeds.flatMap Deed.acts ∧
      after.blocks.toList = before.blocks.toList ++ (deeds.flatMap Deed.results ++ [result]) ∧
      block.Counts (Deed.ownActs deeds) result.iterations ∧
      result.conditionsEvaluated = UInt32.ofNat (Act.questions (Deed.ownActs deeds)) := by
  obtain ⟨_, chapter, chronicle, acts, blocks⟩ := runBlock_chronicles record before after status ended
  cases id chronicle with
  | unread invalid =>
    rw [read] at invalid
    cases invalid
  | ran same _ _ _ _ _ iterations checks =>
    rw [read] at same
    cases same
    exact ⟨_, _, chronicle, acts, blocks, iterations, checks⟩

/-- A loop reports the passes that it has begun, which are those of the heads whose checks led on. A
loop that goes on until a condition holds counts one more if a check at its last head failed. -/
theorem runBlock_iterations (read : Block.read record = .ok block) (loops : block.kind ≠ .ifElse)
    (limited : block.limit ≤ 4294967295)
    (ended : runBlock hooks polling record before = (.ok status, after)) :
    ∃ (deeds : List Deed) (result : BlockResult) (outcomes : List (Option Bool)),
      Block.Chronicle hooks polling before.acts record (Deed.chapter deeds result) ∧
      after.acts = before.acts ++ deeds.flatMap Deed.acts ∧
      after.blocks.toList = before.blocks.toList ++ (deeds.flatMap Deed.results ++ [result]) ∧
      Rounds block.head block.itemChecks outcomes (Deed.ownActs deeds) ∧
      (∀ outcome ∈ outcomes.dropLast, outcome = some true) ∧
      result.iterations.toNat = outcomes.count (some true) +
        if block.countsEarly = true ∧ none ∈ outcomes then 1 else 0 := by
  obtain ⟨deeds, result, chronicle, acts, blocks, counts, _⟩ := runBlock_ran read ended
  have finished : Over block.head block.itemChecks block.countsEarly block.limit (Deed.ownActs deeds)
      result.iterations := by
    cases block with
    | ifElse => exact absurd rfl loops
    | _ => exact counts
  obtain ⟨outcomes, rounds, within, others, counted⟩ := finished
  refine ⟨deeds, result, outcomes, chronicle, acts, blocks, rounds, others, ?_⟩
  have few := countedPasses_le block.countsEarly outcomes
  rw [counted, UInt32.toNat_ofNat', Nat.mod_eq_of_lt (by omega), countedPasses_eq _ others]

/-- The loop that knocks while the door is there. -/
def knockingLoop : Block.Loop Datum where
  breakOn := some { source := .text, targetId := "alarm", mode := .absent }
  continueOn := none
  cadenceMs := 250
  timeoutMs := none
  maxIterations := none
  items := [.ofJson (.object [("commandId", .str "knock")])]

theorem read_knocking : Block.read (knocking "while" "present") =
    .ok (.whileHolds { source := .image, targetId := "door" } knockingLoop) := rfl

/-- The alarm ends the second pass. -/
theorem runBlock_knocking :
    ∃ status after, runBlock leavingSoon { patience := 1 } (knocking "while" "present")
        { world := [] } = (.ok status, after) ∧
      after.blocks = #[⟨"while", 2, 6, 286, .succeeded, none, none⟩] := by
  have ends : (runBlock leavingSoon { patience := 1 } (knocking "while" "present")
      { world := [] }).1.isOk = true := by decide +kernel
  have reports : (runBlock leavingSoon { patience := 1 } (knocking "while" "present")
      { world := [] }).2.blocks = #[⟨"while", 2, 6, 286, .succeeded, none, none⟩] := by decide +kernel
  rcases ended : runBlock leavingSoon { patience := 1 } (knocking "while" "present") { world := [] }
    with ⟨halt | status, after⟩
  · rw [ended] at ends
    cases ends
  · rw [ended] at reports
    exact ⟨status, after, rfl, reports⟩

theorem runBlock_iterations_knocking :
    ∃ (after : Run (List Condition)) (deeds : List Deed) (result : BlockResult)
      (outcomes : List (Option Bool)),
      after.blocks = #[⟨"while", 2, 6, 286, .succeeded, none, none⟩] ∧
      after.acts = deeds.flatMap Deed.acts ∧
      after.blocks.toList = deeds.flatMap Deed.results ++ [result] ∧
      result.iterations.toNat = outcomes.count (some true) := by
  obtain ⟨status, after, ended, reports⟩ := runBlock_knocking
  obtain ⟨deeds, result, outcomes, _, acts, blocks, _, _, counted⟩ :=
    runBlock_iterations read_knocking nofun (by decide) ended
  exact ⟨after, deeds, result, outcomes, reports, acts, blocks, counted⟩

/-- Without anybody to ask, the first head of a loop that goes on until a condition holds does not
lead on, and its report counts a pass. -/
theorem iterations_unasked :
    let after := (runBlock (Sequence.refusing "locked") { patience := 1 }
      (knocking "repeatUntil" "absent") { world := () }).2
    after.blocks = #[⟨"repeatUntil", 1, 0, 0, .failed, none, some "No condition evaluator available"⟩] ∧
      after.acts = [.head] := by
  have content : attempt (blockContent (Sequence.refusing "locked") { patience := 1 }
      (knocking "repeatUntil" "absent")) (Run.opened { world := () }) =
      (.ok (.error .noEvaluator),
        (({ world := () } : Run Unit).noted .head).recounted (· + 1)) := rfl
  rw [runBlock_eq, reporting_apply, content]
  exact ⟨by decide +kernel, rfl⟩

/-- Both counters are true modulo the range of 32 bits, and the block limits the true numbers. So a
loop that waits for a condition reports its passes as they are, but not so a loop with a given number
of passes that is too large. -/
theorem runBlock_counters (read : Block.read record = .ok block)
    (ended : runBlock hooks polling record before = (.ok status, after)) :
    ∃ (deeds : List Deed) (result : BlockResult) (passes : Nat),
      Block.Chronicle hooks polling before.acts record (Deed.chapter deeds result) ∧
      after.acts = before.acts ++ deeds.flatMap Deed.acts ∧
      after.blocks.toList = before.blocks.toList ++ (deeds.flatMap Deed.results ++ [result]) ∧
      block.Tallies (Deed.ownActs deeds) passes ∧
      (block.isTimes = false → passes ≤ 4294967295) ∧
      result.iterations.toNat = passes % 4294967296 ∧
      result.conditionsEvaluated.toNat = Act.questions (Deed.ownActs deeds) % 4294967296 := by
  obtain ⟨deeds, result, chronicle, acts, blocks, counts, checks⟩ := runBlock_ran read ended
  obtain ⟨passes, tallies, counted⟩ := counts.tallies
  refine ⟨deeds, result, passes, chronicle, acts, blocks, tallies, ?_, ?_, ?_⟩
  · exact fun waits => tallies.within.trans (Block.limit_le waits)
  · rw [counted, UInt32.toNat_ofNat']
  · rw [checks, UInt32.toNat_ofNat']

theorem runBlock_counters_knocking :
    ∃ (after : Run (List Condition)) (deeds : List Deed) (result : BlockResult) (passes : Nat),
      after.blocks = #[⟨"while", 2, 6, 286, .succeeded, none, none⟩] ∧
      after.acts = deeds.flatMap Deed.acts ∧
      after.blocks.toList = deeds.flatMap Deed.results ++ [result] ∧
      result.iterations.toNat = passes % 4294967296 ∧
      result.conditionsEvaluated.toNat = Act.questions (Deed.ownActs deeds) % 4294967296 := by
  obtain ⟨status, after, ended, reports⟩ := runBlock_knocking
  obtain ⟨deeds, result, passes, _, acts, blocks, _, _, counted, checked⟩ :=
    runBlock_counters read_knocking ended
  exact ⟨after, deeds, result, passes, reports, acts, blocks, counted, checked⟩

/-! ## Idle loops -/

/-- Empty passes, by induction on their number. -/
theorem counted_idle {Item : Type} {runItem : Item → Runner World Unit} {loop : Block.Loop Item}
    (empty : loop.items = []) (unbroken : loop.breakOn = none) (restless : loop.cadenceMs = 0)
    {run : Run World} (going : run.cancelled = false) (first : Bool) (passes : Nat) :
    ∃ after, loop.counted hooks runItem first passes run = (.ok (), after) ∧
      after.acts = run.acts ++ List.replicate passes .head ∧ after.blocks = run.blocks ∧
      after.tally.iterations = run.tally.iterations + UInt32.ofNat passes := by
  induction passes generalizing first run with
  | zero => exact ⟨run, rfl, (List.append_nil _).symm, rfl, (UInt32.add_zero _).symm⟩
  | succ passes ih =>
    have rested : pause hooks loop.cadenceMs (run.noted .head) = (.ok (), run.noted .head) := by
      rw [restless, pause_zero]
      exact checkCancel_of_going going
    have passed : loop.pass hooks runItem ((run.noted .head).recounted (· + 1)) =
        (.ok .completed, (run.noted .head).recounted (· + 1)) := by
      rw [Block.Loop.pass, empty]
      rfl
    have still : ((run.noted .head).recounted (· + 1)).cancelled = false := going
    obtain ⟨after, ended, acts, blocks, counted⟩ := ih still false
    refine ⟨after, ?_, ?_, blocks, ?_⟩
    · rw [Block.Loop.counted, bind_of_ok (checkCancel_of_going going), bind_of_ok (note_apply _ run),
        unbroken]
      have goOn : (do
          if ← checkOptional hooks none then return
          setIterations (· + 1)
          if (← loop.pass hooks runItem) = .broken then return
          loop.counted hooks runItem false passes : Runner World Unit) (run.noted .head) =
          (.ok (), after) := by
        rw [checkOptional, bind_of_ok (pure_apply false _), if_neg Bool.false_ne_true,
          bind_of_ok (setIterations_apply _ _), bind_of_ok passed]
        exact ended
      cases first with
      | true => exact goOn
      | false =>
        refine Eq.trans ?_ goOn
        exact bind_of_ok rested _
    · have told : ((run.noted .head).recounted (· + 1)).acts = run.acts ++ [.head] := run.acts_noted .head
      rw [acts, told, List.append_assoc]
      rfl
    · have one : ((run.noted .head).recounted (· + 1)).tally.iterations = run.tally.iterations + 1 := rfl
      rw [counted, one, UInt32.ofNat_add, UInt32.add_assoc, UInt32.add_comm (UInt32.ofNat passes)]
      rfl

/-- A loop with a given number of passes and nothing in them makes and counts them all, in 32 bits. -/
theorem runBlock_idle {condition : Option Condition} {loop : Block.Loop Datum} {passes : Int}
    (read : Block.read record = .ok (.times condition loop)) (given : loop.maxIterations = some passes)
    (positive : 0 < passes) (empty : loop.items = []) (unbroken : loop.breakOn = none)
    (restless : loop.cadenceMs = 0) (going : before.cancelled = false) :
    ∃ after result, runBlock hooks polling record before = (.ok .succeeded, after) ∧
      after.acts = before.acts ++ List.replicate passes.toNat .head ∧
      after.blocks = before.blocks.push result ∧ result.iterations = UInt32.ofNat passes.toNat := by
  have opened : before.opened.cancelled = false := going
  obtain ⟨inside, ended, acts, blocks, counted⟩ := counted_idle empty unbroken restless opened true
    passes.toNat
  have content : blockContent hooks polling record before.opened = (.ok .succeeded, inside) := by
    simp only [blockContent, read, Block.run, given, if_neg (not_le.2 positive)]
    rw [bind_of_ok ended]
    rfl
  have tried : attempt (blockContent hooks polling record) before.opened =
      (.ok (.ok .succeeded), inside) := by
    simp only [attempt, content]
  refine ⟨before.closed inside (blockResult record before.now inside (.ok .succeeded)), _, ?_, acts,
    congrArg (Array.push · _) blocks, ?_⟩
  · rw [runBlock_eq, reporting_apply, tried]
    rfl
  · exact counted.trans (UInt32.zero_add _)

/-- A record of a loop that makes a given number of empty passes. -/
def idling (passes : Int) : Datum :=
  .ofJson (.object [("type", .str "repeatCount"), ("maxIterations", .ofInt passes)])

/-- A loop that has made 4294967296 passes reports none. -/
theorem counters_overflow :
    ∃ after result, runBlock (Sequence.refusing "locked") { patience := 1 } (idling 4294967296)
        { world := () } = (.ok .succeeded, after) ∧
      after.acts = List.replicate 4294967296 .head ∧ after.blocks = #[result] ∧
      result.iterations = 0 := by
  let loop : Block.Loop Datum :=
    { breakOn := none, continueOn := none, cadenceMs := 0, timeoutMs := none,
      maxIterations := some 4294967296, items := [] }
  have read : Block.read (idling 4294967296) = .ok (.times none loop) := rfl
  exact runBlock_idle read rfl (by decide) rfl rfl rfl rfl

end Runner

end Autopilot
