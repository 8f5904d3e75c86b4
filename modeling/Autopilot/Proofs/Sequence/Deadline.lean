import Autopilot.Proofs.Sequence.Counters
import Mathlib.Algebra.Order.Floor.Div
import Mathlib.Data.ENat.Lattice

/-!
How long a loop goes on that only its limits can end. Where the checks at its heads lead on at once,
and each pass takes the same time, the loop ends at its limit of passes or, if that comes first, at the
end of the first pass after which its time is up. It does not rest after its last pass.
-/

namespace Autopilot

/-- From this world on an evaluator answers the checks of a head so that they lead on, in no time. -/
def Concurs {World : Type} (evaluator : Condition → World → Reply World (Except ConditionError Bool)) :
    List (Condition × Bool) → World → Prop
  | [], _ => True
  | (condition, wanted) :: rest, world =>
    (evaluator condition world).answer = .ok wanted ∧ (evaluator condition world).elapsed = 0 ∧
      Concurs evaluator rest (evaluator condition world).world

namespace Block

variable {World Item : Type}

/-- A loop that waits for a condition, and how it begins its passes. -/
def waits (hooks : Hooks World) : Block Item → Option (Loop Item × Runner World Bool)
  | .whileHolds condition loop => some (loop, loop.enterWhile hooks condition)
  | .untilHolds condition loop => some (loop, loop.enterUntil hooks condition)
  | _ => none

/-- The heads that a loop comes to from its start, each with the number of passes before it. -/
inductive Loop.Due (hooks : Hooks World) (loop : Loop Item) (runItem : Item → Runner World Unit)
    (enter : Runner World Bool) (start : Run World) : Nat → Run World → Prop where
  | first : Due hooks loop runItem enter start 0 start
  | again {passes : Nat} {run after next : Run World}
      (due : Due hooks loop runItem enter start passes run)
      (turned : loop.turn hooks runItem enter run = (.ok true, after))
      (more : passes + 1 < loop.cap) (early : loop.timedOut start.now after.now = false)
      (rested : Runner.pause hooks loop.cadenceMs after = (.ok (), next)) :
      Due hooks loop runItem enter start (passes + 1) next

/-- A pass from here neither fails nor is broken off, and takes so many milliseconds, unless the run
is cancelled in it. -/
def Loop.Takes (hooks : Hooks World) (loop : Loop Item) (runItem : Item → Runner World Unit)
    (ms : Nat) (run : Run World) : Prop :=
  match loop.pass hooks runItem run with
  | (.ok flow, after) => flow = .completed ∧ after.now = run.now + ms
  | (.error halt, _) => halt = .failed .cancelled

/-- The time of a loop is up after this number of passes of the same length, with rests between. -/
def Loop.Late (loop : Loop Item) (ms passes : Nat) : Prop :=
  ∃ limit, loop.timeoutMs = some limit ∧ limit ≤ passes * ms + (passes - 1) * loop.cadenceMs

/-- The least number of passes, and at least one, after which the time of a loop is up. It is infinite
for a loop without a time limit. -/
noncomputable def Loop.deadline (loop : Loop Item) (ms : Nat) : ℕ∞ :=
  sInf {k | ∃ passes : Nat, k = passes ∧ 1 ≤ passes ∧ loop.Late ms passes}

theorem Loop.timedOut_iff (loop : Loop Item) {ms passes started now : Nat}
    (time : now = started + (passes + 1) * ms + passes * loop.cadenceMs) :
    loop.timedOut started now = true ↔ loop.Late ms (passes + 1) := by
  have since : now - started = (passes + 1) * ms + (passes + 1 - 1) * loop.cadenceMs := by
    rw [time, Nat.add_sub_cancel]
    omega
  unfold Loop.timedOut Loop.Late
  rw [since]
  cases loop.timeoutMs with
  | none => simp
  | some limit => simp

theorem Loop.le_deadline {loop : Loop Item} {ms passes : Nat}
    (earlier : ∀ fewer, 1 ≤ fewer → fewer < passes → ¬loop.Late ms fewer) :
    (passes : ℕ∞) ≤ loop.deadline ms := by
  apply le_sInf
  rintro _ ⟨enough, rfl, positive, late⟩
  exact Nat.cast_le.2 (not_lt.1 fun fewer => earlier enough positive fewer late)

theorem Loop.deadline_eq {loop : Loop Item} {ms passes : Nat} (positive : 1 ≤ passes)
    (late : loop.Late ms passes) (earlier : ∀ fewer, 1 ≤ fewer → fewer < passes → ¬loop.Late ms fewer) :
    loop.deadline ms = passes :=
  le_antisymm (sInf_le ⟨passes, rfl, positive, late⟩) (loop.le_deadline earlier)

/-- The time limit of a loop, divided by the time from one pass to the next. -/
theorem Loop.deadline_eq_ceilDiv {loop : Loop Item} {ms limit : Nat}
    (given : loop.timeoutMs = some limit) (moves : 0 < ms + loop.cadenceMs) :
    loop.deadline ms = (max 1 ((limit + loop.cadenceMs) ⌈/⌉ (ms + loop.cadenceMs)) : Nat) := by
  have late_iff {passes : Nat} (positive : 1 ≤ passes) : loop.Late ms passes ↔
      (limit + loop.cadenceMs) ⌈/⌉ (ms + loop.cadenceMs) ≤ passes := by
    have rests : passes * loop.cadenceMs = (passes - 1) * loop.cadenceMs + loop.cadenceMs := by
      rw [← Nat.succ_mul, Nat.succ_eq_add_one, Nat.sub_add_cancel positive]
    rw [ceilDiv_le_iff_le_mul moves, Nat.add_mul, Nat.mul_comm ms, Nat.mul_comm loop.cadenceMs, rests,
      Loop.Late, given]
    simp only [Option.some.injEq, exists_eq_left']
    omega
  apply loop.deadline_eq (le_max_left _ _) ((late_iff (le_max_left _ _)).2 (le_max_right _ _))
  intro fewer positive less late
  exact (max_le positive ((late_iff positive).1 late)).not_gt less

/-- A loop stops after this number of passes: they are all, or its time is up, and was not before. -/
structure Loop.Stops (loop : Loop Item) (ms passes : Nat) (error : RunError) : Prop where
  within : passes ≤ loop.cap
  earlier : ∀ fewer, 1 ≤ fewer → fewer < passes → ¬loop.Late ms fewer
  reason : (passes = loop.cap ∧ error = .maxIterations loop.cap) ∨
    (1 ≤ passes ∧ passes < loop.cap ∧ loop.Late ms passes ∧ error = .timeout)

theorem Loop.Stops.passes_eq {loop : Loop Item} {ms passes : Nat} {error : RunError}
    (stops : loop.Stops ms passes error) : (passes : ℕ∞) = min (loop.cap : ℕ∞) (loop.deadline ms) := by
  rcases stops.reason with ⟨all, _⟩ | ⟨positive, fewer, late, _⟩
  · rw [← all, min_eq_left (loop.le_deadline stops.earlier)]
  · rw [loop.deadline_eq positive late stops.earlier, min_eq_right (Nat.cast_le.2 fewer.le)]

/-- The limit of passes goes before the time. -/
theorem Loop.Stops.error_eq {loop : Loop Item} {ms passes : Nat} {error : RunError}
    (stops : loop.Stops ms passes error) :
    error = if (loop.cap : ℕ∞) ≤ loop.deadline ms then .maxIterations loop.cap else .timeout := by
  have same := stops.passes_eq
  rcases stops.reason with ⟨all, rfl⟩ | ⟨_, fewer, _, rfl⟩
  · rw [all] at same
    rw [if_pos (min_eq_left_iff.1 same.symm)]
  · refine (if_neg fun within => ?_).symm
    rw [min_eq_left within] at same
    exact fewer.ne (Nat.cast_injective same)

end Block

namespace Runner

variable {World : Type} {hooks : Hooks World}

theorem pause_now {ms : Nat} {run after : Run World} (ended : pause hooks ms run = (.ok (), after)) :
    after.now = run.now + ms := by
  rcases pause_cases hooks ms run with ⟨_, same⟩ | ⟨_, rfl, same⟩ | ⟨_, _, _, same⟩ | ⟨_, _, same⟩
  all_goals rw [same] at ended
  all_goals cases ended
  · rfl
  · rfl

/-- A rest halts by a cancellation only. -/
theorem pause_halt {ms : Nat} {run after : Run World} {halt : Halt}
    (halted : pause hooks ms run = (.error halt, after)) : halt = .failed .cancelled := by
  rcases pause_cases hooks ms run with ⟨_, same⟩ | ⟨_, _, same⟩ | ⟨_, _, _, same⟩ | ⟨_, _, same⟩
  all_goals rw [same] at halted
  all_goals cases halted
  · rfl
  · rfl

section Heads

variable {evaluator : Condition → World → Reply World (Except ConditionError Bool)}
  (given : hooks.condition = some evaluator)

include given

theorem check_concurs {condition : Condition} {wanted : Bool} {rest : List (Condition × Bool)}
    {run : Run World} (concurs : Concurs evaluator ((condition, wanted) :: rest) run.world) :
    ∃ after, check hooks condition run = (.ok wanted, after) ∧ after.now = run.now ∧
      Concurs evaluator rest after.world := by
  obtain ⟨answer, prompt, later⟩ := concurs
  have checked := check_apply given condition run
  rw [answer] at checked
  refine ⟨_, checked, ?_, later⟩
  show run.now + _ = run.now
  rw [prompt, Nat.add_zero]

variable {Item : Type} {loop : Block.Loop Item} {condition : Condition} {run : Run World}

theorem guard_concurs {rest : List (Condition × Bool)}
    (concurs : Concurs evaluator (loop.guard ++ rest) run.world) :
    ∃ after, checkOptional hooks loop.breakOn run = (.ok false, after) ∧ after.now = run.now ∧
      Concurs evaluator rest after.world := by
  cases breaks : loop.breakOn with
  | none =>
    rw [Block.Loop.guard, breaks] at concurs
    exact ⟨run, rfl, rfl, concurs⟩
  | some breakOn =>
    rw [Block.Loop.guard, breaks] at concurs
    exact check_concurs given concurs

theorem enterWhile_concurs
    (concurs : Concurs evaluator (loop.guard ++ [(condition, true)]) run.world) :
    ∃ entered, loop.enterWhile hooks condition run = (.ok true, entered) ∧ entered.now = run.now := by
  obtain ⟨middle, unbroken, prompt, later⟩ := guard_concurs given concurs
  obtain ⟨after, holds, at_once, _⟩ := check_concurs given later
  refine ⟨after.recounted (· + 1), ?_, at_once.trans prompt⟩
  rw [Block.Loop.enterWhile, bind_of_ok unbroken, if_neg Bool.false_ne_true, bind_of_ok holds,
    if_pos rfl, bind_of_ok (setIterations_apply _ _)]
  rfl

theorem enterUntil_concurs
    (concurs : Concurs evaluator (loop.guard ++ [(condition, false)]) run.world) :
    ∃ entered, loop.enterUntil hooks condition run = (.ok true, entered) ∧ entered.now = run.now := by
  have counted : Concurs evaluator (loop.guard ++ [(condition, false)])
      (run.recounted (· + 1)).world := concurs
  obtain ⟨middle, unbroken, prompt, later⟩ := guard_concurs given counted
  obtain ⟨after, holds, at_once, _⟩ := check_concurs given later
  refine ⟨after, ?_, at_once.trans prompt⟩
  rw [Block.Loop.enterUntil, bind_of_ok (setIterations_apply _ _), bind_of_ok unbroken,
    if_neg Bool.false_ne_true, bind_of_ok holds, if_neg Bool.false_ne_true]
  rfl

end Heads

/-! ## Steady loops -/

section Steady

variable {Item : Type} {loop : Block.Loop Item} {runItem : Item → Runner World Unit}
  {enter : Runner World Bool} {start run : Run World} {ms : Nat}

/-- A turn takes as long as its pass. -/
theorem turn_takes {entered : Run World} (enters : enter (run.noted .head) = (.ok true, entered))
    (prompt : entered.now = run.now) (takes : loop.Takes hooks runItem ms entered) :
    (∃ after, loop.turn hooks runItem enter run = (.ok true, after) ∧ after.now = run.now + ms) ∨
      ∃ after, loop.turn hooks runItem enter run = (.error (.failed .cancelled), after) := by
  cases cancelled : run.cancelled with
  | true =>
    right
    exact ⟨run, bind_of_halt (checkCancel_of_cancelled cancelled) _⟩
  | false =>
    have begun : loop.turn hooks runItem enter run =
        (loop.pass hooks runItem >>= fun flow => pure (decide (flow = .completed))) entered := by
      rw [Block.Loop.turn, bind_of_ok (checkCancel_of_going cancelled), bind_of_ok (note_apply _ run),
        bind_of_ok enters, if_pos rfl]
    unfold Block.Loop.Takes at takes
    rcases passed : loop.pass hooks runItem entered with ⟨halt | flow, after⟩
    · rw [passed] at takes
      right
      refine ⟨after, ?_⟩
      rw [begun, bind_of_halt passed, show halt = .failed .cancelled from takes]
    · rw [passed] at takes
      obtain ⟨rfl, time⟩ := takes
      left
      refine ⟨after, ?_, by rw [time, prompt]⟩
      rw [begun, bind_of_ok passed]
      rfl

/-- What follows a turn after which the loop goes on: the time is looked at, and then it rests. -/
theorem passes_turned {after : Run World} (turned : loop.turn hooks runItem enter run = (.ok true, after))
    (started more : Nat) :
    loop.passes hooks runItem enter started (more + 1) run =
      if loop.timedOut started after.now then (.error (.failed .timeout), after)
      else match pause hooks loop.cadenceMs after with
        | (.ok _, next) => loop.passes hooks runItem enter started more next
        | (.error halt, next) => (.error halt, next) := by
  rw [Block.Loop.passes, bind_of_ok turned, if_pos rfl, bind_of_ok (get_apply after)]
  cases loop.timedOut started after.now with
  | true => rfl
  | false =>
    rw [if_neg Bool.false_ne_true, if_neg Bool.false_ne_true]
    rcases rested : pause hooks loop.cadenceMs after with ⟨halt | _, next⟩
    · exact bind_of_halt rested _
    · exact bind_of_ok rested _

variable (steady : ∀ passes run, loop.Due hooks runItem enter start passes run →
    ∃ entered, enter (run.noted .head) = (.ok true, entered) ∧ entered.now = run.now ∧
      loop.Takes hooks runItem ms entered)

include steady

/-- The time at a head that is due, by induction on the passes before it. -/
theorem due_now {passes : Nat} (due : loop.Due hooks runItem enter start passes run) :
    run.now = start.now + passes * ms + passes * loop.cadenceMs := by
  induction due with
  | first => simp
  | again due turned _ _ rested ih =>
    obtain ⟨entered, enters, prompt, takes⟩ := steady _ _ due
    rcases turn_takes enters prompt takes with ⟨after, ended, time⟩ | ⟨after, halted⟩
    · rw [turned] at ended
      cases ended
      rw [pause_now rested, time, ih, Nat.succ_mul, Nat.succ_mul]
      omega
    · rw [turned] at halted
      cases halted

/-- From a head that is due a loop stops at its limits, by induction on the passes that it has left,
unless it is cancelled. -/
theorem passes_stops {passes : Nat} (due : loop.Due hooks runItem enter start passes run) {more : Nat}
    (left : passes + (more + 1) = loop.cap)
    (early : ∀ fewer, 1 ≤ fewer → fewer ≤ passes → ¬loop.Late ms fewer)
    (going : (loop.passes hooks runItem enter start.now more run).1 ≠ .error (.failed .cancelled)) :
    ∃ last before after error, loop.Due hooks runItem enter start last before ∧
      loop.turn hooks runItem enter before = (.ok true, after) ∧
      loop.passes hooks runItem enter start.now more run = (.error (.failed error), after) ∧
      after.now = start.now + (last + 1) * ms + last * loop.cadenceMs ∧
      loop.Stops ms (last + 1) error := by
  induction more generalizing passes run with
  | zero =>
    obtain ⟨entered, enters, prompt, takes⟩ := steady _ _ due
    rcases turn_takes enters prompt takes with ⟨after, turned, time⟩ | ⟨after, halted⟩
    · have time : after.now = start.now + (passes + 1) * ms + passes * loop.cadenceMs := by
        rw [time, due_now steady due, Nat.succ_mul]
        omega
      refine ⟨passes, run, after, .maxIterations loop.cap, due, turned, bind_of_ok turned _, time, ?_⟩
      exact ⟨left.le, fun fewer positive less => early fewer positive (by omega), .inl ⟨left, rfl⟩⟩
    · exact absurd (congrArg Prod.fst (bind_of_halt halted _)) going
  | succ more ih =>
    obtain ⟨entered, enters, prompt, takes⟩ := steady _ _ due
    rcases turn_takes enters prompt takes with ⟨after, turned, time⟩ | ⟨after, halted⟩
    · have time : after.now = start.now + (passes + 1) * ms + passes * loop.cadenceMs := by
        rw [time, due_now steady due, Nat.succ_mul]
        omega
      have timed := loop.timedOut_iff time
      rw [passes_turned turned] at going ⊢
      cases late : loop.timedOut start.now after.now with
      | true =>
        rw [late] at timed
        refine ⟨passes, run, after, .timeout, due, turned, rfl, time, by omega, ?_, ?_⟩
        · exact fun fewer positive less => early fewer positive (by omega)
        · exact .inr ⟨by omega, by omega, timed.1 rfl, rfl⟩
      | false =>
        rw [late, if_neg Bool.false_ne_true] at going
        rw [if_neg Bool.false_ne_true]
        rw [late] at timed
        rcases rested : pause hooks loop.cadenceMs after with ⟨halt | _, next⟩
        · rw [rested, pause_halt rested] at going
          exact absurd rfl going
        · rw [rested] at going
          apply ih (.again due turned (by omega) late rested) (by omega) _ going
          intro fewer positive less
          rcases Nat.lt_or_eq_of_le less with less | rfl
          · exact early fewer positive (by omega)
          · exact fun up => Bool.false_ne_true (timed.2 up)
    · exact absurd (congrArg Prod.fst (bind_of_halt halted _)) going

end Steady

section Counting

variable {Item : Type} {loop : Block.Loop Item} {runItem : Item → Runner World Unit}
  {enter : Runner World Bool} {start run after : Run World} {fits : List Act → Deed → Prop}
  {conditions : List Condition} {head : List (Condition × Bool)} {early : Bool} {passes : Nat}
  (owns : ∀ act, act.OfBlock conditions → ∀ told, fits told (.own act))
  (within : ∀ c ∈ loop.conditions, c ∈ conditions)
  (each : ∀ item ∈ loop.items, Itemized fits start (runItem item))
  (entering : Enters fits start head early enter)

include owns within each entering

theorem turn_since (counted : start.Since fits (AtHead head loop.itemChecks passes) run)
    (turned : loop.turn hooks runItem enter run = (.ok true, after)) :
    start.Since fits (AtHead head loop.itemChecks (passes + 1)) after := by
  obtain ⟨deeds, tells, _, goesOn⟩ :=
    (turn_narrates hooks owns within each entering passes).ended counted turned
  exact ⟨deeds, tells, goesOn rfl⟩

/-- The passes before a head that is due are those that are counted, by induction on them. -/
theorem due_since (fresh : start.tally = {})
    (due : loop.Due hooks runItem enter start passes run) :
    start.Since fits (AtHead head loop.itemChecks passes) run := by
  induction due with
  | first =>
    refine ⟨[], ⟨(List.append_nil _).symm, (List.append_nil _).symm, .nil _, ?_⟩, .none, ?_⟩
    all_goals rw [fresh]
    all_goals rfl
  | @again passes run after next _ turned _ _ rested ih =>
    have resting : Narrates fits start (AtHead head loop.itemChecks (passes + 1))
        (pause hooks loop.cadenceMs) (fun _ => AtHead head loop.itemChecks (passes + 1))
        (AtHead head loop.itemChecks (passes + 1)) :=
      .pause (owns (.slept loop.cadenceMs) trivial) (fun _ _ ahead => ahead) fun _ _ ahead => ahead.rested
    exact resting.ended (turn_since owns within each entering ih turned) rested

/-- A loop with steady passes stops at its limits, and has counted its passes, unless it is
cancelled. -/
theorem passes_limited {ms : Nat} (fresh : start.tally = {})
    (steady : ∀ passes run, loop.Due hooks runItem enter start passes run →
      ∃ entered, enter (run.noted .head) = (.ok true, entered) ∧ entered.now = run.now ∧
        loop.Takes hooks runItem ms entered)
    (going : (loop.passes hooks runItem enter start.now (loop.cap - 1) start).1 ≠
      .error (.failed .cancelled)) :
    ∃ error inside deeds, loop.passes hooks runItem enter start.now (loop.cap - 1) start =
        (.error (.failed error), inside) ∧
      start.Tells fits deeds inside ∧ loop.Stops ms inside.tally.iterations.toNat error ∧
      inside.now = start.now + inside.tally.iterations.toNat * ms +
        (inside.tally.iterations.toNat - 1) * loop.cadenceMs := by
  have cap := cap_pos loop
  obtain ⟨last, lastHead, inside, error, due, turned, ended, time, stops⟩ :=
    passes_stops steady .first (by omega) (by omega) going
  obtain ⟨deeds, tells, _, counted⟩ :=
    turn_since owns within each entering (due_since owns within each entering fresh due) turned
  have iterations : inside.tally.iterations.toNat = last + 1 := by
    have few := loop.cap_le
    have atMost := stops.within
    rw [counted, UInt32.toNat_ofNat', Nat.mod_eq_of_lt (by omega)]
  rw [← iterations] at stops
  refine ⟨error, inside, deeds, ended, tells, stops, ?_⟩
  rw [time, iterations, Nat.add_sub_cancel]

end Counting

section Waits

variable {Item : Type} {block : Block Item} {loop : Block.Loop Item} {enter : Runner World Bool}
  (waits : block.waits hooks = some (loop, enter))

include waits

theorem waits_run (runItem : Item → Runner World Unit) : block.run hooks runItem = (do
    let started := (← get).now
    loop.passes hooks runItem enter started (loop.cap - 1)
    return .succeeded) := by
  cases block <;> cases waits <;> rfl

theorem waits_items : loop.items = block.items := by
  cases block <;> cases waits <;> rfl

theorem waits_conditions : ∀ c ∈ loop.conditions, c ∈ block.conditions := by
  intro c member
  cases block <;> cases waits <;> exact List.mem_cons_of_mem _ member

theorem waits_enters {fits : List Act → Deed → Prop} {before : Run World}
    (owns : ∀ act, act.OfBlock block.conditions → ∀ told, fits told (.own act)) :
    Enters fits before block.head block.countsEarly enter := by
  have within := waits_conditions waits
  cases block <;> cases waits
  · exact enterWhile_enters hooks owns List.mem_cons_self within
  · exact enterUntil_enters hooks owns List.mem_cons_self within

theorem waits_concurs {evaluator : Condition → World → Reply World (Except ConditionError Bool)}
    (given : hooks.condition = some evaluator) {run : Run World}
    (concurs : Concurs evaluator block.head run.world) :
    ∃ entered, enter run = (.ok true, entered) ∧ entered.now = run.now := by
  cases block <;> cases waits
  · exact enterWhile_concurs given concurs
  · exact enterUntil_concurs given concurs

end Waits

/-! ## Reports -/

variable {polling : Polling} {record : Datum} {block : Block Datum} {loop : Block.Loop Datum}
  {enter : Runner World Bool} {before : Run World} {ms : Nat}
  {evaluator : Condition → World → Reply World (Except ConditionError Bool)}

/-- What a block runs for an item of a body. -/
def nestedItem (hooks : Hooks World) (polling : Polling) (item : Datum) : Runner World Unit :=
  runItem hooks polling (runBlock hooks polling item) item

theorem runBlock_of_failed {inside : Run World} {error : RunError} (notCancelled : error ≠ .cancelled)
    (content : blockContent hooks polling record before.opened = (.error (.failed error), inside)) :
    runBlock hooks polling record before =
      (.ok .failed, before.closed inside (blockResult record before.now inside (.error error))) := by
  have settled : (Halt.failed error).settled? = some error := by
    cases error with
    | cancelled => exact absurd rfl notCancelled
    | _ => rfl
  have tried : attempt (blockContent hooks polling record) before.opened =
      (.ok (.error error), inside) := by
    simp only [attempt, content, settled]
  exact runBlock_of_tried tried

theorem runBlock_of_cancelled
    (content : (blockContent hooks polling record before.opened).1 = .error (.failed .cancelled)) :
    (runBlock hooks polling record before).1 = .error (.failed .cancelled) := by
  rcases inner : blockContent hooks polling record before.opened with ⟨outcome, inside⟩
  rw [inner] at content
  obtain rfl : outcome = .error (.failed .cancelled) := content
  rw [runBlock_eq, reporting_apply, attempt_of_final inner rfl]

theorem blockContent_waits (read : Block.read record = .ok block)
    (waits : block.waits hooks = some (loop, enter)) (run : Run World) :
    blockContent hooks polling record run =
      (loop.passes hooks (nestedItem hooks polling) enter run.now (loop.cap - 1) >>=
        fun _ => pure .succeeded) run := by
  simp only [blockContent, read]
  rw [waits_run waits, bind_of_ok (get_apply run)]
  rfl

/-- A loop whose condition never ends it, whose break condition never holds, and whose passes all take
the same time, fails at its limits, unless it is cancelled. It makes as many passes as it may, or just
so many that its time is up, whatever comes first, and only rests between them. -/
theorem runBlock_deadline (read : Block.read record = .ok block)
    (waits : block.waits hooks = some (loop, enter)) (given : hooks.condition = some evaluator)
    (concurs : ∀ passes run, loop.Due hooks (nestedItem hooks polling) enter before.opened passes run →
      Concurs evaluator block.head run.world)
    (takes : ∀ passes run entered,
      loop.Due hooks (nestedItem hooks polling) enter before.opened passes run →
      enter (run.noted .head) = (.ok true, entered) →
      loop.Takes hooks (nestedItem hooks polling) ms entered)
    (going : (runBlock hooks polling record before).1 ≠ .error (.failed .cancelled)) :
    ∃ (after : Run World) (nested : List BlockResult) (result : BlockResult),
      runBlock hooks polling record before = (.ok .failed, after) ∧
      after.blocks.toList = before.blocks.toList ++ (nested ++ [result]) ∧ result.status = .failed ∧
      (result.iterations.toNat : ℕ∞) = min (loop.cap : ℕ∞) (loop.deadline ms) ∧
      result.error = some (if (loop.cap : ℕ∞) ≤ loop.deadline ms then RunError.maxIterations loop.cap
        else .timeout).message ∧
      result.durationMs =
        result.iterations.toNat * ms + (result.iterations.toNat - 1) * loop.cadenceMs := by
  have steady : ∀ passes run,
      loop.Due hooks (nestedItem hooks polling) enter before.opened passes run →
      ∃ entered, enter (run.noted .head) = (.ok true, entered) ∧ entered.now = run.now ∧
        loop.Takes hooks (nestedItem hooks polling) ms entered := by
    intro passes run due
    have noted : Concurs evaluator block.head (run.noted .head).world := concurs passes run due
    obtain ⟨entered, enters, prompt⟩ := waits_concurs waits given noted
    exact ⟨entered, enters, prompt, takes passes run entered due enters⟩
  have content : blockContent hooks polling record before.opened =
      (loop.passes hooks (nestedItem hooks polling) enter before.opened.now (loop.cap - 1) >>=
        fun _ => pure .succeeded) before.opened := blockContent_waits read waits before.opened
  have uncancelled : (loop.passes hooks (nestedItem hooks polling) enter before.opened.now
      (loop.cap - 1) before.opened).1 ≠ .error (.failed .cancelled) := by
    intro halted
    refine going (runBlock_of_cancelled ?_)
    rw [content, bind_of_halt (Prod.ext halted rfl)]
  have owns : ∀ act, act.OfBlock block.conditions → ∀ told,
      Deed.OfBlock hooks polling block told (.own act) := fun _ own _ => own
  have itemized : ∀ item ∈ loop.items, Itemized (Deed.OfBlock hooks polling block) before.opened
      (nestedItem hooks polling item) := by
    rw [waits_items waits]
    exact fun item member => runItem_itemized member (runBlock_chronicles item)
  obtain ⟨error, inside, deeds, ended, tells, stops, time⟩ := passes_limited owns
    (waits_conditions waits) itemized (waits_enters waits owns) rfl steady uncancelled
  rw [bind_of_halt ended] at content
  have notCancelled : error ≠ .cancelled := by
    rcases stops.reason with ⟨_, rfl⟩ | ⟨_, _, _, rfl⟩
    · exact nofun
    · exact nofun
  have blocks : inside.blocks.toList = before.blocks.toList ++ deeds.flatMap Deed.results := tells.blocks
  refine ⟨_, deeds.flatMap Deed.results, blockResult record before.now inside (.error error),
    runBlock_of_failed notCancelled content, ?_, rfl, stops.passes_eq, ?_, ?_⟩
  · rw [← List.append_assoc, ← blocks]
    exact Array.toList_push
  · show some error.message = _
    rw [stops.error_eq]
  · have since : inside.now - before.opened.now = inside.tally.iterations.toNat * ms +
        (inside.tally.iterations.toNat - 1) * loop.cadenceMs := by
      rw [time]
      omega
    exact since

/-- A record of a loop that polishes a lamp while it is there. -/
def polishing : Datum :=
  .ofJson (.object [("type", .str "while"),
    ("condition", .object [("source", .str "image"), ("targetId", .str "lamp")]),
    ("cadenceMs", .ofNat 100), ("timeoutMs", .ofNat 250), ("maxIterations", .ofNat 4),
    ("steps", .arr [.object [("commandId", .str "polish")]])])

def polishingLoop : Block.Loop Datum where
  breakOn := none
  continueOn := none
  cadenceMs := 100
  timeoutMs := some 250
  maxIterations := some 4
  items := [.ofJson (.object [("commandId", .str "polish")])]

/-- Collaborators that are never done; every command takes 25 ms. -/
def tireless : Hooks Unit where
  command _ world := { answer := .ok (), world, elapsed := 25 }
  condition := some fun _ world => { answer := .ok true, world }
  rest _ world := { world }
  random world := (0, world)

theorem polishingLoop_takes (run : Run Unit) :
    polishingLoop.Takes tireless (nestedItem tireless { patience := 1 }) 25 run := by
  rcases run with ⟨world, now, cancelled, tally, steps, blocks, journal⟩
  cases cancelled with
  | false => exact ⟨rfl, rfl⟩
  | true => exact rfl

theorem polishingLoop_deadline : polishingLoop.deadline 25 = (3 : Nat) :=
  polishingLoop.deadline_eq_ceilDiv rfl (by decide)

/-- The time of the lamp is up in the third pass, before the limit of passes. -/
theorem runBlock_deadline_polishing :
    ∃ (after : Run Unit) (nested : List BlockResult) (result : BlockResult),
      runBlock tireless { patience := 1 } polishing { world := () } = (.ok .failed, after) ∧
      after.blocks.toList = nested ++ [result] ∧ result.status = .failed ∧
      result.iterations.toNat = 3 ∧ result.error = some "Block timeout reached" ∧
      result.durationMs = 275 := by
  have ends : (runBlock tireless { patience := 1 } polishing { world := () }).1.isOk = true := by
    decide +kernel
  have going : (runBlock tireless { patience := 1 } polishing { world := () }).1 ≠
      .error (.failed .cancelled) := by
    intro halted
    rw [halted] at ends
    cases ends
  have read : Block.read polishing =
      .ok (.whileHolds { source := .image, targetId := "lamp" } polishingLoop) := rfl
  obtain ⟨after, nested, result, ended, blocks, status, iterations, error, duration⟩ :=
    runBlock_deadline read rfl rfl (fun _ _ _ => ⟨rfl, rfl, trivial⟩)
      (fun _ _ entered _ _ => polishingLoop_takes entered) going
  have cap : polishingLoop.cap = 4 := rfl
  have first : min ((4 : Nat) : ℕ∞) (3 : Nat) = (3 : Nat) := by decide
  rw [polishingLoop_deadline, cap] at iterations error
  have three : result.iterations.toNat = 3 := Nat.cast_injective (iterations.trans first)
  have cadence : polishingLoop.cadenceMs = 100 := rfl
  rw [three, cadence] at duration
  refine ⟨after, nested, result, ended, blocks, status, three, ?_, duration⟩
  rw [error, if_neg (by decide)]
  rfl

end Runner

end Autopilot
