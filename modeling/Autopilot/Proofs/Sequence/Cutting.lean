import Autopilot.Proofs.Sequence.Deadline
import Autopilot.Proofs.Sequence.Framing
import Autopilot.Proofs.Sequence.Tallies

/-!
Loops with a given number of passes can be cut. A pass does the same whatever was counted, reported
and told before it, and only adds to that; so without rests and without a condition to break on, one
block that makes all passes and two that share them do the same, and what the two report adds up.
With rests there is one between any two passes, and none before the first or after the last.
-/

namespace Autopilot

/-! ## Adding up -/

/-- What is counted on top of what was counted before. -/
def Tally.plus (base tally : Tally) : Tally where
  iterations := base.iterations + tally.iterations
  conditionsEvaluated := base.conditionsEvaluated + tally.conditionsEvaluated
  branch := base.branch.or tally.branch

namespace Run

variable {World α : Type} (base run : Run World)

/-- The run on top of all that an earlier one has reported, told and counted. -/
def atop (base run : Run World) : Run World :=
  { base.onto run with tally := base.tally.plus run.tally }

theorem atop_noted (act : Act) : (base.atop run).noted act = base.atop (run.noted act) := by
  simp only [atop, onto, noted, Array.push_append]

theorem atop_replied (reply : Reply World α) :
    (base.atop run).replied reply = base.atop (run.replied reply) := rfl

theorem atop_checked : (base.atop run).checked = base.atop run.checked := by
  simp only [atop, onto, checked, Tally.plus, UInt32.add_assoc]

theorem acts_atop : (base.atop run).acts = base.acts ++ run.acts := by
  simp [acts, atop, onto]

/-- Every run is what it adds to itself from where it is. -/
theorem atop_renewed : base.atop base.renewed = base := by
  simp only [atop, onto, renewed, Tally.plus, Array.append_empty, UInt32.add_zero, Option.or_none]

end Run

namespace Runner

variable {World α β Item : Type} {hooks : Hooks World} {polling : Polling}

/-! ## Parts that do not look at counters -/

/-- A part that does the same whatever is counted around it. -/
def Blind (part : Runner World α) : Prop :=
  ∀ (run : Run World) (tally : Tally),
    ∃ later, part { run with tally } = ((part run).1, { (part run).2 with tally := later })

namespace Blind

theorem bind {part : Runner World α} {next : α → Runner World β} (first : Blind part)
    (later : ∀ value, Blind (next value)) : Blind (part >>= next) := by
  intro run tally
  obtain ⟨between, start⟩ := first run tally
  rcases ended : part run with ⟨halt | value, middle⟩
  · rw [ended] at start
    rw [bind_of_halt start, bind_of_halt ended]
    exact ⟨between, rfl⟩
  · rw [ended] at start
    rw [bind_of_ok start, bind_of_ok ended]
    exact later value middle between

theorem attempt {part : Runner World α} (inner : Blind part) : Blind (Runner.attempt part) := by
  intro run tally
  obtain ⟨later, same⟩ := inner run tally
  unfold Runner.attempt
  rw [same]
  rcases part run with ⟨halt | value, after⟩
  · dsimp only
    cases halt.settled? <;> exact ⟨later, rfl⟩
  · exact ⟨later, rfl⟩

theorem ask {ε : Type} (asked : Act) (answered : Except ε α → Act) (asError : ε → RunError)
    (question : World → Reply World (Except ε α)) :
    Blind (Runner.ask asked answered asError question) := by
  intro run tally
  rw [ask_apply, ask_apply]
  exact ⟨tally, rfl⟩

theorem checkCancel : Blind (Runner.checkCancel : Runner World Unit) := by
  rintro ⟨world, now, cancelled, _, steps, blocks, journal⟩ tally
  cases cancelled <;> exact ⟨tally, rfl⟩

theorem pause (ms : Nat) : Blind (Runner.pause hooks ms) := by
  intro run tally
  rw [pause_apply, pause_apply]
  split
  · exact checkCancel run tally
  refine ⟨tally, ?_⟩
  dsimp only
  split
  · rfl
  split
  · rfl
  · split <;> rfl

theorem composes : Composes hooks fun {_} part => Blind (part ()) where
  pure _ _ tally := ⟨tally, rfl⟩
  bind := bind
  clock _ tally := ⟨tally, rfl⟩
  fail _ _ _ tally := ⟨tally, rfl⟩
  checkCancel := checkCancel
  count f _ tally := ⟨f tally, rfl⟩
  pause := pause
  evaluate _ _ _ := ask _ _ _ _

end Blind

theorem runStep_blind (step : Step) : Blind (runStep hooks polling step) := by
  have drawn : Blind (drawDelay hooks step) := by
    intro run tally
    refine ⟨tally, ?_⟩
    unfold drawDelay
    cases step.delayRange <;> rfl
  exact runStep_composes Blind.composes (fun _ tally => ⟨tally, rfl⟩) (fun _ _ => .ask _ _ _ _)
    Blind.attempt (fun _ _ _ => trivial) (.ask _ _ _ _) (fun _ tally => ⟨tally, rfl⟩) drawn polling

theorem runBlock_blind (record : Datum) : Blind (runBlock hooks polling record) := by
  intro run tally
  rw [runBlock_eq]
  obtain ⟨same, later, left⟩ := reporting_tally record (blockContent hooks polling record) run tally
  exact ⟨later, Prod.ext same left⟩

/-! ## Parts that add up -/

/-- A part that does the same after whatever was reported, told and counted before it, and adds to that
where it ends. -/
def Additive (part : Runner World α) : Prop :=
  ∀ base run : Run World,
    (∃ value after, part run = (.ok value, after) ∧ part (base.atop run) = (.ok value, base.atop after)) ∨
    ∃ halt after whole, part run = (.error halt, after) ∧ part (base.atop run) = (.error halt, whole)

namespace Additive

theorem bind {part : Runner World α} {next : α → Runner World β} (first : Additive part)
    (later : ∀ value, Additive (next value)) : Additive (part >>= next) := by
  intro base run
  rcases first base run with ⟨value, middle, alone, began⟩ | ⟨halt, after, whole, alone, began⟩
  · rw [bind_of_ok alone, bind_of_ok began]
    exact later value base middle
  · rw [bind_of_halt alone, bind_of_halt began]
    exact .inr ⟨halt, after, whole, rfl, rfl⟩

theorem ite {condition : Prop} [Decidable condition] {part other : Runner World α}
    (first : Additive part) (second : Additive other) :
    Additive (if condition then part else other) := by
  split
  · exact first
  · exact second

theorem pure (value : α) : Additive (pure value : Runner World α) :=
  fun _ run => .inl ⟨value, run, rfl, rfl⟩

theorem fail (error : RunError) : Additive (Runner.fail error : Runner World α) :=
  fun base run => .inr ⟨.failed error, run, base.atop run, rfl, rfl⟩

/-- What a part adds where it ends, it adds to any run that is where it began. -/
theorem added {part : Runner World α} (additive : Additive part) {run after : Run World} {value : α}
    (ended : part run = (.ok value, after)) :
    ∃ last, after = run.atop last ∧
      ∀ other : Run World, other.renewed = run.renewed → part other = (.ok value, other.atop last) := by
  rcases additive run run.renewed with ⟨_, last, alone, whole⟩ | ⟨_, _, _, _, whole⟩
  all_goals rw [Run.atop_renewed] at whole
  all_goals cases ended.symm.trans whole
  refine ⟨last, rfl, ?_⟩
  intro other same
  rcases additive other other.renewed with ⟨_, _, again, moved⟩ | ⟨_, _, _, again, _⟩
  all_goals rw [same] at again
  all_goals cases alone.symm.trans again
  rwa [Run.atop_renewed] at moved

/-- A part adds up if it only adds to what was there before, does not look at what is counted, and
counts nothing. -/
theorem of_uncounting {part : Runner World α} (framed : Framed part) (blind : Blind part)
    (uncounting : Uncounting part) : Additive part := by
  intro base run
  obtain ⟨later, same⟩ := blind (base.onto run) (base.tally.plus run.tally)
  rw [framed base run] at same
  rcases alone : part run with ⟨halt | value, after⟩
  · rw [alone] at same
    exact .inr ⟨halt, after, _, rfl, same⟩
  · rw [alone] at same
    have whole : later = base.tally.plus run.tally := (uncounting (· = _)).ended rfl same
    have own : after.tally = run.tally := (uncounting (· = _)).ended rfl alone
    obtain rfl : later = base.tally.plus after.tally := by rw [whole, own]
    exact .inl ⟨value, after, rfl, same⟩

theorem checkCancel : Additive (Runner.checkCancel : Runner World Unit) :=
  of_uncounting .checkCancel .checkCancel fun _ => Tallies.checkCancel

theorem note (act : Act) : Additive (Runner.note act : Runner World Unit) :=
  of_uncounting (.note act) (fun _ tally => ⟨tally, rfl⟩) fun _ => Tallies.note act

theorem beginHead : Additive (Runner.beginHead : Runner World Unit) :=
  checkCancel.bind fun _ => note .head

theorem pause (ms : Nat) : Additive (Runner.pause hooks ms) :=
  of_uncounting (.pause ms) (.pause ms) fun _ => Tallies.pause ms

theorem count {f : Tally → Tally} (adds : ∀ base tally : Tally, f (base.plus tally) = base.plus (f tally)) :
    Additive (Runner.count f : Runner World Unit) := by
  intro base run
  have counted : (Runner.count f : Runner World Unit) (base.atop run) =
      (.ok (), { base.onto run with tally := f (base.tally.plus run.tally) }) := rfl
  rw [adds] at counted
  exact .inl ⟨(), _, rfl, counted⟩

theorem check (condition : Condition) : Additive (Runner.check hooks condition) := by
  intro base run
  cases given : hooks.condition with
  | none =>
    have missing : Runner.check hooks condition = (Runner.fail .noEvaluator : Runner World Bool) := by
      simp only [Runner.check, given]
    rw [missing]
    exact fail .noEvaluator base run
  | some evaluator =>
    have world : (base.atop run).world = run.world := rfl
    rw [check_apply given, check_apply given, world]
    simp only [Run.atop_checked, Run.atop_noted, Run.atop_replied]
    cases (evaluator condition run.world).answer with
    | ok value => exact .inl ⟨value, _, rfl, rfl⟩
    | error error => exact .inr ⟨_, _, _, rfl, rfl⟩

theorem checkOptional (condition : Option Condition) :
    Additive (Runner.checkOptional hooks condition) := by
  cases condition with
  | none => exact pure false
  | some condition => exact check condition

/-- One more pass. -/
theorem counts : Additive (setIterations (· + 1) : Runner World Unit) :=
  count fun base tally => by simp only [Tally.plus, UInt32.add_assoc]

end Additive

theorem settleStep_additive (result : StepResult) :
    Additive (settleStep result : Runner World Unit) := by
  have reported : Additive (report result : Runner World Unit) := by
    intro base run
    have told : (report result : Runner World Unit) (base.atop run) = (.ok (),
        { base.atop run with steps := (base.steps ++ run.steps).push result }) := rfl
    rw [Array.push_append] at told
    exact .inl ⟨(), { run with steps := run.steps.push result }, rfl, told⟩
  exact reported.bind fun _ => .ite (.fail _) (.pure ())

theorem settleBlock_additive (record : Datum) (status : BlockStatus) :
    Additive (settleBlock record status : Runner World Unit) :=
  .ite (.fail _) (.pure ())

theorem nestedItem_additive (item : Datum) : Additive (nestedItem hooks polling item) := by
  unfold nestedItem Runner.runItem
  apply Additive.checkCancel.bind
  intro _
  apply (Additive.note .item).bind
  intro _
  cases Item.read item with
  | error fault => exact .fail _
  | ok content =>
    cases content with
    | step step =>
      have ran : Additive (runStep hooks polling step) :=
        .of_uncounting (runStep_framed step) (runStep_blind step) (runStep_uncounting step)
      exact ran.bind settleStep_additive
    | block =>
      have framed : Framed (runBlock hooks polling item) := by
        rw [runBlock_eq]
        exact (blockContent_framed item).reporting item
      have ran : Additive (runBlock hooks polling item) :=
        .of_uncounting framed (runBlock_blind item) (runBlock_uncounting item)
      exact ran.bind (settleBlock_additive item)

section Loops

variable {runItem : Item → Runner World Unit} {loop : Block.Loop Item}

theorem runBody_additive (breakOn continueOn : Option Condition) {items : List Item}
    (each : ∀ item ∈ items, Additive (runItem item)) :
    Additive (runBody hooks breakOn continueOn runItem items) := by
  induction items with
  | nil => exact .pure _
  | cons item rest ih =>
    apply (each item List.mem_cons_self).bind
    intro _
    apply (Additive.checkOptional breakOn).bind
    intro broken
    apply Additive.ite (.pure _)
    apply (Additive.checkOptional continueOn).bind
    intro continued
    exact .ite (.pure _) (ih fun other member => each other (List.mem_cons_of_mem _ member))

theorem counted_additive (each : ∀ item ∈ loop.items, Additive (runItem item)) (first : Bool)
    (passes : Nat) : Additive (loop.counted hooks runItem first passes) := by
  induction passes generalizing first with
  | zero => exact .pure ()
  | succ passes ih =>
    have goOn : Additive (do
        if ← checkOptional hooks loop.breakOn then return
        setIterations (· + 1)
        if (← loop.pass hooks runItem) = .broken then return
        loop.counted hooks runItem false passes : Runner World Unit) := by
      apply (Additive.checkOptional loop.breakOn).bind
      intro broken
      apply Additive.ite (.pure ())
      apply Additive.counts.bind
      intro _
      apply (runBody_additive _ _ each).bind
      exact fun flow => .ite (.pure ()) (ih false)
    rw [counted_succ]
    apply Additive.beginHead.bind
    intro _
    exact .ite ((Additive.pause loop.cadenceMs).bind fun _ => goOn) goOn

end Loops

end Runner

/-! ## Laps -/

namespace Block

open Runner

variable {World Item : Type}

/-- The rest before a pass, unless it is the first. -/
def Loop.rest (hooks : Hooks World) (loop : Loop Item) (first : Bool) : Runner World Unit :=
  if first then return else pause hooks loop.cadenceMs

/-- A lap of a loop that nothing breaks: its head, the rest, and a pass, which is counted. -/
def Loop.lap (hooks : Hooks World) (loop : Loop Item) (runItem : Item → Runner World Unit)
    (first : Bool) : Runner World Unit := do
  beginHead
  loop.rest hooks first
  setIterations (· + 1)
  let _ ← loop.pass hooks runItem

/-- Laps of a loop, one after the other, of which none is cancelled and in which nothing fails. -/
inductive Loop.Laps (hooks : Hooks World) (loop : Loop Item) (runItem : Item → Runner World Unit) :
    Bool → Nat → Run World → Run World → Prop where
  | none {first : Bool} {run : Run World} : Laps hooks loop runItem first 0 run run
  | next {first : Bool} {laps : Nat} {run between after : Run World}
      (lap : loop.lap hooks runItem first run = (.ok (), between))
      (later : Laps hooks loop runItem false laps between after) :
      Laps hooks loop runItem first (laps + 1) run after

/-- What is told of a pass through the body of a loop. -/
def Loop.Tells (hooks : Hooks World) (loop : Loop Item) (runItem : Item → Runner World Unit)
    (acts : List Act) : Prop :=
  ∃ run after flow, loop.pass hooks runItem run = (.ok flow, after) ∧ after.acts = run.acts ++ acts

/-- The rest between two passes; without a cadence there is none. -/
def Loop.rests (loop : Loop Item) : List Act :=
  if loop.cadenceMs = 0 then [] else [.slept loop.cadenceMs]

/-- The loop with a given number of passes. -/
def Loop.repeated (loop : Loop Item) (passes : Nat) : Loop Item :=
  { loop with maxIterations := some passes }

end Block

namespace Runner

open Block

variable {World Item : Type} {hooks : Hooks World} {polling : Polling}
  {runItem : Item → Runner World Unit} {loop : Loop Item}

/-- A body that nothing breaks is completed where it ends. -/
theorem runBody_completed {continueOn : Option Condition} {items : List Item} {run after : Run World}
    {flow : Flow} (ended : runBody hooks none continueOn runItem items run = (.ok flow, after)) :
    flow = .completed := by
  induction items generalizing run with
  | nil =>
    cases ended
    rfl
  | cons item rest ih =>
    obtain ⟨_, between, _, ended⟩ := parts_of_ok ended
    obtain ⟨broken, _, unasked, ended⟩ := parts_of_ok ended
    cases unasked
    rw [if_neg Bool.false_ne_true] at ended
    obtain ⟨continued, middle, _, ended⟩ := parts_of_ok ended
    cases continued with
    | true =>
      cases ended
      rfl
    | false => exact ih ended

/-- A loop that nothing breaks makes one lap after the other. -/
theorem counted_lap (unbroken : loop.breakOn = none) (first : Bool) (passes : Nat) :
    loop.counted hooks runItem first (passes + 1) =
      (loop.lap hooks runItem first >>= fun _ => loop.counted hooks runItem false passes) := by
  have goOn : (loop.pass hooks runItem >>= fun flow =>
        if flow = .broken then pure () else loop.counted hooks runItem false passes) =
      (loop.pass hooks runItem >>= fun _ => loop.counted hooks runItem false passes) := by
    funext run
    rcases ended : loop.pass hooks runItem run with ⟨halt | flow, after⟩
    · rw [bind_of_halt ended, bind_of_halt ended]
    · rw [bind_of_ok ended, bind_of_ok ended]
      have completed : flow = .completed := by
        unfold Loop.pass at ended
        rw [unbroken] at ended
        exact runBody_completed ended
      rw [completed, if_neg nofun]
  rw [counted_succ, Loop.lap, unbroken]
  cases first <;> simp [Loop.rest, checkOptional, goOn]

/-- Where nothing breaks a loop it ends if and only if all its laps do. -/
theorem counted_iff_laps (unbroken : loop.breakOn = none) {first : Bool} {passes : Nat}
    {run after : Run World} :
    loop.counted hooks runItem first passes run = (.ok (), after) ↔
      loop.Laps hooks runItem first passes run after := by
  constructor
  · intro ended
    induction passes generalizing first run with
    | zero =>
      cases ended
      exact .none
    | succ passes ih =>
      rw [counted_lap unbroken] at ended
      obtain ⟨_, between, lap, later⟩ := parts_of_ok ended
      exact .next lap (ih later)
  · intro laps
    induction laps with
    | none => rfl
    | next lap _ ih =>
      rw [counted_lap unbroken, bind_of_ok lap]
      exact ih

theorem beginHead_of_cancelled {run : Run World} (cancelled : run.cancelled = true) :
    beginHead run = (.error (.failed .cancelled), run) := by
  rw [beginHead, bind_of_halt (checkCancel_of_cancelled cancelled)]

theorem beginHead_of_going {run : Run World} (going : run.cancelled = false) :
    beginHead run = (.ok (), run.noted .head) := by
  rw [beginHead, bind_of_ok (checkCancel_of_going going), note_apply]

/-- How a lap ends: it is not begun in a cancelled run, and neither its rest nor its pass is cancelled
or fails. -/
theorem lap_iff {first : Bool} {run after : Run World} :
    loop.lap hooks runItem first run = (.ok (), after) ↔
      ∃ rested flow, run.cancelled = false ∧ loop.rest hooks first (run.noted .head) = (.ok (), rested) ∧
        loop.pass hooks runItem (rested.recounted (· + 1)) = (.ok flow, after) := by
  cases going : run.cancelled with
  | true =>
    rw [Loop.lap, bind_of_halt (beginHead_of_cancelled going)]
    exact ⟨nofun, fun ⟨_, _, other, _⟩ => nomatch other⟩
  | false =>
    rw [Loop.lap, bind_of_ok (beginHead_of_going going)]
    constructor
    · intro ended
      obtain ⟨_, rested, rest, ended⟩ := parts_of_ok ended
      rw [bind_of_ok (setIterations_apply _ rested)] at ended
      obtain ⟨flow, between, pass, same⟩ := parts_of_ok ended
      cases same
      exact ⟨rested, flow, rfl, rest, pass⟩
    · rintro ⟨rested, flow, _, rest, pass⟩
      rw [bind_of_ok rest, bind_of_ok (setIterations_apply _ rested), bind_of_ok pass, pure_apply]

/-- Where there is no cadence, the first lap is like the others. -/
theorem lap_restless (restless : loop.cadenceMs = 0) :
    loop.lap hooks runItem true = loop.lap hooks runItem false := by
  funext run
  cases going : run.cancelled with
  | true =>
    rw [Loop.lap, Loop.lap, bind_of_halt (beginHead_of_cancelled going),
      bind_of_halt (beginHead_of_cancelled going)]
  | false =>
    have rested : loop.rest hooks false (run.noted .head) = (.ok (), run.noted .head) := by
      rw [Loop.rest, if_neg Bool.false_ne_true, restless, pause_zero]
      exact checkCancel_of_going going
    rw [Loop.lap, Loop.lap, bind_of_ok (beginHead_of_going going),
      bind_of_ok (beginHead_of_going going), bind_of_ok rested]
    rfl

theorem counted_restless (unbroken : loop.breakOn = none) (restless : loop.cadenceMs = 0)
    (passes : Nat) :
    loop.counted hooks runItem true passes = loop.counted hooks runItem false passes := by
  cases passes with
  | zero => rfl
  | succ passes => rw [counted_lap unbroken, counted_lap unbroken, lap_restless restless]

/-- A loop that nothing breaks and that does not rest can be cut anywhere, by induction on the passes
before the cut. -/
theorem counted_add (unbroken : loop.breakOn = none) (restless : loop.cadenceMs = 0) (m n : Nat) :
    loop.counted hooks runItem true (m + n) =
      (loop.counted hooks runItem true m >>= fun _ => loop.counted hooks runItem true n) := by
  simp only [counted_restless unbroken restless]
  induction m with
  | zero =>
    rw [Nat.zero_add]
    exact (pure_bind () fun _ => loop.counted hooks runItem false n).symm
  | succ m ih => rw [Nat.succ_add, counted_lap unbroken, counted_lap unbroken, ih, bind_assoc]

/-- How many passes a loop is given does not matter for the passes that it makes. -/
theorem counted_repeated (given : Nat) (first : Bool) (passes : Nat) :
    (loop.repeated given).counted hooks runItem first passes =
      loop.counted hooks runItem first passes := by
  induction passes generalizing first with
  | zero => rfl
  | succ passes ih =>
    simp only [counted_succ, ih]
    rfl

/-! ## Counting laps -/

section Counting

variable (each : ∀ item ∈ loop.items, Uncounting (runItem item))

include each

theorem lap_tallies (first : Bool) (passes : Nat) :
    Tallies (Made passes) (loop.lap hooks runItem first) (fun _ => Made (passes + 1)) fun _ _ => True := by
  apply Tallies.beginHead.bind
  intro _
  have rested : Tallies (Made passes) (loop.rest hooks first) (fun _ => Made passes) fun _ _ => True :=
    .ite (fun _ => .pure () fun _ made => made) fun _ => .pause _
  apply rested.bind
  intro _
  have counted : Tallies (Made passes) (setIterations (· + 1) : Runner World Unit)
      (fun _ => Made (passes + 1)) fun _ _ => True := .count fun _ made => made.next
  apply counted.bind
  intro _
  have passed : Tallies (Made (passes + 1)) (loop.pass hooks runItem) (fun _ => Made (passes + 1))
      fun _ _ => True :=
    (pass_tallies each fun _ _ made => made).weaken (fun _ made => made) (fun _ _ made => made)
      fun _ _ _ => trivial
  exact passed.bind fun _ => .pure () fun _ made => made

/-- Each lap counts one pass, by induction on the laps. -/
theorem laps_made {first : Bool} {passes more : Nat} {run after : Run World}
    (laps : loop.Laps hooks runItem first more run after) (made : Made passes run.tally) :
    Made (passes + more) after.tally := by
  induction laps generalizing passes with
  | none => exact made
  | next lap _ ih =>
    have made := ih ((lap_tallies each _ passes).ended made lap)
    rwa [Nat.add_right_comm] at made

end Counting

/-! ## Telling laps -/

theorem rest_acts {first : Bool} {run rested : Run World}
    (rest : loop.rest hooks first run = (.ok (), rested)) :
    rested.acts = run.acts ++ if first then [] else loop.rests := by
  cases first with
  | true =>
    cases rest
    exact (List.append_nil _).symm
  | false =>
    have rest : pause hooks loop.cadenceMs run = (.ok (), rested) := rest
    rcases pause_cases hooks loop.cadenceMs run with ⟨_, same⟩ | ⟨_, none, same⟩ | ⟨_, _, _, same⟩ |
      ⟨some, _, same⟩
    all_goals rw [rest] at same
    all_goals cases same
    · rw [Loop.rests, if_pos none]
      exact (List.append_nil _).symm
    · rw [Loop.rests, if_neg some]
      exact Run.acts_noted _ _

section Telling

variable (additive : ∀ item ∈ loop.items, Additive (runItem item))

include additive

theorem lap_tells {first : Bool} {run after : Run World}
    (lap : loop.lap hooks runItem first run = (.ok (), after)) :
    ∃ told, loop.Tells hooks runItem told ∧
      after.acts = run.acts ++ (.head :: (if first then [] else loop.rests) ++ told) := by
  obtain ⟨rested, flow, _, rest, pass⟩ := lap_iff.1 lap
  obtain ⟨last, rfl, _⟩ := (runBody_additive loop.breakOn loop.continueOn additive).added pass
  have counted : (rested.recounted (· + 1)).acts = rested.acts := rfl
  refine ⟨last.acts, ⟨_, _, flow, pass, Run.acts_atop _ _⟩, ?_⟩
  rw [Run.acts_atop, counted, rest_acts rest, Run.acts_noted]
  simp

/-- Laps that follow the first, by induction on them. -/
theorem laps_tell {laps : Nat} {run after : Run World}
    (later : loop.Laps hooks runItem false laps run after) :
    ∃ bodies : List (List Act), bodies.length = laps ∧ (∀ told ∈ bodies, loop.Tells hooks runItem told) ∧
      after.acts = run.acts ++ bodies.flatMap fun told => .head :: loop.rests ++ told := by
  induction laps generalizing run with
  | zero =>
    cases later
    exact ⟨[], rfl, List.forall_mem_nil _, (List.append_nil _).symm⟩
  | succ laps ih =>
    obtain _ | ⟨lap, later⟩ := later
    obtain ⟨told, tells, acts⟩ := lap_tells additive lap
    obtain ⟨bodies, length, others, more⟩ := ih later
    refine ⟨told :: bodies, congrArg (· + 1) length, List.forall_mem_cons.2 ⟨tells, others⟩, ?_⟩
    rw [more, acts]
    simp

end Telling

end Runner

/-! ## Blocks -/

/-- What two blocks did, one after the other, and what one block did instead: the same, at the same
times, and the reports of the two add up to that of the one. -/
structure Block.Cut {World : Type} (before middle after whole : Run World)
    (first second total : BlockResult) : Prop where
  journal : whole.journal = after.journal
  world : whole.world = after.world
  now : whole.now = after.now
  cancelled : whole.cancelled = after.cancelled
  tally : whole.tally = after.tally
  steps : whole.steps = after.steps
  blocks : ∃ earlier later : Array BlockResult,
    middle.blocks = (before.blocks ++ earlier).push first ∧
    after.blocks = (middle.blocks ++ later).push second ∧
    whole.blocks = (before.blocks ++ (earlier ++ later)).push total
  iterations : total.iterations = first.iterations + second.iterations
  checks : total.conditionsEvaluated = first.conditionsEvaluated + second.conditionsEvaluated

theorem Block.Cut.of_atop {World : Type} (before first last : Run World) (one : BlockResult)
    {other both : BlockResult} (iterations : both.iterations = one.iterations + other.iterations)
    (checks : both.conditionsEvaluated = one.conditionsEvaluated + other.conditionsEvaluated) :
    Cut before (before.closed (before.opened.atop first) one)
      ((before.closed (before.opened.atop first) one).closed
        ((before.closed (before.opened.atop first) one).opened.atop last) other)
      (before.closed ((before.opened.atop first).atop last) both) one other both where
  journal := rfl
  world := rfl
  now := rfl
  cancelled := rfl
  tally := rfl
  steps := rfl
  blocks := by
    refine ⟨first.blocks, last.blocks, rfl, rfl, ?_⟩
    rw [← Array.append_assoc]
    rfl
  iterations := iterations
  checks := checks

namespace Runner

open Block

variable {World : Type} {hooks : Hooks World} {polling : Polling} {loop : Loop Datum}
  {record : Datum} {condition : Option Condition} {before inside : Run World}

theorem blockContent_repeated {passes : Nat} (positive : 1 ≤ passes)
    (read : Block.read record = .ok (.times condition (loop.repeated passes))) :
    blockContent hooks polling record =
      (loop.counted hooks (nestedItem hooks polling) true passes >>= fun _ => pure .succeeded) := by
  have some : ¬((passes : Int) ≤ 0) := by omega
  have ran : blockContent hooks polling record = (do
      (loop.repeated passes).counted hooks (nestedItem hooks polling) true (passes : Int).toNat
      return .succeeded) := by
    simp only [blockContent, read, Block.run, Loop.repeated, if_neg some]
    rfl
  rw [ran, counted_repeated, Int.toNat_natCast]

theorem runBlock_of_ended {status : BlockStatus}
    (content : blockContent hooks polling record before.opened = (.ok status, inside)) :
    runBlock hooks polling record before =
      (.ok status, before.closed inside (blockResult record before.now inside (.ok status))) := by
  have tried : attempt (blockContent hooks polling record) before.opened =
      (.ok (.ok status), inside) := by
    simp only [attempt, content]
  exact runBlock_of_tried tried

/-- A block that makes a given number of passes ends where its laps do. -/
theorem runBlock_laps {passes : Nat} (positive : 1 ≤ passes) (unbroken : loop.breakOn = none)
    (read : Block.read record = .ok (.times condition (loop.repeated passes)))
    (laps : loop.Laps hooks (nestedItem hooks polling) true passes before.opened inside) :
    runBlock hooks polling record before =
      (.ok .succeeded, before.closed inside (blockResult record before.now inside (.ok .succeeded))) := by
  apply runBlock_of_ended
  rw [blockContent_repeated positive read, bind_of_ok ((counted_iff_laps unbroken).2 laps), pure_apply]

/-- Two blocks without rests do what one does that makes the passes of both. -/
theorem runBlock_cut {m n : Nat} {one other both : Datum} {c d e : Option Condition}
    (unbroken : loop.breakOn = none) (restless : loop.cadenceMs = 0) (some : 1 ≤ m) (more : 1 ≤ n)
    (readOne : Block.read one = .ok (.times c (loop.repeated m)))
    (readOther : Block.read other = .ok (.times d (loop.repeated n)))
    (readBoth : Block.read both = .ok (.times e (loop.repeated (m + n))))
    (laps : loop.Laps hooks (nestedItem hooks polling) true (m + n) before.opened inside) :
    ∃ (middle after whole : Run World) (first second total : BlockResult),
      runBlock hooks polling one before = (.ok .succeeded, middle) ∧
      runBlock hooks polling other middle = (.ok .succeeded, after) ∧
      runBlock hooks polling both before = (.ok .succeeded, whole) ∧
      Cut before middle after whole first second total ∧
      total.status = .succeeded ∧ total.iterations = UInt32.ofNat (m + n) := by
  have additive (passes : Nat) :
      Additive (loop.counted hooks (nestedItem hooks polling) true passes) :=
    counted_additive (fun item _ => nestedItem_additive item) true passes
  have made : Made (0 + (m + n)) inside.tally :=
    laps_made (fun item _ => runItem_uncounting item) laps ⟨rfl, rfl⟩
  have ended := (counted_iff_laps unbroken).2 laps
  rw [counted_add unbroken restless] at ended
  obtain ⟨_, between, began, finished⟩ := parts_of_ok ended
  obtain ⟨first, rfl, _⟩ := (additive m).added began
  obtain ⟨last, rfl, again⟩ := (additive n).added finished
  have contentOne : blockContent hooks polling one before.opened =
      (.ok .succeeded, before.opened.atop first) := by
    rw [blockContent_repeated some readOne, bind_of_ok began, pure_apply]
  have contentBoth : blockContent hooks polling both before.opened =
      (.ok .succeeded, (before.opened.atop first).atop last) := by
    rw [blockContent_repeated (some.trans (Nat.le_add_right m n)) readBoth, counted_add unbroken restless,
      bind_of_ok ended, pure_apply]
  -- The second block begins with fresh counters, and after the report of the first.
  have contentOther (result : BlockResult) :
      blockContent hooks polling other (before.closed (before.opened.atop first) result).opened =
        (.ok .succeeded, (before.closed (before.opened.atop first) result).opened.atop last) := by
    have resumed := again (before.closed (before.opened.atop first) result).opened rfl
    rw [blockContent_repeated more readOther, bind_of_ok resumed, pure_apply]
  refine ⟨_, _, _, _, _, _, runBlock_of_ended contentOne, runBlock_of_ended (contentOther _),
    runBlock_of_ended contentBoth, .of_atop before first last _ ?_ ?_, rfl, ?_⟩
  · show 0 + first.tally.iterations + last.tally.iterations =
      0 + first.tally.iterations + (0 + last.tally.iterations)
    rw [UInt32.zero_add last.tally.iterations]
  · show 0 + first.tally.conditionsEvaluated + last.tally.conditionsEvaluated =
      0 + first.tally.conditionsEvaluated + (0 + last.tally.conditionsEvaluated)
    rw [UInt32.zero_add last.tally.conditionsEvaluated]
  · rw [← Nat.zero_add (m + n)]
    exact made.2

/-- Between any two passes a block rests, and neither before the first nor after the last. -/
theorem runBlock_rests {passes : Nat} (positive : 1 ≤ passes) (unbroken : loop.breakOn = none)
    (read : Block.read record = .ok (.times condition (loop.repeated passes)))
    (laps : loop.Laps hooks (nestedItem hooks polling) true passes before.opened inside) :
    ∃ (after : Run World) (body : List Act) (bodies : List (List Act)),
      runBlock hooks polling record before = (.ok .succeeded, after) ∧ bodies.length = passes - 1 ∧
      (∀ told ∈ body :: bodies, loop.Tells hooks (nestedItem hooks polling) told) ∧
      after.acts = before.acts ++
        (.head :: body ++ bodies.flatMap fun told => .head :: loop.rests ++ told) := by
  have additive (item : Datum) (_ : item ∈ loop.items) : Additive (nestedItem hooks polling item) :=
    nestedItem_additive item
  have ran := runBlock_laps positive unbroken read laps
  obtain _ | ⟨lap, later⟩ := laps
  · cases positive
  · obtain ⟨body, tells, acts⟩ := lap_tells additive lap
    obtain ⟨bodies, length, others, more⟩ := laps_tell additive later
    refine ⟨_, body, bodies, ran, length, List.forall_mem_cons.2 ⟨tells, others⟩, ?_⟩
    have inner : inside.acts = _ := more
    show inside.acts = _
    rw [inner, acts]
    exact List.append_assoc _ _ _

/-- A block that is given no passes is skipped. -/
theorem runBlock_skipped (none : loop.maxIterations.getD 0 ≤ 0)
    (read : Block.read record = .ok (.times condition loop)) :
    runBlock hooks polling record before = (.ok .skipped, { before with
      blocks := before.blocks.push (blockResult record before.now before.opened (.ok .skipped)) }) := by
  have content : blockContent hooks polling record before.opened = (.ok .skipped, before.opened) := by
    simp only [blockContent, read, Block.run]
    cases given : loop.maxIterations with
    | none => rfl
    | some passes =>
      rw [given] at none
      have few : passes ≤ 0 := none
      simp only [if_pos few]
      rfl
  exact runBlock_of_ended content

/-- Blocks with a given number of passes, where nothing breaks them, nothing fails in them and nothing is
cancelled: without rests, two of them do what one does that makes the passes of both, and their reports
add up to its report; otherwise one rests between any two passes, and at no other time. A block that is
given no number of passes, or none above zero, is skipped: whatever it could break on, the run is as it
was, but for the report. -/
theorem runBlock_times (hooks : Hooks World) (polling : Polling) (before : Run World) :
    (∀ (loop : Loop Datum) (m n : Nat) (one other both : Datum) (c d e : Option Condition)
        (inside : Run World), loop.breakOn = none → loop.cadenceMs = 0 → 1 ≤ m → 1 ≤ n →
      m + n ≤ 4294967295 → Block.read one = .ok (.times c (loop.repeated m)) →
      Block.read other = .ok (.times d (loop.repeated n)) →
      Block.read both = .ok (.times e (loop.repeated (m + n))) →
      loop.Laps hooks (nestedItem hooks polling) true (m + n) before.opened inside →
      ∃ (middle after whole : Run World) (first second total : BlockResult),
        runBlock hooks polling one before = (.ok .succeeded, middle) ∧
        runBlock hooks polling other middle = (.ok .succeeded, after) ∧
        runBlock hooks polling both before = (.ok .succeeded, whole) ∧
        Cut before middle after whole first second total ∧
        total.status = .succeeded ∧ total.iterations.toNat = m + n) ∧
    (∀ (loop : Loop Datum) (passes : Nat) (record : Datum) (c : Option Condition)
        (inside : Run World), loop.breakOn = none → 1 ≤ passes →
      Block.read record = .ok (.times c (loop.repeated passes)) →
      loop.Laps hooks (nestedItem hooks polling) true passes before.opened inside →
      ∃ (after : Run World) (body : List Act) (bodies : List (List Act)),
        runBlock hooks polling record before = (.ok .succeeded, after) ∧ bodies.length = passes - 1 ∧
        (∀ told ∈ body :: bodies, loop.Tells hooks (nestedItem hooks polling) told) ∧
        after.acts = before.acts ++
          (.head :: body ++ bodies.flatMap fun told => .head :: loop.rests ++ told)) ∧
    ∀ (loop : Loop Datum) (record : Datum) (c : Option Condition),
      loop.maxIterations.getD 0 ≤ 0 → Block.read record = .ok (.times c loop) →
      runBlock hooks polling record before = (.ok .skipped, { before with
        blocks := before.blocks.push (blockResult record before.now before.opened (.ok .skipped)) }) := by
  refine ⟨?_, ?_, fun _ _ _ none read => runBlock_skipped none read⟩
  · intro loop m n one other both c d e inside unbroken restless some more within readOne readOther
      readBoth laps
    obtain ⟨middle, after, whole, first, second, total, ranOne, ranOther, ranBoth, cut, status, counted⟩ :=
      runBlock_cut unbroken restless some more readOne readOther readBoth laps
    refine ⟨middle, after, whole, first, second, total, ranOne, ranOther, ranBoth, cut, status, ?_⟩
    rw [counted, UInt32.toNat_ofNat_of_lt' (Nat.lt_succ_of_le within)]
  · exact fun _ _ _ _ _ unbroken positive read laps => runBlock_rests positive unbroken read laps

/-- A record that wipes a lamp some times and looks at it after each; `breaks` tells when to stop. -/
def wiping (passes : Int) (cadenceMs : Nat) (breaks : Option Json) : Datum :=
  .ofJson (.objectOf [("type", some (.str "repeatCount")), ("maxIterations", some (.ofInt passes)),
    ("cadenceMs", some (.ofNat cadenceMs)), ("breakOn", breaks),
    ("continueOn", some (.object [("source", .str "image"), ("targetId", .str "lamp")])),
    ("steps", some (.arr [.object [("commandId", .str "wipe")]]))])

def wipingLoop (cadenceMs : Nat) : Loop Datum where
  breakOn := none
  continueOn := some { source := .image, targetId := "lamp" }
  cadenceMs
  timeoutMs := none
  maxIterations := none
  items := [.ofJson (.object [("commandId", .str "wipe")])]

theorem wipingLoop_laps (cadenceMs : Nat) (first : Bool) (passes : Nat) {run : Run Unit}
    (going : run.cancelled = false) :
    ∃ after, (wipingLoop cadenceMs).Laps tireless (nestedItem tireless { patience := 1 }) first passes
      run after := by
  induction passes generalizing first run with
  | zero => exact ⟨run, .none⟩
  | succ passes ih =>
    obtain ⟨between, lap, still⟩ : ∃ between, (wipingLoop cadenceMs).lap tireless
        (nestedItem tireless { patience := 1 }) first run = (.ok (), between) ∧
        between.cancelled = false := by
      rcases run with ⟨world, now, cancelled, tally, steps, blocks, journal⟩
      cases going
      cases first <;> cases cadenceMs <;> exact ⟨_, rfl, rfl⟩
    obtain ⟨after, later⟩ := ih false still
    exact ⟨after, .next lap later⟩

/-- The lamp is wiped once and then twice, or three times at once; twice with a rest of 50 ms between;
and not at all where it is to be wiped no times, even up to an alarm. -/
theorem runBlock_times_wiping :
    (∃ (middle after whole : Run Unit) (first second total : BlockResult),
      runBlock tireless { patience := 1 } (wiping 1 0 none) { world := () } = (.ok .succeeded, middle) ∧
      runBlock tireless { patience := 1 } (wiping 2 0 none) middle = (.ok .succeeded, after) ∧
      runBlock tireless { patience := 1 } (wiping 3 0 none) { world := () } = (.ok .succeeded, whole) ∧
      Cut { world := () } middle after whole first second total ∧ total.iterations.toNat = 3) ∧
    (∃ (after : Run Unit) (body other : List Act),
      runBlock tireless { patience := 1 } (wiping 2 50 none) { world := () } = (.ok .succeeded, after) ∧
      after.acts = .head :: body ++ (.head :: .slept 50 :: other)) ∧
    (runBlock tireless { patience := 1 }
      (wiping 0 0 (some (.object [("source", .str "text"), ("targetId", .str "alarm")])))
      { world := () }).1 = .ok .skipped := by
  have start : ({ world := () } : Run Unit).opened.cancelled = false := rfl
  refine ⟨?_, ?_, ?_⟩
  · obtain ⟨inside, laps⟩ := wipingLoop_laps 0 true 3 start
    obtain ⟨middle, after, whole, first, second, total, one, other, both, cut, _, counted⟩ :=
      (runBlock_times tireless { patience := 1 } { world := () }).1 (wipingLoop 0) 1 2 (wiping 1 0 none)
        (wiping 2 0 none) (wiping 3 0 none) none none none inside rfl rfl (by decide) (by decide) (by decide)
        rfl rfl rfl laps
    exact ⟨middle, after, whole, first, second, total, one, other, both, cut, counted⟩
  · obtain ⟨inside, laps⟩ := wipingLoop_laps 50 true 2 start
    obtain ⟨after, body, bodies, ran, length, _, acts⟩ :=
      (runBlock_times tireless { patience := 1 } { world := () }).2.1 (wipingLoop 50) 2 (wiping 2 50 none)
        none inside rfl (by decide) rfl laps
    obtain ⟨other, rfl⟩ := List.length_eq_one_iff.1 length
    refine ⟨after, body, other, ran, acts.trans ?_⟩
    simp [Loop.rests, wipingLoop, Run.acts]
  · have skipped := (runBlock_times tireless { patience := 1 } { world := () }).2.2
      { wipingLoop 0 with
        breakOn := some { source := .text, targetId := "alarm" }
        maxIterations := some 0 }
      (wiping 0 0 (some (.object [("source", .str "text"), ("targetId", .str "alarm")]))) none
      (by decide) rfl
    rw [skipped]

end Runner

end Autopilot
