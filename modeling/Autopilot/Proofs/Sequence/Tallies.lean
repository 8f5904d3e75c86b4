import Autopilot.Proofs.Sequence.Chronicle

/-!
What stands in the counters of a block when it ends, and with which errors it can fail. Its items count
nothing for it, whatever goes on in them, and only hand on that they failed. So a branch has counted one
check and one pass as soon as it is chosen, and a loop that fails at its limit has made all its passes.
-/

namespace Autopilot

/-- Errors in a pass through a body: a check that cannot be made, or an item that fails. -/
def RunError.OfPass : RunError → Prop
  | .noEvaluator | .condition _ | .invalidStep _ | .stepFailed _ | .nestedFailed _ => True
  | _ => False

namespace Runner

variable {World α β Item : Type} {hooks : Hooks World} {polling : Polling}

/-- What a part does to the counters: from a tally with `T` it ends with `Q`, or it fails with `E`. What
it leaves where the run is cut off does not matter. -/
def Tallies (T : Tally → Prop) (part : Runner World α) (Q : α → Tally → Prop)
    (E : RunError → Tally → Prop) : Prop :=
  Leads (fun run => T run.tally) part (fun value run => Q value run.tally)
    fun halt run => ∀ error, halt.settled? = some error → E error run.tally

/-- What holds of the counters after an attempt. -/
def Tried (Q : α → Tally → Prop) (E : RunError → Tally → Prop) : Except RunError α → Tally → Prop
  | .ok value => Q value
  | .error error => E error

/-- A part that counts nothing, and fails with errors of a pass only. -/
def Uncounting (part : Runner World α) : Prop :=
  ∀ T : Tally → Prop, Tallies T part (fun _ => T) fun error tally => error.OfPass ∧ T tally

namespace Tallies

variable {T T' : Tally → Prop} {Q Q' : α → Tally → Prop} {R : β → Tally → Prop}
  {E E' : RunError → Tally → Prop} {part other : Runner World α}

theorem bind {next : α → Runner World β} (first : Tallies T part Q E)
    (later : ∀ value, Tallies (Q value) (next value) R E) : Tallies T (part >>= next) R E :=
  Leads.bind first later

theorem ite {condition : Prop} [Decidable condition] (first : condition → Tallies T part Q E)
    (second : ¬condition → Tallies T other Q E) :
    Tallies T (if condition then part else other) Q E :=
  Leads.ite first second

theorem weaken (tallies : Tallies T part Q E) (entry : ∀ tally, T' tally → T tally)
    (ends : ∀ value tally, Q value tally → Q' value tally)
    (fails : ∀ error tally, E error tally → E' error tally) : Tallies T' part Q' E' :=
  Leads.weaken tallies (fun run => entry run.tally) (fun value run => ends value run.tally)
    fun _ run failed error settled => fails error run.tally (failed error settled)

theorem pure (value : α) (ends : ∀ tally, T tally → Q value tally) :
    Tallies T (pure value : Runner World α) Q E :=
  fun run => ends run.tally

theorem fail (error : RunError) (fails : ∀ tally, T tally → E error tally) :
    Tallies T (Runner.fail error : Runner World α) Q E := by
  intro run holds other settled
  obtain rfl := Halt.settled_eq_some settled
  exact fails run.tally holds

/-- What would follow a part that cannot end. -/
theorem never (part : Runner World α) : Tallies (fun _ => False) part Q E := fun _ => False.elim

theorem count {f : Tally → Tally} (ends : ∀ tally, T tally → T' (f tally)) :
    Tallies T (Runner.count f : Runner World Unit) (fun _ => T') E :=
  fun run => ends run.tally

/-- What follows a look at the clock depends on the time only. -/
theorem timed (next : Nat → Runner World α) (later : ∀ now, Tallies T (next now) Q E) :
    Tallies T (get >>= fun run => next run.now) Q E := by
  intro run holds
  rw [bind_of_ok (get_apply run)]
  exact later run.now run holds

theorem checkCancel : Tallies T (Runner.checkCancel : Runner World Unit) (fun _ => T) E := by
  intro run holds
  cases cancelled : run.cancelled with
  | true =>
    rw [checkCancel_of_cancelled cancelled]
    rintro _ ⟨⟩
  | false =>
    rw [checkCancel_of_going cancelled]
    exact holds

theorem note (act : Act) : Tallies T (Runner.note act : Runner World Unit) (fun _ => T) E :=
  fun _ => id

theorem beginHead : Tallies T (Runner.beginHead : Runner World Unit) (fun _ => T) E :=
  checkCancel.bind fun _ => note .head

theorem pause (ms : Nat) : Tallies T (Runner.pause hooks ms) (fun _ => T) E := by
  intro run holds
  rcases pause_cases hooks ms run with ⟨_, same⟩ | ⟨_, _, same⟩ | ⟨_, _, _, same⟩ | ⟨_, _, same⟩
  all_goals rw [same]
  · exact nofun
  · exact holds
  · exact nofun
  · exact holds

/-- A check is counted, unless nobody can be asked. -/
theorem check (condition : Condition)
    (counts : ∀ tally, T tally →
      T' { tally with conditionsEvaluated := tally.conditionsEvaluated + 1 }) :
    Tallies T (check hooks condition) (fun _ => T')
      fun error tally => error.OfPass ∧ (T tally ∨ T' tally) := by
  intro run holds
  cases given : hooks.condition with
  | none =>
    have missing : Runner.check hooks condition = (Runner.fail .noEvaluator : Runner World Bool) := by
      simp only [Runner.check, given]
    rw [missing]
    intro error settled
    obtain rfl := Halt.settled_eq_some settled
    exact ⟨trivial, .inl holds⟩
  | some evaluator =>
    rw [check_apply given]
    cases (evaluator condition run.world).answer with
    | ok value => exact counts _ holds
    | error error =>
      intro other settled
      obtain rfl := Halt.settled_eq_some settled
      refine ⟨?_, .inr (counts _ holds)⟩
      cases error <;> trivial

/-- Checks do not matter to what does not look at how many they are. -/
theorem checkOptional {condition : Option Condition}
    (loose : ∀ _ ∈ condition, ∀ tally n, T tally → T { tally with conditionsEvaluated := n }) :
    Tallies T (checkOptional hooks condition) (fun _ => T)
      fun error tally => error.OfPass ∧ T tally := by
  cases condition with
  | none => exact .pure false fun _ holds => holds
  | some condition =>
    apply (check condition fun tally holds => loose condition rfl tally _ holds).weaken
      (fun _ holds => holds) (fun _ _ holds => holds)
    exact fun _ _ failed => ⟨failed.1, failed.2.elim id id⟩

/-- What an attempt leaves that ends. -/
theorem attempted (tallies : Tallies T part Q E) {run after : Run World}
    {outcome : Except RunError α} (holds : T run.tally)
    (tried : attempt part run = (.ok outcome, after)) : Tried Q E outcome after.tally := by
  rcases attempt_cases part run with ⟨value, last, went, told⟩ | ⟨error, last, went, settled, told⟩ |
    ⟨halt, last, went, final, told⟩
  all_goals rw [told] at tried
  all_goals cases tried
  · exact Leads.ended tallies holds went
  · exact Leads.halted tallies holds went error settled

end Tallies

/-! ## Items -/

theorem runStep_uncounting (step : Step) : Uncounting (runStep hooks polling step) := by
  intro T run holds
  rcases ended : runStep hooks polling step run with ⟨halt | result, after⟩
  · intro error settled
    rw [runStep_settled hooks polling step _ _ _ ended] at settled
    cases settled
  · show T after.tally
    rw [(runStep_done ended).1]
    exact holds

theorem runBlock_uncounting (record : Datum) : Uncounting (runBlock hooks polling record) := by
  intro T run holds
  rcases ended : runBlock hooks polling record run with ⟨halt | status, after⟩
  · intro error settled
    rw [runBlock_settled hooks polling record _ _ _ ended] at settled
    cases settled
  · show T after.tally
    rw [(runBlock_chronicles record run after status ended).1]
    exact holds

theorem runItem_uncounting (item : Datum) :
    Uncounting (runItem hooks polling (runBlock hooks polling item) item) := by
  intro T
  unfold runItem
  apply Tallies.checkCancel.bind
  intro _
  apply (Tallies.note .item).bind
  intro _
  cases Item.read item with
  | error fault => exact .fail _ fun _ holds => ⟨trivial, holds⟩
  | ok content =>
    cases content with
    | step step =>
      apply (runStep_uncounting step T).bind
      intro result
      have told : Tallies T (report result : Runner World Unit) (fun _ => T)
          fun error tally => error.OfPass ∧ T tally := fun _ holds => holds
      apply told.bind
      intro _
      exact .ite (fun _ => .fail _ fun _ holds => ⟨trivial, holds⟩) fun _ => .pure () fun _ holds => holds
    | block =>
      apply (runBlock_uncounting item T).bind
      intro status
      exact .ite (fun _ => .fail _ fun _ holds => ⟨trivial, holds⟩) fun _ => .pure () fun _ holds => holds

/-! ## Loops -/

/-- The counters of a loop after so many passes. -/
def Made (passes : Nat) (tally : Tally) : Prop :=
  tally.branch = none ∧ tally.iterations = UInt32.ofNat passes

/-- Counters of a block that has chosen no branch. -/
def Branchless (tally : Tally) : Prop := tally.branch = none

theorem Made.next {passes : Nat} {tally : Tally} (made : Made passes tally) :
    Made (passes + 1) { tally with iterations := tally.iterations + 1 } :=
  ⟨made.1, by rw [made.2]; exact (UInt32.ofNat_add passes 1).symm⟩

section Blocks

variable {runItem : Item → Runner World Unit}

/-- A body, by induction on its items. -/
theorem runBody_tallies {T : Tally → Prop} {breakOn continueOn : Option Condition} {items : List Item}
    (loose : ∀ c, c ∈ breakOn ∨ c ∈ continueOn → ∀ tally n, T tally →
      T { tally with conditionsEvaluated := n })
    (each : ∀ item ∈ items, Uncounting (runItem item)) :
    Tallies T (runBody hooks breakOn continueOn runItem items) (fun _ => T)
      fun error tally => error.OfPass ∧ T tally := by
  induction items with
  | nil => exact .pure _ fun _ holds => holds
  | cons item rest ih =>
    apply (each item List.mem_cons_self T).bind
    intro _
    apply (Tallies.checkOptional fun c held => loose c (.inl held)).bind
    intro broken
    apply Tallies.ite
    · exact fun _ => .pure _ fun _ holds => holds
    intro _
    apply (Tallies.checkOptional fun c held => loose c (.inr held)).bind
    intro continued
    apply Tallies.ite
    · exact fun _ => .pure _ fun _ holds => holds
    · exact fun _ => ih fun other member => each other (List.mem_cons_of_mem _ member)

section Loops

variable {loop : Block.Loop Item} {condition : Condition}

/-- What a head or a pass leaves: if it leads on, so many passes have been counted. -/
def Led (passes : Nat) (goesOn : Bool) (tally : Tally) : Prop :=
  Branchless tally ∧ (goesOn = true → Made passes tally)

/-- What a loop leaves whose pass fails. -/
def FailedPass (error : RunError) (tally : Tally) : Prop := error.OfPass ∧ Branchless tally

theorem FailedPass.of_made {error : RunError} {tally : Tally} {passes : Nat}
    (failed : error.OfPass ∧ Made passes tally) : FailedPass error tally :=
  ⟨failed.1, failed.2.1⟩

theorem guard_tallies (passes : Nat) :
    Tallies (Made passes) (checkOptional hooks loop.breakOn) (fun _ => Made passes) FailedPass :=
  (Tallies.checkOptional fun _ _ _ _ made => made).weaken (fun _ made => made) (fun _ _ made => made)
    fun _ _ failed => .of_made failed

theorem check_made (passes : Nat) :
    Tallies (Made passes) (check hooks condition) (fun _ => Made passes) FailedPass := by
  have counts : ∀ tally, Made passes tally →
      Made passes { tally with conditionsEvaluated := tally.conditionsEvaluated + 1 } :=
    fun _ made => made
  exact (Tallies.check condition counts).weaken (fun _ made => made) (fun _ _ made => made)
    fun _ _ failed => ⟨failed.1, failed.2.elim And.left And.left⟩

theorem enterWhile_tallies (passes : Nat) :
    Tallies (Made passes) (loop.enterWhile hooks condition) (Led (passes + 1)) FailedPass := by
  apply (guard_tallies passes).bind
  intro broken
  apply Tallies.ite
  · exact fun _ => .pure false fun _ made => ⟨made.1, nofun⟩
  intro _
  apply (check_made passes).bind
  intro holds
  apply Tallies.ite
  · intro _
    have counted : Tallies (Made passes) (setIterations (· + 1) : Runner World Unit)
        (fun _ => Made (passes + 1)) FailedPass := .count fun _ made => made.next
    exact counted.bind fun _ => .pure true fun _ made => ⟨made.1, fun _ => made⟩
  · exact fun _ => .pure false fun _ made => ⟨made.1, nofun⟩

theorem enterUntil_tallies (passes : Nat) :
    Tallies (Made passes) (loop.enterUntil hooks condition) (Led (passes + 1)) FailedPass := by
  have counted : Tallies (Made passes) (setIterations (· + 1) : Runner World Unit)
      (fun _ => Made (passes + 1)) FailedPass := .count fun _ made => made.next
  have taken : Tallies (Made (passes + 1)) (do setIterations (· - 1); return false : Runner World Bool)
      (Led (passes + 1)) FailedPass := by
    have back : Tallies (Made (passes + 1)) (setIterations (· - 1) : Runner World Unit)
        (fun _ => Branchless) FailedPass := .count fun _ made => made.1
    exact back.bind fun _ => .pure false fun _ branchless => ⟨branchless, nofun⟩
  apply counted.bind
  intro _
  apply (guard_tallies (passes + 1)).bind
  intro broken
  apply Tallies.ite (fun _ => taken)
  intro _
  apply (check_made (passes + 1)).bind
  intro holds
  apply Tallies.ite (fun _ => taken)
  exact fun _ => .pure true fun _ made => ⟨made.1, fun _ => made⟩

variable (each : ∀ item ∈ loop.items, Uncounting (runItem item))

include each

theorem pass_tallies {T : Tally → Prop}
    (loose : ∀ tally n, T tally → T { tally with conditionsEvaluated := n }) :
    Tallies T (loop.pass hooks runItem) (fun _ => T) fun error tally => error.OfPass ∧ T tally :=
  runBody_tallies (fun _ _ => loose) each

theorem turn_tallies {enter : Runner World Bool} {passes : Nat}
    (entering : Tallies (Made passes) enter (Led (passes + 1)) FailedPass) :
    Tallies (Made passes) (loop.turn hooks runItem enter) (Led (passes + 1)) FailedPass := by
  rw [turn_eq]
  apply Tallies.beginHead.bind
  intro _
  apply entering.bind
  intro entered
  apply Tallies.ite
  · rintro rfl
    apply ((pass_tallies each fun _ _ made => made).weaken (fun _ led => led.2 rfl)
      (fun _ _ made => made) fun _ _ failed => .of_made failed).bind
    exact fun flow => .pure _ fun _ made => ⟨made.1, fun _ => made⟩
  · exact fun _ => .pure false fun _ led => ⟨led.1, nofun⟩

/-- How a loop that waits for a condition fails: in a pass, or by one of its limits. At the limit of
passes it has made them all. -/
def FailedLoop (cap : Nat) (error : RunError) (tally : Tally) : Prop :=
  Branchless tally ∧
    (error.OfPass ∨ error = .timeout ∨ (error = .maxIterations cap ∧ Made cap tally))

/-- A loop that waits for a condition, by induction on the passes that it has left. -/
theorem passes_tallies {enter : Runner World Bool}
    (entering : ∀ passes, Tallies (Made passes) enter (Led (passes + 1)) FailedPass)
    (started more passes : Nat) (all : passes + (more + 1) = loop.cap) :
    Tallies (Made passes) (loop.passes hooks runItem enter started more) (fun _ => Branchless)
      (FailedLoop loop.cap) := by
  have turned (passes : Nat) : Tallies (Made passes) (loop.turn hooks runItem enter) (Led (passes + 1))
      (FailedLoop loop.cap) :=
    (turn_tallies each (entering passes)).weaken (fun _ made => made) (fun _ _ led => led)
      fun _ _ failed => ⟨failed.2, .inl failed.1⟩
  induction more generalizing passes with
  | zero =>
    apply (turned passes).bind
    intro goesOn
    apply Tallies.ite
    · rintro rfl
      refine .fail _ fun tally led => ⟨led.1, .inr (.inr ⟨rfl, ?_⟩)⟩
      rw [← all]
      exact led.2 rfl
    · exact fun _ => .pure () fun _ led => led.1
  | succ more ih =>
    apply (turned passes).bind
    intro goesOn
    apply Tallies.ite
    · rintro rfl
      apply Tallies.timed fun now => do
        if loop.timedOut started now then fail .timeout
        pause hooks loop.cadenceMs
        loop.passes hooks runItem enter started more
      intro now
      apply Tallies.ite
      · exact fun _ => (Tallies.fail .timeout fun _ led => ⟨led.1, .inr (.inl rfl)⟩).bind
          fun _ => .never _
      · intro _
        apply (Tallies.pause loop.cadenceMs).bind
        intro _
        exact (ih (passes + 1) (by omega)).weaken (fun _ led => led.2 rfl) (fun _ _ ended => ended)
          fun _ _ failed => failed
    · exact fun _ => .pure () fun _ led => led.1

/-- A loop with a given number of passes, by induction on those that are left. -/
theorem counted_tallies (first : Bool) (passes : Nat) :
    Tallies Branchless (loop.counted hooks runItem first passes) (fun _ => Branchless) FailedPass := by
  induction passes generalizing first with
  | zero => exact .pure () fun _ branchless => branchless
  | succ passes ih =>
    have goOn : Tallies Branchless (do
          if ← checkOptional hooks loop.breakOn then return
          setIterations (· + 1)
          if (← loop.pass hooks runItem) = .broken then return
          loop.counted hooks runItem false passes : Runner World Unit)
        (fun _ => Branchless) FailedPass := by
      have guarded : Tallies Branchless (checkOptional hooks loop.breakOn) (fun _ => Branchless)
          FailedPass := Tallies.checkOptional fun _ _ _ _ branchless => branchless
      apply guarded.bind
      intro broken
      apply Tallies.ite
      · exact fun _ => .pure () fun _ branchless => branchless
      intro _
      have counted : Tallies Branchless (setIterations (· + 1) : Runner World Unit)
          (fun _ => Branchless) FailedPass := .count fun _ branchless => branchless
      apply counted.bind
      intro _
      have passed : Tallies Branchless (loop.pass hooks runItem) (fun _ => Branchless) FailedPass :=
        pass_tallies each fun _ _ branchless => branchless
      apply passed.bind
      intro flow
      exact .ite (fun _ => .pure () fun _ branchless => branchless) fun _ => ih false
    rw [counted_succ]
    apply Tallies.beginHead.bind
    intro _
    exact .ite (fun _ => (Tallies.pause loop.cadenceMs).bind fun _ => goOn) fun _ => goOn

end Loops

/-! ## Blocks -/

/-- The counters of a block that has chosen a branch. -/
def Tally.chosen (branch : Branch) : Tally :=
  { iterations := 1, conditionsEvaluated := 1, branch := some branch }

/-- What a block leaves in its counters when it ends. -/
def Finished (block : Block Item) (status : BlockStatus) (tally : Tally) : Prop :=
  match block with
  | .ifElse _ _ _ => status = .succeeded ∧ ∃ branch, tally = Tally.chosen branch
  | .whileHolds _ _ | .untilHolds _ _ => status = .succeeded ∧ Branchless tally
  | .times _ loop =>
    if loop.maxIterations.getD 0 ≤ 0 then status = .skipped ∧ tally = {}
    else status = .succeeded ∧ Branchless tally

/-- How a block fails, and what it leaves in its counters then. -/
def Failed (block : Block Item) (error : RunError) (tally : Tally) : Prop :=
  match block with
  | .ifElse _ _ _ => error.OfPass ∧
      ((tally.branch = none ∧ tally.iterations = 0) ∨ ∃ branch, tally = Tally.chosen branch)
  | .whileHolds _ loop | .untilHolds _ loop => FailedLoop loop.cap error tally
  | .times _ loop => 0 < loop.maxIterations.getD 0 ∧ FailedPass error tally

/-- The branch of a block that is taken. -/
def takeBranch (hooks : Hooks World) (runItem : Item → Runner World Unit) (branch : Branch)
    (items : List Item) : Runner World BlockStatus := do
  Block.enterBranch branch
  let _ ← runBody hooks none none runItem items
  return .succeeded

theorem ifElse_eq (condition : Condition) (thenItems elseItems : List Item) :
    (Block.ifElse condition thenItems elseItems).run hooks runItem =
      (check hooks condition >>= fun holds =>
        if holds then takeBranch hooks runItem .thenItems thenItems
        else takeBranch hooks runItem .elseItems elseItems) := rfl

/-- A branch is taken after the first check. -/
theorem takeBranch_tallies (branch : Branch) {items : List Item}
    (each : ∀ item ∈ items, Uncounting (runItem item)) :
    Tallies (· = { conditionsEvaluated := 1 }) (takeBranch hooks runItem branch items)
      (fun status tally => status = .succeeded ∧ tally = Tally.chosen branch)
      fun error tally => error.OfPass ∧ tally = Tally.chosen branch := by
  have entered : Tallies (· = { conditionsEvaluated := 1 })
      (Block.enterBranch branch : Runner World Unit) (fun _ tally => tally = Tally.chosen branch)
      fun error tally => error.OfPass ∧ tally = Tally.chosen branch := by
    apply Tallies.count
    rintro _ rfl
    rfl
  apply entered.bind
  intro _
  apply (runBody_tallies (fun _ held => by simp at held) each).bind
  exact fun _ => .pure _ fun _ chosen => ⟨rfl, chosen⟩

/-- The check of a branch, and nothing else, is counted until a branch is taken. -/
theorem check_first (condition : Condition) :
    Tallies (· = {}) (check hooks condition) (fun _ tally => tally = { conditionsEvaluated := 1 })
      fun error tally => error.OfPass ∧ tally.branch = none ∧ tally.iterations = 0 := by
  apply (Tallies.check condition _).weaken (fun _ fresh => fresh) (fun _ _ counted => counted)
  · rintro error tally ⟨ofPass, rfl | rfl⟩
    · exact ⟨ofPass, rfl, rfl⟩
    · exact ⟨ofPass, rfl, rfl⟩
  · rintro _ rfl
    rfl

theorem run_tallies {block : Block Item} (each : ∀ item ∈ block.items, Uncounting (runItem item)) :
    Tallies (· = {}) (block.run hooks runItem) (Finished block) (Failed block) := by
  cases block with
  | ifElse condition thenItems elseItems =>
    rw [ifElse_eq]
    apply ((check_first condition).weaken (fun _ fresh => fresh) (fun _ _ counted => counted)
      fun _ _ failed => ⟨failed.1, .inl failed.2⟩).bind
    intro holds
    apply Tallies.ite
    · intro _
      exact (takeBranch_tallies .thenItems fun item member =>
        each item (List.mem_append_left _ member)).weaken (fun _ counted => counted)
          (fun _ _ ended => ⟨ended.1, _, ended.2⟩) fun _ _ failed => ⟨failed.1, .inr ⟨_, failed.2⟩⟩
    · intro _
      exact (takeBranch_tallies .elseItems fun item member =>
        each item (List.mem_append_right _ member)).weaken (fun _ counted => counted)
          (fun _ _ ended => ⟨ended.1, _, ended.2⟩) fun _ _ failed => ⟨failed.1, .inr ⟨_, failed.2⟩⟩
  | whileHolds condition loop =>
    have all : 0 + (loop.cap - 1 + 1) = loop.cap := by have := cap_pos loop; omega
    apply Tallies.timed fun started => do
      loop.passes hooks runItem (loop.enterWhile hooks condition) started (loop.cap - 1)
      return BlockStatus.succeeded
    intro started
    apply ((passes_tallies each (fun passes => enterWhile_tallies passes) started _ 0 all).weaken
      (fun _ fresh => by rw [fresh]; exact ⟨rfl, rfl⟩) (fun _ _ ended => ended) fun _ _ failed => failed).bind
    exact fun _ => .pure _ fun _ branchless => ⟨rfl, branchless⟩
  | untilHolds condition loop =>
    have all : 0 + (loop.cap - 1 + 1) = loop.cap := by have := cap_pos loop; omega
    apply Tallies.timed fun started => do
      loop.passes hooks runItem (loop.enterUntil hooks condition) started (loop.cap - 1)
      return BlockStatus.succeeded
    intro started
    apply ((passes_tallies each (fun passes => enterUntil_tallies passes) started _ 0 all).weaken
      (fun _ fresh => by rw [fresh]; exact ⟨rfl, rfl⟩) (fun _ _ ended => ended) fun _ _ failed => failed).bind
    exact fun _ => .pure _ fun _ branchless => ⟨rfl, branchless⟩
  | times condition loop =>
    simp only [Block.run]
    cases given : loop.maxIterations with
    | none => exact .pure _ fun _ fresh => by simp [Finished, given, fresh]
    | some n =>
      dsimp only
      by_cases few : n ≤ 0
      · rw [if_pos few]
        exact .pure _ fun _ fresh => by simp [Finished, given, fresh, few]
      · rw [if_neg few]
        apply ((counted_tallies each true n.toNat).weaken (fun _ fresh => by rw [fresh]; rfl)
          (fun _ _ ended => ended) fun _ _ failed => ⟨by simpa [given] using few, failed⟩).bind
        exact fun _ => .pure _ fun _ branchless => by simp [Finished, given, few, branchless]

end Blocks

/-- What the content of a block that was read leaves in its counters. -/
theorem blockContent_tallies {record : Datum} {block : Block Datum}
    (read : Block.read record = .ok block) :
    Tallies (· = {}) (blockContent hooks polling record) (Finished block) (Failed block) := by
  simp only [blockContent, read]
  exact run_tallies fun item _ => runItem_uncounting item

end Runner

end Autopilot
