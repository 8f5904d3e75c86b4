import Autopilot.Proofs.Sequence.Attempts
import Autopilot.Proofs.Sequence.Extent
import Autopilot.Proofs.Sequence.Mirror
import Autopilot.Proofs.Sequence.Rounds

/-!
What each part of a block adds to the journal and to the counters of the block. All that the journal
gains while a block runs are deeds in the block, and its counters are compared with the acts among
them that are its own, whatever its items do.
-/

namespace Autopilot

/-! ## Parts -/

namespace Run

variable {World α : Type}

/-- Since a block began in `before`, some deeds have been done, each of which fits in its place. The
journal and the reports tell of them, and all the checks among the block's own acts are counted. -/
structure Tells (before : Run World) (fits : List Act → Deed → Prop) (deeds : List Deed)
    (run : Run World) : Prop where
  acts : run.acts = before.acts ++ deeds.flatMap Deed.acts
  blocks : run.blocks.toList = before.blocks.toList ++ deeds.flatMap Deed.results
  inPlace : Deed.InPlace fits before.acts deeds
  conditions : run.tally.conditionsEvaluated = UInt32.ofNat (Act.questions (Deed.ownActs deeds))

/-- Since a block began in `before`, its own acts and its count of passes have a property. -/
def Since (before : Run World) (fits : List Act → Deed → Prop) (P : List Act → UInt32 → Prop)
    (run : Run World) : Prop :=
  ∃ deeds, before.Tells fits deeds run ∧ P (Deed.ownActs deeds) run.tally.iterations

variable {fits : List Act → Deed → Prop} {before run : Run World} {deeds : List Deed}

/-- A run that the block has changed otherwise. -/
theorem Tells.moved (tells : before.Tells fits deeds run) {after : Run World}
    (acts : after.acts = run.acts) (blocks : after.blocks = run.blocks)
    (conditions : after.tally.conditionsEvaluated = run.tally.conditionsEvaluated) :
    before.Tells fits deeds after :=
  ⟨acts.trans tells.acts, (congrArg Array.toList blocks).trans tells.blocks, tells.inPlace,
    conditions.trans tells.conditions⟩

/-- One more act of the block itself that is no question. -/
theorem Tells.noted (tells : before.Tells fits deeds run) {act : Act}
    (fit : ∀ told, fits told (.own act)) (quiet : act.isQuestion = false) :
    before.Tells fits (deeds ++ [.own act]) (run.noted act) where
  acts := by simp [tells.acts, Deed.acts]
  blocks := by
    show run.blocks.toList = _
    simpa [Deed.results] using tells.blocks
  inPlace := tells.inPlace.concat (fit _)
  conditions := by
    show run.tally.conditionsEvaluated = _
    simpa [Deed.ownActs, Deed.own?, quiet] using tells.conditions

/-- A check, counted before it is made. -/
theorem Tells.checked (tells : before.Tells fits deeds run) {condition : Condition}
    (asks : ∀ told, fits told (.own (.conditionAsked condition)))
    (hears : ∀ answer told, fits told (.own (.conditionAnswered answer)))
    (reply : Reply World (Except ConditionError Bool)) (answer : Except ConditionError Bool) :
    before.Tells fits
      (deeds ++ [.own (.conditionAsked condition)] ++ [.own (.conditionAnswered answer)])
      (((run.checked.noted (.conditionAsked condition)).replied reply).noted
        (.conditionAnswered answer)) where
  acts := by
    have same : run.checked.acts = run.acts := rfl
    simp [same, tells.acts, Deed.acts]
  blocks := by
    show run.blocks.toList = _
    simpa [Deed.results] using tells.blocks
  inPlace := (tells.inPlace.concat (asks _)).concat (hears answer _)
  conditions := by
    have counted : run.checked.tally.conditionsEvaluated = run.tally.conditionsEvaluated + 1 := rfl
    have step : ∀ n, UInt32.ofNat (n + 1) = UInt32.ofNat n + 1 := fun n => UInt32.ofNat_add n 1
    show run.checked.tally.conditionsEvaluated = _
    simp [counted, tells.conditions, Deed.ownActs, Deed.own?, Act.isQuestion, step]

end Run

namespace Runner

variable {World α β : Type} {hooks : Hooks World} {fits : List Act → Deed → Prop} {before : Run World}

/-- A part of a block, by what holds of the block's own acts and its count of passes before it,
where it ends and where it fails. -/
def Narrates (fits : List Act → Deed → Prop) (before : Run World) (P : List Act → UInt32 → Prop)
    (part : Runner World α) (Q : α → List Act → UInt32 → Prop) (F : List Act → UInt32 → Prop) :
    Prop :=
  Leads (before.Since fits P) part (fun value => before.Since fits (Q value))
    (Halting (before.Since fits F) fun _ _ => True)

/-- Checks with a given outcome have followed, and then the passes were recounted. -/
def Checked (P : List Act → UInt32 → Prop) (head : List (Condition × Bool)) (outcome : Option Bool)
    (f : UInt32 → UInt32) (acts : List Act) (n : UInt32) : Prop :=
  ∃ earlier checks m, P earlier m ∧ acts = earlier ++ checks ∧ Heard head checks outcome ∧ n = f m

/-- Own acts have followed that begin no pass, and in which at most so many conditions are asked. -/
def Past (P : List Act → UInt32 → Prop) (most : Nat) (acts : List Act) (n : UInt32) : Prop :=
  ∃ earlier more, P earlier n ∧ acts = earlier ++ more ∧ .head ∉ more ∧ Act.questions more ≤ most

namespace Narrates

variable {P P' : List Act → UInt32 → Prop} {Q Q' : α → List Act → UInt32 → Prop}
  {R : β → List Act → UInt32 → Prop} {F F' : List Act → UInt32 → Prop} {part other : Runner World α}

theorem bind {next : α → Runner World β} (first : Narrates fits before P part Q F)
    (later : ∀ value, Narrates fits before (Q value) (next value) R F) :
    Narrates fits before P (part >>= next) R F :=
  Leads.bind first later

theorem ite {condition : Prop} [Decidable condition]
    (first : condition → Narrates fits before P part Q F)
    (second : ¬condition → Narrates fits before P other Q F) :
    Narrates fits before P (if condition then part else other) Q F :=
  Leads.ite first second

theorem weaken (narrates : Narrates fits before P part Q F)
    (entry : ∀ acts n, P' acts n → P acts n) (ends : ∀ value acts n, Q value acts n → Q' value acts n)
    (fails : ∀ acts n, F acts n → F' acts n) : Narrates fits before P' part Q' F' := by
  apply Leads.weaken narrates
  · exact fun run ⟨deeds, tells, holds⟩ => ⟨deeds, tells, entry _ _ holds⟩
  · exact fun value run ⟨deeds, tells, holds⟩ => ⟨deeds, tells, ends value _ _ holds⟩
  · intro halt run halting
    unfold Halting at halting ⊢
    split at halting
    next =>
      obtain ⟨deeds, tells, holds⟩ := halting
      exact ⟨deeds, tells, fails _ _ holds⟩
    next => trivial

theorem pure (value : α) (ends : ∀ acts n, P acts n → Q value acts n) :
    Narrates fits before P (pure value : Runner World α) Q F :=
  fun _ ⟨deeds, tells, holds⟩ => ⟨deeds, tells, ends _ _ holds⟩

theorem fail (error : RunError) (other : error ≠ .cancelled) (fails : ∀ acts n, P acts n → F acts n) :
    Narrates fits before P (Runner.fail error : Runner World α) Q F :=
  fun _ ⟨deeds, tells, holds⟩ => Halting.of_failed other ⟨deeds, tells, fails _ _ holds⟩

/-- What would follow a part that cannot end. -/
theorem never (part : Runner World α) : Narrates fits before (fun _ _ => False) part Q F :=
  fun _ ⟨_, _, holds⟩ => holds.elim

/-- What follows a look at the clock depends on the time only. -/
theorem timed (next : Nat → Runner World α)
    (later : ∀ now, Narrates fits before P (next now) Q F) :
    Narrates fits before P (get >>= fun run => next run.now) Q F := by
  intro run since
  rw [bind_of_ok (get_apply run)]
  exact later run.now run since

theorem checkCancel : Narrates fits before P (Runner.checkCancel : Runner World Unit) (fun _ => P) F :=
  (checkCancel_going fun _ _ _ => .of_cut rfl trivial).weaken (fun _ holds => holds)
    (fun _ _ going => going.1) fun _ _ halted => halted

/-- Something that the block counts. -/
theorem recount (f : UInt32 → UInt32) (ends : ∀ acts n, P acts n → P' acts (f n)) :
    Narrates fits before P (setIterations f) (fun _ => P') F :=
  fun _ ⟨deeds, tells, holds⟩ =>
    ⟨deeds, tells.moved rfl rfl rfl, ends _ _ holds⟩

theorem note {act : Act} (fit : ∀ told, fits told (.own act)) (quiet : act.isQuestion = false)
    (ends : ∀ acts n, P acts n → P' (acts ++ [act]) n) :
    Narrates fits before P (Runner.note act) (fun _ => P') F := by
  intro run ⟨deeds, tells, holds⟩
  refine ⟨_, tells.noted fit quiet, ?_⟩
  rw [Deed.ownActs_append]
  exact ends _ _ holds

/-- A rest that is slept out is told, unless it is empty. -/
theorem pause {ms : Nat} (fit : ∀ told, fits told (.own (.slept ms)))
    (still : ∀ acts n, P acts n → P' acts n) (slept : ∀ acts n, P acts n → P' (acts ++ [.slept ms]) n) :
    Narrates fits before P (Runner.pause hooks ms) (fun _ => P') F := by
  intro run ⟨deeds, tells, holds⟩
  rcases pause_cases hooks ms run with ⟨_, same⟩ | ⟨_, _, same⟩ | ⟨_, _, _, same⟩ | ⟨_, _, same⟩
  all_goals rw [same]
  · exact .of_cut rfl trivial
  · exact ⟨deeds, tells, still _ _ holds⟩
  · exact .of_cut rfl trivial
  · have rested : before.Tells fits deeds (run.rested ms (hooks.rest ms run.world)) :=
      tells.moved rfl rfl rfl
    refine ⟨_, rested.noted fit rfl, ?_⟩
    rw [Deed.ownActs_append]
    exact slept _ _ holds

section Checks

variable (hooks) {conditions : List Condition}
  (owns : ∀ act, act.OfBlock conditions → ∀ told, fits told (.own act))

include owns

theorem check {condition : Condition} (member : condition ∈ conditions) (wanted : Bool) :
    Narrates fits before P (check hooks condition)
      (fun holds => Checked P [(condition, wanted)] (some (holds == wanted)) id)
      (Checked P [(condition, wanted)] none id) := by
  intro run ⟨deeds, tells, holds⟩
  cases given : hooks.condition with
  | none =>
    have missing : Runner.check hooks condition = (Runner.fail .noEvaluator : Runner World Bool) := by
      simp only [Runner.check, given]
    rw [missing]
    have other : RunError.noEvaluator ≠ .cancelled := by simp
    refine Halting.of_failed other ⟨deeds, tells, ?_⟩
    exact ⟨_, [], _, holds, (List.append_nil _).symm, .unasked, rfl⟩
  | some evaluator =>
    have after := tells.checked (owns (.conditionAsked condition) member)
      (fun answer => owns (.conditionAnswered answer) trivial) (evaluator condition run.world)
      (evaluator condition run.world).answer
    have told (answer : Except ConditionError Bool) : Deed.ownActs (deeds ++
        [.own (.conditionAsked condition)] ++ [.own (.conditionAnswered answer)]) =
          Deed.ownActs deeds ++ [.conditionAsked condition, .conditionAnswered answer] := by
      simp [Deed.ownActs, Deed.own?]
    rw [check_apply given]
    cases answer : (evaluator condition run.world).answer with
    | ok value =>
      rw [answer] at after
      refine ⟨_, after, _, _, _, holds, told _, ?_, rfl⟩
      by_cases same : value = wanted
      · subst same
        rw [beq_self_eq_true]
        exact .agreed .through
      · have other : (value == wanted) = false := beq_false_of_ne same
        obtain rfl : value = !wanted := by
          cases value <;> cases wanted <;> simp_all
        rw [other]
        exact .denied
    | error error =>
      rw [answer] at after
      have failed : before.Since fits (Checked P [(condition, wanted)] none id) _ :=
        ⟨_, after, _, _, _, holds, told _, .failed error, rfl⟩
      by_cases cancelled : error = .cancelled
      · subst cancelled
        exact .of_cut rfl trivial
      · have other := mt (ofCondition_eq_cancelled_iff error).1 cancelled
        exact Halting.of_failed other failed

theorem checkOptional {condition : Option Condition}
    (within : ∀ c ∈ condition.toList, c ∈ conditions) :
    Narrates fits before P (checkOptional hooks condition)
      (fun holds => Checked P (condition.toList.map (·, false)) (some !holds) id)
      (Checked P (condition.toList.map (·, false)) none id) := by
  cases condition with
  | none =>
    exact .pure false fun acts n holds => ⟨acts, [], n, holds, (List.append_nil acts).symm, .through, rfl⟩
  | some condition =>
    have member : condition ∈ conditions := within condition (List.mem_singleton_self condition)
    apply (check hooks owns member false).weaken (fun _ _ holds => holds) _ fun _ _ failed => failed
    intro holds acts n checked
    rwa [beq_false] at checked

end Checks

end Narrates

section Past

variable {P : List Act → UInt32 → Prop} {most more : Nat} {acts added : List Act} {n : UInt32}

theorem Past.of (holds : P acts n) : Past P 0 acts n :=
  ⟨acts, [], holds, (List.append_nil acts).symm, List.not_mem_nil, Nat.le_refl 0⟩

theorem Past.mono (past : Past P most acts n) (le : most ≤ more) : Past P more acts n := by
  obtain ⟨earlier, later, holds, same, headless, few⟩ := past
  exact ⟨earlier, later, holds, same, headless, few.trans le⟩

theorem Past.append (past : Past P most acts n) (headless : .head ∉ added)
    (few : Act.questions added ≤ more) : Past P (most + more) (acts ++ added) n := by
  obtain ⟨earlier, later, holds, rfl, none, le⟩ := past
  refine ⟨earlier, later ++ added, holds, List.append_assoc _ _ _, ?_, ?_⟩
  · simp [none, headless]
  · rw [Act.questions_append]
    exact Nat.add_le_add le few

/-- Checks after an item. -/
theorem Checked.past {head : List (Condition × Bool)} {outcome : Option Bool}
    (checked : Checked (Past P most) head outcome id acts n) :
    Past P (most + head.length) acts n := by
  obtain ⟨earlier, checks, _, past, rfl, heard, rfl⟩ := checked
  exact past.append heard.headless heard.questions_le

/-- Checks that are followed by others. -/
theorem Checked.then {head later : List (Condition × Bool)} {outcome : Option Bool}
    {f : UInt32 → UInt32} (checked : Checked (Checked P head (some true) id) later outcome f acts n) :
    Checked P (head ++ later) outcome f acts n := by
  obtain ⟨_, more, _, ⟨earlier, checks, m, holds, rfl, heard, rfl⟩, rfl, rest, rfl⟩ := checked
  exact ⟨earlier, _, _, holds, List.append_assoc _ _ _, heard.append rest, rfl⟩

theorem Checked.stopped {head : List (Condition × Bool)} {outcome : Option Bool}
    {f : UInt32 → UInt32} (checked : Checked P head outcome f acts n) (stops : outcome ≠ some true)
    (later : List (Condition × Bool)) : Checked P (head ++ later) outcome f acts n := by
  obtain ⟨earlier, checks, m, holds, same, heard, counted⟩ := checked
  exact ⟨earlier, checks, m, holds, same, heard.stopped stops later, counted⟩

theorem Checked.recounted {head : List (Condition × Bool)} {outcome : Option Bool}
    {f : UInt32 → UInt32} (checked : Checked P head outcome f acts n) (g : UInt32 → UInt32) :
    Checked P head outcome (fun m => g (f m)) acts (g n) := by
  obtain ⟨earlier, checks, m, holds, same, heard, rfl⟩ := checked
  exact ⟨earlier, checks, m, holds, same, heard, rfl⟩

/-- What was counted before the checks might as well be counted after them. -/
theorem Checked.counted {head : List (Condition × Bool)} {outcome : Option Bool}
    {f : UInt32 → UInt32}
    (checked : Checked (fun acts n => ∃ m, P acts m ∧ n = f m) head outcome id acts n) :
    Checked P head outcome f acts n := by
  obtain ⟨earlier, checks, _, ⟨m, holds, rfl⟩, same, heard, rfl⟩ := checked
  exact ⟨earlier, checks, m, holds, same, heard, rfl⟩

theorem Checked.entered {head : List (Condition × Bool)} {most passes : Nat}
    (checked : Checked (Headed head most passes) head (some true) (· + 1) acts n) :
    Entered head most passes acts n := by
  obtain ⟨_, checks, _, ⟨earlier, rests, rfl, rested, rounds, rfl⟩, rfl, heard, rfl⟩ := checked
  refine ⟨earlier, rests, checks, by simp, rested, heard, rounds, ?_⟩
  exact (UInt32.ofNat_add passes 1).symm

/-- A loop is over where the checks at a head do not lead on. -/
theorem Checked.over {head : List (Condition × Bool)} {most passes : Nat} {outcome : Option Bool}
    {early : Bool} {f : UInt32 → UInt32}
    (checked : Checked (Headed head most passes) head outcome f acts n) (stops : outcome ≠ some true)
    (counts : ∀ n, f n = if early = true ∧ outcome = none then n + 1 else n) :
    Over head most early (passes + 1) acts n := by
  obtain ⟨earlier, checks, m, headed, rfl, heard, rfl⟩ := checked
  rw [counts]
  exact headed.over heard stops early

end Past

/-- Running an item adds nothing to the block's own acts but its beginning, and counts nothing. -/
def Itemized (fits : List Act → Deed → Prop) (before : Run World) (part : Runner World Unit) : Prop :=
  ∀ P most, Narrates fits before (Past P most) part (fun _ => Past P most) (Past P most)

/-- A head of a loop, for any point before it: it counts a pass if its checks lead on, and if it is
early also when one of them fails. -/
def Enters (fits : List Act → Deed → Prop) (before : Run World) (head : List (Condition × Bool))
    (early : Bool) (enter : Runner World Bool) : Prop :=
  ∀ P, Narrates fits before P enter
    (fun entered => Checked P head (some entered) (if entered then (· + 1) else id))
    (Checked P head none (if early then (· + 1) else id))

section Blocks

variable (hooks) {Item : Type} {runItem : Item → Runner World Unit} {conditions : List Condition}
  (owns : ∀ act, act.OfBlock conditions → ∀ told, fits told (.own act))

include owns

/-- A body, by induction on its items. -/
theorem runBody_narrates {breakOn continueOn : Option Condition} {items : List Item}
    (within : ∀ c ∈ breakOn.toList ++ continueOn.toList, c ∈ conditions)
    (each : ∀ item ∈ items, Itemized fits before (runItem item))
    (P : List Act → UInt32 → Prop) (most : Nat) :
    Narrates fits before (Past P most) (runBody hooks breakOn continueOn runItem items)
      (fun _ => Past P (most + (breakOn.toList ++ continueOn.toList).length * items.length))
      (Past P (most + (breakOn.toList ++ continueOn.toList).length * items.length)) := by
  induction items generalizing most with
  | nil => exact .pure _ fun _ _ past => past.mono (Nat.le_add_right _ _)
  | cons item rest ih =>
    have room : (breakOn.toList ++ continueOn.toList).length * (item :: rest).length =
        breakOn.toList.length + continueOn.toList.length +
          (breakOn.toList ++ continueOn.toList).length * rest.length := by
      rw [List.length_cons, Nat.mul_succ, List.length_append, Nat.add_comm]
    rw [room]
    apply ((each item List.mem_cons_self P most).weaken (fun _ _ past => past)
      (fun _ _ _ past => past) fun _ _ past => past.mono (Nat.le_add_right _ _)).bind
    intro _
    have breaks : Narrates fits before (Past P most) (checkOptional hooks breakOn) _ _ :=
      .checkOptional hooks owns fun c member => within c (List.mem_append_left _ member)
    apply (breaks.weaken (fun _ _ past => past) (fun _ _ _ checked => checked.past)
      fun _ _ checked => checked.past.mono (by rw [List.length_map]; omega)).bind
    intro broken
    apply Narrates.ite
    · exact fun _ => .pure _ fun _ _ past => past.mono (by rw [List.length_map]; omega)
    intro _
    have continues : Narrates fits before (Past P (most + (breakOn.toList.map (·, false)).length))
        (checkOptional hooks continueOn) _ _ :=
      .checkOptional hooks owns fun c member => within c (List.mem_append_right _ member)
    apply (continues.weaken (fun _ _ past => past) (fun _ _ _ checked => checked.past)
      fun _ _ checked => checked.past.mono (by simp only [List.length_map]; omega)).bind
    intro continued
    apply Narrates.ite
    · exact fun _ => .pure _ fun _ _ past => past.mono (by simp only [List.length_map]; omega)
    intro _
    have later := ih (fun other member => each other (List.mem_cons_of_mem _ member))
      (most + (breakOn.toList.map (·, false)).length + (continueOn.toList.map (·, false)).length)
    simp only [List.length_map] at later ⊢
    rw [← Nat.add_assoc, ← Nat.add_assoc]
    exact later

theorem guard_narrates {loop : Block.Loop Item} (within : ∀ c ∈ loop.conditions, c ∈ conditions)
    (P : List Act → UInt32 → Prop) :
    Narrates fits before P (checkOptional hooks loop.breakOn)
      (fun holds => Checked P loop.guard (some !holds) id) (Checked P loop.guard none id) :=
  .checkOptional hooks owns fun c held => within c (List.mem_append_left _ held)

section Loops

variable {loop : Block.Loop Item} {head : List (Condition × Bool)} {early : Bool}
  {enter : Runner World Bool} (within : ∀ c ∈ loop.conditions, c ∈ conditions)
  (each : ∀ item ∈ loop.items, Itemized fits before (runItem item))

include within each

/-- A pass, once it is entered. -/
theorem pass_narrates (passes : Nat) :
    Narrates fits before (Entered head loop.itemChecks passes)
      (loop.pass hooks runItem)
      (fun _ => AtHead head loop.itemChecks (passes + 1))
      (AtHead head loop.itemChecks (passes + 1)) := by
  have made {acts : List Act} {n : UInt32} (past : Past
      (Entered head loop.itemChecks passes)
        (0 + loop.itemChecks) acts n) :
      AtHead head loop.itemChecks (passes + 1) acts n := by
    obtain ⟨earlier, pass, entered, rfl, headless, few⟩ := past
    rw [Nat.zero_add] at few
    exact entered.made headless few
  exact (runBody_narrates hooks owns within each _ 0).weaken (fun _ _ holds => .of holds)
    (fun _ _ _ past => made past) fun _ _ past => made past

/-- The head of a loop that waits for a condition, and the pass that may follow. -/
theorem turn_narrates (entering : Enters fits before head early enter) (passes : Nat) :
    Narrates fits before
      (AtHead head loop.itemChecks passes)
      (loop.turn hooks runItem enter)
      (fun goesOn acts n =>
        Over head loop.itemChecks early (passes + 1) acts n ∧
        (goesOn = true →
          AtHead head loop.itemChecks (passes + 1) acts n))
      (Over head loop.itemChecks early (passes + 1)) := by
  apply Narrates.checkCancel.bind
  intro _
  apply (Narrates.note (owns .head trivial) rfl fun _ _ ahead => ahead.headed).bind
  intro _
  apply ((entering _).weaken (fun _ _ headed => headed) (fun _ _ _ checked => checked) _).bind
  · intro entered
    apply Narrates.ite
    · rintro rfl
      have opened : ∀ acts n, Checked
          (Headed head loop.itemChecks passes) head (some true) (· + 1)
          acts n → Entered head loop.itemChecks passes acts n :=
        fun _ _ checked => checked.entered
      apply ((pass_narrates hooks owns within each passes).weaken opened (fun _ _ _ ahead => ahead)
        fun _ _ ahead => ahead.over early).bind
      intro flow
      exact .pure _ fun _ _ ahead => ⟨ahead.over early, fun _ => ahead⟩
    · intro stays
      obtain rfl : entered = false := Bool.eq_false_of_not_eq_true stays
      exact .pure _ fun _ _ checked => ⟨checked.over nofun fun _ => by simp, nofun⟩
  · exact fun _ _ checked => checked.over nofun fun _ => by cases early <;> simp

/-- A loop that waits for a condition, by induction on the passes that it has left. -/
theorem passes_narrates (entering : Enters fits before head early enter) (started more passes : Nat) :
    Narrates fits before
      (AtHead head loop.itemChecks passes)
      (loop.passes hooks runItem enter started more)
      (fun _ => Over head loop.itemChecks early (passes + (more + 1)))
      (Over head loop.itemChecks early (passes + (more + 1))) := by
  induction more generalizing passes with
  | zero =>
    apply (turn_narrates hooks owns within each entering passes).bind
    intro goesOn
    apply Narrates.ite
    · exact fun _ => .fail _ nofun fun _ _ turned => turned.1
    · exact fun _ => .pure _ fun _ _ turned => turned.1
  | succ more ih =>
    have wider : passes + 1 ≤ passes + (more + 1 + 1) := by omega
    apply ((turn_narrates hooks owns within each entering passes).weaken (fun _ _ ahead => ahead)
      (fun _ _ _ turned => turned) fun _ _ finished => finished.mono wider).bind
    intro goesOn
    apply Narrates.ite
    · rintro rfl
      have later := ih (passes + 1)
      rw [Nat.add_assoc, Nat.add_comm 1] at later
      apply Narrates.timed fun now => do
        if loop.timedOut started now then fail .timeout
        pause hooks loop.cadenceMs
        loop.passes hooks runItem enter started more
      intro now
      apply Narrates.ite
      · exact fun _ => (Narrates.fail .timeout nofun fun _ _ turned => turned.1.mono wider).bind
          fun _ => .never _
      · intro _
        apply (Narrates.pause (owns (.slept loop.cadenceMs) trivial)
          (fun _ _ turned => turned.2 rfl) fun _ _ turned => (turned.2 rfl).rested).bind
        exact fun _ => later
    · exact fun _ => .pure _ fun _ _ turned => turned.1.mono wider

/-- A loop with a given number of passes, by induction on those that are left. -/
theorem counted_narrates (first : Bool) (left passes : Nat) :
    Narrates fits before (AtHead loop.guard loop.itemChecks passes)
      (loop.counted hooks runItem first left)
      (fun _ => Over loop.guard loop.itemChecks false (passes + left))
      (Over loop.guard loop.itemChecks false (passes + left)) := by
  induction left generalizing first passes with
  | zero => exact .pure () fun _ _ ahead => ahead.over false
  | succ left ih =>
    have wider : passes + 1 ≤ passes + (left + 1) := by omega
    have later := ih false (passes + 1)
    rw [Nat.add_assoc, Nat.add_comm 1] at later
    have ended {outcome : Option Bool} {acts : List Act} {n : UInt32}
        (checked : Checked (Headed loop.guard loop.itemChecks passes) loop.guard outcome id acts n)
        (stops : outcome ≠ some true) :
        Over loop.guard loop.itemChecks false (passes + (left + 1)) acts n :=
      (checked.over stops fun _ => (if_neg fun early => Bool.false_ne_true early.1).symm).mono wider
    have made {acts : List Act} {n : UInt32}
        (ahead : AtHead loop.guard loop.itemChecks (passes + 1) acts n) :
        Over loop.guard loop.itemChecks false (passes + (left + 1)) acts n :=
      (ahead.over false).mono wider
    have goOn : Narrates fits before (Headed loop.guard loop.itemChecks passes) (do
          if ← checkOptional hooks loop.breakOn then return
          setIterations (· + 1)
          if (← loop.pass hooks runItem) = .broken then return
          loop.counted hooks runItem false left)
        (fun _ => Over loop.guard loop.itemChecks false (passes + (left + 1)))
        (Over loop.guard loop.itemChecks false (passes + (left + 1))) := by
      apply ((guard_narrates hooks owns within _).weaken (fun _ _ headed => headed)
        (fun _ _ _ checked => checked) fun _ _ checked => ended checked nofun).bind
      intro broken
      apply Narrates.ite
      · rintro rfl
        exact .pure () fun _ _ checked => ended checked nofun
      intro unbroken
      obtain rfl : broken = false := Bool.eq_false_of_not_eq_true unbroken
      apply (Narrates.recount (· + 1) fun _ _ checked =>
        (checked.recounted (· + 1)).entered).bind
      intro _
      apply ((pass_narrates hooks owns within each passes).weaken (fun _ _ entered => entered)
        (fun _ _ _ ahead => ahead) fun _ _ ahead => made ahead).bind
      intro flow
      exact .ite (fun _ => .pure () fun _ _ ahead => made ahead) fun _ => later
    apply Narrates.checkCancel.bind
    intro _
    apply (Narrates.note (owns .head trivial) rfl fun _ _ ahead => ahead.headed).bind
    intro _
    apply Narrates.ite
    · intro _
      apply (Narrates.pause (owns (.slept loop.cadenceMs) trivial) (fun _ _ headed => headed)
        fun _ _ headed => headed.rested).bind
      exact fun _ => goOn
    · exact fun _ => goOn

end Loops

section Heads

variable {loop : Block.Loop Item} {condition : Condition} (member : condition ∈ conditions)
  (within : ∀ c ∈ loop.conditions, c ∈ conditions)

include member within

theorem enterWhile_enters :
    Enters fits before (loop.guard ++ [(condition, true)]) false
      (loop.enterWhile hooks condition) := by
  intro P
  apply ((guard_narrates hooks owns within P).weaken (fun _ _ holds => holds)
    (fun _ _ _ checked => checked) fun _ _ checked => checked.stopped nofun _).bind
  intro broken
  apply Narrates.ite
  · rintro rfl
    exact .pure _ fun _ _ checked => checked.stopped nofun _
  intro unbroken
  obtain rfl : broken = false := Bool.eq_false_of_not_eq_true unbroken
  apply ((Narrates.check hooks owns member true).weaken (fun _ _ holds => holds)
    (fun _ _ _ checked => checked.then) fun _ _ checked => checked.then).bind
  intro holds
  apply Narrates.ite
  · rintro rfl
    apply (Narrates.recount (· + 1) fun _ _ checked => checked.recounted (· + 1)).bind
    exact fun _ => .pure _ fun _ _ checked => checked
  · intro fails
    obtain rfl : holds = false := Bool.eq_false_of_not_eq_true fails
    exact .pure _ fun _ _ checked => checked

/-- A pass that is counted first is taken back where an answer ends the loop, but not where a check
fails. -/
theorem enterUntil_enters :
    Enters fits before (loop.guard ++ [(condition, false)]) true
      (loop.enterUntil hooks condition) := by
  intro P
  have back (m : UInt32) : m + 1 - 1 = m := UInt32.add_sub_cancel m 1
  have takenBack {head : List (Condition × Bool)} {outcome : Option Bool} {acts : List Act}
      {n : UInt32} (checked : Checked P head outcome (· + 1) acts n) :
      Checked P head outcome id acts (n - 1) := by
    have less := checked.recounted (· - 1)
    simp only [back] at less
    exact less
  have first : Narrates fits before P (setIterations (· + 1) : Runner World Unit)
      (fun _ acts n => ∃ m, P acts m ∧ n = m + 1) (Checked P (loop.guard ++ [(condition, false)]) none
        (· + 1)) := .recount _ fun _ m holds => ⟨m, holds, rfl⟩
  apply first.bind
  intro _
  apply ((guard_narrates hooks owns within _).weaken (fun _ _ holds => holds)
    (fun _ _ _ checked => checked) fun _ _ checked => (checked.stopped nofun _).counted).bind
  intro broken
  apply Narrates.ite
  · rintro rfl
    apply (Narrates.recount (· - 1) fun _ _ checked =>
      takenBack (checked.stopped nofun _).counted).bind
    exact fun _ => .pure _ fun _ _ checked => checked
  intro unbroken
  obtain rfl : broken = false := Bool.eq_false_of_not_eq_true unbroken
  apply ((Narrates.check hooks owns member false).weaken (fun _ _ holds => holds)
    (fun _ _ _ checked => checked.then) fun _ _ checked => checked.then.counted).bind
  intro holds
  apply Narrates.ite
  · rintro rfl
    apply (Narrates.recount (· - 1) fun _ _ checked => takenBack checked.counted).bind
    exact fun _ => .pure _ fun _ _ checked => checked
  · intro fails
    obtain rfl : holds = false := Bool.eq_false_of_not_eq_true fails
    exact .pure _ fun _ _ checked => checked.counted

end Heads

omit owns in
/-- The branch that is chosen, after the check that chose it. -/
theorem branch_narrates {items : List Item} {condition : Condition} (outcome : Option Bool)
    (branch : Branch)
    (owns : ∀ act, act.OfBlock [condition] → ∀ told, fits told (.own act))
    (each : ∀ item ∈ items, Itemized fits before (runItem item)) :
    Narrates fits before
      (Checked (fun own n => own = [] ∧ n = 0) [(condition, true)] outcome id) (do
        Block.enterBranch branch
        let _ ← runBody hooks none none runItem items
        return BlockStatus.succeeded)
      (fun _ own n => Act.questions own ≤ 1 ∧ n = 1) fun own n => Act.questions own ≤ 1 ∧ n = 1 := by
  have entered : Narrates fits before
      (Checked (fun own n => own = [] ∧ n = 0) [(condition, true)] outcome id)
      (Block.enterBranch branch : Runner World Unit) (fun _ own n => Act.questions own ≤ 1 ∧ n = 1)
      (fun own n => Act.questions own ≤ 1 ∧ n = 1) := by
    rintro run ⟨deeds, tells, _, checks, _, ⟨rfl, rfl⟩, same, heard, _⟩
    refine ⟨deeds, tells.moved rfl rfl rfl, ?_, rfl⟩
    rw [same]
    exact heard.questions_le
  have stays {own : List Act} {n : UInt32}
      (past : Past (fun own n => Act.questions own ≤ 1 ∧ n = 1) (0 + 0 * items.length) own n) :
      Act.questions own ≤ 1 ∧ n = 1 := by
    obtain ⟨earlier, more, ⟨few, counted⟩, rfl, _, none⟩ := past
    rw [Act.questions_append]
    exact ⟨by omega, counted⟩
  apply entered.bind
  intro _
  have body : Narrates fits before _ (runBody hooks none none runItem items) _ _ :=
    runBody_narrates hooks owns (fun _ held => absurd held List.not_mem_nil) each
      (fun own n => Act.questions own ≤ 1 ∧ n = 1) 0
  exact (body.weaken (fun _ _ holds => .of holds) (fun _ _ _ past => stays past)
    fun _ _ past => stays past).bind fun _ => .pure _ fun _ _ holds => holds

omit owns in
/-- What a block does itself and what it counts belong together, whatever its items do. -/
theorem block_narrates {block : Block Item}
    (owns : ∀ act, act.OfBlock block.conditions → ∀ told, fits told (.own act))
    (each : ∀ item ∈ block.items, Itemized fits before (runItem item)) :
    Narrates fits before (fun own n => own = [] ∧ n = 0) (block.run hooks runItem)
      (fun _ => block.Counts) block.Counts := by
  have fresh {head : List (Condition × Bool)} {most : Nat} {own : List Act} {n : UInt32}
      (nothing : own = [] ∧ n = 0) : AtHead head most 0 own n := by
    obtain ⟨rfl, rfl⟩ := nothing
    exact ⟨.none, rfl⟩
  cases block with
  | ifElse condition thenItems elseItems =>
    have chosen {own : List Act} {n : UInt32} (once : Act.questions own ≤ 1 ∧ n = 1) :
        Block.Counts (.ifElse condition thenItems elseItems) own n := ⟨once.1, .inr once.2⟩
    have failed {own : List Act} {n : UInt32}
        (checked : Checked (fun own n => own = [] ∧ n = 0) [(condition, true)] none id own n) :
        Block.Counts (.ifElse condition thenItems elseItems) own n := by
      obtain ⟨_, checks, _, ⟨rfl, rfl⟩, rfl, heard, rfl⟩ := checked
      exact ⟨heard.questions_le, .inl rfl⟩
    apply ((Narrates.check hooks owns (List.mem_singleton_self condition) true).weaken
      (fun _ _ nothing => nothing) (fun _ _ _ checked => checked) fun _ _ checked => failed checked).bind
    intro holds
    apply Narrates.ite
    · intro _
      have taken := branch_narrates hooks (some (holds == true)) .thenItems owns
        fun item member => each item (List.mem_append_left _ member)
      exact taken.weaken (fun _ _ checked => checked) (fun _ _ _ once => chosen once)
        fun _ _ once => chosen once
    · intro _
      have taken := branch_narrates hooks (some (holds == true)) .elseItems owns
        fun item member => each item (List.mem_append_right _ member)
      exact taken.weaken (fun _ _ checked => checked) (fun _ _ _ once => chosen once)
        fun _ _ once => chosen once
  | whileHolds condition loop =>
    have member : condition ∈ Block.conditions (.whileHolds condition loop) := List.mem_cons_self
    have within : ∀ c ∈ loop.conditions, c ∈ Block.conditions (.whileHolds condition loop) :=
      fun _ held => List.mem_cons_of_mem _ held
    apply Narrates.timed fun started => do
      loop.passes hooks runItem (loop.enterWhile hooks condition) started (loop.cap - 1)
      return BlockStatus.succeeded
    intro started
    have passes := passes_narrates hooks owns within each (enterWhile_enters hooks owns member within)
      started (loop.cap - 1) 0
    rw [Nat.zero_add, Nat.sub_add_cancel (cap_pos loop)] at passes
    apply (passes.weaken (fun _ _ nothing => fresh nothing) (fun _ _ _ finished => finished)
      fun _ _ finished => finished).bind
    exact fun _ => .pure _ fun _ _ finished => finished
  | untilHolds condition loop =>
    have member : condition ∈ Block.conditions (.untilHolds condition loop) := List.mem_cons_self
    have within : ∀ c ∈ loop.conditions, c ∈ Block.conditions (.untilHolds condition loop) :=
      fun _ held => List.mem_cons_of_mem _ held
    apply Narrates.timed fun started => do
      loop.passes hooks runItem (loop.enterUntil hooks condition) started (loop.cap - 1)
      return BlockStatus.succeeded
    intro started
    have passes := passes_narrates hooks owns within each (enterUntil_enters hooks owns member within)
      started (loop.cap - 1) 0
    rw [Nat.zero_add, Nat.sub_add_cancel (cap_pos loop)] at passes
    apply (passes.weaken (fun _ _ nothing => fresh nothing) (fun _ _ _ finished => finished)
      fun _ _ finished => finished).bind
    exact fun _ => .pure _ fun _ _ finished => finished
  | times condition loop =>
    have skipped {own : List Act} {n : UInt32} (nothing : own = [] ∧ n = 0) :
        Block.Counts (.times condition loop) own n :=
      ((fresh nothing).over false).mono (Nat.zero_le _)
    simp only [Block.run]
    cases limit : loop.maxIterations with
    | none => exact .pure _ fun _ _ nothing => skipped nothing
    | some passes =>
      apply Narrates.ite
      · exact fun _ => .pure _ fun _ _ nothing => skipped nothing
      intro _
      have counted := counted_narrates hooks owns (fun _ held => held) each true
        passes.toNat 0
      have widened {own : List Act} {n : UInt32}
          (finished : Over loop.guard loop.itemChecks false (0 + passes.toNat) own n) :
          Block.Counts (.times condition loop) own n :=
        finished.mono (by rw [Block.limit, limit, Nat.zero_add, Option.getD_some])
      exact (counted.weaken (fun _ _ nothing => fresh nothing) (fun _ _ _ finished => finished)
        fun _ _ done => widened done).bind fun _ => .pure _ fun _ _ done => widened done

end Blocks

end Runner

end Autopilot
