import Autopilot.Proofs.Sequence.Composition

/-!
What a block does, as its journal would tell it. The deeds in a block are acts of the block itself,
or they belong to an item of its body: to a step, or to a block in it that has counters of its own.
The acts of a loop itself fall into rounds, one for each head, and the answers at a head tell whether
it leads on to a pass through the body.
-/

namespace Autopilot

/-! ## Acts -/

/-- Whether somebody is asked for a condition. -/
def Act.isQuestion : Act → Bool
  | .conditionAsked _ => true
  | _ => false

def Act.isRest : Act → Bool
  | .slept _ => true
  | _ => false

/-- Acts of a block that asks for these conditions itself. -/
def Act.OfBlock (conditions : List Condition) : Act → Prop
  | .head | .item | .slept _ | .conditionAnswered _ => True
  | .conditionAsked condition => condition ∈ conditions
  | _ => False

/-- How often some acts ask for a condition. -/
def Act.questions (acts : List Act) : Nat := acts.countP Act.isQuestion

@[simp] theorem Act.questions_nil : Act.questions [] = 0 := rfl

@[simp] theorem Act.questions_cons (act : Act) (acts : List Act) :
    Act.questions (act :: acts) = Act.questions acts + if act.isQuestion then 1 else 0 :=
  List.countP_cons

@[simp] theorem Act.questions_append (earlier later : List Act) :
    Act.questions (earlier ++ later) = Act.questions earlier + Act.questions later :=
  List.countP_append

/-- What a block leaves when it has ended: what the journal tells of it, what it and the blocks in
it report, and how many of the questions for conditions are polls of gates. -/
structure Chapter where
  acts : List Act
  results : List BlockResult
  polls : Nat

/-- What is done while a block runs: an act of its own, or an item of its body. -/
inductive Deed where
  | own (act : Act)
  | step (step : Step) (acts : List Act)
  | block (record : Datum) (chapter : Chapter)

namespace Deed

def acts : Deed → List Act
  | own act => [act]
  | step _ acts => acts
  | block _ chapter => chapter.acts

def results : Deed → List BlockResult
  | block _ chapter => chapter.results
  | _ => []

/-- Whoever is asked for a condition during a step is asked for its gate. -/
def polls : Deed → Nat
  | own _ => 0
  | step _ acts => Act.questions acts
  | block _ chapter => chapter.polls

def own? : Deed → Option Act
  | own act => some act
  | _ => none

end Deed

/-- Deeds that all fit where they are done, after what the journal told by then. -/
def Deed.InPlace (fits : List Act → Deed → Prop) (told : List Act) (deeds : List Deed) : Prop :=
  ∀ earlier deed later, deeds = earlier ++ deed :: later →
    fits (told ++ earlier.flatMap Deed.acts) deed

/-- The acts among some deeds that are a block's own. -/
def Deed.ownActs (deeds : List Deed) : List Act := deeds.filterMap Deed.own?

theorem Deed.InPlace.nil {fits : List Act → Deed → Prop} (told : List Act) :
    Deed.InPlace fits told [] := by
  intro earlier deed later same
  simp at same

theorem Deed.InPlace.concat {fits : List Act → Deed → Prop} {told : List Act} {deeds : List Deed}
    {deed : Deed} (inPlace : Deed.InPlace fits told deeds)
    (last : fits (told ++ deeds.flatMap Deed.acts) deed) :
    Deed.InPlace fits told (deeds ++ [deed]) := by
  intro earlier other later same
  rcases List.eq_nil_or_concat later with rfl | ⟨others, final, rfl⟩
  · obtain ⟨rfl, one⟩ := List.append_inj' same rfl
    cases one
    exact last
  · rw [List.concat_eq_append, ← List.cons_append, ← List.append_assoc] at same
    obtain ⟨before, _⟩ := List.append_inj' same rfl
    exact inPlace earlier other others before

theorem Deed.InPlace.own {fits : List Act → Deed → Prop} {told : List Act} {deeds : List Deed}
    {act : Act} (inPlace : Deed.InPlace fits told deeds) (member : act ∈ Deed.ownActs deeds) :
    ∃ before, fits before (.own act) := by
  obtain ⟨deed, among, own⟩ := List.mem_filterMap.1 member
  obtain ⟨earlier, later, same⟩ := List.append_of_mem among
  cases deed with
  | own other =>
    cases own
    exact ⟨_, inPlace earlier _ later same⟩
  | step => cases own
  | block => cases own

@[simp] theorem Deed.ownActs_append (earlier later : List Deed) :
    Deed.ownActs (earlier ++ later) = Deed.ownActs earlier ++ Deed.ownActs later :=
  List.filterMap_append

/-! ## Heads and rounds -/

/-- What the checks at a head tell, each beside the answer that leads on, and how they end: all
lead on, or an answer ends the loop, or a check fails or cannot be made. -/
inductive Heard : List (Condition × Bool) → List Act → Option Bool → Prop where
  | through : Heard [] [] (some true)
  | agreed {condition : Condition} {wanted : Bool} {head : List (Condition × Bool)}
      {acts : List Act} {outcome : Option Bool} (rest : Heard head acts outcome) :
      Heard ((condition, wanted) :: head)
        (.conditionAsked condition :: .conditionAnswered (.ok wanted) :: acts) outcome
  | denied {condition : Condition} {wanted : Bool} {head : List (Condition × Bool)} :
      Heard ((condition, wanted) :: head)
        [.conditionAsked condition, .conditionAnswered (.ok !wanted)] (some false)
  | failed {condition : Condition} {wanted : Bool} {head : List (Condition × Bool)}
      (error : ConditionError) :
      Heard ((condition, wanted) :: head)
        [.conditionAsked condition, .conditionAnswered (.error error)] none
  | unasked {condition : Condition} {wanted : Bool} {head : List (Condition × Bool)} :
      Heard ((condition, wanted) :: head) [] none

/-- A head and, if its checks lead on, the pass that follows it, in which at most so many
conditions are asked. -/
inductive Round (head : List (Condition × Bool)) (most : Nat) : Option Bool → List Act → Prop where
  | mk {rests checks pass : List Act} {outcome : Option Bool}
      (rested : ∀ act ∈ rests, act.isRest = true) (heard : Heard head checks outcome)
      (begun : outcome ≠ some true → pass = []) (headless : .head ∉ pass)
      (few : Act.questions pass ≤ most) :
      Round head most outcome (.head :: (rests ++ (checks ++ pass)))

/-- The rounds of a loop, each with how the checks at its head ended. -/
inductive Rounds (head : List (Condition × Bool)) (most : Nat) :
    List (Option Bool) → List Act → Prop where
  | none : Rounds head most [] []
  | then {outcomes : List (Option Bool)} {outcome : Option Bool} {acts more : List Act}
      (earlier : Rounds head most outcomes acts) (round : Round head most outcome more) :
      Rounds head most (outcomes ++ [outcome]) (acts ++ more)

/-- The passes that are counted, by how the checks at the heads ended: those that were begun and,
where a pass is counted before its head, that before which a check failed. -/
def countedPasses (early : Bool) (outcomes : List (Option Bool)) : Nat :=
  outcomes.count (some true) + if early then outcomes.count none else 0

/-- A loop that is over: only the last of its rounds can be one without a pass. -/
def Over (head : List (Condition × Bool)) (most : Nat) (early : Bool) (limit : Nat)
    (own : List Act) (iterations : UInt32) : Prop :=
  ∃ outcomes, Rounds head most outcomes own ∧ outcomes.length ≤ limit ∧
    (∀ outcome ∈ outcomes.dropLast, outcome = some true) ∧
    iterations = UInt32.ofNat (countedPasses early outcomes)

/-- A loop at a head, or at its end, after so many passes. -/
def AtHead (head : List (Condition × Bool)) (most passes : Nat) (own : List Act)
    (iterations : UInt32) : Prop :=
  Rounds head most (List.replicate passes (some true)) own ∧ iterations = UInt32.ofNat passes

/-- A loop that has begun a round, and may have rested, but has checked nothing yet. -/
def Headed (head : List (Condition × Bool)) (most passes : Nat) (own : List Act)
    (iterations : UInt32) : Prop :=
  ∃ earlier rests, own = earlier ++ .head :: rests ∧ (∀ act ∈ rests, act.isRest = true) ∧
    AtHead head most passes earlier iterations

/-- A loop whose last head leads on: the pass is counted, and not made yet. -/
def Entered (head : List (Condition × Bool)) (most passes : Nat) (own : List Act)
    (iterations : UInt32) : Prop :=
  ∃ earlier rests checks, own = earlier ++ .head :: (rests ++ checks) ∧
    (∀ act ∈ rests, act.isRest = true) ∧ Heard head checks (some true) ∧
    Rounds head most (List.replicate passes (some true)) earlier ∧
    iterations = UInt32.ofNat (passes + 1)

section Heard

variable {head later : List (Condition × Bool)} {acts more : List Act} {outcome : Option Bool}

theorem Heard.questions_le (heard : Heard head acts outcome) : Act.questions acts ≤ head.length := by
  induction heard with
  | agreed rest ih => simpa [Act.isQuestion] using ih
  | _ => simp [Act.isQuestion]

theorem Heard.headless (heard : Heard head acts outcome) : .head ∉ acts := by
  induction heard with
  | agreed rest ih => simpa using ih
  | _ => simp

theorem Heard.append (heard : Heard head acts (some true)) (rest : Heard later more outcome) :
    Heard (head ++ later) (acts ++ more) outcome := by
  induction head generalizing acts with
  | nil =>
    cases heard
    exact rest
  | cons check head ih =>
    cases heard with
    | agreed heard => exact .agreed (ih heard)

/-- Checks that do not lead on are not followed by others. -/
theorem Heard.stopped (heard : Heard head acts outcome) (stops : outcome ≠ some true)
    (later : List (Condition × Bool)) : Heard (head ++ later) acts outcome := by
  induction heard with
  | through => exact absurd rfl stops
  | agreed rest ih => exact .agreed (ih stops)
  | denied => exact .denied
  | failed error => exact .failed error
  | unasked => exact .unasked

theorem Round.questions_le {most : Nat} (round : Round head most outcome acts) :
    Act.questions acts ≤ head.length + most := by
  obtain ⟨rested, heard, begun, headless, few⟩ := round
  next rests checks pass =>
    have quiet : Act.questions rests = 0 := by
      rw [Act.questions, List.countP_eq_zero]
      intro act member asks
      have rest := rested act member
      cases act <;> simp [Act.isRest, Act.isQuestion] at rest asks
    have asked := heard.questions_le
    simp only [Act.questions_cons, Act.questions_append, quiet, Act.isQuestion, Bool.false_eq_true,
      if_false]
    omega

theorem Rounds.questions_le {most : Nat} {outcomes : List (Option Bool)}
    (rounds : Rounds head most outcomes acts) :
    Act.questions acts ≤ outcomes.length * (head.length + most) := by
  induction rounds with
  | none => exact Nat.zero_le _
  | «then» earlier round ih =>
    have last := round.questions_le
    rw [Act.questions_append, List.length_append, List.length_singleton, Nat.succ_mul]
    omega

/-- The rest after a pass belongs to its round. -/
theorem Rounds.rested {most : Nat} {outcomes : List (Option Bool)} {ms : Nat}
    (rounds : Rounds head most (outcomes ++ [some true]) acts) :
    Rounds head most (outcomes ++ [some true]) (acts ++ [.slept ms]) := by
  generalize all : outcomes ++ [some true] = whole at rounds
  cases rounds with
  | none => simp at all
  | «then» earlier round =>
    obtain ⟨rfl, same⟩ := List.append_inj' all rfl
    cases same
    obtain ⟨rested, heard, begun, headless, few⟩ := round
    rw [List.append_assoc]
    refine .then earlier ?_
    simp only [List.cons_append, List.append_assoc]
    exact .mk rested heard (fun stops => absurd rfl stops) (by simpa using headless)
      (by simpa [Act.isQuestion] using few)

theorem AtHead.headed {most passes : Nat} {n : UInt32} (ahead : AtHead head most passes acts n) :
    Headed head most passes (acts ++ [.head]) n :=
  ⟨acts, [], rfl, List.forall_mem_nil _, ahead⟩

theorem Headed.rested {most passes ms : Nat} {n : UInt32} (headed : Headed head most passes acts n) :
    Headed head most passes (acts ++ [.slept ms]) n := by
  obtain ⟨earlier, rests, rfl, rested, ahead⟩ := headed
  refine ⟨earlier, rests ++ [.slept ms], by simp, ?_, ahead⟩
  exact List.forall_mem_append.2 ⟨rested, List.forall_mem_singleton.2 rfl⟩

/-- After a pass the loop may rest. -/
theorem AtHead.rested {most passes ms : Nat} {n : UInt32}
    (ahead : AtHead head most (passes + 1) acts n) :
    AtHead head most (passes + 1) (acts ++ [.slept ms]) n := by
  obtain ⟨rounds, counted⟩ := ahead
  rw [List.replicate_succ'] at rounds
  refine ⟨?_, counted⟩
  rw [List.replicate_succ']
  exact rounds.rested

/-- An entered pass that has been made. -/
theorem Entered.made {most passes : Nat} {n : UInt32} (entered : Entered head most passes acts n)
    (headless : .head ∉ more) (few : Act.questions more ≤ most) :
    AtHead head most (passes + 1) (acts ++ more) n := by
  obtain ⟨earlier, rests, checks, rfl, rested, heard, rounds, rfl⟩ := entered
  refine ⟨?_, rfl⟩
  rw [List.replicate_succ', List.append_assoc, List.cons_append, List.append_assoc]
  exact rounds.then (.mk rested heard (fun stops => absurd rfl stops) headless few)

theorem Over.mono {most limit wider : Nat} {early : Bool} {n : UInt32}
    (finished : Over head most early limit acts n) (le : limit ≤ wider) :
    Over head most early wider acts n := by
  obtain ⟨outcomes, rounds, within, others, counted⟩ := finished
  exact ⟨outcomes, rounds, Nat.le_trans within le, others, counted⟩

theorem AtHead.over {most passes : Nat} {n : UInt32} (ahead : AtHead head most passes acts n)
    (early : Bool) : Over head most early passes acts n := by
  obtain ⟨rounds, counted⟩ := ahead
  refine ⟨_, rounds, Nat.le_of_eq List.length_replicate, ?_, ?_⟩
  · exact fun outcome member => List.eq_of_mem_replicate ((List.dropLast_subset _) member)
  · rw [counted, countedPasses, List.count_replicate_self, List.count_replicate]
    simp

/-- A loop that ends at a head, be it by an answer or by a check that fails. -/
theorem Headed.over {most passes : Nat} {n : UInt32} (headed : Headed head most passes acts n)
    (heard : Heard head more outcome) (stops : outcome ≠ some true) (early : Bool) :
    Over head most early (passes + 1) (acts ++ more)
      (if early = true ∧ outcome = none then n + 1 else n) := by
  obtain ⟨earlier, rests, rfl, rested, rounds, rfl⟩ := headed
  refine ⟨List.replicate passes (some true) ++ [outcome], ?_, ?_, ?_, ?_⟩
  · have round : Round head most outcome (.head :: (rests ++ (more ++ []))) :=
      .mk rested heard (fun _ => rfl) List.not_mem_nil (Nat.zero_le _)
    rw [List.append_nil] at round
    rw [List.append_assoc, List.cons_append]
    exact rounds.then round
  · simp
  · rw [List.dropLast_concat]
    exact fun other member => List.eq_of_mem_replicate member
  · have others : List.count none (List.replicate passes (some true)) = 0 := by
      rw [List.count_replicate]
      rfl
    have step : UInt32.ofNat (passes + 1) = UInt32.ofNat passes + 1 := UInt32.ofNat_add passes 1
    rw [countedPasses, List.count_append, List.count_append, List.count_replicate_self, others]
    cases outcome with
    | none => cases early <;> simp [step]
    | some answer =>
      cases answer with
      | true => exact absurd rfl stops
      | false => simp

end Heard

namespace Block

variable {Item : Type}

/-- The break condition as a check of a head, which leads on when it does not hold. -/
def Loop.guard (loop : Loop Item) : List (Condition × Bool) := loop.breakOn.toList.map (·, false)

/-- The most checks in one pass, after the items. -/
def Loop.itemChecks (loop : Loop Item) : Nat := loop.conditions.length * loop.items.length

/-- The checks at each head of a loop. -/
def head : Block Item → List (Condition × Bool)
  | .ifElse _ _ _ => []
  | .whileHolds condition loop => loop.guard ++ [(condition, true)]
  | .untilHolds condition loop => loop.guard ++ [(condition, false)]
  | .times _ loop => loop.guard

/-- The most checks in one pass of a loop, after its items. -/
def itemChecks : Block Item → Nat
  | .ifElse _ _ _ => 0
  | .whileHolds _ loop => loop.itemChecks
  | .untilHolds _ loop => loop.itemChecks
  | .times _ loop => loop.itemChecks

/-- The most rounds of a loop. -/
def limit : Block Item → Nat
  | .ifElse _ _ _ => 1
  | .whileHolds _ loop => loop.cap
  | .untilHolds _ loop => loop.cap
  | .times _ loop => (loop.maxIterations.getD 0).toNat

/-- A loop that goes on until a condition holds counts a pass before the checks at its head, and
does not take it back when one of them fails. -/
def countsEarly : Block Item → Bool
  | .untilHolds _ _ => true
  | _ => false

/-- How a block's own acts and its count of passes belong together. -/
def Counts (block : Block Item) (own : List Act) (iterations : UInt32) : Prop :=
  match block with
  | .ifElse _ _ _ => Act.questions own ≤ 1 ∧ (iterations = 0 ∨ iterations = 1)
  | loop => Over loop.head loop.itemChecks loop.countsEarly loop.limit own iterations

end Block

end Autopilot
