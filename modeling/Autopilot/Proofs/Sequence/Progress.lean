import Autopilot.Proofs.Sequence.Attempts

/-!
How far a run has come, read off its journal: the steps at the top are those that begin
before any block, and only blocks at the top begin as such. A run that has ended, and in
which no step at the top failed, has begun all of them.
-/

namespace Autopilot

def Act.isStep : Act → Bool
  | .step _ => true
  | _ => false

def Act.isBlock : Act → Bool
  | .block => true
  | _ => false

theorem Act.isBlock_of_isIncidental {act : Act} (incidental : act.isIncidental = true) :
    act.isBlock = false := by
  cases act <;> first | rfl | cases incidental

/-- The number of steps that begin before the first block. -/
def stepsBegun (acts : List Act) : Nat := (acts.takeWhile (!·.isBlock)).countP (·.isStep)

def blocksBegun (acts : List Act) : Nat := acts.countP (·.isBlock)

/-- Where nothing begins, no step and no block at the top does. -/
theorem stepsBegun_append {acts later : List Act}
    (quiet : ∀ act ∈ later, act.isBeginning = false) : stepsBegun (acts ++ later) = stepsBegun acts := by
  have none : (later.takeWhile (!·.isBlock)).countP (·.isStep) = 0 := by
    rw [List.countP_eq_zero]
    intro act member begins
    have still := quiet act (List.takeWhile_subset _ member)
    cases act <;> simp [Act.isStep, Act.isBeginning] at begins still
  unfold stepsBegun
  rw [List.takeWhile_append]
  by_cases whole : (acts.takeWhile (!·.isBlock)).length = acts.length
  · have same := (List.takeWhile_prefix fun act : Act => !act.isBlock).eq_of_length whole
    rw [if_pos whole, List.countP_append, none, Nat.add_zero, same]
  · rw [if_neg whole]

/-- All steps that begin before the first block count. -/
theorem stepsBegun_of_blockless {acts later : List Act} (blockless : ∀ act ∈ acts, act.isBlock = false)
    (head : ∀ act ∈ later.head?, act = .block) : stepsBegun (acts ++ later) = acts.countP (·.isStep) := by
  have inside : ∀ act ∈ acts, (!act.isBlock) = true := by
    intro act member
    rw [blockless act member, Bool.not_false]
  have stop : later.takeWhile (!·.isBlock) = [] := by
    cases later with
    | nil => rfl
    | cons first rest =>
      rw [head first rfl]
      rfl
  rw [stepsBegun, List.takeWhile_append_of_pos inside, stop, List.append_nil]

theorem blocksBegun_append {acts later : List Act}
    (quiet : ∀ act ∈ later, act.isBeginning = false) :
    blocksBegun (acts ++ later) = blocksBegun acts := by
  have none : later.countP (·.isBlock) = 0 := by
    rw [List.countP_eq_zero]
    intro act member begins
    have still := quiet act member
    cases act <;> simp [Act.isBlock, Act.isBeginning] at begins still
  unfold blocksBegun
  rw [List.countP_append, none, Nat.add_zero]

/-- What follows the beginning of a step begins no other, and no block. -/
theorem Step.rest_quiet (step : Step) {waits : List Act} (waiting : ∀ act ∈ waits, act.isWaiting = true)
    (answer : Option (Except RunError Unit)) :
    ∀ act ∈ waits ++ step.calls answer, act.isStep = false ∧ act.isBlock = false := by
  have waited : ∀ act ∈ waits, act.isStep = false ∧ act.isBlock = false := by
    intro act member
    have waits := waiting act member
    cases act <;> simp [Act.isWaiting, Act.isStep, Act.isBlock] at waits ⊢
  have called : ∀ act ∈ step.calls answer, act.isStep = false ∧ act.isBlock = false := by
    cases answer <;> simp [Step.calls, Act.isStep, Act.isBlock]
  exact List.forall_mem_append.2 ⟨waited, called⟩

namespace Attempt

/-- An attempt begins one step, and no block. -/
theorem begins (attempt : Attempt) (lead : attempt.lead = []) :
    attempt.acts.countP (·.isStep) = 1 ∧ ∀ act ∈ attempt.acts, act.isBlock = false := by
  have after := attempt.step.rest_quiet attempt.waiting attempt.answer
  unfold acts
  rw [lead, List.nil_append]
  constructor
  · rw [List.countP_cons_of_pos rfl, List.countP_eq_zero.2]
    intro act member begins
    rw [(after act member).1] at begins
    cases begins
  · rw [List.forall_mem_cons]
    exact ⟨rfl, fun act member => (after act member).2⟩

/-- So many steps begin as there are attempts. -/
theorem countP_isStep {attempts : List Attempt} (leads : ∀ attempt ∈ attempts, attempt.lead = []) :
    (attempts.flatMap (·.acts)).countP (·.isStep) = attempts.length := by
  induction attempts with
  | nil => rfl
  | cons attempt rest ih =>
    have one := (attempt.begins (leads attempt List.mem_cons_self)).1
    have others := ih fun other member => leads other (List.mem_cons_of_mem _ member)
    rw [List.flatMap_cons, List.countP_append, one, others, List.length_cons, Nat.add_comm]

end Attempt

namespace Runner

open Run

variable {World : Type} {hooks : Hooks World} {polling : Polling}

/-- Since some earlier acts, no block began at the top. -/
def Blockless (earlier : List Act) (run : Run World) : Prop :=
  ∃ more, run.acts = earlier ++ more ∧ ∀ act ∈ more, act.isBlock = false

variable {earlier : List Act}

theorem Blockless.noted {run : Run World} (blockless : Blockless earlier run) {act : Act}
    (other : act.isBlock = false) : Blockless earlier (run.noted act) := by
  obtain ⟨more, acts, known⟩ := blockless
  refine ⟨more ++ [act], by rw [Run.acts_noted, acts, List.append_assoc], ?_⟩
  rw [List.forall_mem_append, List.forall_mem_singleton]
  exact ⟨known, other⟩

theorem Blockless.lasting : Lasting fun run : Run World => Blockless earlier run where
  loose _ _ _ _ _ _ blockless := blockless
  noted _ _ incidental blockless := blockless.noted (Act.isBlock_of_isIncidental incidental)

/-- No step and no block inside another begins a block at the top. -/
theorem runBlock_blockless (record : Datum) :
    Keeps (Blockless earlier) (fun _ _ => True) (runBlock hooks polling record) := by
  apply Blockless.lasting.runBlock_keeps
  intro step _ run blockless
  rcases ended : runStep hooks polling step run with ⟨halt | result, after⟩
  · exact .of_cut (runStep_settled hooks polling step _ _ _ ended) trivial
  · obtain ⟨more, acts, known⟩ := blockless
    obtain ⟨waits, answer, _, later, waiting⟩ := runStep_attempt.ended rfl ended
    refine ⟨more ++ .step step.commandId :: (waits ++ step.calls answer), ?_, ?_⟩
    · show after.acts = _
      rw [later, acts]
      simp
    · rw [List.forall_mem_append, List.forall_mem_cons]
      exact ⟨known, rfl, fun act member => (step.rest_quiet waiting answer act member).2⟩

/-- Every block at the top is begun, the first of them at once. -/
theorem runBlocks_begun {records : List Datum} {run after : Run World}
    {failure : Option (Option String)}
    (ended : runBlocks hooks polling records run = (.ok failure, after)) :
    ∃ more, after.acts = run.acts ++ more ∧ blocksBegun more = records.length ∧
      ∀ act ∈ more.head?, act = .block := by
  induction records generalizing run failure with
  | nil =>
    cases ended
    refine ⟨[], by rw [List.append_nil], rfl, ?_⟩
    intro act head
    cases head
  | cons record rest ih =>
    obtain ⟨status, middle, later, block, others, _⟩ := runBlocks_cons ended
    have fresh : Blockless (run.acts ++ [.block]) (run.noted .block) :=
      ⟨[], by rw [Run.acts_noted, List.append_nil], List.forall_mem_nil _⟩
    obtain ⟨inner, acts, known⟩ := (runBlock_blockless record).ended fresh block
    obtain ⟨more, last, begun, _⟩ := ih others
    refine ⟨.block :: (inner ++ more), ?_, ?_, ?_⟩
    · rw [last, acts]
      simp
    · have none : inner.countP (·.isBlock) = 0 := by
        simpa [List.countP_eq_zero] using known
      unfold blocksBegun at begun ⊢
      rw [List.countP_cons_of_pos rfl, List.countP_append, none, Nat.zero_add, begun,
        List.length_cons]
    · intro act head
      exact (Option.some.inj head).symm

/-- A run that ended has begun every step and every block at the top, unless such a step
failed. -/
theorem runParts_begun {sequence : Sequence} {world : World} {now : Nat} {after : Run World}
    {failure : Option (Option String)}
    (ended : runParts hooks polling sequence { world, now } = (.ok failure, after))
    (fine : ∀ result ∈ (runSteps hooks polling sequence.orderedSteps { world, now }).2.steps,
      result.isFailed = false) :
    stepsBegun after.acts = sequence.steps.length ∧ blocksBegun after.acts = sequence.blocks.length := by
  have fresh : ({ world, now } : Run World).Attempted [] [] := ⟨rfl, rfl, List.forall_mem_nil _⟩
  obtain ⟨stopped, middle, steps, ended⟩ := parts_of_ok ended
  rw [steps] at fine
  obtain rfl : stopped = none := runSteps_passed steps ⟨nofun, nofun⟩ fine
  obtain ⟨flat, attempted, known⟩ := runSteps_attempted fresh steps
  obtain ⟨length, _⟩ := known.whole rfl
  obtain ⟨more, acts, blocks, head⟩ := runBlocks_begun ended
  have first : middle.acts = flat.flatMap (·.acts) := by
    rw [attempted.acts, List.append_nil, List.nil_append]
  have blockless : ∀ act ∈ middle.acts, act.isBlock = false := by
    rw [first]
    intro act member
    obtain ⟨attempt, listed, within⟩ := List.mem_flatMap.1 member
    exact (attempt.begins (known.leads attempt listed)).2 act within
  have flatLength : flat.length = sequence.steps.length := length.trans sequence.length_orderedSteps
  have none : middle.acts.countP (·.isBlock) = 0 := by
    simpa [List.countP_eq_zero] using blockless
  constructor
  · rw [acts, stepsBegun_of_blockless blockless head, first, Attempt.countP_isStep known.leads,
      flatLength]
  · unfold blocksBegun at blocks ⊢
    rw [acts, List.countP_append, none, Nat.zero_add, blocks, List.length_map]

end Runner

end Autopilot
