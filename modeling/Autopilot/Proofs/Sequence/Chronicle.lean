import Autopilot.Proofs.Sequence.Narration

/-!
The chronicle of a block that has ended. What the journal gained and what was reported while it ran
is split up among the block itself, the steps that ran in it and the blocks in it, and each of these
blocks has a chronicle of its own, of the run that began where the journal stood by then. The report
of a block counts what the block did itself, and nothing of what went on in its items.
-/

namespace Autopilot

/-! ## Steps -/

/-- What is done for a step. No condition is asked for but its gate, and not even that one where
somebody decides on gates. -/
def Act.OfStep {World : Type} (hooks : Hooks World) (step : Step) : Act → Prop
  | .head | .item | .block => False
  | .conditionAsked condition => hooks.gate = none ∧ step.gate = some condition
  | .step commandId | .gateAsked commandId | .commandCalled commandId => commandId = step.commandId
  | .slept _ | .gateAnswered _ | .conditionAnswered _ | .commandAnswered _ => True

/-- A step ran where the journal told `told`, and these are its acts. -/
structure Step.Done {World : Type} (hooks : Hooks World) (polling : Polling) (step : Step)
    (told acts : List Act) : Prop where
  ran : ∃ (run after : Run World) (result : StepResult), run.acts = told ∧
    Runner.runStep hooks polling step run = (.ok result, after) ∧ after.acts = told ++ acts
  own : ∀ act ∈ acts, act.OfStep hooks step

/-- Where somebody decides on gates, no step asks for a condition. -/
theorem Step.Done.questions {World : Type} {hooks : Hooks World} {polling : Polling} {step : Step}
    {told acts : List Act} (done : step.Done hooks polling told acts)
    (decided : hooks.gate.isSome = true) : Act.questions acts = 0 := by
  rw [Act.questions, List.countP_eq_zero]
  intro act member asks
  have own := done.own act member
  cases act with
  | conditionAsked condition =>
    rw [own.1] at decided
    cases decided
  | _ => cases asks

namespace Run

variable {World α : Type} {before run : Run World} {allowed : Act → Prop}

/-- Since an earlier run nothing was counted, and only some acts were done. -/
structure Uncounted (before : Run World) (allowed : Act → Prop) (run : Run World) : Prop where
  tally : run.tally = before.tally
  acts : ∃ more, run.acts = before.acts ++ more ∧ ∀ act ∈ more, allowed act

theorem Uncounted.refl (run : Run World) (allowed : Act → Prop) : run.Uncounted allowed run :=
  ⟨rfl, [], (List.append_nil _).symm, List.forall_mem_nil _⟩

theorem Uncounted.moved (uncounted : before.Uncounted allowed run) (world : World) (now : Nat)
    (cancelled : Bool) : before.Uncounted allowed { run with world, now, cancelled } :=
  ⟨uncounted.tally, uncounted.acts⟩

theorem Uncounted.noted (uncounted : before.Uncounted allowed run) {act : Act} (fit : allowed act) :
    before.Uncounted allowed (run.noted act) := by
  obtain ⟨tally, more, acts, fits⟩ := uncounted
  refine ⟨tally, more ++ [act], ?_, List.forall_mem_append.2 ⟨fits, List.forall_mem_singleton.2 fit⟩⟩
  rw [Run.acts_noted, acts, List.append_assoc]

theorem Uncounted.consulted (uncounted : before.Uncounted allowed run) {asked answered : Act}
    (asks : allowed asked) (answers : allowed answered) (reply : Reply World α) :
    before.Uncounted allowed (run.consulted asked reply answered) :=
  ((uncounted.noted asks).moved reply.world _ _).noted answers

end Run

namespace Runner

variable {World α : Type} {hooks : Hooks World} {polling : Polling}

section Steps

open Run

variable {step : Step} {before : Run World} {allowed : Act → Prop}

theorem ask_uncounted {ε : Type} {asked : Act} {answered : Except ε α → Act} {asError : ε → RunError}
    {question : World → Reply World (Except ε α)} (asks : allowed asked)
    (answers : ∀ answer, allowed (answered answer)) :
    Keeps (before.Uncounted allowed) (fun _ _ => True) (ask asked answered asError question) := by
  apply ask_leads
  · exact fun run value uncounted _ => uncounted.consulted asks (answers _) _
  · exact fun run error uncounted _ => .of_holds (uncounted.consulted asks (answers _) _)

theorem pause_uncounted {ms : Nat} (slept : allowed (.slept ms)) :
    Keeps (before.Uncounted allowed) (fun _ _ => True) (pause hooks ms) := by
  intro run uncounted
  rcases pause_cases hooks ms run with ⟨_, same⟩ | ⟨_, _, same⟩ | ⟨_, _, _, same⟩ | ⟨_, _, same⟩
  all_goals rw [same]
  · exact .of_cut rfl trivial
  · exact uncounted
  · exact .of_cut rfl trivial
  · exact (uncounted.moved _ _ _).noted slept

theorem gateOpen_uncounted {gate : Condition} (given : step.gate = some gate) :
    Keeps (before.Uncounted (Act.OfStep hooks step)) (fun _ _ => True) (gateOpen hooks step gate) := by
  cases decides : hooks.gate with
  | some decide =>
    rw [gateOpen_of_decider step gate decides]
    exact ask_uncounted rfl fun _ => trivial
  | none =>
    cases evaluates : hooks.condition with
    | some evaluator =>
      rw [gateOpen_of_evaluator step gate decides evaluates]
      exact ask_uncounted ⟨decides, given⟩ fun _ => trivial
    | none =>
      rw [gateOpen_of_nobody step gate decides evaluates]
      exact pure_keeps true

/-- A gate, by induction on how often it is still polled. -/
theorem awaitGate_uncounted {gate : Condition} (given : step.gate = some gate)
    (deadline : Option Nat) (patience : Nat) :
    Keeps (before.Uncounted (Act.OfStep hooks step)) (fun _ _ => True)
      (awaitGate hooks polling step gate deadline patience) := by
  induction patience with
  | zero =>
    intro run _
    rcases awaitGate_zero hooks polling step gate deadline run with ⟨_, same⟩ | ⟨_, same⟩
    all_goals rw [same]
    all_goals exact .of_cut rfl trivial
  | succ patience ih =>
    apply ((checkCancel_leads fun _ _ _ => trivial).weaken (fun _ uncounted => uncounted)
      (fun _ _ going => going.1) fun _ _ halted => halted).bind
    intro _
    apply (gateOpen_uncounted given).bind
    intro isOpen
    apply Leads.ite
    · exact fun _ => pure_keeps ()
    intro _
    have waiting : Keeps (before.Uncounted (Act.OfStep hooks step)) (fun _ _ => True)
        (untilNextPoll polling deadline : Runner World Nat) := by
      intro run uncounted
      rw [untilNextPoll_apply]
      cases deadline with
      | none => exact uncounted
      | some deadline =>
        by_cases late : deadline ≤ run.now
        · simp only [if_pos late]
          exact .of_holds uncounted
        · simp only [if_neg late]
          exact uncounted
    apply waiting.bind
    intro ms
    exact (pause_uncounted trivial).bind fun _ => ih

theorem passGate_uncounted :
    Keeps (before.Uncounted (Act.OfStep hooks step)) (fun _ _ => True)
      (passGate hooks polling step) := by
  cases given : step.gate with
  | none =>
    unfold passGate
    rw [given]
    exact pure_keeps ()
  | some gate =>
    intro run uncounted
    rw [passGate_of_gate given]
    exact awaitGate_uncounted given _ _ run uncounted

theorem performStep_uncounted (delayMs : Nat) :
    Leads (before.Uncounted (Act.OfStep hooks step)) (performStep hooks polling step delayMs)
      (fun _ => before.Uncounted (Act.OfStep hooks step))
      (Halting (before.Uncounted (Act.OfStep hooks step)) fun _ _ => True) := by
  apply passGate_uncounted.attempt.bind
  intro passed
  cases passed with
  | error error => exact pure_keeps _
  | ok _ =>
    have called : Keeps (before.Uncounted (Act.OfStep hooks step)) (fun _ _ => True)
        (callCommand hooks step) := ask_uncounted rfl fun _ => trivial
    apply called.attempt.bind
    intro called
    cases called with
    | error error => exact pure_keeps _
    | ok _ => exact pure_keeps _

/-- A step counts nothing for the block around it. -/
theorem runStep_uncounted :
    Leads (before.Uncounted (Act.OfStep hooks step)) (runStep hooks polling step)
      (fun _ => before.Uncounted (Act.OfStep hooks step))
      (Halting (before.Uncounted (Act.OfStep hooks step)) fun _ _ => True) := by
  apply runStep_leads_of (fun _ _ _ => .of_cut rfl trivial) _ _ (fun ms => pause_uncounted trivial)
    performStep_uncounted
  · exact fun run uncounted _ => uncounted.noted rfl
  · exact fun run world uncounted => uncounted.moved world _ _

theorem runStep_done {after : Run World} {result : StepResult}
    (ended : runStep hooks polling step before = (.ok result, after)) :
    after.tally = before.tally ∧ after.blocks = before.blocks ∧
      ∃ acts, after.acts = before.acts ++ acts ∧ step.Done hooks polling before.acts acts := by
  obtain ⟨tally, acts, told, own⟩ := runStep_uncounted.ended (.refl before _) ended
  exact ⟨tally, (runStep_ended ended).1.blocks, acts, told, ⟨before, after, result, rfl, ended, told⟩, own⟩

end Steps

end Runner

/-! ## Blocks -/

/-- A block record was run where the journal told `told`, and left a chapter. -/
def Block.Left {World : Type} (hooks : Hooks World) (polling : Polling) (told : List Act)
    (record : Datum) (chapter : Chapter) : Prop :=
  ∃ (run after : Run World) (status : BlockStatus), run.acts = told ∧
    Runner.runBlock hooks polling record run = (.ok status, after) ∧
    after.acts = told ++ chapter.acts ∧
    after.blocks.toList = run.blocks.toList ++ chapter.results

/-- The chapter that deeds of a block make, with its report at the end. -/
def Deed.chapter (deeds : List Deed) (result : BlockResult) : Chapter where
  acts := deeds.flatMap Deed.acts
  results := deeds.flatMap Deed.results ++ [result]
  polls := (deeds.map Deed.polls).sum

/-- The chronicle of a block record that was run where the journal told `told`. A record that cannot
be read leaves nothing but its report. -/
inductive Block.Chronicle {World : Type} (hooks : Hooks World) (polling : Polling) :
    List Act → Datum → Chapter → Prop where
  | unread {told : List Act} {record : Datum} {fault : BlockFault} {result : BlockResult}
      (invalid : Block.read record = .error fault)
      (left : Block.Left hooks polling told record (Deed.chapter [] result))
      (iterations : result.iterations = 0) (checks : result.conditionsEvaluated = 0) :
      Chronicle hooks polling told record (Deed.chapter [] result)
  | ran {told : List Act} {record : Datum} {block : Block Datum} {deeds : List Deed}
      {result : BlockResult} (read : Block.read record = .ok block)
      (left : Block.Left hooks polling told record (Deed.chapter deeds result))
      (own : ∀ act ∈ Deed.ownActs deeds, act.OfBlock block.conditions)
      (steps : ∀ earlier step acts later, deeds = earlier ++ .step step acts :: later →
        (∃ item ∈ block.items, Item.read item = .ok (.step step)) ∧
          step.Done hooks polling (told ++ earlier.flatMap Deed.acts) acts)
      (blocks : ∀ earlier item chapter later, deeds = earlier ++ .block item chapter :: later →
        item ∈ block.items ∧ Item.read item = .ok .block)
      (nested : ∀ earlier item chapter later, deeds = earlier ++ .block item chapter :: later →
        Chronicle hooks polling (told ++ earlier.flatMap Deed.acts) item chapter)
      (iterations : block.Counts (Deed.ownActs deeds) result.iterations)
      (checks : result.conditionsEvaluated = UInt32.ofNat (Act.questions (Deed.ownActs deeds))) :
      Chronicle hooks polling told record (Deed.chapter deeds result)

/-- What can be done in a block where the journal tells `told`. -/
def Deed.OfBlock {World : Type} (hooks : Hooks World) (polling : Polling) (block : Block Datum)
    (told : List Act) : Deed → Prop
  | .own act => act.OfBlock block.conditions
  | .step content acts => (∃ item ∈ block.items, Item.read item = .ok (.step content)) ∧
      content.Done hooks polling told acts
  | .block item chapter => (item ∈ block.items ∧ Item.read item = .ok .block) ∧
      Block.Chronicle hooks polling told item chapter

namespace Runner

variable {World : Type} {hooks : Hooks World} {polling : Polling} {fits : List Act → Deed → Prop}
  {before : Run World} {P : List Act → UInt32 → Prop}

/-- A block that reports itself leaves a chronicle, and the counters around it are as they were. -/
def Chronicles (hooks : Hooks World) (polling : Polling) (record : Datum) : Prop :=
  ∀ (before after : Run World) (status : BlockStatus),
    runBlock hooks polling record before = (.ok status, after) →
      after.tally = before.tally ∧ ∃ chapter, Block.Chronicle hooks polling before.acts record chapter ∧
        after.acts = before.acts ++ chapter.acts ∧
        after.blocks.toList = before.blocks.toList ++ chapter.results

theorem runStep_narrates {step : Step}
    (fit : ∀ told acts, step.Done hooks polling told acts → fits told (.step step acts)) :
    Narrates fits before P (runStep hooks polling step) (fun _ => P) P := by
  intro run ⟨deeds, tells, holds⟩
  rcases ended : runStep hooks polling step run with ⟨halt | result, after⟩
  · exact .of_cut (runStep_settled hooks polling step _ _ _ ended) trivial
  · obtain ⟨tally, blocks, acts, told, done⟩ := runStep_done ended
    have own : Deed.ownActs (deeds ++ [.step step acts]) = Deed.ownActs deeds := by
      simp [Deed.ownActs, Deed.own?]
    refine ⟨deeds ++ [.step step acts], ⟨?_, ?_, ?_, ?_⟩, ?_⟩
    · simp [told, tells.acts, Deed.acts]
    · simp [blocks, tells.blocks, Deed.results]
    · rw [tells.acts] at done
      exact tells.inPlace.concat (fit _ _ done)
    · rw [tally, own, tells.conditions]
    · rwa [tally, own]

theorem runBlock_narrates {record : Datum} (chronicles : Chronicles hooks polling record)
    (fit : ∀ told chapter, Block.Chronicle hooks polling told record chapter →
      fits told (.block record chapter)) :
    Narrates fits before P (runBlock hooks polling record) (fun _ => P) P := by
  intro run ⟨deeds, tells, holds⟩
  rcases ended : runBlock hooks polling record run with ⟨halt | status, after⟩
  · exact .of_cut (runBlock_settled hooks polling record _ _ _ ended) trivial
  · obtain ⟨tally, chapter, chronicle, acts, blocks⟩ := chronicles run after status ended
    have own : Deed.ownActs (deeds ++ [.block record chapter]) = Deed.ownActs deeds := by
      simp [Deed.ownActs, Deed.own?]
    refine ⟨deeds ++ [.block record chapter], ⟨?_, ?_, ?_, ?_⟩, ?_⟩
    · simp [acts, tells.acts, Deed.acts]
    · simp [blocks, tells.blocks, Deed.results]
    · rw [tells.acts] at chronicle
      exact tells.inPlace.concat (fit _ _ chronicle)
    · rw [tally, own, tells.conditions]
    · rwa [tally, own]

/-- A report of a step is no act. -/
theorem report_narrates (result : StepResult) :
    Narrates fits before P (report result : Runner World Unit) (fun _ => P) P :=
  fun _ ⟨deeds, tells, holds⟩ => ⟨deeds, tells.moved rfl rfl rfl, holds⟩

theorem settleStep_narrates (result : StepResult) :
    Narrates fits before P (settleStep result : Runner World Unit) (fun _ => P) P := by
  apply (report_narrates result).bind
  intro _
  exact .ite (fun _ => .fail _ nofun fun _ _ holds => holds) fun _ => .pure () fun _ _ holds => holds

theorem settleBlock_narrates (record : Datum) (status : BlockStatus) :
    Narrates fits before P (settleBlock record status : Runner World Unit) (fun _ => P) P :=
  .ite (fun _ => .fail _ nofun fun _ _ holds => holds) fun _ => .pure () fun _ _ holds => holds

theorem runItem_itemized {block : Block Datum} {item : Datum} (member : item ∈ block.items)
    (chronicles : Chronicles hooks polling item) :
    Itemized (Deed.OfBlock hooks polling block) before
      (runItem hooks polling (runBlock hooks polling item) item) := by
  intro P most
  apply Narrates.checkCancel.bind
  intro _
  have begun : Narrates (Deed.OfBlock hooks polling block) before (Past P most)
      (note .item : Runner World Unit) (fun _ => Past P most) (Past P most) := by
    apply Narrates.note (fun _ => trivial) rfl
    intro acts n past
    have headless : Act.head ∉ [Act.item] := fun member => nomatch List.mem_singleton.1 member
    exact past.append headless (Nat.le_refl 0)
  apply begun.bind
  intro _
  cases read : Item.read item with
  | error fault => exact .fail _ nofun fun _ _ past => past
  | ok content =>
    cases content with
    | step step =>
      have ran : Narrates (Deed.OfBlock hooks polling block) before (Past P most)
          (runStep hooks polling step) (fun _ => Past P most) (Past P most) :=
        runStep_narrates fun _ _ done => ⟨⟨item, member, read⟩, done⟩
      exact ran.bind settleStep_narrates
    | block =>
      have ran : Narrates (Deed.OfBlock hooks polling block) before (Past P most)
          (runBlock hooks polling item) (fun _ => Past P most) (Past P most) :=
        runBlock_narrates chronicles fun _ _ chronicle => ⟨⟨member, read⟩, chronicle⟩
      exact ran.bind (settleBlock_narrates item)

/-- Where the content of a block ends, or fails, the block is closed with its report. -/
theorem runBlock_closes {record : Datum} {after : Run World} {status : BlockStatus}
    {I : Run World → Prop} (content : Leads (· = before.opened) (blockContent hooks polling record)
      (fun _ => I) (Halting I fun _ _ => True))
    (ended : runBlock hooks polling record before = (.ok status, after)) :
    ∃ inside outcome, I inside ∧
      after = before.closed inside (blockResult record before.now inside outcome) := by
  rw [runBlock_eq] at ended
  rcases reporting_cases record (blockContent hooks polling record) before with
    ⟨outcome, inside, tried, same⟩ | ⟨_, _, _, same⟩
  · rw [same] at ended
    cases ended
    have told := content.attempt.ended rfl tried
    refine ⟨inside, outcome, ?_, rfl⟩
    cases outcome with
    | ok status => exact told
    | error error => exact told.2.of_settled told.1
  · rw [same] at ended
    cases ended

/-- A record that cannot be read is told by its report alone. -/
theorem chronicles_of_invalid {record : Datum} {fault : BlockFault}
    (read : Block.read record = .error fault) : Chronicles hooks polling record := by
  intro before after status ended
  have content : Leads (· = before.opened) (blockContent hooks polling record)
      (fun _ => (· = before.opened)) (Halting (· = before.opened) fun _ _ => True) := by
    rintro run rfl
    simp only [blockContent, read]
    have other : RunError.invalidBlock fault ≠ .cancelled := by simp
    exact .of_failed other rfl
  obtain ⟨inside, outcome, rfl, rfl⟩ := runBlock_closes content ended
  have acts : (before.closed before.opened
      (blockResult record before.now before.opened outcome)).acts = before.acts ++ [] :=
    (List.append_nil _).symm
  have blocks : (before.closed before.opened
      (blockResult record before.now before.opened outcome)).blocks.toList = before.blocks.toList ++
        [blockResult record before.now before.opened outcome] := Array.toList_push
  exact ⟨rfl, _, .unread read ⟨before, _, status, rfl, ended, acts, blocks⟩ rfl rfl, acts, blocks⟩

theorem chronicles_of_items {record : Datum} {block : Block Datum}
    (read : Block.read record = .ok block)
    (each : ∀ item ∈ block.items, Chronicles hooks polling item) :
    Chronicles hooks polling record := by
  intro before after status ended
  have itemized (item : Datum) (member : item ∈ block.items) :
      Itemized (Deed.OfBlock hooks polling block) before.opened
        (runItem hooks polling (runBlock hooks polling item) item) :=
    runItem_itemized member (each item member)
  have content : Leads (· = before.opened) (blockContent hooks polling record)
      (fun _ => before.opened.Since (Deed.OfBlock hooks polling block) block.Counts)
      (Halting (before.opened.Since (Deed.OfBlock hooks polling block) block.Counts)
        fun _ _ => True) := by
    rintro run rfl
    simp only [blockContent, read]
    refine block_narrates hooks (fun act own _ => own) itemized before.opened
      ⟨[], ⟨?_, ?_, .nil _, rfl⟩, rfl, rfl⟩
    · exact (List.append_nil _).symm
    · exact (List.append_nil _).symm
  obtain ⟨inside, outcome, ⟨deeds, tells, counts⟩, rfl⟩ := runBlock_closes content ended
  have acts : (before.closed inside (blockResult record before.now inside outcome)).acts =
      before.acts ++ deeds.flatMap Deed.acts := tells.acts
  have blocks : (before.closed inside (blockResult record before.now inside outcome)).blocks.toList =
      before.blocks.toList ++
        (deeds.flatMap Deed.results ++ [blockResult record before.now inside outcome]) := by
    have known : inside.blocks.toList = before.blocks.toList ++ deeds.flatMap Deed.results :=
      tells.blocks
    rw [← List.append_assoc, ← known]
    exact Array.toList_push
  have chronicle := Block.Chronicle.ran read ⟨before, _, status, rfl, ended, acts, blocks⟩
    (fun _ member => (tells.inPlace.own member).choose_spec) (fun _ _ _ _ => tells.inPlace _ _ _)
    (fun _ _ _ _ same => (tells.inPlace _ _ _ same).1)
    (fun _ _ _ _ same => (tells.inPlace _ _ _ same).2) counts tells.conditions
  exact ⟨rfl, _, chronicle, acts, blocks⟩

/-- Every block record that reports itself has a chronicle, by induction on the record. -/
theorem runBlock_chronicles (record : Datum) : Chronicles hooks polling record := by
  cases read : Block.read record with
  | error fault => exact chronicles_of_invalid read
  | ok block =>
    refine chronicles_of_items read fun item member => ?_
    have smaller := Block.sizeOf_lt_of_mem_items read member
    exact runBlock_chronicles item
termination_by sizeOf record

end Runner

end Autopilot
