import Autopilot.Proofs.Sequence.Counters

/-!
Who asks how often for a condition. Each question in a run is one of a block itself, and then the
report of this block counts it, or it polls the gate of a step. So the reports of a run and its polls
account for all calls of the evaluator, whatever the answers are; and where somebody else decides on
gates, there are no polls.
-/

namespace Autopilot

/-! ## Chapters -/

/-- The checks that some blocks report, altogether. -/
def reportedChecks (results : List BlockResult) : Nat :=
  (results.map (·.conditionsEvaluated.toNat)).sum

theorem reportedChecks_append (earlier later : List BlockResult) :
    reportedChecks (earlier ++ later) = reportedChecks earlier + reportedChecks later := by
  simp only [reportedChecks, List.map_append, List.sum_append]

/-- The questions of a chapter are those that its reports count, and polls. -/
def Chapter.Balanced (chapter : Chapter) : Prop :=
  Act.questions chapter.acts = reportedChecks chapter.results + chapter.polls

namespace Deed

/-- All polls of gates among some deeds. -/
def allPolls (deeds : List Deed) : Nat := (deeds.map Deed.polls).sum

theorem questions_ownActs_le (deeds : List Deed) :
    Act.questions (ownActs deeds) ≤ Act.questions (deeds.flatMap acts) := by
  induction deeds with
  | nil => exact Nat.le_refl 0
  | cons deed rest ih =>
    have own : Act.questions (ownActs [deed]) ≤ Act.questions deed.acts := by
      cases deed with
      | own act => exact Nat.le_refl _
      | step => exact Nat.zero_le _
      | block => exact Nat.zero_le _
    have split : ownActs (deed :: rest) = ownActs [deed] ++ ownActs rest := ownActs_append [deed] rest
    rw [split, List.flatMap_cons, Act.questions_append, Act.questions_append]
    omega

theorem questions_le_of_mem {deeds : List Deed} {deed : Deed} (member : deed ∈ deeds) :
    Act.questions deed.acts ≤ Act.questions (deeds.flatMap acts) := by
  obtain ⟨earlier, later, rfl⟩ := List.append_of_mem member
  rw [List.flatMap_append, List.flatMap_cons, Act.questions_append, Act.questions_append]
  omega

/-- The questions among some deeds are own ones, reported ones, and polls. -/
theorem questions_eq {deeds : List Deed}
    (balanced : ∀ record chapter, .block record chapter ∈ deeds → chapter.Balanced) :
    Act.questions (deeds.flatMap acts) =
      Act.questions (ownActs deeds) + reportedChecks (deeds.flatMap results) + allPolls deeds := by
  induction deeds with
  | nil => rfl
  | cons deed rest ih =>
    have one : Act.questions deed.acts =
        Act.questions (ownActs [deed]) + reportedChecks deed.results + deed.polls := by
      cases deed with
      | own act => rfl
      | step step acts => exact (Nat.zero_add _).symm
      | block record chapter =>
        have inner : Act.questions chapter.acts = reportedChecks chapter.results + chapter.polls :=
          balanced record chapter List.mem_cons_self
        rw [acts, inner]
        exact congrArg (· + chapter.polls) (Nat.zero_add _).symm
    have others := ih fun record chapter member => balanced record chapter (List.mem_cons_of_mem _ member)
    have split : ownActs (deed :: rest) = ownActs [deed] ++ ownActs rest := ownActs_append [deed] rest
    have polled : allPolls (deed :: rest) = deed.polls + allPolls rest := List.sum_cons
    rw [List.flatMap_cons, List.flatMap_cons, split, polled, Act.questions_append, Act.questions_append,
      reportedChecks_append]
    omega

theorem allPolls_eq_zero {deeds : List Deed} (none : ∀ deed ∈ deeds, deed.polls = 0) :
    allPolls deeds = 0 := by
  induction deeds with
  | nil => rfl
  | cons deed rest ih =>
    have polled : allPolls (deed :: rest) = deed.polls + allPolls rest := List.sum_cons
    rw [polled, none deed List.mem_cons_self,
      ih fun other member => none other (List.mem_cons_of_mem _ member)]

end Deed

namespace Block.Chronicle

variable {World : Type} {hooks : Hooks World} {polling : Polling} {told : List Act} {record : Datum}
  {chapter : Chapter}

/-- The reports of a block and of the blocks in it count all that they asked, by induction on their
nesting. -/
theorem balanced (chronicle : Block.Chronicle hooks polling told record chapter)
    (few : Act.questions chapter.acts < 4294967296) : chapter.Balanced := by
  induction chronicle with
  | unread _ _ _ checks =>
    show 0 = reportedChecks [_] + 0
    simp [reportedChecks, checks]
  | @ran told record block deeds result _ _ _ _ _ _ _ checks ih =>
    have total : Act.questions (deeds.flatMap Deed.acts) < 4294967296 := few
    have nested (item : Datum) (chapter : Chapter) (member : Deed.block item chapter ∈ deeds) :
        chapter.Balanced := by
      obtain ⟨earlier, later, same⟩ := List.append_of_mem member
      exact ih earlier item chapter later same ((Deed.questions_le_of_mem member).trans_lt total)
    have own : reportedChecks [result] = Act.questions (Deed.ownActs deeds) := by
      have bound := (Deed.questions_ownActs_le deeds).trans_lt total
      simp [reportedChecks, checks, UInt32.toNat_ofNat', Nat.mod_eq_of_lt bound]
    show Act.questions (deeds.flatMap Deed.acts) =
      reportedChecks (deeds.flatMap Deed.results ++ [result]) + Deed.allPolls deeds
    rw [Deed.questions_eq nested, reportedChecks_append, own, Nat.add_comm (Act.questions _)]

/-- Where somebody decides on gates, no block polls any, by induction on the nesting. -/
theorem unpolled (chronicle : Block.Chronicle hooks polling told record chapter)
    (decided : hooks.gate.isSome = true) : chapter.polls = 0 := by
  induction chronicle with
  | unread => rfl
  | @ran told record block deeds result _ _ _ steps _ _ _ _ ih =>
    apply Deed.allPolls_eq_zero
    intro deed member
    obtain ⟨earlier, later, same⟩ := List.append_of_mem member
    cases deed with
    | own act => rfl
    | step step acts => exact (steps earlier step acts later same).2.questions decided
    | block item chapter => exact ih earlier item chapter later same

end Block.Chronicle

/-! ## Calls -/

/-- Some property of the world that counts the calls of the evaluator. -/
structure Hooks.Meters {World : Type} (hooks : Hooks World) (calls : World → Nat) : Prop where
  condition : ∀ {evaluator}, hooks.condition = some evaluator → ∀ condition world,
    calls (evaluator condition world).world = calls world + 1
  command : ∀ commandId world, calls (hooks.command commandId world).world = calls world
  gate : ∀ {decide}, hooks.gate = some decide → ∀ step world,
    calls (decide step world).world = calls world
  rest : ∀ ms world, calls (hooks.rest ms world).world = calls world
  random : ∀ world, calls (hooks.random world).2 = calls world

namespace Runner

variable {World α β : Type} {hooks : Hooks World} {polling : Polling} {calls : World → Nat}

/-- The journal tells of as many questions as there are calls in a part. -/
def Metered (calls : World → Nat) (part : Runner World α) : Prop :=
  ∀ run, calls (part run).2.world + Act.questions run.acts =
    calls run.world + Act.questions (part run).2.acts

theorem Metered.bind {part : Runner World α} {next : α → Runner World β}
    (first : Metered calls part) (later : ∀ value, Metered calls (next value)) :
    Metered calls (part >>= next) := by
  intro run
  have start := first run
  rcases ended : part run with ⟨halt | value, middle⟩
  · rw [ended] at start
    rw [bind_of_halt ended]
    exact start
  · rw [ended] at start
    rw [bind_of_ok ended]
    have rest := later value middle
    dsimp only at start
    omega

theorem Metered.of_same {part : Runner World α}
    (world : ∀ run, calls (part run).2.world = calls run.world)
    (acts : ∀ run, (part run).2.acts = run.acts) : Metered calls part := by
  intro run
  rw [world, acts]

theorem Metered.ite {condition : Prop} [Decidable condition] {part other : Runner World α}
    (first : Metered calls part) (second : Metered calls other) :
    Metered calls (if condition then part else other) := by
  split
  · exact first
  · exact second

theorem Metered.note {act : Act} (quiet : act.isQuestion = false) :
    Metered calls (note act : Runner World Unit) := by
  intro run
  simp [quiet]
  rfl

theorem Metered.attempt {part : Runner World α} (inner : Metered calls part) :
    Metered calls (attempt part) := by
  intro run
  have same := inner run
  rcases attempt_cases part run with ⟨_, _, ended, tried⟩ | ⟨_, _, ended, _, tried⟩ |
    ⟨_, _, ended, _, tried⟩
  all_goals rw [ended] at same
  all_goals rw [tried]
  all_goals exact same

theorem Metered.reporting {content : Runner World BlockStatus} (inner : Metered calls content)
    (record : Datum) : Metered calls (reporting record content) := by
  intro run
  have same := inner.attempt run.opened
  rcases reporting_cases record content run with ⟨_, _, tried, told⟩ | ⟨_, _, tried, told⟩
  all_goals rw [tried] at same
  all_goals rw [told]
  all_goals exact same

/-- A question is metered if its call counts as much as it asks. -/
theorem Metered.ask {ε : Type} {asked : Act} {answered : Except ε α → Act} {asError : ε → RunError}
    {question : World → Reply World (Except ε α)}
    (counts : ∀ world, calls (question world).world = calls world + if asked.isQuestion then 1 else 0)
    (quiet : ∀ answer, (answered answer).isQuestion = false) :
    Metered calls (ask asked answered asError question) := by
  intro run
  have counted := counts run.world
  simp only [ask_apply, Run.acts_noted, Run.acts_replied, Act.questions_append, Act.questions_cons,
    Act.questions_nil, quiet]
  show calls (question run.world).world + _ = _
  rw [counted]
  simp
  omega

variable (meters : hooks.Meters calls)

include meters

theorem Silent.metered {part : Runner World α} (quiet : Silent hooks part) : Metered calls part := by
  induction quiet with
  | pure value => exact .of_same (fun _ => rfl) fun _ => rfl
  | bind first later earlier rest => exact earlier.bind rest
  | get => exact .of_same (fun _ => rfl) fun _ => rfl
  | fail error _ => exact .of_same (fun _ => rfl) fun _ => rfl
  | impatient => exact .of_same (fun _ => rfl) fun _ => rfl
  | checkCancel =>
    apply Metered.of_same
    all_goals intro run
    all_goals rw [checkCancel_same]
  | note act begun =>
    apply Metered.note
    cases act <;> first | rfl | cases begun
  | count f => exact .of_same (fun _ => rfl) fun _ => rfl
  | pause ms =>
    intro run
    have slept := meters.rest ms run.world
    rcases pause_cases hooks ms run with ⟨_, same⟩ | ⟨_, _, same⟩ | ⟨_, _, _, same⟩ | ⟨_, _, same⟩
    all_goals rw [same]
    · exact congrArg (· + _) slept
    · rw [Run.acts_noted, Act.questions_append]
      exact congrArg (· + _) slept
  | draw step =>
    apply Metered.of_same
    · intro run
      unfold drawDelay
      cases step.delayRange with
      | none => rfl
      | some range => exact meters.random run.world
    · intro run
      obtain ⟨world, same⟩ := drawDelay_cases hooks step run
      rw [same]
      rfl
  | askGate given step => exact .ask (meters.gate given step) fun _ => rfl
  | evaluate given condition => exact .ask (meters.condition given condition) fun _ => rfl
  | callCommand step => exact .ask (meters.command step.commandId) fun _ => rfl
  | attempt inner ih => exact ih.attempt

theorem Working.metered {part : Runner World α} (works : Working hooks part) : Metered calls part := by
  induction works with
  | silent quiet => exact quiet.metered meters
  | bind first later earlier rest => exact earlier.bind rest
  | settleStep result => exact fun run => by rw [settleStep_apply]; rfl
  | nested record inner ih =>
    apply (ih.reporting record).bind
    intro status run
    rw [settleBlock_apply]

theorem runSteps_metered (steps : List Step) : Metered calls (runSteps hooks polling steps) := by
  induction steps with
  | nil => exact .of_same (fun _ => rfl) fun _ => rfl
  | cons step rest ih =>
    have ran : Metered calls (runStep hooks polling step) := (runStep_silent polling step).metered meters
    apply ran.bind
    intro result
    have reported : Metered calls (report result : Runner World Unit) :=
      .of_same (fun _ => rfl) fun _ => rfl
    apply reported.bind
    intro _
    exact .ite (.of_same (fun _ => rfl) fun _ => rfl) ih

theorem runBlocks_metered (records : List Datum) : Metered calls (runBlocks hooks polling records) := by
  induction records with
  | nil => exact .of_same (fun _ => rfl) fun _ => rfl
  | cons record rest ih =>
    have begun : Metered calls (checkCancel : Runner World Unit) := Silent.checkCancel.metered meters
    apply begun.bind
    intro _
    apply (Metered.note rfl).bind
    intro _
    have ran : Metered calls (runBlock hooks polling record) := by
      rw [runBlock_eq]
      exact ((blockContent_working polling record).metered meters).reporting record
    apply ran.bind
    intro status
    have looked : Metered calls (get : Runner World (Run World)) := Silent.get.metered meters
    apply looked.bind
    intro run
    exact ih.bind fun later => .of_same (fun _ => rfl) fun _ => rfl

theorem runParts_metered (polling : Polling) (sequence : Sequence) :
    Metered calls (runParts hooks polling sequence) := by
  apply (runSteps_metered meters sequence.orderedSteps).bind
  intro failure
  cases failure with
  | some error => exact .of_same (fun _ => rfl) fun _ => rfl
  | none => exact runBlocks_metered meters _

end Runner

/-! ## Sequences -/

/-- What can be done for a sequence where the journal tells `told`. -/
def Deed.OfSequence {World : Type} (hooks : Hooks World) (polling : Polling) (sequence : Sequence)
    (told : List Act) : Deed → Prop
  | .own act => act = .block
  | .step content acts => content ∈ sequence.steps ∧ content.Done hooks polling told acts
  | .block record chapter => record ∈ sequence.blocks.map Datum.ofJson ∧
      Block.Chronicle hooks polling told record chapter

section Deeds

variable {World : Type} {hooks : Hooks World} {polling : Polling} {sequence : Sequence}
  {told : List Act} {deeds : List Deed}
  (inPlace : Deed.InPlace (Deed.OfSequence hooks polling sequence) told deeds)

include inPlace

theorem Deed.InPlace.charged (few : Act.questions (deeds.flatMap Deed.acts) < 4294967296) :
    Act.questions (deeds.flatMap Deed.acts) =
      reportedChecks (deeds.flatMap Deed.results) + Deed.allPolls deeds := by
  have nested (record : Datum) (chapter : Chapter) (member : Deed.block record chapter ∈ deeds) :
      chapter.Balanced := by
    obtain ⟨earlier, later, same⟩ := List.append_of_mem member
    have total := (Deed.questions_le_of_mem member).trans_lt few
    exact (inPlace earlier _ later same).2.balanced total
  have own : Act.questions (Deed.ownActs deeds) = 0 := by
    rw [Act.questions, List.countP_eq_zero]
    intro act member
    obtain ⟨_, marks⟩ := inPlace.own member
    rw [show act = .block from marks]
    exact Bool.false_ne_true
  rw [Deed.questions_eq nested, own, Nat.zero_add]

theorem Deed.InPlace.unpolled (decided : hooks.gate.isSome = true) : Deed.allPolls deeds = 0 := by
  apply Deed.allPolls_eq_zero
  intro deed member
  obtain ⟨earlier, later, same⟩ := List.append_of_mem member
  have known := inPlace earlier deed later same
  cases deed with
  | own act => rfl
  | step step acts => exact known.2.questions decided
  | block record chapter => exact known.2.unpolled decided

end Deeds

namespace Runner

variable {World : Type} {hooks : Hooks World} {polling : Polling} {fits : List Act → Deed → Prop}
  {before : Run World} {P : List Act → UInt32 → Prop}

theorem runSteps_narrates {steps : List Step}
    (fit : ∀ step ∈ steps, ∀ told acts, step.Done hooks polling told acts → fits told (.step step acts)) :
    Narrates fits before P (runSteps hooks polling steps) (fun _ => P) P := by
  induction steps with
  | nil => exact .pure none fun _ _ holds => holds
  | cons step rest ih =>
    apply (runStep_narrates (fit step List.mem_cons_self)).bind
    intro result
    apply (report_narrates result).bind
    intro _
    apply Narrates.ite
    · exact fun _ => .pure _ fun _ _ holds => holds
    · exact fun _ => ih fun other member => fit other (List.mem_cons_of_mem _ member)

theorem runBlocks_narrates {records : List Datum} (begun : ∀ told, fits told (.own .block))
    (fit : ∀ record ∈ records, ∀ told chapter, Block.Chronicle hooks polling told record chapter →
      fits told (.block record chapter)) :
    Narrates fits before (fun _ _ => True) (runBlocks hooks polling records) (fun _ _ _ => True)
      fun _ _ => True := by
  induction records with
  | nil => exact .pure none fun _ _ holds => holds
  | cons record rest ih =>
    apply Narrates.checkCancel.bind
    intro _
    have noted : Narrates fits before (fun _ _ => True) (note .block : Runner World Unit)
        (fun _ _ _ => True) fun _ _ => True := .note begun rfl fun _ _ holds => holds
    apply noted.bind
    intro _
    apply (runBlock_narrates (runBlock_chronicles record) (fit record List.mem_cons_self)).bind
    intro status run since
    rw [bind_of_ok (get_apply run)]
    have later := ih fun other member => fit other (List.mem_cons_of_mem _ member)
    exact later.bind (fun _ => .pure _ fun _ _ holds => holds) run since

theorem runParts_narrates (sequence : Sequence) :
    Narrates (Deed.OfSequence hooks polling sequence) before (fun _ _ => True)
      (runParts hooks polling sequence) (fun _ _ _ => True) fun _ _ => True := by
  have steps : Narrates (Deed.OfSequence hooks polling sequence) before (fun _ _ => True)
      (runSteps hooks polling sequence.orderedSteps) (fun _ _ _ => True) fun _ _ => True :=
    runSteps_narrates fun step member _ _ done => ⟨List.mem_mergeSort.1 member, done⟩
  apply steps.bind
  intro failure
  cases failure with
  | some error => exact .pure _ fun _ _ holds => holds
  | none => exact runBlocks_narrates (fun _ => rfl) fun record member _ _ chronicle => ⟨member, chronicle⟩

end Runner

namespace Sequence

open Runner

variable {World : Type}

/-- A run that ends is made of steps and blocks of the sequence, and its result tells what they reported. -/
theorem execute_narrates {sequence : Sequence} {hooks : Hooks World} {polling : Polling}
    {epoch : Instant} {world : World} {now : Nat} {cancelled : Bool} {result : RunResult}
    {run : Run World}
    (ended : sequence.execute hooks polling epoch { world, now, cancelled } = (.ok result, run)) :
    ∃ deeds : List Deed, run.acts = deeds.flatMap Deed.acts ∧
      result.blocks = deeds.flatMap Deed.results ∧
      Deed.InPlace (Deed.OfSequence hooks polling sequence) [] deeds := by
  obtain ⟨failure, parts, rfl⟩ := execute_ended ended
  have fresh : ({ world, now, cancelled } : Run World).Since (Deed.OfSequence hooks polling sequence)
      (fun _ _ => True) { world, now, cancelled } := ⟨[], ⟨rfl, rfl, .nil _, rfl⟩, trivial⟩
  obtain ⟨deeds, tells, _⟩ := (runParts_narrates sequence).ended fresh parts
  exact ⟨deeds, tells.acts, tells.blocks, tells.inPlace⟩

/-- A run that ends is made of steps and blocks of the sequence, and their reports and polls account
for all that was asked in it: each report counts the questions of its block, the polls are those of
gates, and there are none where somebody decides on gates. However the calls of the evaluator are
counted, there are as many. -/
theorem execute_charges (sequence : Sequence) (hooks : Hooks World) (polling : Polling)
    (epoch : Instant) (world : World) (now : Nat) (cancelled : Bool) {result : RunResult}
    {run : Run World}
    (ended : sequence.execute hooks polling epoch { world, now, cancelled } = (.ok result, run))
    (few : Act.questions run.acts < 4294967296) :
    ∃ deeds : List Deed,
      run.acts = deeds.flatMap Deed.acts ∧ result.blocks = deeds.flatMap Deed.results ∧
      Deed.InPlace (Deed.OfSequence hooks polling sequence) [] deeds ∧
      Act.questions run.acts = reportedChecks result.blocks + Deed.allPolls deeds ∧
      (hooks.gate.isSome = true → Deed.allPolls deeds = 0) ∧
      ∀ calls, hooks.Meters calls → calls run.world = calls world + Act.questions run.acts := by
  obtain ⟨deeds, acts, blocks, inPlace⟩ := execute_narrates ended
  refine ⟨deeds, acts, blocks, inPlace, ?_, inPlace.unpolled, ?_⟩
  · rw [acts] at few
    have charged := inPlace.charged few
    rw [← acts, ← blocks] at charged
    exact charged
  · intro calls meters
    obtain ⟨failure, parts, _⟩ := execute_ended ended
    have metered := runParts_metered meters polling sequence { world, now, cancelled }
    rw [parts] at metered
    exact metered

/-- A step behind a door, and rounds in which a window is looked at, up to an alarm. -/
def patrol : Sequence :=
  { id := "patrol"
    steps := [{ commandId := "enter", gate := some { source := .image, targetId := "door" } }]
    blocks := [.object [("type", .str "repeatCount"), ("maxIterations", .ofNat 2),
      ("breakOn", .object [("source", .str "text"), ("targetId", .str "alarm")]),
      ("steps", .arr [.object [("type", .str "ifElse"),
        ("condition", .object [("source", .str "image"), ("targetId", .str "window")])]])]] }

/-- An evaluator that counts its calls, and cannot see any window. -/
def nearSighted : Hooks Nat where
  command _ calls := { answer := .ok (), world := calls }
  condition := some fun condition calls =>
    { answer := if condition.targetId = "window" then .error (.unavailable "fog")
        else .ok (condition.targetId == "door")
      world := calls + 1 }
  rest _ calls := { world := calls }
  random calls := (0, calls)

theorem nearSighted_meters : nearSighted.Meters fun calls => calls where
  condition given condition world := by
    cases given
    rfl
  command _ _ := rfl
  gate given := by cases given
  rest _ _ := rfl
  random _ := rfl

/-- The door, the alarm and the window are looked at once each: the gate is polled, and each of the
two blocks reports one check, of which the inner one fails. -/
theorem execute_charges_patrol :
    ∃ (result : RunResult) (run : Run Nat) (deeds : List Deed),
      patrol.execute nearSighted { patience := 1 } ⟨0, 0⟩ { world := 0 } = (.ok result, run) ∧
      run.world = 3 ∧ result.blocks.map (·.conditionsEvaluated) = [1, 1] ∧
      run.acts = deeds.flatMap Deed.acts ∧
      run.world = reportedChecks result.blocks + Deed.allPolls deeds := by
  have asked : Act.questions (patrol.execute nearSighted { patience := 1 } ⟨0, 0⟩
      { world := 0 }).2.acts = 3 := by decide +kernel
  have reports : (patrol.execute nearSighted { patience := 1 } ⟨0, 0⟩
      { world := 0 }).1.toOption.map (·.blocks.map (·.conditionsEvaluated)) = some [1, 1] := by
    decide +kernel
  rcases ended : patrol.execute nearSighted { patience := 1 } ⟨0, 0⟩ { world := 0 } with
    ⟨halt | result, run⟩
  · rw [ended] at reports
    cases reports
  · rw [ended] at asked reports
    obtain ⟨deeds, acts, _, _, accounts, _, calls⟩ := execute_charges patrol nearSighted
      { patience := 1 } ⟨0, 0⟩ 0 0 false ended (by rw [asked]; decide)
    have called : run.world = 0 + Act.questions run.acts := calls _ nearSighted_meters
    rw [Nat.zero_add] at called
    exact ⟨result, run, deeds, rfl, called.trans asked, Option.some.inj reports, acts,
      called.trans accounts⟩

end Sequence

end Autopilot
