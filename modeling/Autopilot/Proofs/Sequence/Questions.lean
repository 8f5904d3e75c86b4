import Autopilot.Proofs.Sequence.Acceptance

/-!
Which conditions a run asks for. The conditions of a block are read with the block, and one that is
not valid makes the block invalid before anything in it is asked. The gate of a step is taken as it is
decoded: where nobody else decides on gates it is asked for whatever it is. So these gates are all
that a run may ask for beside valid conditions, however the run ends.
-/

namespace Autopilot

/-- The condition that an act asks for. -/
def Act.question? : Act → Option Condition
  | .conditionAsked condition => some condition
  | _ => none

/-- The conditions that a run has asked for, in order, as its journal tells. -/
def Run.asked {World : Type} (run : Run World) : List Condition := run.acts.filterMap Act.question?

@[simp] theorem Run.asked_noted {World : Type} (run : Run World) (act : Act) :
    (run.noted act).asked = run.asked ++ act.question?.toList := by
  rw [asked, Run.acts_noted, List.filterMap_append]
  cases act <;> rfl

/-- Some property of the world that lists the conditions with which the evaluator is called. -/
structure Hooks.Records {World : Type} (hooks : Hooks World) (heard : World → List Condition) :
    Prop where
  condition : ∀ {evaluator}, hooks.condition = some evaluator → ∀ condition world,
    heard (evaluator condition world).world = heard world ++ [condition]
  command : ∀ commandId world, heard (hooks.command commandId world).world = heard world
  gate : ∀ {decide}, hooks.gate = some decide → ∀ step world,
    heard (decide step world).world = heard world
  rest : ∀ ms world, heard (hooks.rest ms world).world = heard world
  random : ∀ world, heard (hooks.random world).2 = heard world

/-- What was asked for between two points of a run: the journal tells it, the evaluator was called
with just that, and all of it may be asked for. -/
structure Run.Asks {World : Type} (hooks : Hooks World) (mayAsk : Condition → Prop)
    (start run : Run World) (asked : List Condition) : Prop where
  told : run.asked = start.asked ++ asked
  heard : ∀ {heard : World → List Condition}, hooks.Records heard →
    heard run.world = heard start.world ++ asked
  allowed : ∀ c ∈ asked, mayAsk c

/-- Only such conditions were asked for between two points of a run. -/
def Run.AsksOnly {World : Type} (hooks : Hooks World) (mayAsk : Condition → Prop)
    (start run : Run World) : Prop :=
  ∃ asked, Run.Asks hooks mayAsk start run asked

section AsksOnly

variable {World : Type} {hooks : Hooks World} {mayAsk : Condition → Prop} {start run later : Run World}

theorem Run.Asks.trans {first more : List Condition} (asks : Run.Asks hooks mayAsk start run first)
    (asksMore : Run.Asks hooks mayAsk run later more) :
    Run.Asks hooks mayAsk start later (first ++ more) where
  told := by rw [asksMore.told, asks.told, List.append_assoc]
  heard records := by rw [asksMore.heard records, asks.heard records, List.append_assoc]
  allowed := List.forall_mem_append.2 ⟨asks.allowed, asksMore.allowed⟩

theorem Run.AsksOnly.trans (first : Run.AsksOnly hooks mayAsk start run)
    (second : Run.AsksOnly hooks mayAsk run later) : Run.AsksOnly hooks mayAsk start later := by
  obtain ⟨_, asks⟩ := first
  obtain ⟨_, more⟩ := second
  exact ⟨_, asks.trans more⟩

/-- What neither asks for a condition nor calls the evaluator. -/
theorem Run.AsksOnly.of_same (told : later.asked = run.asked)
    (heard : ∀ {heard : World → List Condition}, hooks.Records heard →
      heard later.world = heard run.world) : Run.AsksOnly hooks mayAsk run later := by
  refine ⟨[], ?_, fun records => ?_, nofun⟩
  · rw [told, List.append_nil]
  · rw [heard records, List.append_nil]

theorem Run.AsksOnly.refl (hooks : Hooks World) (mayAsk : Condition → Prop) (start : Run World) :
    start.AsksOnly hooks mayAsk start :=
  .of_same rfl fun _ => rfl

/-- What is reported and counted does not matter. -/
theorem Run.AsksOnly.loose (asks : Run.AsksOnly hooks mayAsk start run) (tally : Tally)
    (steps : Array StepResult) (blocks : Array BlockResult) :
    Run.AsksOnly hooks mayAsk start { run with tally, steps, blocks } :=
  asks.trans (.of_same rfl fun _ => rfl)

theorem Run.AsksOnly.noted (asks : Run.AsksOnly hooks mayAsk start run) {act : Act}
    (untold : act.question? = none) : Run.AsksOnly hooks mayAsk start (run.noted act) := by
  refine asks.trans (.of_same ?_ fun _ => rfl)
  rw [Run.asked_noted, untold]
  exact List.append_nil _

end AsksOnly

namespace Runner

variable {World α : Type} {hooks : Hooks World} {polling : Polling} {mayAsk : Condition → Prop}
  {start : Run World}

/-- However a part ends, only such conditions have been asked for since the start of the run. -/
def Inquires (hooks : Hooks World) (mayAsk : Condition → Prop) (start : Run World)
    (part : Runner World α) : Prop :=
  Keeps (Run.AsksOnly hooks mayAsk start) (fun _ => Run.AsksOnly hooks mayAsk start) part

namespace Inquires

theorem halting {halt : Halt} {run : Run World} (asks : Run.AsksOnly hooks mayAsk start run) :
    Halting (Run.AsksOnly hooks mayAsk start) (fun _ => Run.AsksOnly hooks mayAsk start) halt run := by
  unfold Halting
  cases halt.settled? <;> exact asks

/-- It does not matter whether a part ends well or halts. -/
theorem of_after {part : Runner World α}
    (after : ∀ run, Run.AsksOnly hooks mayAsk run (part run).2) : Inquires hooks mayAsk start part := by
  intro run asks
  have asksOnly := asks.trans (after run)
  rcases ended : part run with ⟨halt | value, later⟩
  · rw [ended] at asksOnly
    exact halting asksOnly
  · rw [ended] at asksOnly
    exact asksOnly

theorem after {part : Runner World α} (inquires : ∀ start, Inquires hooks mayAsk start part)
    (run : Run World) : Run.AsksOnly hooks mayAsk run (part run).2 := by
  have leads := inquires run run (.refl hooks mayAsk run)
  rcases ended : part run with ⟨halt | value, later⟩
  · rw [ended] at leads
    unfold Halting at leads
    cases settled : halt.settled? <;> simpa only [settled] using leads
  · rw [ended] at leads
    exact leads

/-- A question to a collaborator asks for the condition that it is about, if any. -/
theorem ask {ε : Type} {asked : Act} {answered : Except ε α → Act} {asError : ε → RunError}
    {question : World → Reply World (Except ε α)} (untold : ∀ answer, (answered answer).question? = none)
    (heard : ∀ {heard : World → List Condition}, hooks.Records heard → ∀ world,
      heard (question world).world = heard world ++ asked.question?.toList)
    (allowed : ∀ c ∈ asked.question?, mayAsk c) :
    Inquires hooks mayAsk start (Runner.ask asked answered asError question) := by
  apply of_after
  intro run
  refine ⟨asked.question?.toList, ?_, fun records => ?_, ?_⟩
  · rw [ask_apply, Run.asked_noted, untold]
    have replied : ((run.noted asked).replied (question run.world)).asked = (run.noted asked).asked := rfl
    rw [replied, Run.asked_noted]
    exact List.append_nil _
  · rw [ask_apply]
    exact heard records run.world
  · exact fun c member => allowed c (Option.mem_toList.1 member)

theorem pause (ms : Nat) : Inquires hooks mayAsk start (pause hooks ms) := by
  apply of_after
  intro run
  rcases pause_cases hooks ms run with ⟨_, same⟩ | ⟨_, _, same⟩ | ⟨_, _, _, same⟩ | ⟨_, _, same⟩
  all_goals rw [same]
  · exact .refl hooks mayAsk run
  · exact .refl hooks mayAsk run
  · exact .of_same rfl fun records => records.rest ms run.world
  · have rested : Run.AsksOnly hooks mayAsk run (run.rested ms (hooks.rest ms run.world)) :=
      .of_same rfl fun records => records.rest ms run.world
    exact rested.noted rfl

theorem drawDelay (step : Step) : Inquires hooks mayAsk start (drawDelay hooks step) := by
  apply of_after
  intro run
  unfold Runner.drawDelay
  cases step.delayRange with
  | none => exact .refl hooks mayAsk run
  | some range => exact .of_same rfl fun records => records.random run.world

/-- The evaluator is called with the condition that the journal tells. -/
theorem evaluate {evaluator : Condition → World → Reply World (Except ConditionError Bool)}
    (given : hooks.condition = some evaluator) (condition : Condition) (may : mayAsk condition) :
    Inquires hooks mayAsk start (evaluate evaluator condition) := by
  apply ask (fun _ => rfl) fun records => records.condition given condition
  rintro _ ⟨⟩
  exact may

theorem composes : Composes hooks (fun {_} part => Inquires hooks mayAsk start (part ())) mayAsk := by
  apply Keeps.composes
  · exact fun _ asks _ => asks
  · exact pause
  · exact evaluate
  · exact fun run tally asks => asks.loose tally run.steps run.blocks

end Inquires

/-! ## Steps and blocks -/

theorem askGate_inquires {decide : Step → World → Reply World (Except RunError Bool)}
    (decides : hooks.gate = some decide) (step : Step) :
    Inquires hooks mayAsk start (askGate decide step) :=
  .ask (fun _ => rfl) (fun records world => (records.gate decides step world).trans
    (List.append_nil _).symm) nofun

/-- A step asks for its gate, if nobody else decides on gates. -/
theorem runStep_inquires {step : Step} (gated : ∀ gate ∈ step.gate, hooks.gate = none → mayAsk gate) :
    Leads (Run.AsksOnly hooks mayAsk start) (runStep hooks polling step)
      (fun result run => Run.AsksOnly hooks mayAsk start (run.reported result))
      (Halting (Run.AsksOnly hooks mayAsk start) fun _ => Run.AsksOnly hooks mayAsk start) := by
  have called : Inquires hooks mayAsk start (callCommand hooks step) :=
    .ask (fun _ => rfl) (fun records world => (records.command step.commandId world).trans
      (List.append_nil _).symm) nofun
  have inquires : Inquires hooks mayAsk start (runStep hooks polling step) :=
    runStep_composes Inquires.composes (fun _ asks => Inquires.halting asks) askGate_inquires
      Keeps.attempt gated called (fun _ asks => asks.noted rfl) (.drawDelay step) polling
  apply inquires.weaken (fun _ asks => asks) _ fun _ _ asks => asks
  exact fun result run asks => asks.loose run.tally _ run.blocks

/-- A block asks for its conditions, which are valid, and for the gates of its steps. -/
theorem runBlock_inquires (valid : ∀ c : Condition, c.Valid → mayAsk c) (record : Datum)
    (gated : ∀ step, Block.Holds record step → ∀ gate ∈ step.gate, hooks.gate = none → mayAsk gate) :
    Inquires hooks mayAsk start (runBlock hooks polling record) := by
  apply runBlock_keeps
  · exact fun run tally blocks asks => asks.loose tally run.steps blocks
  · exact fun _ asks _ => asks
  · exact Inquires.pause
  · exact Inquires.evaluate
  · exact fun _ asks _ => asks.noted rfl
  · exact fun _ asks _ => asks.noted rfl
  · exact fun read c asked => valid c (Block.read_valid read c (Block.mem_held_of_mem_conditions asked))
  · exact fun step held => runStep_inquires (gated step held)

theorem runParts_inquires (valid : ∀ c : Condition, c.Valid → mayAsk c) {sequence : Sequence}
    (gated : ∀ step, sequence.Holds step → ∀ gate ∈ step.gate, hooks.gate = none → mayAsk gate) :
    Inquires hooks mayAsk start (runParts hooks polling sequence) := by
  have steps : Inquires hooks mayAsk start (runSteps hooks polling sequence.orderedSteps) := by
    apply runSteps_keeps
    intro step member
    exact runStep_inquires (gated step (Sequence.holds_of_mem_orderedSteps member))
  apply Leads.bind steps
  intro failure
  cases failure with
  | some error => exact pure_keeps _
  | none =>
    have blocks : Inquires hooks mayAsk start
        (runBlocks hooks polling (sequence.blocks.map Datum.ofJson)) := by
      apply runBlocks_keeps
      · exact fun _ asks _ => asks
      · exact fun _ asks _ => asks.noted rfl
      intro record member
      exact runBlock_inquires valid record fun step held =>
        gated step (Sequence.holds_of_block member held)
    exact blocks

/-! ### Gates -/

theorem evaluate_asked (evaluator : Condition → World → Reply World (Except ConditionError Bool))
    (condition : Condition) (run : Run World) :
    (evaluate evaluator condition run).2.asked = run.asked ++ [condition] := by
  rw [evaluate, ask_apply, Run.asked_noted]
  exact (List.append_nil _).trans (Run.asked_noted run _)

/-- What follows a question for a condition can only ask for more. -/
theorem bind_asked (hooks : Hooks World) {part : Runner World α} {next : α → Runner World Unit}
    {run : Run World} {condition : Condition}
    (asked : (part run).2.asked = run.asked ++ [condition])
    (later : ∀ value start, Inquires hooks (fun _ => True) start (next value)) :
    ∃ more, ((part >>= next) run).2.asked = run.asked ++ condition :: more := by
  rcases ended : part run with ⟨halt | value, after⟩
  all_goals rw [ended] at asked
  · rw [bind_of_halt ended]
    exact ⟨[], asked⟩
  · obtain ⟨more, asks⟩ := Inquires.after (later value) after
    rw [bind_of_ok ended, asks.told, asked]
    exact ⟨more, List.append_assoc _ _ _⟩

/-- Where nobody else decides on gates, a step begins to wait by asking for its gate, whatever
condition that is. -/
theorem passGate_asks {step : Step} {gate : Condition} (gated : step.gate = some gate)
    {evaluator : Condition → World → Reply World (Except ConditionError Bool)}
    (undecided : hooks.gate = none) (evaluates : hooks.condition = some evaluator)
    (patient : polling.patience ≠ 0) {run : Run World} (going : run.cancelled = false) :
    ∃ more, (passGate hooks polling step run).2.asked = run.asked ++ gate :: more := by
  obtain ⟨patience, more⟩ := Nat.exists_eq_succ_of_ne_zero patient
  rw [passGate_of_gate gated, more, awaitGate, bind_of_ok (checkCancel_of_going going),
    gateOpen_of_evaluator step gate undecided evaluates]
  apply bind_asked hooks (evaluate_asked evaluator gate run)
  intro isOpen start
  have closed : Composes hooks fun {_} part => Inquires hooks (fun _ => True) start (part ()) :=
    Inquires.composes
  cases isOpen with
  | true => exact pure_keeps ()
  | false =>
    apply Leads.bind (untilNextPoll_composes closed polling _)
    intro ms
    apply Leads.bind (Inquires.pause ms)
    intro _
    exact awaitGate_composes closed (fun _ asks => Inquires.halting asks) askGate_inquires polling step
      gate (fun _ => trivial) _ patience

end Runner

/-! ## Sequences -/

namespace Sequence

/-- What a run of a sequence asks for is told by its journal, in order, and it is just what the
evaluator is called with, however the run ends. All of it is valid, except that it may be the gate of a
step, at the top or in a block at whatever depth, if nobody else decides on gates; and such a gate is
the first thing that a step asks for when it begins to wait, whatever condition it is. -/
theorem execute_questions {World : Type} (sequence : Sequence) (hooks : Hooks World) (polling : Polling)
    (epoch : Instant) (start : Run World) :
    (∃ asked, (sequence.execute hooks polling epoch start).2.asked = start.asked ++ asked ∧
      (∀ heard, hooks.Records heard →
        heard (sequence.execute hooks polling epoch start).2.world = heard start.world ++ asked) ∧
      ∀ c ∈ asked, c.validate = .ok () ∨
        hooks.gate = none ∧ ∃ step, sequence.Holds step ∧ step.gate = some c) ∧
    (hooks.gate = none → hooks.condition.isSome = true → polling.patience ≠ 0 →
      ∀ (step : Step) (gate : Condition), step.gate = some gate →
        ∀ run : Run World, run.cancelled = false →
          ∃ more, (Runner.passGate hooks polling step run).2.asked = run.asked ++ gate :: more) := by
  constructor
  · have inquires (start : Run World) : Runner.Inquires hooks (fun c => c.validate = .ok () ∨
        hooks.gate = none ∧ ∃ step, sequence.Holds step ∧ step.gate = some c) start
        (Runner.runParts hooks polling sequence) :=
      Runner.runParts_inquires (fun c valid => .inl (c.validate_iff.2 valid))
        fun step held gate gated undecided => .inr ⟨undecided, step, held, gated⟩
    obtain ⟨asked, asks⟩ := Runner.Inquires.after inquires start
    rcases parts : Runner.runParts hooks polling sequence start with ⟨ended, after⟩
    rw [parts] at asks
    rw [execute_of_parts epoch parts]
    exact ⟨asked, asks.told, fun _ records => asks.heard records, asks.allowed⟩
  · intro undecided evaluates patient step gate gated run going
    obtain ⟨evaluator, evaluates⟩ := Option.isSome_iff_exists.1 evaluates
    exact Runner.passGate_asks gated undecided evaluates patient going

/-- An evaluator that remembers what it was called with, and finds everything in place. -/
def listener : Hooks (List Condition) where
  command _ heard := { answer := .ok (), world := heard }
  condition := some fun condition heard => { answer := .ok true, world := heard ++ [condition] }
  rest _ heard := { world := heard }
  random heard := (0, heard)

theorem listener_records : listener.Records fun heard => heard where
  condition given condition world := by
    cases given
    rfl
  command _ _ := rfl
  gate given := by cases given
  rest _ _ := rfl
  random _ := rfl

/-- A knock behind a gate whose target is blank, if there is a door. -/
def sentryBlock : Json :=
  .object [("type", .str "ifElse"),
    ("condition", .object [("source", .str "image"), ("targetId", .str "door")]),
    ("steps", .arr [.object [("commandId", .str "knock"),
      ("gate", .object [("source", .str "text"), ("targetId", .str "")])]])]

/-- Another such gate at the top, and the block. -/
def sentry : Sequence :=
  { id := "sentry"
    steps := [{ commandId := "enter", gate := some { source := .image, targetId := " " } }]
    blocks := [sentryBlock] }

theorem read_sentry : Sequence.read .json (.ofJson (.object [("id", .str "sentry"),
    ("steps", .arr [.object [("commandId", .str "enter"),
      ("gate", .object [("source", .str "image"), ("targetId", .str " ")])]]),
    ("blocks", .arr [sentryBlock])])) = .ok sentry := rfl

theorem sentry_heard :
    (sentry.execute listener { patience := 1 } ⟨0, 0⟩ { world := [] }).2.world.map (·.targetId) =
      [" ", "door", ""] := by decide +kernel

/-- A sequence that decodes can have the evaluator called with blank gates, at the top and in a block. -/
theorem blank_gates_asked :
    (∃ record, Sequence.read .json (.ofJson record) = .ok sentry) ∧
      listener.Records (fun heard => heard) ∧
      (sentry.execute listener { patience := 1 } ⟨0, 0⟩ { world := [] }).2.world.map
          (fun c => c.validate) =
        [.error (.invalid "targetId is empty"), .ok (), .error (.invalid "targetId is empty")] := by
  refine ⟨⟨_, read_sentry⟩, listener_records, ?_⟩
  decide +kernel

/-- What the sentry asks for is what the evaluator hears: two gates, and a valid condition. -/
theorem execute_questions_sentry :
    let run := (sentry.execute listener { patience := 1 } ⟨0, 0⟩ { world := [] }).2
    run.asked = run.world ∧ run.world.map (·.targetId) = [" ", "door", ""] ∧
      (∀ c ∈ run.world, c.validate = .ok () ∨ ∃ step, sentry.Holds step ∧ step.gate = some c) ∧
      ∀ step ∈ sentry.steps, ∀ gate ∈ step.gate, ∃ more,
        (Runner.passGate listener { patience := 1 } step { world := [] }).2.asked = gate :: more := by
  obtain ⟨⟨asked, told, heard, allowed⟩, gates⟩ :=
    execute_questions sentry listener { patience := 1 } ⟨0, 0⟩ { world := [] }
  have heard := heard _ listener_records
  have told := told.trans (List.nil_append _)
  rw [List.nil_append] at heard
  refine ⟨told.trans heard.symm, sentry_heard, ?_, ?_⟩
  · rw [heard]
    exact fun c member => (allowed c member).imp_right And.right
  · intro step _ gate gated
    exact gates rfl rfl Nat.one_ne_zero step gate gated { world := [] } rfl

end Sequence

end Autopilot
