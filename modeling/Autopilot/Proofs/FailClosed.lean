import Autopilot.Proofs.Rehearsal.Darkness
import Autopilot.Proofs.Sequence.Blindness
import Autopilot.Proofs.Sequence.Cancellation
import Autopilot.Proofs.Service

/-!
The service fails closed. It cannot measure anything, and whatever depends on a measurement does
not happen: no gate opens, no block that asks for a condition gets to its items, and no trigger on
the screen fires. A run accounts for this by the steps that it came to, each with what its command
sent and with its result.
-/

namespace Autopilot

open Rehearsal Rehearsal.World Runner

/-- Acts that concern a step and its command. -/
def Act.isVisit : Act → Bool
  | .step _ | .commandCalled _ => true
  | _ => false

/-- A step that a run came to: the batches that its command sent, if it was called, and its result,
unless the run was cancelled before. -/
structure Visit where
  step : Step
  sent : Option (List (List Input))
  result : Option StepResult

namespace Visit

def batches (visit : Visit) : List (List Input) := visit.sent.getD []

/-- What the journal tells of a visit. -/
def acts (visit : Visit) : List Act :=
  .step visit.step.commandId ::
    if visit.sent.isSome then [.commandCalled visit.step.commandId] else []

/-- Nothing was done behind a closed gate, nor behind a trigger on the screen, if triggers matter. -/
structure FailsClosed (config : Config) (exposes : Step → Prop) (respectTriggers : Bool)
    (visit : Visit) : Prop where
  exposed : exposes visit.step
  told : ∀ result, visit.result = some result →
    result.commandId = visit.step.commandId ∧ result.order = visit.step.order
  shut : visit.step.gate.isSome →
    visit.sent = none ∧ ∀ result, visit.result = some result → result.status = .failed
  mute : respectTriggers = true → config.WaitsForScreen visit.step.commandId → visit.batches = []

end Visit

/-- Some visits account for what a run has begun, called, reported and sent, and it is still dark. -/
structure Run.Visited (config : Config) (sessionId : String) (before : World)
    (visits : List Visit) (run : Run World) : Prop where
  acts : run.acts.filter Act.isVisit = visits.flatMap Visit.acts
  steps : run.steps.toList = visits.filterMap Visit.result
  delivers : Delivers config sessionId before (visits.flatMap Visit.batches) run.world
  dark : run.world.Dark config

/-- The steps that a run came to have failed closed, and each has its result. -/
def Run.Closed (config : Config) (sessionId : String) (exposes : Step → Prop)
    (respectTriggers : Bool) (before : World) (run : Run World) : Prop :=
  ∃ visits, run.Visited config sessionId before visits ∧
    ∀ visit ∈ visits, visit.FailsClosed config exposes respectTriggers ∧ visit.result.isSome

/-- A run is cut off by a cancellation only. The last step may have no result then. -/
def Run.ClosedEarly (config : Config) (sessionId : String) (exposes : Step → Prop)
    (respectTriggers : Bool) (before : World) (halt : Halt) (run : Run World) : Prop :=
  halt = .failed .cancelled ∧ ∃ visits, run.Visited config sessionId before visits ∧
    (∀ visit ∈ visits, visit.FailsClosed config exposes respectTriggers) ∧
    ∀ visit ∈ visits.dropLast, visit.result.isSome

/-- An invariant of dark runs that does not look at what they do quietly besides visiting steps. -/
structure Run.Aloof (config : Config) (I : Run World → Prop) : Prop where
  dark : ∀ run, I run → run.world.Dark config
  noted : ∀ run {act : Act}, I run → act.isVisit = false → I (run.noted act)
  quiet : ∀ (run : Run World) {α : Type} {act : StateM World α} (now : Nat) (cancelled : Bool),
    I run → Quiet act → Maintains (fun w => w.Dark config) act →
    I { run with world := (act run.world).2, now, cancelled }

/-- The hooks of a session fail at every condition. -/
theorem sessionHooks_blind (config : Config) (sessionId : String) (respectTriggers : Bool) :
    (sessionHooks sessionId respectTriggers true).Blind fun w => w.Dark config where
  undecided := rfl
  evaluates := rfl
  fails given condition w dark := by
    cases Option.some.inj given
    exact ⟨_, congrArg Prod.fst (dark.holds condition)⟩
  asks given condition w dark := by
    cases Option.some.inj given
    exact ((Dark.upkeep config).holds condition w dark).2
  rests ms w dark := (Dark.upkeep config).rest ms w dark
  draws w dark := (Dark.upkeep config).drawSeed w dark
  calls id w dark := commandOn_dark sessionId respectTriggers id w dark

section Visited

variable {config : Config} {sessionId : String} {exposes : Step → Prop} {respectTriggers : Bool}
  {before : World} {visits : List Visit} {run : Run World} {step : Step} {polling : Polling}

namespace Run.Visited

theorem aloof (config : Config) (sessionId : String) (before : World) (visits : List Visit) :
    Aloof config (Run.Visited config sessionId before visits) where
  dark _ visited := visited.dark
  noted run act visited aside := by
    refine ⟨?_, visited.steps, visited.delivers, visited.dark⟩
    rw [Run.acts_noted, List.filter_append, visited.acts, List.filter_cons_of_neg (by simp [aside]),
      List.filter_nil, List.append_nil]
  quiet run _ act _ _ visited quiet stays := by
    have later := visited.delivers.trans (quiet.delivers visited.delivers.serves sessionId)
    rw [List.append_nil] at later
    exact ⟨visited.acts, visited.steps, later, stays run.world visited.dark⟩

/-- A step that begins is a visit without a command and a result. -/
theorem begun (visited : run.Visited config sessionId before visits) (step : Step) :
    (run.noted (.step step.commandId)).Visited config sessionId before
      (visits ++ [⟨step, none, none⟩]) where
  acts := by
    rw [Run.acts_noted, List.filter_append, visited.acts, List.flatMap_append]
    rfl
  steps := by
    rw [List.filterMap_append]
    exact visited.steps.trans (List.append_nil _).symm
  delivers := by
    rw [List.flatMap_append]
    exact (List.append_nil (visits.flatMap Visit.batches)).symm ▸ visited.delivers
  dark := visited.dark

theorem reported {sent : Option (List (List Input))}
    (visited : run.Visited config sessionId before (visits ++ [⟨step, sent, none⟩]))
    (result : StepResult) :
    (run.reported result).Visited config sessionId before
      (visits ++ [⟨step, sent, some result⟩]) where
  acts := by
    have acts := visited.acts
    rw [List.flatMap_append] at acts ⊢
    exact acts
  steps := by
    have steps := visited.steps
    rw [List.filterMap_append] at steps ⊢
    simp only [Run.reported, Array.toList_push, steps, List.filterMap_cons, List.filterMap_nil,
      List.append_nil]
  delivers := by
    have delivers := visited.delivers
    rw [List.flatMap_append] at delivers ⊢
    exact delivers
  dark := visited.dark

end Run.Visited

/-- The command of the step that is visited has been called. -/
theorem Run.Visited.called
    (visited : run.Visited config sessionId before (visits ++ [⟨step, none, none⟩]))
    {batches : List (List Input)} {reply : Reply World (Except RunError Unit)}
    (delivers : Delivers config sessionId run.world batches reply.world)
    (dark : reply.world.Dark config) (answer : Except RunError Unit) :
    (run.consulted (.commandCalled step.commandId) reply (.commandAnswered answer)).Visited config
      sessionId before (visits ++ [⟨step, some batches, none⟩]) where
  acts := by
    have acts := visited.acts
    rw [List.flatMap_append] at acts ⊢
    simp only [Run.consulted, Run.acts_noted, Run.acts_replied, List.filter_append, acts,
      List.append_assoc]
    rfl
  steps := by
    have steps := visited.steps
    rw [List.filterMap_append] at steps ⊢
    exact steps
  delivers := by
    have later := visited.delivers.trans delivers
    rw [List.flatMap_append] at later ⊢
    change Delivers config sessionId before (visits.flatMap Visit.batches ++ [] ++ batches) _ at later
    change Delivers config sessionId before (visits.flatMap Visit.batches ++ (batches ++ [])) _
    rwa [List.append_nil] at later ⊢
  dark := dark

theorem Run.Closed.early (closed : run.Closed config sessionId exposes respectTriggers before) :
    run.ClosedEarly config sessionId exposes respectTriggers before (.failed .cancelled) := by
  obtain ⟨visits, visited, fine⟩ := closed
  refine ⟨rfl, visits, visited, fun visit member => (fine visit member).1, fun visit member => ?_⟩
  exact (fine visit (List.mem_of_mem_dropLast member)).2

theorem Run.Closed.aloof (config : Config) (sessionId : String) (exposes : Step → Prop)
    (respectTriggers : Bool) (before : World) :
    Aloof config (Run.Closed config sessionId exposes respectTriggers before) where
  dark := fun _ ⟨_, visited, _⟩ => visited.dark
  noted := fun run _ ⟨visits, visited, settled⟩ aside =>
    ⟨visits, (Visited.aloof config sessionId before visits).noted run visited aside, settled⟩
  quiet := fun run _ _ now cancelled ⟨visits, visited, settled⟩ quiet stays =>
    ⟨visits, (Visited.aloof config sessionId before visits).quiet run now cancelled visited quiet
      stays, settled⟩

section Aloof

variable {I : Run World → Prop} {cut : Halt → Run World → Prop} (aloof : Run.Aloof config I)

include aloof

theorem pause_aloof (stopped : ∀ run, I run → cut (.failed .cancelled) run) (ms : Nat) :
    Leads I (pause (sessionHooks sessionId respectTriggers true) ms) (fun _ => I)
      (fun halt run => halt.settled? = none ∧ cut halt run) := by
  intro run holds
  have rested (now : Nat) (cancelled : Bool) :
      I { run with world := (World.rest ms run.world).2, now, cancelled } :=
    aloof.quiet run now cancelled holds (rest_quiet ms) ((Dark.upkeep config).rest ms)
  rcases pause_cases (sessionHooks sessionId respectTriggers true) ms run with
    ⟨_, same⟩ | ⟨_, _, same⟩ | ⟨_, _, _, same⟩ | ⟨_, _, same⟩
  all_goals rw [same]
  · exact ⟨rfl, stopped _ holds⟩
  · exact holds
  · exact ⟨rfl, stopped _ (rested _ _)⟩
  · exact aloof.noted _ (rested _ _) rfl

/-- Asking for a condition fails, and no run is cut off there. -/
theorem evaluate_aloof
    {evaluator : Condition → World → Reply World (Except ConditionError Bool)}
    (given : (sessionHooks sessionId respectTriggers true).condition = some evaluator)
    (condition : Condition) :
    Leads I (evaluate evaluator condition) (fun _ _ => False) (Halting I cut) := by
  cases Option.some.inj given
  have fails {run : Run World} (holds : I run) :
      (World.holds condition run.world).1 = .error (unavailable condition) :=
    congrArg Prod.fst ((aloof.dark run holds).holds condition)
  apply ask_leads
  · intro run value holds answered
    cases answered.symm.trans (fails holds)
  · intro run error holds answered
    have replied : I ((run.noted (.conditionAsked condition)).replied
        (reply (World.holds condition) run.world)) :=
      aloof.quiet _ _ _ (aloof.noted run holds rfl) (holds_quiet condition)
        fun w dark => ((Dark.upkeep config).holds condition w dark).2
    cases Except.error.inj (answered.symm.trans (fails holds))
    exact .of_failed nofun (aloof.noted _ replied rfl)

end Aloof

/-! ## Steps -/

variable (config sessionId exposes respectTriggers before) in
/-- All visits have failed closed and have their results. -/
def Visit.Settled (visits : List Visit) : Prop :=
  ∀ visit ∈ visits, visit.FailsClosed config exposes respectTriggers ∧ visit.result.isSome

theorem Run.Visited.closed {visit : Visit}
    (visited : run.Visited config sessionId before (visits ++ [visit]))
    (settled : Visit.Settled config exposes respectTriggers visits)
    (closed : visit.FailsClosed config exposes respectTriggers) (ended : visit.result.isSome) :
    run.Closed config sessionId exposes respectTriggers before :=
  ⟨_, visited, List.forall_mem_append.2 ⟨settled, List.forall_mem_singleton.2 ⟨closed, ended⟩⟩⟩

theorem Run.Visited.early {visit : Visit}
    (visited : run.Visited config sessionId before (visits ++ [visit]))
    (settled : Visit.Settled config exposes respectTriggers visits)
    (closed : visit.FailsClosed config exposes respectTriggers) :
    run.ClosedEarly config sessionId exposes respectTriggers before (.failed .cancelled) := by
  refine ⟨rfl, _, visited, List.forall_mem_append.2 ⟨fun other member => (settled other member).1,
    List.forall_mem_singleton.2 closed⟩, ?_⟩
  rw [List.dropLast_concat]
  exact fun other member => (settled other member).2

/-- A step that has only begun has done nothing. -/
theorem Visit.failsClosed_begun (exposed : exposes step) :
    Visit.FailsClosed config exposes respectTriggers ⟨step, none, none⟩ :=
  ⟨exposed, nofun, fun _ => ⟨rfl, nofun⟩, fun _ _ => rfl⟩

/-- The command of a step sends something, but nothing behind a trigger on the screen. -/
theorem callCommand_visits :
    Leads (Run.Visited config sessionId before (visits ++ [⟨step, none, none⟩]))
      (callCommand (sessionHooks sessionId respectTriggers true) step)
      (fun _ run => ∃ batches, run.Visited config sessionId before
          (visits ++ [⟨step, some batches, none⟩]) ∧
        (respectTriggers = true → config.WaitsForScreen step.commandId → batches = []))
      (fun halt run => (∃ error, halt = .failed error) ∧ ∃ batches,
        run.Visited config sessionId before (visits ++ [⟨step, some batches, none⟩]) ∧
          (respectTriggers = true → config.WaitsForScreen step.commandId → batches = [])) := by
  have called {run : Run World} (answer : Except RunError Unit)
      (visited : run.Visited config sessionId before (visits ++ [⟨step, none, none⟩])) :
      ∃ batches, (run.consulted (.commandCalled step.commandId)
          (reply (World.commandOn sessionId respectTriggers step.commandId) run.world)
          (.commandAnswered answer)).Visited config sessionId before
            (visits ++ [⟨step, some batches, none⟩]) ∧
        (respectTriggers = true → config.WaitsForScreen step.commandId → batches = []) := by
    have serves := visited.delivers.serves
    have dark := commandOn_dark sessionId respectTriggers step.commandId run.world visited.dark
    by_cases mute : respectTriggers = true ∧ config.WaitsForScreen step.commandId
    · obtain ⟨rfl, waits⟩ := mute
      have quiet := visited.dark.commandOn serves.watches sessionId waits
      exact ⟨[], visited.called (quiet.delivers serves sessionId) dark answer, fun _ _ => rfl⟩
    · obtain ⟨batches, delivers, _⟩ := serves.commandOn sessionId respectTriggers step.commandId
      exact ⟨batches, visited.called delivers dark answer, fun matters waits =>
        absurd ⟨matters, waits⟩ mute⟩
  apply ask_leads
  · exact fun run value visited _ => called _ visited
  · exact fun run error visited _ => ⟨⟨error, rfl⟩, called _ visited⟩

theorem performStep_closed (patient : polling.patience ≠ 0) (exposed : exposes step)
    (settled : Visit.Settled config exposes respectTriggers visits) (delayMs : Nat) :
    Leads (Run.Visited config sessionId before (visits ++ [⟨step, none, none⟩]))
      (performStep (sessionHooks sessionId respectTriggers true) polling step delayMs)
      (fun result run => (run.reported result).Closed config sessionId exposes respectTriggers before)
      (Halting (Run.Closed config sessionId exposes respectTriggers before)
        (Run.ClosedEarly config sessionId exposes respectTriggers before)) := by
  have stopped (run : Run World)
      (visited : run.Visited config sessionId before (visits ++ [⟨step, none, none⟩])) :
      run.ClosedEarly config sessionId exposes respectTriggers before (.failed .cancelled) :=
    visited.early settled (Visit.failsClosed_begun exposed)
  cases gated : step.gate with
  | some gate =>
    have shut := passGate_fails (sessionHooks_blind config sessionId respectTriggers) gated patient
      (fun run visited _ => Halting.of_cut rfl (stopped run visited))
      fun given => evaluate_aloof (Run.Visited.aloof config sessionId before _) given gate
    apply (shut.attempt_final.weaken (fun _ visited => visited) (fun _ _ told => told)
      fun _ _ halted => .of_cut halted.1 (halted.2.cut halted.1)).bind
    intro passed
    cases passed with
    | ok _ => exact fun _ never => never.elim
    | error error =>
      intro run ⟨final, halting⟩
      have visited := Halting.of_settled final halting
      refine (visited.reported _).closed settled ⟨exposed, ?_, fun _ => ⟨rfl, ?_⟩, fun _ _ => rfl⟩ rfl
      · rintro result ⟨⟩
        exact ⟨rfl, rfl⟩
      · rintro result ⟨⟩
        rfl
  | none =>
    have ungated : ¬step.gate.isSome := by
      rw [gated]
      exact Bool.false_ne_true
    have passes : Leads (Run.Visited config sessionId before (visits ++ [⟨step, none, none⟩]))
        (attempt (passGate (sessionHooks sessionId respectTriggers true) polling step))
        (fun passed run => passed = .ok () ∧
          run.Visited config sessionId before (visits ++ [⟨step, none, none⟩]))
        (Halting (Run.Closed config sessionId exposes respectTriggers before)
          (Run.ClosedEarly config sessionId exposes respectTriggers before)) := by
      unfold passGate
      rw [gated]
      exact fun _ visited => ⟨rfl, visited⟩
    apply passes.bind
    rintro _ run ⟨rfl, visited⟩
    refine Leads.bind (callCommand_visits.attempt_final.weaken (fun _ visited => visited)
      (fun _ _ told => told) ?_) ?_ run visited
    · rintro _ run ⟨final, ⟨error, rfl⟩, batches, visited, mute⟩
      rcases Halt.settled_eq_none final with same | same
      · rw [same]
        exact .of_cut rfl (visited.early settled
          ⟨exposed, nofun, fun gated => absurd gated ungated, mute⟩)
      · cases same
    · have ends {run : Run World} {batches : List (List Input)} {result : StepResult}
          (visited : run.Visited config sessionId before (visits ++ [⟨step, some batches, none⟩]))
          (mute : respectTriggers = true → config.WaitsForScreen step.commandId → batches = [])
          (told : result.commandId = step.commandId ∧ result.order = step.order) :
          (run.reported result).Closed config sessionId exposes respectTriggers before := by
        refine (visited.reported result).closed settled
          ⟨exposed, ?_, fun gated => absurd gated ungated, mute⟩ rfl
        rintro _ ⟨⟩
        exact told
      intro called
      cases called with
      | ok _ => exact fun run ⟨batches, visited, mute⟩ => ends visited mute ⟨rfl, rfl⟩
      | error error => exact fun run ⟨_, _, batches, visited, mute⟩ => ends visited mute ⟨rfl, rfl⟩

theorem runStep_closed (patient : polling.patience ≠ 0) (exposed : exposes step) :
    Leads (Run.Closed config sessionId exposes respectTriggers before)
      (runStep (sessionHooks sessionId respectTriggers true) polling step)
      (fun result run => (run.reported result).Closed config sessionId exposes respectTriggers before)
      (Halting (Run.Closed config sessionId exposes respectTriggers before)
        (Run.ClosedEarly config sessionId exposes respectTriggers before)) := by
  intro run ⟨visits, visited, settled⟩
  have aloof := Run.Visited.aloof config sessionId before (visits ++ [⟨step, none, none⟩])
  have slept (ms : Nat) : Leads (Run.Visited config sessionId before (visits ++ [⟨step, none, none⟩]))
      (pause (sessionHooks sessionId respectTriggers true) ms) _ _ :=
    pause_aloof aloof (fun _ visited => visited.early settled (Visit.failsClosed_begun exposed)) ms
  refine runStep_leads_by (P := Run.Visited config sessionId before visits) ?_ ?_ ?_
    (fun ms => (slept ms).weaken (fun _ visited => visited) (fun _ _ visited => visited)
      fun _ _ halted => .of_cut halted.1 halted.2)
    (performStep_closed patient exposed settled) run visited
  · exact fun run visited _ => .of_cut rfl (Run.Closed.early ⟨visits, visited, settled⟩)
  · exact fun run visited _ => visited.begun step
  · intro run visited
    unfold drawDelay
    cases step.delayRange with
    | none => exact visited
    | some range =>
      exact aloof.quiet run run.now run.cancelled visited draw_quiet (Dark.upkeep config).drawSeed

/-! ## Whole runs -/

theorem runBlock_closed (patient : polling.patience ≠ 0) (record : Datum)
    (exposed : ∀ step, Block.Exposes record step → exposes step) :
    Keeps (Run.Closed config sessionId exposes respectTriggers before)
      (Run.ClosedEarly config sessionId exposes respectTriggers before)
      (runBlock (sessionHooks sessionId respectTriggers true) polling record) := by
  have aloof := Run.Closed.aloof config sessionId exposes respectTriggers before
  apply runBlock_keeps_exposed (sessionHooks_blind config sessionId respectTriggers) aloof.dark
  · exact fun run tally blocks ⟨visits, visited, settled⟩ =>
      ⟨visits, ⟨visited.acts, visited.steps, visited.delivers, visited.dark⟩, settled⟩
  · exact fun _ closed _ => closed.early
  · exact fun ms => (pause_aloof aloof (fun _ => Run.Closed.early) ms).weaken
      (fun _ closed => closed) (fun _ _ closed => closed) fun _ _ halted => .of_cut halted.1 halted.2
  · exact fun given condition => (evaluate_aloof aloof given condition).weaken
      (fun _ closed => closed) (fun _ _ never => never.elim) fun _ _ halting => halting
  · exact fun run closed _ => aloof.noted run closed rfl
  · exact fun run closed _ => aloof.noted run closed rfl
  · exact fun step held => runStep_closed patient (exposed step held)

theorem runParts_closed (patient : polling.patience ≠ 0) (sequence : Sequence) :
    Keeps (Run.Closed config sessionId sequence.Exposes respectTriggers before)
      (Run.ClosedEarly config sessionId sequence.Exposes respectTriggers before)
      (runParts (sessionHooks sessionId respectTriggers true) polling sequence) := by
  apply Leads.bind (runSteps_keeps fun step member =>
    runStep_closed patient (.inl (List.mem_mergeSort.1 member)))
  intro failure
  cases failure with
  | some error => exact pure_keeps _
  | none =>
    apply runBlocks_keeps (fun _ closed _ => closed.early)
    · exact fun run closed _ => (Run.Closed.aloof config sessionId sequence.Exposes respectTriggers
        before).noted run closed rfl
    · intro record member
      apply runBlock_closed patient
      intro step held
      obtain ⟨block, listed, rfl⟩ := List.mem_map.1 member
      exact .inr ⟨block, listed, held⟩

end Visited

/-- How the visits of a run account for its outcome: one that ends has a result for each, and one
that does not end was cancelled, at the last of them at most. -/
structure Visit.Accounts (visits : List Visit) (outcome : Except Halt RunResult)
    (run : Run World) : Prop where
  ended : ∀ result, outcome = .ok result →
    result.steps = run.steps.toList ∧ ∀ visit ∈ visits, visit.result.isSome
  cancelled : ∀ halt, outcome = .error halt →
    halt = .failed .cancelled ∧ ∀ visit ∈ visits.dropLast, visit.result.isSome

theorem Sequence.execute_closed {config : Config} {w : World} (serves : w.Serves config)
    (dark : w.Dark config) (sequence : Sequence) (sessionId : String) (respectTriggers : Bool)
    {polling : Polling} (patient : polling.patience ≠ 0) (epoch : Instant) (now : Nat)
    (cancelled : Bool) {outcome : Except Halt RunResult} {run : Run World}
    (ended : sequence.execute (sessionHooks sessionId respectTriggers true) polling epoch
      { world := w, now, cancelled } = (outcome, run)) :
    ∃ visits, run.Visited config sessionId w visits ∧ Visit.Accounts visits outcome run ∧
      ∀ visit ∈ visits, visit.FailsClosed config sequence.Exposes respectTriggers := by
  have start : ({ world := w, now, cancelled } : Run World).Closed config sessionId
      sequence.Exposes respectTriggers w :=
    ⟨[], ⟨rfl, rfl, serves.delivers sessionId, dark⟩, List.forall_mem_nil _⟩
  rcases parts : runParts (sessionHooks sessionId respectTriggers true) polling sequence
    { world := w, now, cancelled } with ⟨halt | failure, final⟩
  · rw [sequence.execute_of_parts epoch parts] at ended
    cases ended
    have settled := runParts_settled _ _ sequence _ _ _ parts
    obtain ⟨rfl, visits, visited, closed, results⟩ :=
      ((runParts_closed patient sequence).halted start parts).cut settled
    exact ⟨visits, visited, ⟨nofun, fun halt same => ⟨(Except.error.inj same).symm, results⟩⟩, closed⟩
  · rw [sequence.execute_of_parts epoch parts] at ended
    cases ended
    obtain ⟨visits, visited, settled⟩ := (runParts_closed patient sequence).ended start parts
    refine ⟨visits, visited, ⟨?_, nofun⟩, fun visit member => (settled visit member).1⟩
    rintro result ⟨⟩
    exact ⟨rfl, fun visit member => (settled visit member).2⟩

namespace Service

/-- The run of a stored sequence, with all that it leaves behind. -/
def execution (sessionId sequenceId : String) (respectTriggers : Bool) (w : World) :
    Except Halt RunResult × Run World :=
  Sequence.executeStored w.sequences sequenceId (sessionHooks sessionId respectTriggers true)
    ⟨100, patience⟩ w.time { world := w, now := w.clock, cancelled := w.isCancelled w.token }

theorem runSequence_execution (sessionId sequenceId : String) (respectTriggers : Bool) (w : World) :
    runSequence sessionId sequenceId respectTriggers w =
      ((execution sessionId sequenceId respectTriggers w).1.mapError fun cause =>
        ⟨sequenceId, sessionId, cause⟩, (execution sessionId sequenceId respectTriggers w).2.world) :=
  rfl

section Reached

variable {config : Config} {w : World}

/-- What a run of a sequence has come to, in a dark world. -/
theorem execution_closed (serves : w.Serves config) (dark : w.Dark config)
    (sessionId sequenceId : String) (respectTriggers : Bool) {outcome : Except Halt RunResult}
    {run : Run World} (ended : execution sessionId sequenceId respectTriggers w = (outcome, run)) :
    ∃ visits, run.Visited config sessionId w visits ∧ Visit.Accounts visits outcome run ∧
      ∀ visit ∈ visits, visit.FailsClosed config (fun step => ∀ sequence,
        (Shelf.ofList config.sequences).get? sequenceId = some sequence → sequence.Exposes step)
        respectTriggers := by
  have got : w.sequences.get sequenceId =
      .ok ((Shelf.ofList config.sequences).get? sequenceId) := by
    rw [dark.sequences]
    rfl
  unfold execution Sequence.executeStored at ended
  rw [got] at ended
  cases stored : (Shelf.ofList config.sequences).get? sequenceId with
  | none =>
    rw [stored] at ended
    cases ended
    refine ⟨[], ⟨rfl, rfl, serves.delivers sessionId, dark⟩, ⟨?_, nofun⟩, List.forall_mem_nil _⟩
    rintro result ⟨⟩
    exact ⟨rfl, List.forall_mem_nil _⟩
  | some sequence =>
    rw [stored] at ended
    have patient : patience ≠ 0 := by decide
    obtain ⟨visits, visited, accounts, closed⟩ := sequence.execute_closed serves dark sessionId
      respectTriggers patient _ _ _ ended
    refine ⟨visits, visited, accounts, fun visit member => ?_⟩
    have known := closed visit member
    refine ⟨?_, known.told, known.shut, known.mute⟩
    rintro _ ⟨⟩
    exact known.exposed

theorem start_dark : Maintains (fun w => w.Dark config) start := by
  apply Maintains.get_bind
  intro w dark
  exact Maintains.ite ((Dark.upkeep config).startLoop.bind fun _ => .pure true) (.pure false) w dark

theorem metrics_dark : Maintains (fun w => w.Dark config) metrics := by
  apply Maintains.get_bind
  intro w dark
  exact Maintains.ite ((Dark.upkeep config).usePoller.bind fun _ => .pure _) (.pure _) w dark

/-- The world of a service is dark at all times. -/
theorem Reached.dark (reached : Reached config w) : w.Dark config := by
  induction reached with
  | begun time flows seed => exact dark_ofConfig config time flows seed
  | ran reached sessionId sequenceId respectTriggers dark =>
    obtain ⟨_, visited, _⟩ :=
      execution_closed reached.sound.serves dark sessionId sequenceId respectTriggers rfl
    exact visited.dark
  | started _ dark => exact start_dark _ dark
  | stopped _ dark => exact (Dark.upkeep config).stop _ dark
  | slept _ ms dark => exact (Dark.upkeep config).sleep ms _ dark
  | cancelled _ token dark => exact (Dark.upkeep config).cancel token _ dark
  | planned _ id wakeAt token dark =>
    have abides : Work.Abides config.terms .cancel := trivial
    exact (Dark.upkeep config).schedule id wakeAt token abides _ dark
  | renewed _ dark => exact (Dark.upkeep config).renewToken _ dark
  | counted _ dark => exact metrics_dark _ dark

/-- Every trigger of a configuration that is on the screen is still there. It fired last when it
had fired before the start, and no verdict since then found it satisfied. -/
def KeepsFirings (config : Config) (w : World) : Prop :=
  ∀ id before, (Shelf.ofList config.triggers).get? id = some before → before.kind.isTimed = false →
    ∃ t, w.triggers.get id = .ok (some t) ∧ t.kind = before.kind ∧
      t.lastFiredAt = before.lastFiredAt ∧
      (t.lastVerdict = before.lastVerdict ∨ ∃ v, t.lastVerdict = some v ∧ v.status ≠ .satisfied)

theorem keepsFirings_of_dark (dark : w.Dark config) : KeepsFirings config w := by
  intro id before known screen
  have there := dark.stays id (Option.isSome_of_eq_some known)
  obtain ⟨t, found⟩ := Option.isSome_iff_exists.1 there
  obtain ⟨member, rfl⟩ := (w.triggers.shelf.get?_eq_some_iff id t).1 found
  obtain ⟨same, stored, unfired⟩ := dark.unfired t member
  obtain rfl : before = same := Option.some.inj (known.symm.trans stored)
  have onScreen : t.kind.isTimed = false := unfired.kind ▸ screen
  refine ⟨t, ?_, unfired.kind, unfired.lastFiredAt onScreen, unfired.lastVerdict onScreen⟩
  unfold Store.get Store.allow
  rw [dark.accepts, found]
  rfl

end Reached

/-- Whatever the service has done before, and however long its poller has run: a run that comes to
a step with a gate does not call its command, and reports that it failed, unless it is cancelled at
this step. How the items of blocks that ask for a condition first would be run makes no difference.
No trigger on the screen is ever found satisfied, and where triggers matter, the commands that wait
for one send nothing. -/
theorem runSequence_failsClosed (config : Config) {w : World} (reached : Reached config w)
    (sessionId sequenceId : String) (respectTriggers : Bool) :
    ∃ outcome run, ∃ visits : List Visit,
      execution sessionId sequenceId respectTriggers w = (outcome, run) ∧
      runSequence sessionId sequenceId respectTriggers w =
        (outcome.mapError fun cause => ⟨sequenceId, sessionId, cause⟩, run.world) ∧
      run.acts.filter Act.isVisit = visits.flatMap Visit.acts ∧
      run.steps.toList = visits.filterMap Visit.result ∧
      run.world.sends =
        w.sends ++ (visits.flatMap Visit.batches).map (fun inputs => (sessionId, inputs)) ∧
      Visit.Accounts visits outcome run ∧
      (∀ visit ∈ visits, ∀ result, visit.result = some result →
        result.commandId = visit.step.commandId ∧ result.order = visit.step.order) ∧
      (∀ visit ∈ visits, visit.step.gate.isSome → visit.sent = none ∧
        ∀ result, visit.result = some result → result.status = .failed) ∧
      (∀ visit ∈ visits, respectTriggers = true → config.WaitsForScreen visit.step.commandId →
        visit.batches = []) ∧
      (∀ sequence, (Shelf.ofList config.sequences).get? sequenceId = some sequence →
        (∀ visit ∈ visits, sequence.Exposes visit.step) ∧
        ∀ enter, runPartsWith (sessionHooks sessionId respectTriggers true) ⟨100, patience⟩ enter
            sequence { world := w, now := w.clock, cancelled := w.isCancelled w.token } =
          runParts (sessionHooks sessionId respectTriggers true) ⟨100, patience⟩
            sequence { world := w, now := w.clock, cancelled := w.isCancelled w.token }) ∧
      KeepsFirings config w ∧ KeepsFirings config run.world ∧
      ∀ t now e, t.kind.isTimed = false → (World.perform (w.engine.evaluate t now) w).1 = .ok e →
        e.status ≠ .satisfied := by
  have serves := reached.sound.serves
  have dark := reached.dark
  rcases ended : execution sessionId sequenceId respectTriggers w with ⟨outcome, run⟩
  obtain ⟨visits, visited, accounts, closed⟩ :=
    execution_closed serves dark sessionId sequenceId respectTriggers ended
  refine ⟨outcome, run, visits, rfl, ?_, visited.acts, visited.steps, visited.delivers.sends,
    accounts, fun visit member => (closed visit member).told,
    fun visit member => (closed visit member).shut, fun visit member => (closed visit member).mute,
    fun sequence stored => ⟨fun visit member => (closed visit member).exposed sequence stored,
      fun enter => ?_⟩, keepsFirings_of_dark dark, keepsFirings_of_dark visited.dark, ?_⟩
  · rw [runSequence_execution, ended]
  · have agrees : Agree (fun w => w.Dark config) fun enter =>
        runPartsWith (sessionHooks sessionId respectTriggers true) ⟨100, patience⟩ enter sequence :=
      runPartsWith_agrees (sessionHooks_blind config sessionId respectTriggers) sequence
    obtain ⟨_, same⟩ := agrees enter
      { world := w, now := w.clock, cancelled := w.isCancelled w.token } dark
    exact (same (runItem _ _)).trans (congrFun (runPartsWith_runItem sequence) _)
  · intro t now e screen judged
    have abides : (w.engine.evaluate t now).Abides config.terms (fun _ _ => False)
        fun e => t.kind.isTimed = false → e.status ≠ .satisfied := w.engine.evaluate_abides t now
    exact ((Dark.upkeep config).run (fun _ _ runs => runs.elim) abides w dark).1 e judged screen

/-- A lamp that is never seen, a command that waits for it, and a sequence with a gate. -/
def unlit : Config where
  sessions := ["door"]
  triggers := [{ id := "lamp", kind := .imageMatch { targetId := "lamp" } }]
  actions := [{ id := "knock", inputs := [.press "K"] }]
  commands := [.ofSteps "open" [⟨.action "knock", 0⟩],
    (Command.ofSteps "greet" [⟨.action "knock", 0⟩]).withTrigger "lamp"]
  sequences := [{
    id := "visit"
    steps := [{ commandId := "greet" },
      { commandId := "open", order := 1, gate := some { source := .text, targetId := "welcome" } }] }]

/-- Nothing is sent: the first command waits for the lamp, and the second step has a gate. -/
theorem runSequence_failsClosed_unlit : ∃ outcome run, ∃ visits : List Visit,
    execution "door" "visit" true (World.ofConfig unlit ⟨0, 0⟩) = (outcome, run) ∧
      run.steps.toList = visits.filterMap Visit.result ∧ (∀ visit ∈ visits, visit.batches = []) ∧
      run.world.sends = [] ∧ KeepsFirings unlit run.world := by
  obtain ⟨outcome, run, visits, ended, _, _, steps, sends, _, _, shut, mute, sequences, _, kept, _⟩ :=
    runSequence_failsClosed unlit (.begun ⟨0, 0⟩ false 0) "door" "visit" true
  have waits : unlit.WaitsForScreen "greet" := ⟨_, _, _, rfl, rfl, rfl, rfl⟩
  have silent : ∀ visit ∈ visits, visit.batches = [] := by
    intro visit member
    rcases (sequences _ rfl).1 visit member with top | ⟨_, nowhere, _⟩
    · rcases List.mem_cons.1 top with same | later
      · exact mute visit member rfl (same ▸ waits)
      · have gated : visit.step.gate.isSome := by rw [List.mem_singleton.1 later]; rfl
        rw [Visit.batches, (shut visit member gated).1]
        rfl
    · cases nowhere
  have nothing : visits.flatMap Visit.batches = [] := List.flatMap_eq_nil_iff.2 silent
  rw [nothing] at sends
  exact ⟨outcome, run, visits, ended, steps, silent, sends, kept⟩

end Service

end Autopilot
