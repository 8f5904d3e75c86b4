import Autopilot.Proofs.Rehearsal.Serving
import Autopilot.Proofs.Sequence.Invariant
import Autopilot.Proofs.Sequence.Outcome
import Mathlib

/-!
What the service sends. A run sends to its own session only, and to that one only if it is
configured; meanwhile nobody else sends anything. If triggers do not matter, every step that is
reported as succeeded has sent the expansion of its command, so a run that succeeds has sent the
expansions of all its steps, those in blocks as often as they were run.
-/

namespace Autopilot

open Rehearsal Rehearsal.World Runner

/-- For each step that is reported, the expansion of its command. -/
def Config.Expansions (config : Config) (steps : List StepResult)
    (expansions : List (List (List Input))) : Prop :=
  List.Forall₂ (fun step expansion =>
    config.repertoire.Expansion [.command step.commandId] expansion) steps expansions

/-- What a run has delivered, and for which of its steps. As long as none of them has failed, and
if triggers do not matter, that is the expansions of their commands, one after the other. -/
def Accounts (config : Config) (sessionId : String) (respectTriggers : Bool) (before : World)
    (steps : List StepResult) (w : World) : Prop :=
  ∃ batches, Delivers config sessionId before batches w ∧
    (respectTriggers = false → (∀ step ∈ steps, step.isFailed = false) →
      ∃ expansions, config.Expansions steps expansions ∧ batches = expansions.flatten)

/-- The run has delivered what it has reported. -/
def Run.Accounted (config : Config) (sessionId : String) (respectTriggers : Bool) (before : World)
    (run : Run World) : Prop :=
  Accounts config sessionId respectTriggers before run.steps.toList run.world

/-- Where a run is cut off, it may have delivered more. -/
def Run.Cut (config : Config) (sessionId : String) (before : World) (_ : Halt)
    (run : Run World) : Prop :=
  ∃ batches, Delivers config sessionId before batches run.world

section Accounts

variable {config : Config} {sessionId : String} {respectTriggers hasConditions : Bool}
  {before w : World} {steps : List StepResult}

theorem Accounts.quiet {α : Type} {act : StateM World α} (quiet : Quiet act)
    (accounts : Accounts config sessionId respectTriggers before steps w) :
    Accounts config sessionId respectTriggers before steps (act w).2 := by
  obtain ⟨batches, delivers, exact⟩ := accounts
  have later := delivers.trans (quiet.delivers delivers.serves sessionId)
  rw [List.append_nil] at later
  exact ⟨batches, later, exact⟩

/-- For a step that has failed nothing has to be accounted. -/
theorem Accounts.failed {batches : List (List Input)} {result : StepResult}
    (delivers : Delivers config sessionId before batches w) (failed : result.isFailed = true) :
    Accounts config sessionId respectTriggers before (steps ++ [result]) w := by
  refine ⟨batches, delivers, fun _ fine => ?_⟩
  rw [fine result (List.mem_append_right _ List.mem_cons_self)] at failed
  cases failed

/-- One more step, with what its command has delivered. -/
theorem Accounts.step {after : World} {batches : List (List Input)} {result : StepResult}
    (accounts : Accounts config sessionId respectTriggers before steps w)
    (delivers : Delivers config sessionId w batches after)
    (expands : respectTriggers = false →
      config.repertoire.Expansion [.command result.commandId] batches) :
    Accounts config sessionId respectTriggers before (steps ++ [result]) after := by
  obtain ⟨earlier, delivered, exact⟩ := accounts
  refine ⟨earlier ++ batches, delivered.trans delivers, fun ignored fine => ?_⟩
  obtain ⟨expansions, each, rfl⟩ := exact ignored fun step member =>
    fine step (List.mem_append_left _ member)
  refine ⟨expansions ++ [batches], List.rel_append each (.cons (expands ignored) .nil), ?_⟩
  rw [List.flatten_append, List.flatten_cons, List.flatten_nil, List.append_nil]

theorem Run.Accounted.cut {run : Run World} (halt : Halt)
    (accounted : run.Accounted config sessionId respectTriggers before) :
    run.Cut config sessionId before halt := by
  obtain ⟨batches, delivers, _⟩ := accounted
  exact ⟨batches, delivers⟩

/-! ## Steps -/

theorem pause_accounted (ms : Nat) :
    Keeps (Run.Accounted config sessionId respectTriggers before) (Run.Cut config sessionId before)
      (pause (sessionHooks sessionId respectTriggers hasConditions) ms) := by
  intro run accounted
  have rested : Accounts config sessionId respectTriggers before run.steps.toList
      (World.rest ms run.world).2 := accounted.quiet (rest_quiet ms)
  rcases pause_cases (sessionHooks sessionId respectTriggers hasConditions) ms run with
    ⟨_, same⟩ | ⟨_, _, same⟩ | ⟨_, _, _, same⟩ | ⟨_, _, same⟩
  all_goals rw [same]
  · exact .of_cut rfl (accounted.cut _)
  · exact accounted
  · exact .of_cut rfl (Run.Accounted.cut _ rested)
  · exact rested

theorem evaluate_accounted {evaluator : Condition → World → Reply World (Except ConditionError Bool)}
    (given : (sessionHooks sessionId respectTriggers hasConditions).condition = some evaluator)
    (condition : Condition) :
    Keeps (Run.Accounted config sessionId respectTriggers before) (Run.Cut config sessionId before)
      (evaluate evaluator condition) := by
  obtain rfl : evaluator = fun condition => reply (World.holds condition) := by
    unfold sessionHooks at given
    split at given
    · exact (Option.some.inj given).symm
    · cases given
  have after {run : Run World} (accounted : run.Accounted config sessionId respectTriggers before) :
      Accounts config sessionId respectTriggers before run.steps.toList
        (World.holds condition run.world).2 := accounted.quiet (holds_quiet condition)
  apply ask_leads
  · intro run value accounted _
    exact after accounted
  · intro run error accounted _
    cases error with
    | cancelled => exact .of_cut rfl (Run.Accounted.cut _ (after accounted))
    | _ => exact .of_failed nofun (after accounted)

theorem accounted_composes :
    Composes (sessionHooks sessionId respectTriggers hasConditions) fun {_} part =>
      Keeps (Run.Accounted config sessionId respectTriggers before)
        (Run.Cut config sessionId before) (part ()) :=
  Keeps.composes (fun _ accounted _ => accounted.cut _) pause_accounted
    (fun given condition _ => evaluate_accounted given condition) fun _ _ accounted => accounted

theorem passGate_accounted (polling : Polling) (step : Step) :
    Keeps (Run.Accounted config sessionId respectTriggers before) (Run.Cut config sessionId before)
      (passGate (sessionHooks sessionId respectTriggers hasConditions) polling step) :=
  passGate_composes accounted_composes (fun _ accounted => .of_cut rfl (accounted.cut _)) nofun
    polling step fun _ _ _ => trivial

/-- A command that was called may have failed half-way; if not, it has delivered its expansion. -/
theorem callCommand_leads (step : Step) (delayMs : Nat) :
    Leads (Run.Accounted config sessionId respectTriggers before)
      (callCommand (sessionHooks sessionId respectTriggers hasConditions) step)
      (fun _ run => (run.reported ⟨step.commandId, step.order, .succeeded, delayMs, none⟩).Accounted
        config sessionId respectTriggers before)
      (Run.Cut config sessionId before) := by
  have called {run : Run World} (accounted : run.Accounted config sessionId respectTriggers before) :
      ∃ earlier, Delivers config sessionId before earlier run.world ∧
        ∃ batches, Delivers config sessionId run.world batches
            (World.commandOn sessionId respectTriggers step.commandId run.world).2 ∧
          (respectTriggers = false →
            (World.commandOn sessionId respectTriggers step.commandId run.world).1 = .ok () →
              config.repertoire.Expansion [.command step.commandId] batches) := by
    obtain ⟨earlier, delivers, _⟩ := accounted
    exact ⟨earlier, delivers, delivers.serves.commandOn sessionId respectTriggers step.commandId⟩
  apply ask_leads
  · intro run _ accounted answered
    obtain ⟨_, _, batches, delivers, expands⟩ := called accounted
    unfold Run.Accounted Run.reported
    rw [Array.toList_push]
    exact accounted.step delivers fun ignored => expands ignored answered
  · intro run error accounted _
    obtain ⟨_, delivered, _, delivers, _⟩ := called accounted
    exact ⟨_, delivered.trans delivers⟩

theorem performStep_accounted (polling : Polling) (step : Step) (delayMs : Nat) :
    Leads (Run.Accounted config sessionId respectTriggers before)
      (performStep (sessionHooks sessionId respectTriggers hasConditions) polling step delayMs)
      (fun result run => (run.reported result).Accounted config sessionId respectTriggers before)
      (Halting (Run.Accounted config sessionId respectTriggers before)
        (Run.Cut config sessionId before)) := by
  have failed {run : Run World} (halt : Halt) (error : RunError)
      (cut : run.Cut config sessionId before halt) :
      (run.reported ⟨step.commandId, step.order, .failed, delayMs, some error.message⟩).Accounted
        config sessionId respectTriggers before := by
    obtain ⟨batches, delivers⟩ := cut
    unfold Run.Accounted Run.reported
    rw [Array.toList_push]
    exact .failed delivers rfl
  apply (passGate_accounted polling step).attempt.bind
  intro passed
  cases passed with
  | error error =>
    intro run accounted
    exact failed (.failed error) error (accounted.cut _)
  | ok _ =>
    apply Leads.bind ((callCommand_leads step delayMs).attempt_final.weaken (fun _ holds => holds)
      (fun _ _ ended => ended) fun _ _ halted => .of_cut halted.1 halted.2)
    intro called
    cases called with
    | error error =>
      intro run told
      exact failed (.failed error) error told.2
    | ok _ =>
      intro run accounted
      exact accounted

theorem drawDelay_accounted (step : Step) :
    Keeps (Run.Accounted config sessionId respectTriggers before) (Run.Cut config sessionId before)
      (drawDelay (sessionHooks sessionId respectTriggers hasConditions) step) := by
  intro run accounted
  unfold drawDelay
  cases step.delayRange with
  | none => exact accounted
  | some range =>
    exact Accounts.quiet draw_quiet accounted

theorem runStep_accounted (polling : Polling) (step : Step) :
    Leads (Run.Accounted config sessionId respectTriggers before)
      (runStep (sessionHooks sessionId respectTriggers hasConditions) polling step)
      (fun result run => (run.reported result).Accounted config sessionId respectTriggers before)
      (Halting (Run.Accounted config sessionId respectTriggers before)
        (Run.Cut config sessionId before)) := by
  apply runStep_leads_by _ _ (drawDelay_accounted step) pause_accounted
    (performStep_accounted polling step)
  · exact fun run accounted _ => .of_cut rfl (accounted.cut _)
  · exact fun run accounted _ => accounted

/-! ## Whole runs -/

theorem runBlock_accounted (polling : Polling) (record : Datum) :
    Keeps (Run.Accounted config sessionId respectTriggers before) (Run.Cut config sessionId before)
      (runBlock (sessionHooks sessionId respectTriggers hasConditions) polling record) :=
  runBlock_keeps (fun _ _ _ accounted => accounted) (fun _ accounted _ => accounted.cut _)
    pause_accounted (fun given condition _ => evaluate_accounted given condition)
    (fun _ accounted _ => accounted) (fun _ accounted _ => accounted) record (fun _ _ _ => trivial)
    fun step _ => runStep_accounted polling step

theorem runParts_accounted (polling : Polling) (sequence : Sequence) :
    Keeps (Run.Accounted config sessionId respectTriggers before) (Run.Cut config sessionId before)
      (runParts (sessionHooks sessionId respectTriggers hasConditions) polling sequence) := by
  apply Leads.bind (runSteps_keeps fun step _ => runStep_accounted polling step)
  intro failure
  cases failure with
  | some error => exact pure_keeps _
  | none =>
    exact runBlocks_keeps (fun _ accounted _ => accounted.cut _) (fun _ accounted _ => accounted)
      fun record _ => runBlock_accounted polling record

end Accounts

/-- A run that tells no failure leaves none behind. -/
theorem Runner.runParts_clean {World : Type} {hooks : Hooks World} {polling : Polling}
    {sequence : Sequence} {run after : Run World}
    (ended : runParts hooks polling sequence run = (.ok none, after)) (clean : run.Clean) :
    after.Clean := by
  obtain ⟨failure, middle, steps, ended⟩ := parts_of_ok ended
  obtain ⟨_, ⟨rfl, still⟩ | ⟨_, _, _, _, _, rfl, _⟩⟩ := runSteps_ended steps clean
  · exact (runBlocks_ended ended).clean rfl still
  · cases ended

/-- What a run of a sequence has delivered when it ends, one way or another. -/
theorem Sequence.execute_delivers {config : Config} {w : World} (serves : w.Serves config)
    (sequence : Sequence) (sessionId : String) (respectTriggers hasConditions : Bool)
    (polling : Polling) (epoch : Instant) (now : Nat) (cancelled : Bool)
    {outcome : Except Halt RunResult} {after : Run World}
    (ended : sequence.execute (sessionHooks sessionId respectTriggers hasConditions) polling epoch
      { world := w, now, cancelled } = (outcome, after)) :
    ∃ batches, Delivers config sessionId w batches after.world ∧
      ∀ result, outcome = .ok result → result.status = .succeeded → respectTriggers = false →
        ∃ expansions, config.Expansions result.steps expansions ∧ batches = expansions.flatten := by
  have start : ({ world := w, now, cancelled } : Run World).Accounted config sessionId
      respectTriggers w :=
    ⟨[], serves.delivers sessionId, fun _ _ => ⟨[], .nil, rfl⟩⟩
  have fresh : ({ world := w, now, cancelled } : Run World).Clean := ⟨nofun, nofun⟩
  rcases parts : runParts (sessionHooks sessionId respectTriggers hasConditions) polling sequence
    { world := w, now, cancelled } with ⟨halt | failure, final⟩
  · rw [sequence.execute_of_parts epoch parts] at ended
    cases ended
    have halted := (runParts_accounted polling sequence).halted start parts
    obtain ⟨batches, delivers⟩ : after.Cut config sessionId w halt := by
      unfold Halting at halted
      split at halted
      · exact halted.cut halt
      · exact halted
    exact ⟨batches, delivers, nofun⟩
  · rw [sequence.execute_of_parts epoch parts] at ended
    cases ended
    obtain ⟨batches, delivers, exact⟩ := (runParts_accounted polling sequence).ended start parts
    refine ⟨batches, delivers, fun result same succeeded ignored => ?_⟩
    cases same
    cases failure with
    | some error => cases succeeded
    | none =>
      exact exact ignored fun step member =>
        (runParts_clean parts fresh).steps step (Array.mem_toList_iff.1 member)

namespace Service

theorem runSequence_delivers {config : Config} {w : World} (serves : w.Serves config)
    (sessionId sequenceId : String) (respectTriggers : Bool) :
    ∃ batches, Delivers config sessionId w batches
        (runSequence sessionId sequenceId respectTriggers w).2 ∧
      ∀ result, (runSequence sessionId sequenceId respectTriggers w).1 = .ok result →
        result.status = .succeeded → respectTriggers = false →
        ∃ expansions, config.Expansions result.steps expansions ∧ batches = expansions.flatten := by
  rcases ended : Sequence.executeStored w.sequences sequenceId
    (sessionHooks sessionId respectTriggers true) ⟨100, patience⟩ w.time
    { world := w, now := w.clock, cancelled := w.isCancelled w.token } with ⟨outcome, after⟩
  have same : runSequence sessionId sequenceId respectTriggers w =
      (outcome.mapError fun cause => ⟨sequenceId, sessionId, cause⟩, after.world) := by
    simp only [runSequence, World.runSequence, ended, bind, StateT.bind, pure, StateT.pure]
  have delivered : ∃ batches, Delivers config sessionId w batches after.world ∧
      ∀ result, outcome = .ok result → result.status = .succeeded → respectTriggers = false →
        ∃ expansions, config.Expansions result.steps expansions ∧ batches = expansions.flatten := by
    unfold Sequence.executeStored at ended
    rcases stored : w.sequences.get sequenceId with error | _ | sequence
    all_goals rw [stored] at ended
    · cases ended
      exact ⟨[], serves.delivers sessionId, fun _ told => by cases told⟩
    · cases ended
      refine ⟨[], serves.delivers sessionId, fun result same succeeded => ?_⟩
      cases same
      cases succeeded
    · exact sequence.execute_delivers serves sessionId respectTriggers true _ _ _ _ ended
  obtain ⟨batches, delivers, expands⟩ := delivered
  rw [same]
  refine ⟨batches, delivers, fun result told => ?_⟩
  cases outcome with
  | error halt => cases told
  | ok other =>
    cases told
    exact expands result rfl

/-- The worlds that a service can come to, from its start with a configuration on: sequences are
run, the poller is started and stopped, somebody waits, requests are cancelled, now or later, and
others take their place. -/
inductive Reached (config : Config) : World → Prop where
  | begun (time : Instant) (flows : Bool) (seed : Nat) :
      Reached config { World.ofConfig config time with flows, seed }
  | ran {w : World} (reached : Reached config w) (sessionId sequenceId : String)
      (respectTriggers : Bool) :
      Reached config (runSequence sessionId sequenceId respectTriggers w).2
  | started {w : World} (reached : Reached config w) : Reached config (start w).2
  | stopped {w : World} (reached : Reached config w) : Reached config (World.stop w).2
  | slept {w : World} (reached : Reached config w) (ms : Nat) : Reached config (World.sleep ms w).2
  | cancelled {w : World} (reached : Reached config w) (token : Nat) :
      Reached config (World.cancel token w).2
  | planned {w : World} (reached : Reached config w) (id wakeAt token : Nat) :
      Reached config (World.schedule id wakeAt token .cancel w).2
  | renewed {w : World} (reached : Reached config w) : Reached config (World.renewToken w).2
  | counted {w : World} (reached : Reached config w) : Reached config (metrics w).2

/-- The world serves the configuration, and only configured sessions have been sent anything. -/
structure Sound (config : Config) (w : World) : Prop where
  serves : w.Serves config
  configured : ∀ sent ∈ w.sends, sent.1 ∈ config.sessions

section Sound

variable {config : Config} {w after : World}

theorem Sound.delivers {sessionId : String} {batches : List (List Input)} (sound : Sound config w)
    (delivers : Delivers config sessionId w batches after) : Sound config after := by
  refine ⟨delivers.serves, fun sent member => ?_⟩
  rw [delivers.sends] at member
  rcases List.mem_append.1 member with old | new
  · exact sound.configured sent old
  · obtain ⟨inputs, some, rfl⟩ := List.mem_map.1 new
    exact delivers.configured (List.ne_nil_of_mem some)

theorem Sound.quiet {α : Type} {act : StateM World α} (sound : Sound config w)
    (quiet : Quiet act) : Sound config (act w).2 := by
  have undisturbed := quiet w sound.serves.watches
  refine ⟨undisturbed.serves sound.serves, ?_⟩
  rw [undisturbed.sends]
  exact sound.configured

theorem start_quiet : Quiet start := by
  apply Quiet.get_bind
  intro w watches
  exact Quiet.ite (startLoop_quiet.bind fun _ => .pure true) (.pure false) w watches

theorem metrics_quiet : Quiet metrics := by
  apply Quiet.get_bind
  intro w watches
  exact Quiet.ite (usePoller_quiet.bind fun _ => .pure _) (.pure _) w watches

theorem Reached.sound (reached : Reached config w) : Sound config w := by
  induction reached with
  | begun time flows seed => exact ⟨⟨rfl, rfl, List.forall_mem_nil _⟩, List.forall_mem_nil _⟩
  | ran _ sessionId sequenceId respectTriggers sound =>
    obtain ⟨batches, delivers, _⟩ :=
      runSequence_delivers sound.serves sessionId sequenceId respectTriggers
    exact sound.delivers delivers
  | started _ sound => exact sound.quiet start_quiet
  | stopped _ sound => exact sound.quiet stop_quiet
  | slept _ ms sound => exact sound.quiet (sleep_quiet ms)
  | cancelled _ token sound => exact sound.quiet (cancel_quiet token)
  | planned _ id wakeAt token sound =>
    have harmless : Work.Watches .cancel := trivial
    exact sound.quiet (schedule_quiet id wakeAt token harmless)
  | renewed _ sound => exact sound.quiet renewToken_quiet
  | counted _ sound => exact sound.quiet metrics_quiet

end Sound

/-- Whatever the service has done before, a run sends to its own session and to no other, and never
to one that is not configured; the counter grows by the inputs that were sent. If triggers do not
matter and the run succeeds, that is the number of inputs in the expansions of the commands of all
its step results, and what was sent are these expansions, one after the other. -/
theorem runSequence_dispatched (config : Config) {w : World} (reached : Reached config w)
    (sessionId sequenceId : String) (respectTriggers : Bool) :
    ∃ outcome after batches,
      runSequence sessionId sequenceId respectTriggers w = (outcome, after) ∧
      after.sends = w.sends ++ batches.map (fun inputs => (sessionId, inputs)) ∧
      after.dispatched = w.dispatched + inputCount batches ∧
      (sessionId ∉ config.sessions → batches = []) ∧
      (∀ sent ∈ after.sends, sent.1 ∈ config.sessions) ∧
      ∀ result, outcome = .ok result → result.status = .succeeded → respectTriggers = false →
        ∃ expansions, config.Expansions result.steps expansions ∧ batches = expansions.flatten ∧
          after.dispatched = w.dispatched + (expansions.map inputCount).sum := by
  have sound := reached.sound
  obtain ⟨batches, delivers, expands⟩ :=
    runSequence_delivers sound.serves sessionId sequenceId respectTriggers
  rcases ran : runSequence sessionId sequenceId respectTriggers w with ⟨outcome, after⟩
  rw [ran] at delivers expands
  refine ⟨outcome, after, batches, rfl, delivers.sends, delivers.dispatched, fun unknown => ?_,
    (sound.delivers delivers).configured, fun result ended succeeded ignored => ?_⟩
  · by_contra some
    exact unknown (delivers.configured some)
  · obtain ⟨expansions, each, rfl⟩ := expands result ended succeeded ignored
    refine ⟨expansions, each, rfl, ?_⟩
    rw [delivers.dispatched, inputCount_flatten]

/-- A step, and a loop that runs the same command twice. -/
def rounds : Config where
  sessions := ["door"]
  actions := [{ id := "knock", inputs := [.press "K", .wait 100] }]
  commands := [.ofSteps "open" [⟨.action "knock", 0⟩]]
  sequences := [{
    id := "rounds"
    steps := [{ commandId := "open" }]
    blocks := [.object [("type", .str "repeatCount"), ("maxIterations", .ofNat 2),
      ("steps", .arr [.object [("commandId", .str "open")]])]] }]

theorem runSequence_dispatched_rounds : ∃ result after expansions,
    runSequence "door" "rounds" false (World.ofConfig rounds ⟨0, 0⟩) = (.ok result, after) ∧
      result.status = .succeeded ∧ rounds.Expansions result.steps expansions ∧
      after.dispatched = (expansions.map inputCount).sum ∧ after.dispatched = 6 := by
  have summary : (match runSequence "door" "rounds" false (World.ofConfig rounds ⟨0, 0⟩) with
      | (outcome, after) => (outcome.toOption.map (·.status), after.dispatched)) =
      (some .succeeded, 6) := by cbv
  obtain ⟨outcome, after, _, ended, _, _, _, _, expands⟩ := runSequence_dispatched rounds
    (.begun ⟨0, 0⟩ false 0) "door" "rounds" false
  rw [show runSequence "door" "rounds" false (World.ofConfig rounds ⟨0, 0⟩) = (outcome, after)
    from ended] at summary ⊢
  obtain ⟨status, total⟩ := Prod.mk.inj summary
  cases outcome with
  | error interruption => cases status
  | ok result =>
    have succeeded : result.status = .succeeded := Option.some.inj status
    obtain ⟨expansions, each, _, dispatched⟩ := expands result rfl succeeded rfl
    exact ⟨result, after, expansions, rfl, succeeded, each, dispatched.trans (Nat.zero_add _), total⟩

end Service

end Autopilot
