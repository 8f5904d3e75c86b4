import Autopilot.Proofs.Rehearsal.Upkeep

/-!
What goes on in the background of a rehearsal. The passes there run no commands, so nothing is
sent while somebody waits, and what commands and devices there are stays as it is: only the
clock, the triggers, the tasks and what was measured change.
-/

namespace Autopilot.Rehearsal

/-- The task runs no command, whatever it is told. -/
def Work.Watches : Work → Prop
  | .pass rest => Dialogue.Asks Question.RunsNone rest
  | .measured _ rest => ∀ answer, Dialogue.Asks Question.RunsNone (rest answer)
  | .poll _ _ => True
  | .cancel => True

theorem Work.abides_free {work : Work} : work.Abides .free ↔ work.Watches := by
  cases work with
  | pass rest => exact Dialogue.abides_free
  | measured cue rest =>
    refine ⟨fun abides answer => Dialogue.abides_free.1 (abides.2 answer trivial), fun watches => ?_⟩
    exact ⟨trivial, fun answer _ => Dialogue.abides_free.2 (watches answer)⟩
  | poll | cancel => exact Iff.rfl

/-- The batch that is handed over in a call, with its session. -/
def Call.sent? : Call → Option (String × List Input)
  | .send sessionId inputs => some (sessionId, inputs)
  | _ => none

namespace World

/-- No task in the background runs a command. -/
def Watches (w : World) : Prop := ∀ task ∈ w.tasks, task.work.Watches

/-- The batches that were handed to devices so far, each with its session. -/
def sends (w : World) : List (String × List Input) :=
  w.log.toList.filterMap fun entry => entry.call.sent?

/-- What a call that is noted adds to the batches. -/
theorem sends_note (call : Call) (w : World) :
    (note call w).2.sends = w.sends ++ call.sent?.toList := by
  change (w.log.push ⟨w.clock, call⟩).toList.filterMap _ = _
  rw [Array.toList_push, List.filterMap_append]
  cases call <;> rfl

/-- Nothing has been sent meanwhile, and what can be run, and on which devices, is the same. -/
structure Undisturbed (before after : World) : Prop where
  commands : after.commands = before.commands
  actions : after.actions = before.actions
  sequences : after.sequences = before.sequences
  devices : after.devices = before.devices
  sends : after.sends = before.sends
  dispatched : after.dispatched = before.dispatched
  watches : before.Watches → after.Watches

namespace Undisturbed

variable {first second third : World}

theorem refl (w : World) : Undisturbed w w := ⟨rfl, rfl, rfl, rfl, rfl, rfl, id⟩

theorem trans (earlier : Undisturbed first second) (later : Undisturbed second third) :
    Undisturbed first third where
  commands := later.commands.trans earlier.commands
  actions := later.actions.trans earlier.actions
  sequences := later.sequences.trans earlier.sequences
  devices := later.devices.trans earlier.devices
  sends := later.sends.trans earlier.sends
  dispatched := later.dispatched.trans earlier.dispatched
  watches watches := later.watches (earlier.watches watches)

/-- That a world is undisturbed since, and that its tasks run no commands, lasts. -/
theorem upkeep (before : World) : Upkeep .free fun w => Undisturbed before w ∧ w.Watches where
  loose _ _ _ _ _ _ _ _ _ := fun ⟨same, watches⟩ =>
    ⟨same.trans ⟨rfl, rfl, rfl, rfl, rfl, rfl, id⟩, watches⟩
  tasks _ _ := fun ⟨same, _⟩ abide =>
    have watches := fun task member => Work.abides_free.1 (abide task member)
    ⟨same.trans ⟨rfl, rfl, rfl, rfl, rfl, rfl, fun _ => watches⟩, watches⟩
  abides _ := fun ⟨_, watches⟩ task member => Work.abides_free.2 (watches task member)
  pass w _ := (Dialogue.abides_free.2 (w.engine.evaluateAll_runsNone none)).weaken fun _ _ _ _ => trivial
  draw condition w := fun ⟨same, watches⟩ => by
    have silent : (note (.measure condition) w).2.sends = w.sends := by
      rw [sends_note]
      exact List.append_nil _
    exact ⟨trivial, same.trans ⟨rfl, rfl, rfl, rfl, silent, rfl, id⟩, watches⟩
  put _ _ _ := fun ⟨same, watches⟩ _ _ =>
    ⟨same.trans ⟨rfl, rfl, rfl, rfl, rfl, rfl, id⟩, watches⟩
  stored _ _ _ _ := trivial
  finds _ _ _ _ _ := trivial
  command _ _ _ := trivial

end Undisturbed

/-- An act that sends nothing, in a world in whose background no command is run. -/
def Quiet {α : Type} (act : StateM World α) : Prop := ∀ w, w.Watches → Undisturbed w (act w).2

section Quiet

variable {α β : Type}

theorem Quiet.pure (value : α) : Quiet (pure value) := fun w _ => .refl w

theorem Quiet.bind {act : StateM World α} {next : α → StateM World β} (first : Quiet act)
    (later : ∀ value, Quiet (next value)) : Quiet (act >>= next) := by
  intro w watches
  have began := first w watches
  exact began.trans (later (act w).1 (act w).2 (began.watches watches))

/-- What follows a look at the world depends on the world that is seen. -/
theorem Quiet.get_bind {next : World → StateM World β}
    (later : ∀ w, w.Watches → Undisturbed w (next w w).2) : Quiet (get >>= next) := later

theorem Quiet.ite {condition : Prop} [Decidable condition] {act other : StateM World α}
    (first : Quiet act) (second : Quiet other) : Quiet (if condition then act else other) := by
  split
  · exact first
  · exact second

theorem Quiet.of_maintains {act : StateM World α}
    (maintains : ∀ before, Maintains (fun w => Undisturbed before w ∧ w.Watches) act) : Quiet act :=
  fun w watches => (maintains w w ⟨.refl w, watches⟩).1

theorem cancel_quiet (token : Nat) : Quiet (cancel token) :=
  .of_maintains fun before => (Undisturbed.upkeep before).cancel token

theorem schedule_quiet (id wakeAt token : Nat) {work : Work} (harmless : work.Watches) :
    Quiet (schedule id wakeAt token work) :=
  .of_maintains fun before =>
    (Undisturbed.upkeep before).schedule id wakeAt token (Work.abides_free.2 harmless)

theorem usePoller_quiet : Quiet usePoller :=
  .of_maintains fun before => (Undisturbed.upkeep before).usePoller

theorem sleep_quiet (ms : Nat) : Quiet (sleep ms) :=
  .of_maintains fun before => (Undisturbed.upkeep before).sleep ms

theorem rest_quiet (ms : Nat) : Quiet (rest ms) :=
  .of_maintains fun before => (Undisturbed.upkeep before).rest ms

theorem holds_quiet (condition : Condition) : Quiet (holds condition) :=
  .of_maintains fun before w holds => ((Undisturbed.upkeep before).holds condition w holds).2

theorem draw_quiet : Quiet draw :=
  .of_maintains fun before => (Undisturbed.upkeep before).drawSeed

theorem startLoop_quiet : Quiet startLoop :=
  .of_maintains fun before => (Undisturbed.upkeep before).startLoop

theorem stop_quiet : Quiet stop :=
  .of_maintains fun before => (Undisturbed.upkeep before).stop

theorem renewToken_quiet : Quiet renewToken :=
  .of_maintains fun before => (Undisturbed.upkeep before).renewToken

/-- Whoever acts asks quietly for anything but the run of a command. -/
theorem answer_quiet {question : Question} (none : question.RunsNone) :
    Quiet (answer question) := by
  have fine : Terms.free.Asks (fun _ _ => False) question := by
    cases question with
    | execute => exact none.elim
    | _ => trivial
  exact .of_maintains fun before w holds =>
    ((Undisturbed.upkeep before).answer (fun _ _ runs => runs.elim) fine w holds).2

end Quiet

end World

end Autopilot.Rehearsal
