import Autopilot.Proofs.Store
import Autopilot.Proofs.Trigger.Terms
import Autopilot.Rehearsal.Hooks
import Autopilot.Rehearsal.Polling

/-!
Invariants of rehearsals. An invariant that only looks at what the tasks in the background do not
touch, or touch under terms, survives whatever goes on there, and all waiting for it. So it is
enough to look at a measurement, at a trigger that is stored, and at a pass that begins.
-/

namespace Autopilot.Rehearsal

/-- The task keeps to the terms and runs no command. -/
def Work.Abides (terms : Terms) : Work → Prop
  | .pass rest => rest.Abides terms (fun _ _ => False) fun _ => True
  | .measured cue rest => terms.measured cue.measure ∧ ∀ answer, terms.measured answer →
      (rest answer).Abides terms (fun _ _ => False) fun _ => True
  | .poll _ _ => True
  | .cancel => True

namespace World

/-- An act after which an invariant still holds. -/
def Maintains {α : Type} (I : World → Prop) (act : StateM World α) : Prop :=
  ∀ w, I w → I (act w).2

/-- An act after which an invariant still holds, and what it gives under the invariant. -/
def Gives {α : Type} (I : World → Prop) (act : StateM World α) (gives : α → Prop) : Prop :=
  ∀ w, I w → gives (act w).1 ∧ I (act w).2

/-- What an invariant needs to survive the background of a rehearsal. -/
structure Upkeep (terms : Terms) (I : World → Prop) : Prop where
  loose : ∀ (w : World) (clock : Nat) (poller : Option (Poller × Instant)) (token : Nat)
    (cancelled : List Nat) (nextTask : Nat) (started loops : List Nat) (seed : Nat), I w →
    I { w with clock, poller, token, cancelled, nextTask, started, loops, seed }
  tasks : ∀ (w : World) (tasks : List Task), I w → (∀ task ∈ tasks, task.work.Abides terms) →
    I { w with tasks }
  abides : ∀ w, I w → ∀ task ∈ w.tasks, task.work.Abides terms
  pass : ∀ w, I w → (w.engine.evaluateAll none).Abides terms (fun _ _ => False) fun _ => True
  draw : ∀ condition, Gives I (drawMeasure condition) fun cue => terms.measured cue.measure
  put : ∀ (w : World) (t : Trigger) (triggers : Store Trigger), I w → terms.stored t →
    w.triggers.put t = .ok triggers → I { w with triggers }
  stored : ∀ w, I w → ∀ t ∈ w.triggers.shelf.records, terms.stored t
  finds : ∀ w, I w → ∀ id t, w.triggers.shelf.get? id = some t → terms.finds id t
  command : ∀ w, I w → ∀ id, terms.command id (w.commands.shelf.get? id)

section Maintains

variable {α β : Type} {I : World → Prop}

theorem Maintains.pure (value : α) : Maintains I (pure value) := fun _ holds => holds

theorem Maintains.bind {act : StateM World α} {next : α → StateM World β}
    (first : Maintains I act) (later : ∀ value, Maintains I (next value)) :
    Maintains I (act >>= next) :=
  fun w holds => later (act w).1 (act w).2 (first w holds)

theorem Gives.bind {act : StateM World α} {next : α → StateM World β} {gives : α → Prop}
    (first : Gives I act gives) (later : ∀ value, gives value → Maintains I (next value)) :
    Maintains I (act >>= next) := by
  intro w holds
  obtain ⟨given, holds⟩ := first w holds
  exact later (act w).1 given (act w).2 holds

/-- What follows a look at the world depends on the world that is seen. -/
theorem Maintains.get_bind {next : World → StateM World β}
    (later : ∀ w, I w → I (next w w).2) : Maintains I (get >>= next) := later

theorem Maintains.ite {condition : Prop} [Decidable condition] {act other : StateM World α}
    (first : Maintains I act) (second : Maintains I other) :
    Maintains I (if condition then act else other) := by
  split
  · exact first
  · exact second

end Maintains

namespace Upkeep

variable {terms : Terms} {I : World → Prop} (upkeep : Upkeep terms I)

include upkeep

/-! ## Acts -/

theorem cancel (token : Nat) : Maintains I (cancel token) := by
  intro w holds
  have roused : I { w with tasks := w.tasks.map (Task.rouse w.clock token) } := by
    apply upkeep.tasks w _ holds
    intro task member
    obtain ⟨former, known, rfl⟩ := List.mem_map.1 member
    have same : (Task.rouse w.clock token former).work = former.work := by
      unfold Task.rouse
      split
      · split <;> rfl
      · rfl
    rw [same]
    exact upkeep.abides w holds former known
  exact upkeep.loose _ w.clock w.poller w.token _ w.nextTask w.started w.loops w.seed roused

theorem schedule (id wakeAt token : Nat) {work : Work} (abides : work.Abides terms) :
    Maintains I (schedule id wakeAt token work) := by
  intro w holds
  apply upkeep.tasks w _ holds
  intro task member
  rcases List.mem_append.1 member with known | new
  · exact upkeep.abides w holds task known
  · rw [List.mem_singleton.1 new]
    exact abides

theorem spawn (token : Nat) {work : Work} (abides : work.Abides terms) :
    Maintains I (spawn token work) := by
  intro w holds
  have counted := upkeep.loose w w.clock w.poller w.token w.cancelled (w.nextTask + 1) w.started
    w.loops w.seed holds
  exact upkeep.schedule w.nextTask w.clock token abides _ counted

theorem usePoller : Maintains I usePoller := by
  apply Maintains.get_bind
  intro w holds
  cases w.poller with
  | some used => exact holds
  | none => exact upkeep.loose w _ _ _ _ _ _ _ _ holds

theorem setPoller (p : Poller) : Maintains I (setPoller p) :=
  fun w holds => upkeep.loose w _ _ _ _ _ _ _ _ holds

theorem putTrigger {t : Trigger} (stored : terms.stored t) : Maintains I (putTrigger t) := by
  apply Maintains.get_bind
  intro w holds
  cases put : w.triggers.put t with
  | ok triggers => exact upkeep.put w t triggers holds stored put
  | error error => exact holds

theorem get_tells {w : World} (holds : I w) (id : String) :
    terms.Tells (.trigger id) (w.triggers.get id) :=
  fun t got => upkeep.finds w holds id t (Store.get?_of_get got)

theorem list_tells {w : World} (holds : I w) : terms.Tells .triggers w.triggers.list := by
  intro triggers listed
  unfold Store.list Store.allow at listed
  split at listed
  · cases listed
  · cases listed
    exact upkeep.stored w holds

theorem command_tells {w : World} (holds : I w) (id : String) :
    terms.Tells (.command id) (w.commands.get id) := by
  intro command got
  rw [← Store.get?_of_get got]
  exact upkeep.command w holds id

/-! ## Tasks -/

/-- A pass under the terms goes on, by induction on what it still says. -/
theorem runPass (id token : Nat) {pass : Pass}
    (abides : pass.Abides terms (fun _ _ => False) fun _ => True) :
    Maintains I (runPass id token pass) := by
  induction abides with
  | done _ => exact upkeep.usePoller.bind fun _ => upkeep.setPoller _
  | @ask question next fine later ih =>
    unfold World.runPass
    cases question with
    | measure condition =>
      apply (upkeep.draw condition).bind
      intro cue measured
      apply Maintains.get_bind
      intro w holds
      have goesOn := ih cue.measure measured
      have waits : Work.Abides terms (.measured cue next) := ⟨measured, later⟩
      exact Maintains.ite (upkeep.schedule _ _ _ waits)
        (.ite ((upkeep.cancel token).bind fun _ => goesOn) goesOn) w holds
    | isCancelled => exact .get_bind fun w holds => ih _ trivial w holds
    | now => exact upkeep.usePoller.bind fun used => ih used.2 trivial
    | triggers => exact .get_bind fun w holds => ih _ (upkeep.list_tells holds) w holds
    | trigger name => exact .get_bind fun w holds => ih _ (upkeep.get_tells holds name) w holds
    | keep t => exact (upkeep.putTrigger fine).bind fun stored => ih stored trivial
    | session name => exact .get_bind fun w holds => ih _ trivial w holds
    | command name => exact .get_bind fun w holds => ih _ (upkeep.command_tells holds name) w holds
    | execute sessionId commandId => exact fine.elim

theorem startPass (token : Nat) : Maintains I (startPass token) := by
  apply Maintains.get_bind
  intro w holds
  have abides : Work.Abides terms (.pass (w.engine.evaluateAll none)) :=
    (upkeep.pass w holds).weaken fun _ _ => trivial
  exact upkeep.spawn token abides w holds

theorem pollRound (task : Task) (delay : Duration) : Maintains I (pollRound task delay) := by
  apply upkeep.usePoller.bind
  intro used
  apply Maintains.get_bind
  intro w holds
  obtain ⟨tick, delay, p⟩ := used.1.round w.anyRunning delay
  have waits : Maintains I (do
      let w ← get
      if !w.isCancelled task.token then
        World.schedule task.id (w.clock + delay.wholeMillis) task.token (.poll true delay)) := by
    apply Maintains.get_bind
    intro w holds
    have abides : Work.Abides terms (.poll true delay) := trivial
    exact Maintains.ite (upkeep.schedule _ _ _ abides) (.pure ()) w holds
  refine (upkeep.setPoller p).bind (fun _ => ?_) w holds
  exact .ite ((upkeep.startPass task.token).bind fun _ => waits) waits

theorem runTask {task : Task} (abides : task.work.Abides terms) : Maintains I (runTask task) := by
  unfold World.runTask
  cases work : task.work with
  | pass rest =>
    rw [work] at abides
    exact upkeep.runPass task.id task.token abides
  | measured cue rest =>
    rw [work] at abides
    have goesOn := upkeep.runPass task.id task.token (abides.2 cue.measure abides.1)
    exact .ite ((upkeep.cancel task.token).bind fun _ => goesOn) goesOn
  | poll begun delay =>
    apply Maintains.get_bind
    intro w holds
    exact Maintains.ite (.pure ()) (upkeep.pollRound task delay) w holds
  | cancel => exact upkeep.cancel task.token

end Upkeep

/-! ## Waiting -/

/-- Where each choice is the one before or the next in turn, the last choice is one of them all. -/
theorem mem_of_foldl {Item : Type} {choose : Option Item → Item → Option Item}
    (chooses : ∀ best item, choose best item = best ∨ choose best item = some item)
    {items : List Item} {best : Option Item} {item : Item}
    (chosen : items.foldl choose best = some item) : best = some item ∨ item ∈ items := by
  induction items generalizing best with
  | nil => exact .inl chosen
  | cons first rest ih =>
    rcases ih chosen with early | later
    · rcases chooses best first with same | new
      · exact .inl (same.symm.trans early)
      · rw [Option.some.inj (early.symm.trans new)]
        exact .inr List.mem_cons_self
    · exact .inr (List.mem_cons_of_mem _ later)

theorem nextTask?_mem {w : World} {task : Task} (next : w.nextTask? = some task) :
    task ∈ w.tasks := by
  unfold nextTask? at next
  refine (mem_of_foldl (fun best task => ?_) next).resolve_left (Option.some_ne_none task).symm
  split
  · split
    · exact .inr rfl
    · exact .inl rfl
  · exact .inr rfl

namespace Upkeep

variable {terms : Terms} {I : World → Prop} (upkeep : Upkeep terms I)

include upkeep

theorem takeTurn {task : Task} (abides : task.work.Abides terms) : Maintains I (takeTurn task) := by
  intro w holds
  have left : I { w with tasks := w.tasks.filter fun other => other.id != task.id } :=
    upkeep.tasks w _ holds fun other member => upkeep.abides w holds other (List.mem_filter.1 member).1
  have later := upkeep.loose _ (max w.clock task.wakeAt) w.poller w.token w.cancelled w.nextTask
    w.started w.loops w.seed left
  exact upkeep.runTask abides _ later

theorem runWhile (early : World → Task → Bool) (turns : Nat) :
    Maintains I (runWhile early turns) := by
  induction turns with
  | zero => exact .pure ()
  | succ turns ih =>
    apply Maintains.get_bind
    intro w holds
    cases next : w.nextTask? with
    | none => exact holds
    | some task =>
      have abides := upkeep.abides w holds task (nextTask?_mem next)
      exact Maintains.ite ((upkeep.takeTurn abides).bind fun _ => ih) (.pure ()) w holds

theorem clock (w : World) (clock : Nat) (holds : I w) : I { w with clock } :=
  upkeep.loose w clock _ _ _ _ _ _ _ holds

theorem sleep (ms : Nat) : Maintains I (sleep ms) := by
  refine .ite (.get_bind fun w holds => ?_) (.pure ())
  have slept : Maintains I (modify fun later => { later with clock := w.clock + ms }) :=
    fun later => upkeep.clock later _
  exact (upkeep.runWhile _ maxTurns).bind (fun _ => slept) w holds

theorem rest (ms : Nat) : Maintains I (rest ms) := by
  apply Maintains.get_bind
  intro start begun
  refine Maintains.get_bind (fun w holds => ?_) start begun
  refine (upkeep.runWhile _ maxTurns).bind (fun _ => .get_bind fun later holds => ?_) w holds
  split
  · exact holds
  · exact upkeep.clock later _ holds

theorem await (ids : List Nat) : Maintains I (await ids) := upkeep.runWhile _ _

theorem play (cue : Cue) : Maintains I (play cue) := by
  apply (upkeep.sleep cue.sleepMs).bind
  intro _
  exact .ite (.get_bind fun w holds => upkeep.cancel w.token w holds) (.pure ())

/-- A measurement comes to what the terms allow. -/
theorem measure (condition : Condition) : Gives I (measure condition) terms.measured := by
  intro w holds
  obtain ⟨measured, drawn⟩ := upkeep.draw condition w holds
  exact ⟨measured, upkeep.play _ _ drawn⟩

theorem holds (condition : Condition) : Gives I (holds condition) fun answer =>
    ∃ measured, terms.measured measured ∧ answer = measured.map condition.satisfiedBy := by
  intro w holds
  obtain ⟨measured, after⟩ := upkeep.measure condition w holds
  exact ⟨⟨_, measured, rfl⟩, after⟩

theorem drawSeed : Maintains I World.draw := by
  intro w holds
  obtain ⟨seed, same⟩ : ∃ seed, (World.draw w).2 = { w with seed } := ⟨_, rfl⟩
  rw [same]
  exact upkeep.loose w _ _ _ _ _ _ _ _ holds

/-! ## Dialogues -/

section Dialogues

variable {runs : String → String → Prop}
  (executes : ∀ sessionId commandId, runs sessionId commandId →
    Maintains I (forceExecute sessionId commandId))

include executes

/-- Whoever acts is answered under the terms. -/
theorem answer {question : Question} (fine : terms.Asks runs question) :
    Gives I (answer question) (terms.Tells question) := by
  intro w holds
  cases question with
  | isCancelled | now | session => exact ⟨trivial, holds⟩
  | triggers => exact ⟨upkeep.list_tells holds, holds⟩
  | trigger id => exact ⟨upkeep.get_tells holds id, holds⟩
  | command id => exact ⟨upkeep.command_tells holds id, holds⟩
  | keep t => exact ⟨trivial, upkeep.putTrigger fine w holds⟩
  | measure condition => exact upkeep.measure condition w holds
  | execute sessionId commandId => exact ⟨trivial, executes sessionId commandId fine w holds⟩

/-- A dialogue under the terms ends as it should. -/
theorem run {α : Type} {d : Dialogue α} {ends : α → Prop} (abides : d.Abides terms runs ends) :
    Gives I (d.run World.answer) ends := by
  induction abides with
  | done fine => exact fun w holds => ⟨fine, holds⟩
  | @ask question next fine _ ih =>
    intro w holds
    obtain ⟨told, after⟩ := upkeep.answer executes fine w holds
    exact ih (World.answer question w).1 told (World.answer question w).2 after

end Dialogues

/-! ## Polling -/

theorem startLoop : Maintains I startLoop := by
  apply upkeep.usePoller.bind
  intro used
  apply Maintains.get_bind
  intro w holds
  have abides : Work.Abides terms (.poll false used.1.settings.interval) := trivial
  refine (upkeep.spawn w.token abides).bind (fun id => ?_) w holds
  exact fun later => upkeep.loose later _ _ _ _ _ _ _ _

theorem stop : Maintains I stop := by
  apply Maintains.get_bind
  intro w holds
  refine (upkeep.cancel w.token).bind (fun _ => (upkeep.await w.loops).bind fun _ => ?_) w holds
  exact fun later => upkeep.loose later _ _ _ _ _ _ _ _

theorem renewToken : Maintains I renewToken := fun w => upkeep.loose w _ _ _ _ _ _ _ _

end Upkeep

end World

end Autopilot.Rehearsal
