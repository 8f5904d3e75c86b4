import Autopilot.Proofs.Rehearsal.Serving
import Autopilot.Proofs.Trigger.Darkness

/-!
The world of a configuration is dark: no condition can be measured there, and it stays so, whatever
is done. Triggers on the screen do not fire in it, neither by the passes in the background nor by
the commands that wait for them, and such commands send nothing.
-/

namespace Autopilot

/-- What can be relied on in the world of a configuration. -/
def Config.terms (config : Config) : Terms := .dark config.repertoire (.ofList config.triggers)

/-- The command waits for a trigger of the configuration that is on the screen. -/
def Config.WaitsForScreen (config : Config) (commandId : String) : Prop :=
  config.repertoire.WaitsForScreen (.ofList config.triggers) commandId

namespace Rehearsal.World

/-- Nothing can be measured in the world of a configuration. No trigger on the screen has fired
there, and no task in the background stores one that has. -/
structure Dark (config : Config) (w : World) : Prop where
  commands : w.commands = .ofList config.commands
  sequences : w.sequences = .ofList config.sequences
  conditions : w.conditions = .blind
  accepts : w.triggers.refuses = fun _ => false
  unfired : ∀ t ∈ w.triggers.shelf.records, (Shelf.ofList config.triggers).Unfired t
  stays : ∀ id, ((Shelf.ofList config.triggers).get? id).isSome → (w.triggers.shelf.get? id).isSome
  abides : ∀ task ∈ w.tasks, task.work.Abides config.terms

/-- What the evaluator says to every condition. -/
def unavailable (condition : Condition) : ConditionError :=
  .unavailable s!"no condition evaluator for target {condition.targetId}"

section Dark

variable {config : Config} {w : World}

theorem dark_ofConfig (config : Config) (time : Instant) (flows : Bool) (seed : Nat) :
    Dark config { World.ofConfig config time with flows, seed } where
  commands := rfl
  sequences := rfl
  conditions := rfl
  accepts := rfl
  unfired t member :=
    ⟨t, (Shelf.get?_eq_some_iff _ t.id t).2 ⟨member, rfl⟩, Trigger.Unfired.refl t⟩
  stays _ known := known
  abides := List.forall_mem_nil _

/-- Every measurement comes to the same error, and the script stays as it is. -/
theorem Dark.drawMeasure (dark : w.Dark config) (condition : Condition) :
    (World.drawMeasure condition w).1.measure = .error (unavailable condition) ∧
      (World.drawMeasure condition w).1.sleepMs = 0 ∧
      (World.drawMeasure condition w).1.cancels = false ∧
      (World.drawMeasure condition w).2 = (note (.measure condition) w).2 := by
  have blind : World.drawMeasure condition w =
      ((Script.blind.next condition.targetId).1,
        { (note (.measure condition) w).2 with conditions := .blind }) := by
    rw [← dark.conditions]
    change ((w.conditions.next condition.targetId).1,
      { (note (.measure condition) w).2 with
        conditions := (w.conditions.next condition.targetId).2 }) = _
    rw [dark.conditions]
    rfl
  rw [blind]
  refine ⟨rfl, rfl, rfl, ?_⟩
  rw [← dark.conditions]
  rfl

/-- What is stored on a shelf besides the records there. -/
theorem mem_put {store after : Store Trigger} {t other : Trigger} (put : store.put t = .ok after)
    (member : other ∈ after.shelf.records) : other = t ∨ other ∈ store.shelf.records := by
  rw [Store.put_eq] at put
  split at put
  · cases put
  · cases put
    exact mem_insertRecord member

/-- The world stays dark. -/
theorem Dark.upkeep (config : Config) : Upkeep config.terms fun w => w.Dark config where
  loose _ _ _ _ _ _ _ _ _ dark := ⟨dark.commands, dark.sequences, dark.conditions, dark.accepts,
    dark.unfired, dark.stays, dark.abides⟩
  tasks _ _ dark abides := ⟨dark.commands, dark.sequences, dark.conditions, dark.accepts,
    dark.unfired, dark.stays, abides⟩
  abides _ dark := dark.abides
  pass w _ := w.engine.evaluateAll_abides none
  draw condition w dark := by
    obtain ⟨failed, _, _, same⟩ := dark.drawMeasure condition
    rw [same]
    exact ⟨⟨_, failed⟩, dark.commands, dark.sequences, dark.conditions, dark.accepts,
      dark.unfired, dark.stays, dark.abides⟩
  put w t triggers dark unfired put := by
    have finds (id : String) : triggers.shelf.get? id =
        if t.id = id then some t else w.triggers.shelf.get? id := Store.get?_put put id
    have refuses : triggers.refuses = w.triggers.refuses := by
      rw [Store.put_eq] at put
      split at put
      · cases put
      · cases put
        rfl
    refine ⟨dark.commands, dark.sequences, dark.conditions, refuses.trans dark.accepts,
      fun other member => ?_, fun id known => ?_, dark.abides⟩
    · rcases mem_put put member with rfl | known
      · exact unfired
      · exact dark.unfired other known
    · simp only [finds id]
      split
      · rfl
      · exact dark.stays id known
  stored _ dark := dark.unfired
  finds w dark id t found := by
    obtain ⟨member, named⟩ := (w.triggers.shelf.get?_eq_some_iff id t).1 found
    exact ⟨named, dark.unfired t member⟩
  command w dark id := by
    rw [dark.commands]
    rfl

/-! ## Conditions -/

theorem play_idle {cue : Cue} (awake : cue.sleepMs = 0) (passive : cue.cancels = false) :
    play cue = pure () := by
  unfold play sleep
  rw [if_neg (not_not_intro awake), passive]
  rfl

/-- No condition of a run holds, and none fails to hold: asking for it is an error at once. -/
theorem Dark.holds (dark : w.Dark config) (condition : Condition) :
    World.holds condition w =
      (.error (unavailable condition), (note (.measure condition) w).2) := by
  obtain ⟨failed, awake, passive, same⟩ := dark.drawMeasure condition
  have measured : World.holds condition w =
      ((World.drawMeasure condition w).1.measure.map condition.satisfiedBy,
        (play (World.drawMeasure condition w).1 (World.drawMeasure condition w).2).2) := rfl
  rw [measured, play_idle awake passive, failed, same]
  rfl

/-! ## Commands -/

section Sending

variable {I : World → Prop} {sessionId : String}
  (sends : ∀ inputs, Maintains I (World.send sessionId inputs))

include sends

theorem walks_maintains {r : Repertoire} {a b : Position × World} {sent : List Delivery}
    (walks : Walks r host sessionId a sent b) (begun : I a.2) : I b.2 := by
  induction walks with
  | stay => exact begun
  | go first _ ih =>
    cases first with
    | quiet _ going =>
      obtain rfl := going_same going
      exact ih begun
    | @send _ _ s next inputs count _ taken =>
      have after := sends inputs s begun
      rw [show World.send sessionId inputs s = (.ok count, next) from taken] at after
      exact ih after

theorem executes_maintains {r : Repertoire} {id : String} {after : World} {sent : List Delivery}
    {outcome : Except CommandError Nat}
    (executes : Executes r host sessionId id w sent outcome after) (holds : I w) : I after := by
  cases executes with
  | absent absent => exact absent_same absent ▸ holds
  | @runs next _ _ _ running ends =>
    obtain ⟨session, found, _⟩ := running
    obtain rfl : w = next := (Prod.mk.inj found).2
    cases ends with
    | arrives walks => exact walks_maintains sends walks holds
    | halts walks halts =>
      have before := walks_maintains sends walks holds
      cases halts with
      | cancelled _ cancelled => exact (Prod.mk.inj cancelled).2 ▸ before
      | blocked _ going => exact going_same going ▸ before
      | @refused _ _ s _ inputs error _ refused =>
        have last := sends inputs s before
        rwa [show World.send sessionId inputs s = (.error error, after) from refused] at last

/-- Running a command maintains what sending maintains. -/
theorem forceExecute_maintains (id : String) : Maintains I (forceExecute sessionId id) := by
  intro w holds
  obtain ⟨_, executes⟩ := w.repertoire.forceExecute_executes host sessionId id w
  exact executes_maintains sends executes holds

end Sending

theorem send_dark (sessionId : String) (inputs : List Input) :
    Maintains (fun w => w.Dark config) (World.send sessionId inputs) := by
  have noted : Maintains (fun w => w.Dark config) (note (.send sessionId inputs)) :=
    fun w dark => ⟨dark.commands, dark.sequences, dark.conditions, dark.accepts, dark.unfired,
      dark.stays, dark.abides⟩
  have counted (count : Nat) : Maintains (fun w => w.Dark config)
      (modify fun w => { w with dispatched := w.dispatched + count }) :=
    fun w dark => ⟨dark.commands, dark.sequences, dark.conditions, dark.accepts, dark.unfired,
      dark.stays, dark.abides⟩
  apply noted.bind
  intro _
  apply Maintains.get_bind
  intro w dark
  cases w.devices.lookup sessionId with
  | none => exact dark
  | some device =>
    have eitherWay {rest : StateM World (Except SessionError Nat)}
        (maintains : Maintains (fun w => w.Dark config) rest) :
        ((if device.cancels then cancel w.token >>= fun _ => rest else rest) w).2.Dark config :=
      Maintains.ite (((Dark.upkeep config).cancel w.token).bind fun _ => maintains) maintains w dark
    apply eitherWay
    cases device.mishap with
    | some mishap => cases mishap <;> exact .pure _
    | none => exact (counted _).bind fun _ => .pure _

theorem forceExecute_dark (sessionId commandId : String) :
    Maintains (fun w => w.Dark config) (forceExecute sessionId commandId) :=
  forceExecute_maintains (send_dark sessionId) commandId

/-- No command that a run calls brings light. -/
theorem commandOn_dark (sessionId : String) (respectTriggers : Bool) (id : String) :
    Maintains (fun w => w.Dark config) (commandOn sessionId respectTriggers id) := by
  intro w dark
  cases respectTriggers with
  | true =>
    have abides : (w.engine.executeGated sessionId id).Abides config.terms (fun _ _ => True)
        fun _ => True := w.engine.executeGated_abides fun _ => trivial
    exact ((Dark.upkeep config).run (fun sessionId id _ => forceExecute_dark sessionId id) abides
      w dark).2
  | false => exact forceExecute_dark sessionId id w dark

/-- A dialogue that may run no command sends nothing, and nothing is sent meanwhile. -/
theorem Dark.run {α : Type} {d : Dialogue α} {ends : α → Prop} (dark : w.Dark config)
    (watches : w.Watches) (abides : d.Abides config.terms (fun _ _ => False) ends) :
    Undisturbed w (d.run answer w).2 := by
  induction abides generalizing w with
  | done => exact .refl w
  | @ask question next fine _ ih =>
    have none : question.RunsNone := by
      cases question with
      | execute => exact fine.elim
      | _ => trivial
    obtain ⟨told, after⟩ := (Dark.upkeep config).answer (fun _ _ runs => runs.elim) fine w dark
    have quiet := answer_quiet none w watches
    exact quiet.trans (ih (answer question w).1 told after (quiet.watches watches))

/-- Where triggers matter, a command that waits for a trigger on the screen sends nothing. -/
theorem Dark.commandOn (dark : w.Dark config) (watches : w.Watches) (sessionId : String)
    {id : String} (waits : config.WaitsForScreen id) :
    Undisturbed w (commandOn sessionId true id w).2 := by
  have abides : (w.engine.executeGated sessionId id).Abides config.terms (fun _ _ => False)
      fun _ => True := w.engine.executeGated_abides fun other => other waits
  exact dark.run watches abides

end Dark

end Rehearsal.World

end Autopilot
