import Autopilot.Proofs.Command.Sending
import Autopilot.Proofs.Rehearsal.Background
import Autopilot.Service
import Mathlib.Algebra.GroupWithZero.Nat

/-!
Commands run in the world of a configuration. A configured session takes every batch whole, and
to any other session nothing is sent at all. So a command that is run hands over the batches of
its expansion, and as many inputs are counted as there are in them.
-/

namespace Autopilot

/-- The number of inputs in some batches. -/
def inputCount (batches : List (List Input)) : Nat := (batches.map List.length).sum

theorem inputCount_append (first rest : List (List Input)) :
    inputCount (first ++ rest) = inputCount first + inputCount rest := by
  unfold inputCount
  rw [List.map_append, List.sum_append]

theorem inputCount_flatten (expansions : List (List (List Input))) :
    inputCount expansions.flatten = (expansions.map inputCount).sum := by
  induction expansions with
  | nil => rfl
  | cons first rest ih => rw [List.flatten_cons, inputCount_append, ih, List.map_cons, List.sum_cons]

/-- The commands and actions of a configuration. -/
def Config.repertoire (config : Config) : Repertoire where
  commands := .ofList config.commands
  actions := .ofList config.actions

namespace Rehearsal.World

/-- The world runs the commands of a configuration, on its sessions, and on its own account no
others. -/
structure Serves (config : Config) (w : World) : Prop where
  repertoire : w.repertoire = config.repertoire
  devices : w.devices = config.sessions.map fun id => (id, { state := .running })
  watches : w.Watches

/-- Some batches were handed to a session meanwhile, and nothing else. The session is configured,
and has taken all inputs. -/
structure Delivers (config : Config) (sessionId : String) (before : World)
    (batches : List (List Input)) (after : World) : Prop where
  serves : after.Serves config
  sends : after.sends = before.sends ++ batches.map fun inputs => (sessionId, inputs)
  dispatched : after.dispatched = before.dispatched + inputCount batches
  configured : batches ≠ [] → sessionId ∈ config.sessions

section Serving

variable {config : Config} {sessionId : String} {w before middle after : World}
  {first rest : List (List Input)}

theorem Undisturbed.serves (undisturbed : Undisturbed before after) (serves : before.Serves config) :
    after.Serves config where
  repertoire := by
    rw [← serves.repertoire]
    unfold repertoire
    rw [undisturbed.commands, undisturbed.actions]
  devices := undisturbed.devices.trans serves.devices
  watches := undisturbed.watches serves.watches

theorem Undisturbed.delivers (undisturbed : Undisturbed before after)
    (serves : before.Serves config) (sessionId : String) :
    Delivers config sessionId before [] after where
  serves := undisturbed.serves serves
  sends := undisturbed.sends.trans (List.append_nil _).symm
  dispatched := undisturbed.dispatched
  configured other := absurd rfl other

theorem Quiet.delivers {α : Type} {act : StateM World α} (quiet : Quiet act)
    (serves : w.Serves config) (sessionId : String) : Delivers config sessionId w [] (act w).2 :=
  (quiet w serves.watches).delivers serves sessionId

theorem Serves.delivers (serves : w.Serves config) (sessionId : String) :
    Delivers config sessionId w [] w :=
  (Undisturbed.refl w).delivers serves sessionId

theorem Delivers.trans (earlier : Delivers config sessionId before first middle)
    (later : Delivers config sessionId middle rest after) :
    Delivers config sessionId before (first ++ rest) after where
  serves := later.serves
  sends := by rw [later.sends, earlier.sends, List.map_append, List.append_assoc]
  dispatched := by rw [later.dispatched, earlier.dispatched, inputCount_append, Nat.add_assoc]
  configured some := by
    cases first with
    | nil => exact later.configured some
    | cons => exact earlier.configured (List.cons_ne_nil _ _)

/-! ## The devices -/

theorem Serves.lookup (serves : w.Serves config) (sessionId : String) :
    w.devices.lookup sessionId =
      if sessionId ∈ config.sessions then some { state := .running } else none := by
  rw [serves.devices]
  induction config.sessions with
  | nil => rfl
  | cons id rest ih =>
    rw [List.map_cons, List.lookup_cons]
    by_cases same : sessionId = id
    · subst same
      rw [beq_self_eq_true, if_pos List.mem_cons_self]
    · rw [beq_false_of_ne same, ih]
      exact if_congr ⟨List.mem_cons_of_mem _, fun known => (List.mem_cons.1 known).resolve_left same⟩
        rfl rfl

/-- A device without mishaps takes every batch whole. -/
theorem send_of_lookup (found : w.devices.lookup sessionId = some { state := .running })
    (inputs : List Input) : World.send sessionId inputs w = (.ok inputs.length,
      { (note (.send sessionId inputs) w).2 with dispatched := w.dispatched + inputs.length }) := by
  simp only [World.send, note, modify, modifyGet, MonadStateOf.modifyGet, StateT.modifyGet, get,
    getThe, MonadStateOf.get, StateT.get, bind, StateT.bind, pure, found]
  rfl

theorem Serves.send (serves : w.Serves config) (known : sessionId ∈ config.sessions)
    (inputs : List Input) : ∃ after, World.send sessionId inputs w = (.ok inputs.length, after) ∧
      Delivers config sessionId w [inputs] after :=
  ⟨_, send_of_lookup ((serves.lookup sessionId).trans (if_pos known)) inputs,
    ⟨serves.repertoire, serves.devices, serves.watches⟩, sends_note _ w, rfl, fun _ => known⟩

/-! ## Commands -/

/-- Only a configured session runs, and asking for it changes nothing. -/
theorem Serves.runsAt (serves : w.Serves config) (running : host.RunsAt sessionId w after) :
    sessionId ∈ config.sessions ∧ after = w := by
  obtain ⟨session, found, _⟩ := running
  have same : (w.findSession sessionId, w) = (some session, after) := found
  obtain ⟨there, rfl⟩ := Prod.mk.inj same
  refine ⟨?_, rfl⟩
  unfold findSession at there
  rw [serves.lookup] at there
  by_contra unknown
  rw [if_neg unknown] at there
  cases there

theorem absent_same {error : CommandError} (absent : host.Absent sessionId w after error) :
    after = w := by
  cases absent with
  | missing missing => exact (Prod.mk.inj missing).2.symm
  | stopped found => exact (Prod.mk.inj found).2.symm

theorem going_same {p : Position} (going : Going host p w after) : after = w := by
  cases going with
  | command _ looked => exact (Prod.mk.inj looked).2.symm
  | other => rfl

/-- On a walk every batch is delivered, by induction on the moves. -/
theorem Serves.walks {r : Repertoire} {a b : Position × World} {sent : List Delivery}
    (serves : a.2.Serves config) (known : sessionId ∈ config.sessions)
    (walks : Walks r host sessionId a sent b) :
    Delivers config sessionId a.2 (sent.map Delivery.inputs) b.2 := by
  induction walks with
  | stay => exact serves.delivers sessionId
  | go first _ ih =>
    cases first with
    | quiet _ going =>
      obtain rfl := going_same going
      exact ih serves
    | @send _ _ _ next inputs count _ taken =>
      obtain ⟨after, sent, delivers⟩ := serves.send known inputs
      obtain ⟨_, rfl⟩ := Prod.mk.inj (sent.symm.trans taken)
      exact delivers.trans (ih delivers.serves)

/-- What a run of a command delivers; if it ends well, that is the expansion of the command. -/
theorem Serves.executes {id : String} {sent : List Delivery} {outcome : Except CommandError Nat}
    (serves : w.Serves config)
    (executes : Executes w.repertoire host sessionId id w sent outcome after) :
    Delivers config sessionId w (sent.map Delivery.inputs) after ∧
      ∀ count, outcome = .ok count →
        config.repertoire.Expansion [.command id] (sent.map Delivery.inputs) := by
  cases executes with
  | absent absent =>
    obtain rfl := absent_same absent
    exact ⟨serves.delivers sessionId, nofun⟩
  | runs running ends =>
    obtain ⟨known, rfl⟩ := serves.runsAt running
    cases ends with
    | arrives walks =>
      refine ⟨serves.walks known walks, fun _ _ => ?_⟩
      rw [← serves.repertoire]
      exact walks.visits.expands rfl
    | halts walks halts =>
      have delivers := serves.walks known walks
      refine ⟨?_, nofun⟩
      cases halts with
      | cancelled _ cancelled =>
        obtain rfl := (Prod.mk.inj cancelled).2
        rw [Option.toList_none, List.append_nil]
        exact delivers
      | blocked _ going =>
        obtain rfl := going_same going
        rw [Option.toList_none, List.append_nil]
        exact delivers
      | @refused _ _ _ _ inputs _ _ refused =>
        obtain ⟨_, sent, _⟩ := delivers.serves.send known inputs
        cases sent.symm.trans refused

theorem Serves.forceExecute (serves : w.Serves config) (sessionId id : String) :
    ∃ batches, Delivers config sessionId w batches (World.forceExecute sessionId id w).2 ∧
      ∀ count, (World.forceExecute sessionId id w).1 = .ok count →
        config.repertoire.Expansion [.command id] batches := by
  obtain ⟨sent, executes⟩ := w.repertoire.forceExecute_executes host sessionId id w
  exact ⟨_, serves.executes executes⟩

/-- Whatever is asked, all batches go to the session. -/
theorem Serves.run {α : Type} {d : Dialogue α} (serves : w.Serves config)
    (asks : d.Asks (Question.RunsOn (· = sessionId))) :
    ∃ batches, Delivers config sessionId w batches (d.run answer w).2 := by
  induction asks generalizing w with
  | done value => exact ⟨[], serves.delivers sessionId⟩
  | @ask question next fine _ ih =>
    have answered : ∃ batches, Delivers config sessionId w batches (answer question w).2 := by
      by_cases none : question.RunsNone
      · exact ⟨[], (answer_quiet none).delivers serves sessionId⟩
      · cases question with
        | execute onSession commandId =>
          obtain rfl : onSession = sessionId := fine
          obtain ⟨batches, delivers, _⟩ := serves.forceExecute onSession commandId
          exact ⟨batches, delivers⟩
        | _ => exact absurd trivial none
    obtain ⟨first, delivers⟩ := answered
    obtain ⟨rest, later⟩ := ih (answer question w).1 delivers.serves
    exact ⟨first ++ rest, delivers.trans later⟩

/-- A command of a run delivers to the session of the run; if triggers do not matter and it ends
well, it delivers the expansion of the command. -/
theorem Serves.commandOn (serves : w.Serves config) (sessionId : String) (respectTriggers : Bool)
    (id : String) :
    ∃ batches, Delivers config sessionId w batches
        (World.commandOn sessionId respectTriggers id w).2 ∧
      (respectTriggers = false → (World.commandOn sessionId respectTriggers id w).1 = .ok () →
        config.repertoire.Expansion [.command id] batches) := by
  cases respectTriggers with
  | true =>
    obtain ⟨batches, delivers⟩ := serves.run (w.engine.executeGated_runsOn sessionId id)
    exact ⟨batches, delivers, nofun⟩
  | false =>
    obtain ⟨batches, delivers, expands⟩ := serves.forceExecute sessionId id
    refine ⟨batches, delivers, fun _ ended => ?_⟩
    have answered : (World.commandOn sessionId false id w).1 =
        ((World.forceExecute sessionId id w).1.mapError (RunError.ofCommand id)).map fun _ => () := rfl
    rw [answered] at ended
    cases ran : (World.forceExecute sessionId id w).1 with
    | ok count => exact expands count ran
    | error error =>
      rw [ran] at ended
      cases ended

end Serving

end Rehearsal.World

end Autopilot
