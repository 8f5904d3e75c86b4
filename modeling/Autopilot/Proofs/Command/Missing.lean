import Autopilot.Proofs.Command.Gate

/-!
Commands that refer to something that is missing. What a command refers to is looked up where the
traversal comes to it, so what was sent before stays sent, and nothing is sent after it. Nothing
happens at all when the session, the command itself or its trigger is missing. Behind a trigger that
is satisfied, that it fired has been stored by then; no other record changes.
-/

namespace Autopilot

open Trigger (Evaluation)

/-- How a run comes to something that is missing, and what it has sent by then: the session is not
there, or the traversal comes to a reference that leads nowhere, or the session does not take a batch
because it is gone. -/
inductive Dangles {σ : Type} (r : Repertoire) (host : SessionHost σ) (sessionId commandId : String)
    (s : σ) (what : Referent) (id : String) : List Delivery → Prop where
  | absent {next : σ} (absent : host.Absent sessionId s next (.notFound what id)) :
      Dangles r host sessionId commandId s what id []
  | reference {next later : σ} {p : Position} {sent : List Delivery}
      (running : host.RunsAt sessionId s next)
      (walks : Walks r host sessionId (.start commandId, next) sent (p, later))
      (blocked : Blocked r p (.notFound what id)) :
      Dangles r host sessionId commandId s what id sent
  | refused {next later last : σ} {p q : Position} {sent : List Delivery} {inputs : List Input}
      {error : SessionError} (running : host.RunsAt sessionId s next)
      (walks : Walks r host sessionId (.start commandId, next) sent (p, later))
      (moves : Moves r p (some inputs) q)
      (refused : host.send sessionId inputs later = (.error error, last))
      (gone : CommandError.ofSession error = .notFound what id) :
      Dangles r host sessionId commandId s what id (sent ++ [⟨sessionId, inputs, .error error⟩])

theorem Executes.dangles {σ : Type} {r : Repertoire} {host : SessionHost σ}
    {sessionId commandId : String} {s last : σ} {sent : List Delivery} {what : Referent} {id : String}
    (executes : Executes r host sessionId commandId s sent (.error (.notFound what id)) last) :
    Dangles r host sessionId commandId s what id sent := by
  cases executes with
  | absent absent => exact .absent absent
  | runs running ends =>
    generalize failed : Except.error (CommandError.notFound what id) = outcome at ends
    cases ends with
    | arrives => cases failed
    | @halts _ b _ _ _ walks halts =>
      cases failed
      generalize gone : CommandError.notFound what id = error at halts
      cases halts with
      | cancelled => cases gone
      | blocked blocked =>
        subst gone
        rw [Option.toList_none, List.append_nil]
        exact .reference running walks blocked
      | refused moves refused => exact .refused running walks moves refused gone.symm

namespace Collaborators

variable {σ : Type} (c : Collaborators σ) (engine : Engine) {sessionId commandId triggerId : String}
  {scene final : Scene σ} {what : Referent} {id : String}

/-! ## Looking things up -/

theorem findCommand_perform (commandId : String) (scene : Scene σ) :
    c.perform (Engine.findCommand commandId) scene =
      (match c.repertoire.commands.get commandId with
        | .error error => .error (.store error)
        | .ok none => .error (.notFound .command commandId)
        | .ok (some command) => .ok command, scene) := by
  have looked : c.perform (Talk.command commandId : Talk CommandError _) scene =
      (.ok (c.repertoire.commands.get commandId), scene) := rfl
  unfold Engine.findCommand
  rw [c.perform_bind_of_ok looked]
  rcases c.repertoire.commands.get commandId with error | _ | command <;> rfl

theorem triggerOf_answers (triggerId : String) (scene : Scene σ) :
    c.perform (Engine.triggerOf triggerId) scene =
      (match scene.triggers.get triggerId with
        | .error error => .error (.store error)
        | .ok none => .error (.notFound .trigger triggerId)
        | .ok (some t) => .ok t, scene) := by
  have looked : c.perform (Talk.trigger triggerId : Talk CommandError _) scene =
      (.ok (scene.triggers.get triggerId), scene) := rfl
  unfold Engine.triggerOf
  rw [c.perform_bind_of_ok looked]
  rcases scene.triggers.get triggerId with error | _ | t <;> rfl

/-- What is looked up before anything happens, and is not there. -/
inductive Unknown (sessionId commandId : String) (scene : Scene σ) : Referent → String → Prop where
  | session {next : σ} (missing : c.host.session sessionId scene.state = (none, next)) :
      Unknown sessionId commandId scene .session sessionId
  | command (missing : c.repertoire.commands.get commandId = .ok none) :
      Unknown sessionId commandId scene .command commandId
  | trigger {command : Command} {triggerId : String}
      (found : c.repertoire.commands.get commandId = .ok (some command))
      (behind : command.triggerId = some triggerId)
      (missing : scene.triggers.get triggerId = .ok none) :
      Unknown sessionId commandId scene .trigger triggerId

/-- What has happened when a command was to be run behind its trigger and something is missing. -/
inductive Misses (sessionId commandId : String) (scene final : Scene σ) (what : Referent)
    (id : String) : Prop where
  | atOnce (unknown : c.Unknown sessionId commandId scene what id)
      (triggers : final.triggers = scene.triggers) (effects : final.effects = scene.effects)
  | free {command : Command} {sent : List Delivery}
      (found : c.repertoire.commands.get commandId = .ok (some command))
      (free : command.triggerId = none) (triggers : final.triggers = scene.triggers)
      (effects : final.effects = scene.effects ++ sent.map .sent)
      (dangles : Dangles c.repertoire c.host sessionId commandId (c.asked sessionId scene).state
        what id sent)
  | fired {command : Command} {triggerId : String} {t : Trigger} {e : Evaluation} {later : Scene σ}
      {sent : List Delivery} (found : c.repertoire.commands.get commandId = .ok (some command))
      (behind : command.triggerId = some triggerId)
      (stored : scene.triggers.get triggerId = .ok (some t))
      (judged : c.judges engine t (c.asked sessionId scene) = (.ok e, later))
      (satisfied : e.status = .satisfied)
      (fired : final.triggers.shelf.get? triggerId = some (t.record e))
      (others : ∀ other, other ≠ triggerId →
        final.triggers.shelf.get? other = scene.triggers.shelf.get? other)
      (effects : final.effects = scene.effects ++ .stored (t.record e) :: sent.map .sent)
      (dangles : Dangles c.repertoire c.host sessionId commandId later.state what id sent)

theorem ofTrigger_ne_notFound (error : TriggerError) : CommandError.ofTrigger error ≠ .notFound what id := by
  cases error <;> simp [CommandError.ofTrigger]

variable {c engine}

/-- If it is known from the start what is missing, nothing has been sent. -/
theorem Unknown.unsent {sent : List Delivery} (unknown : c.Unknown sessionId commandId scene what id)
    (dangles : Dangles c.repertoire c.host sessionId commandId scene.state what id sent) : sent = [] := by
  cases unknown with
  | session missing =>
    cases dangles with
    | absent => rfl
    | reference running => exact absurd (.missing missing) running.not_absent
    | refused running => exact absurd (.missing missing) running.not_absent
  | command missing =>
    have blocked : Blocked c.repertoire (.start commandId) (.notFound .command commandId) :=
      .noCommand List.not_mem_nil missing
    have still {next later : σ} {p : Position} {sent : List Delivery}
        (walks : Walks c.repertoire c.host sessionId (.start commandId, next) sent (p, later)) :
        sent = [] ∧ p = .start commandId := by
      cases walks with
      | stay => exact ⟨rfl, rfl⟩
      | go first => exact absurd blocked first.moves.not_blocked
    cases dangles with
    | absent => rfl
    | reference _ walks => exact (still walks).1
    | refused _ walks moves =>
      obtain ⟨_, rfl⟩ := still walks
      exact absurd blocked moves.not_blocked
  | trigger =>
    cases dangles with
    | absent => rfl
    | reference _ _ blocked => cases blocked
    | @refused _ _ _ _ _ _ _ error _ _ _ _ gone => cases error <;> cases gone

/-- A run of a command that something is missing for has no part in the triggers. -/
theorem execute_dangles
    (ended : c.execute sessionId commandId scene = (.error (.notFound what id), final)) :
    final.triggers = scene.triggers ∧ ∃ sent, final.effects = scene.effects ++ sent.map .sent ∧
      Dangles c.repertoire c.host sessionId commandId scene.state what id sent := by
  obtain ⟨sent, ran, last, executes, same⟩ := c.execute_executes sessionId commandId scene
  rw [same] at ended
  cases ended
  exact ⟨rfl, sent, rfl, executes.dangles⟩

theorem executeBehind_misses {command : Command}
    (found : c.repertoire.commands.get commandId = .ok (some command))
    (behind : command.triggerId = some triggerId)
    (ended : c.perform (engine.executeBehind sessionId commandId triggerId) (c.asked sessionId scene) =
      (.error (.notFound what id), final)) :
    c.Misses engine sessionId commandId scene final what id := by
  have looked := c.triggerOf_answers triggerId (c.asked sessionId scene)
  rcases stored : scene.triggers.get triggerId with error | _ | t
  · rw [show (c.asked sessionId scene).triggers.get triggerId = _ from stored] at looked
    cases (c.perform_bind_of_error looked _).symm.trans ended
  · rw [show (c.asked sessionId scene).triggers.get triggerId = _ from stored] at looked
    cases (c.perform_bind_of_error looked _).symm.trans ended
    exact .atOnce (.trigger found behind stored) rfl rfl
  · have there : (c.asked sessionId scene).triggers.get triggerId = .ok (some t) := stored
    rcases judged : c.judges engine t (c.asked sessionId scene) with ⟨error | e, later⟩
    · rw [c.executeBehind_perform engine there, judged] at ended
      exact absurd (Except.error.inj (Prod.mk.inj ended).1) (ofTrigger_ne_notFound error)
    · by_cases satisfied : e.status = .satisfied
      · have fires := (executeBehind_satisfied there judged satisfied ended).2
        generalize failed : Except.error (CommandError.notFound what id) = result at fires
        cases fires with
        | refused => cases failed
        | @ran sent ran last kept effects executes =>
          cases ran with
          | ok => cases failed
          | error error =>
            cases failed
            have named : recordId t = triggerId := Shelf.recordId_of_get? (Store.get?_of_get stored)
            refine .fired found behind stored judged satisfied ?_ ?_ effects executes.dangles
            · exact (Store.get?_put kept _).trans (if_pos named)
            · exact fun other distinct =>
                (Store.get?_put kept _).trans (if_neg fun same => distinct (same.symm.trans named))
      · rcases executeBehind_unsatisfied there judged satisfied ended with
          ⟨_, ⟨_, same⟩ | ⟨_, _, _, same, _⟩⟩ | ⟨_, _, same, _⟩ <;> cases same

/-- What has happened when something turns out to be missing. A run of a command whatever its trigger
says changes no trigger, and has sent the batches that the traversal meets before the missing thing,
and nothing else. When a command is to be run behind its trigger, nothing happens at all if the session,
the command or the trigger is missing; else the trigger was satisfied and, if there is one, that it fired
has been stored, no other record changes, and the batches that come before are all that is sent. -/
theorem notFound_effects (c : Collaborators σ) (engine : Engine) (sessionId commandId : String)
    (scene : Scene σ) (what : Referent) (id : String) :
    (∀ final, c.execute sessionId commandId scene = (.error (.notFound what id), final) →
      final.triggers = scene.triggers ∧ ∃ sent, final.effects = scene.effects ++ sent.map .sent ∧
        Dangles c.repertoire c.host sessionId commandId scene.state what id sent ∧
        (c.Unknown sessionId commandId scene what id → sent = [])) ∧
    ∀ final, c.perform (engine.executeGated sessionId commandId) scene =
        (.error (.notFound what id), final) →
      c.Misses engine sessionId commandId scene final what id := by
  refine ⟨fun final ended => ?_, fun final ended => ?_⟩
  · obtain ⟨triggers, sent, effects, dangles⟩ := execute_dangles ended
    exact ⟨triggers, sent, effects, dangles, fun unknown => unknown.unsent dangles⟩
  unfold Engine.executeGated at ended
  rcases c.requireRunning_perform scene with ⟨error, absent, failed⟩ | ⟨running, passed⟩
  · cases (c.perform_bind_of_error failed _).symm.trans ended
    cases absent with
    | missing missing => exact .atOnce (.session missing) rfl rfl
  · rw [c.perform_bind_of_ok passed] at ended
    have looked := c.findCommand_perform commandId (c.asked sessionId scene)
    rcases found : c.repertoire.commands.get commandId with error | _ | command
    · rw [found] at looked
      cases (c.perform_bind_of_error looked _).symm.trans ended
    · rw [found] at looked
      cases (c.perform_bind_of_error looked _).symm.trans ended
      exact .atOnce (.command found) rfl rfl
    · rw [found] at looked
      rw [c.perform_bind_of_ok looked] at ended
      cases behind : command.triggerId with
      | some triggerId =>
        rw [behind] at ended
        exact executeBehind_misses found behind ended
      | none =>
        rw [behind] at ended
        rcases ran : c.execute sessionId commandId (c.asked sessionId scene) with ⟨error | count, last⟩
        · have called : c.perform (Talk.execute sessionId commandId : Talk CommandError _)
              (c.asked sessionId scene) = (.ok (.error error), last) :=
            c.perform_ask ran
          dsimp only at ended
          rw [c.perform_bind_of_ok called] at ended
          cases (c.perform_bind_of_error (c.perform_orFail _ _ _) _).symm.trans ended
          obtain ⟨triggers, sent, effects, dangles⟩ := execute_dangles ran
          exact .free found behind triggers effects dangles
        · have called : c.perform (Talk.execute sessionId commandId : Talk CommandError _)
              (c.asked sessionId scene) = (.ok (.ok count), last) :=
            c.perform_ask ran
          dsimp only at ended
          rw [c.perform_bind_of_ok called] at ended
          cases (c.perform_bind_of_ok (c.perform_orFail _ _ _) _).symm.trans ended

/-- A command behind a trigger that refers to an action which is not there, after one which is. -/
def doorkeeper : Collaborators Unit := { porter with
  repertoire := {
    commands := .ofList
      [(Command.ofSteps "open" [⟨.action "knock", 0⟩, ⟨.action "bell", 1⟩]).withTrigger "rested"]
    actions := .ofList [{ id := "knock", inputs := [.press "K"] }] } }

theorem doorkeeper_open : doorkeeper.repertoire.commands.get "open" =
    .ok (some ((Command.ofSteps "open"
      [⟨.action "knock", 0⟩, ⟨.action "bell", 1⟩]).withTrigger "rested")) := rfl

/-- The batch before the missing action is sent. -/
theorem doorkeeper_executes : Executes doorkeeper.repertoire doorkeeper.host "door" "open" ()
    [⟨"door", [.press "K"], .ok 1⟩] (.error (.notFound .action "bell")) () := by
  have knock : doorkeeper.repertoire.actions.get "knock" =
      .ok (some { id := "knock", inputs := [.press "K"] }) := rfl
  have bell : doorkeeper.repertoire.actions.get "bell" = .ok none := rfl
  have arranged : Command.Arranged [⟨.action "knock", 0⟩, ⟨.action "bell", 1⟩]
      [⟨.action "knock", 0⟩, ⟨.action "bell", 1⟩] := ⟨by decide, fun _ => rfl⟩
  have entered : Advances doorkeeper.repertoire doorkeeper.host "door" (.start "open", ()) none
      (⟨["open"], [.step (.action "knock"), .step (.action "bell"), .leave]⟩, ()) :=
    .quiet (.enter (by decide) doorkeeper_open arranged) (.command ⟨_, _, rfl⟩ rfl)
  have acted : Advances doorkeeper.repertoire doorkeeper.host "door"
      (⟨["open"], [.step (.action "knock"), .step (.action "bell"), .leave]⟩, ())
      (some ⟨"door", [.press "K"], .ok 1⟩) (⟨["open"], [.step (.action "bell"), .leave]⟩, ()) :=
    .send (.act knock) rfl
  exact .runs ⟨.running "door", rfl, rfl⟩ (.halts (.go entered (.go acted (.stay _)))
    (.blocked (.noAction bell) (.other fun ⟨_, _, next⟩ => nomatch next)))

theorem doorkeeper_executeGated : ∃ final,
    doorkeeper.perform ((Engine.standard false).executeGated "door" "open") evening =
      (.error (.notFound .action "bell"), final) ∧
    final.triggers.shelf.get? "rested" =
      some (rested.record ⟨Trigger.Reason.delayElapsed.verdict ⟨60, 0⟩, none⟩) ∧
    final.effects = [.stored (rested.record ⟨Trigger.Reason.delayElapsed.verdict ⟨60, 0⟩, none⟩),
      .sent ⟨"door", [.press "K"], .ok 1⟩] := by
  have stored : (doorkeeper.asked "door" evening).triggers.get "rested" = .ok (some rested) := rfl
  have running : doorkeeper.host.RunsAt "door" () () := ⟨.running "door", rfl, rfl⟩
  have judged : doorkeeper.judges (Engine.standard false) rested (doorkeeper.asked "door" evening) =
      (.ok ⟨Trigger.Reason.delayElapsed.verdict ⟨60, 0⟩, none⟩, evening) := rfl
  rcases doorkeeper.executeGated_perform (Engine.standard false) doorkeeper_open rfl evening with
    ⟨_, absent, _⟩ | ⟨_, same⟩
  · exact absurd absent running.not_absent
  rcases ended : doorkeeper.perform ((Engine.standard false).executeBehind "door" "open" "rested")
    (doorkeeper.asked "door" evening) with ⟨result, final⟩
  cases (executeBehind_satisfied stored judged rfl ended).2 with
  | refused refused => cases refused
  | ran kept effects executes =>
    obtain ⟨rfl, rfl, _⟩ := executes.unique doorkeeper_executes
    exact ⟨final, same.trans ended, (Store.get?_put kept _).trans (if_pos rfl), effects⟩

theorem notFound_effects_doorkeeper : ∃ final,
    doorkeeper.perform ((Engine.standard false).executeGated "door" "open") evening =
      (.error (.notFound .action "bell"), final) ∧
    doorkeeper.Misses (Engine.standard false) "door" "open" evening final .action "bell" := by
  obtain ⟨final, ended, _⟩ := doorkeeper_executeGated
  obtain ⟨_, gated⟩ := doorkeeper.notFound_effects (Engine.standard false) "door" "open" evening
    .action "bell"
  exact ⟨final, ended, gated final ended⟩

/-- An input was sent and a record has changed, although something is not found. -/
theorem doorkeeper_not_clean :
    (∃ final, doorkeeper.execute "door" "open" evening = (.error (.notFound .action "bell"), final) ∧
      final.effects = evening.effects ++ [.sent ⟨"door", [.press "K"], .ok 1⟩]) ∧
    ∃ final, doorkeeper.perform ((Engine.standard false).executeGated "door" "open") evening =
        (.error (.notFound .action "bell"), final) ∧
      .sent ⟨"door", [.press "K"], .ok 1⟩ ∈ final.effects ∧
      final.triggers.shelf.get? "rested" ≠ evening.triggers.shelf.get? "rested" := by
  constructor
  · obtain ⟨sent, ran, last, executes, ended⟩ := doorkeeper.execute_executes "door" "open" evening
    obtain ⟨rfl, rfl, _⟩ := executes.unique doorkeeper_executes
    exact ⟨_, ended, rfl⟩
  · obtain ⟨final, ended, record, effects⟩ := doorkeeper_executeGated
    refine ⟨final, ended, ?_, fun same => ?_⟩
    · rw [effects]
      exact List.mem_cons_of_mem _ List.mem_cons_self
    · have before : evening.triggers.shelf.get? "rested" = some rested := rfl
      rw [record, before] at same
      cases congrArg Trigger.lastFiredAt (Option.some.inj same)

end Collaborators

end Autopilot
