import Autopilot.Proofs.Command.Sending

/-!
Every run of a command ends, also where commands call each other in a circle. A traversal
cannot go on forever, since there is only one, and it comes to a point from which nothing
leads on; until then the path has each stored command once at most. If it comes to a
command that is on the path already, the run fails there with the path as the trail of the
circle, and this is the only way to fail so.
-/

namespace Autopilot

/-! ## Every traversal ends -/

section Ending

variable {σ : Type} {r : Repertoire} {host : SessionHost σ} {sessionId : String}

/-- From where a walk leads to a point at which it is stuck, no traversal goes on forever. -/
theorem Walks.acc {a b : Position × σ} {sent : List Delivery} (walks : Walks r host sessionId a sent b)
    (stuck : Stuck r host sessionId b) :
    Acc (fun later now => ∃ delivery, Advances r host sessionId now delivery later) a := by
  induction walks with
  | stay a => exact ⟨a, fun later ⟨delivery, first⟩ => absurd first (stuck delivery later)⟩
  | @go a b c delivery rest first _ ih =>
    refine ⟨a, fun later ⟨other, again⟩ => ?_⟩
    have same : b = later := (first.deterministic again).2
    exact same ▸ ih stuck

theorem Ends.acc {a : Position × σ} {goal : Position} {sent : List Delivery}
    {outcome : Except CommandError Nat} {last : σ} (done : goal.agenda = [])
    (ends : Ends r host sessionId a goal sent outcome last) :
    Acc (fun later now => ∃ delivery, Advances r host sessionId now delivery later) a := by
  cases ends with
  | arrives walks => exact walks.acc (stuck_of_done done _)
  | halts walks halts => exact walks.acc halts.stuck

end Ending

/-! ## The path after a nested run -/

section Kept

variable {r : Repertoire} {p q : Position}

/-- What is left of the path when all commands are left that the agenda says to leave. -/
def Position.base (p : Position) : List String :=
  p.path.take (p.path.length - p.agenda.count .leave)

theorem Pending.count_ofSteps (steps : List CommandStep) :
    (Pending.ofSteps steps).count .leave = 0 := by
  refine List.count_eq_zero.2 fun member => ?_
  obtain ⟨step, _, same⟩ := List.mem_map.1 member
  cases same

theorem Moves.base {batch : Option (List Input)} (moves : Moves r p batch q) : q.base = p.base := by
  cases moves with
  | @enter path id agenda command steps =>
    have leaves : (Pending.ofSteps steps ++ .leave :: agenda).count .leave =
        agenda.count .leave + 1 := by
      rw [List.count_append, Pending.count_ofSteps, List.count_cons_self, Nat.zero_add]
    have stays : (Pending.step (.command id) :: agenda).count .leave = agenda.count .leave :=
      List.count_cons_of_ne (by simp)
    unfold Position.base
    dsimp only
    rw [leaves, stays, List.length_append, List.length_singleton, Nat.add_sub_add_right]
    exact List.take_append_of_le_length (Nat.sub_le _ _)
  | @act path id agenda action =>
    have stays : (Pending.step (.action id) :: agenda).count .leave = agenda.count .leave :=
      List.count_cons_of_ne (by simp)
    unfold Position.base
    dsimp only
    rw [stays]
  | @leave path last agenda =>
    unfold Position.base
    dsimp only
    rw [List.count_cons_self, List.length_append, List.length_singleton, Nat.add_sub_add_right]
    exact (List.take_append_of_le_length (Nat.sub_le _ _)).symm

theorem Visits.base {met : List (List Input)} (visits : Visits r p met q) : q.base = p.base := by
  induction visits with
  | stay => rfl
  | go first _ ih => exact ih.trans first.base

/-- When a step alone is done, the path is what it was before the step. -/
theorem Visits.path_eq {path : List String} {target : Target} {met : List (List Input)}
    (visits : Visits r ⟨path, [.step target]⟩ met q) (done : q.agenda = []) : q.path = path := by
  have same := visits.base
  have stays : [Pending.step target].count .leave = 0 := List.count_singleton.trans (by simp)
  unfold Position.base at same
  dsimp only at same
  rw [done, List.count_nil, stays, Nat.sub_zero, Nat.sub_zero, List.take_length,
    List.take_length] at same
  exact same

/-- What is done for a step alone is done for it before other steps too, which find the path as it
was. -/
theorem Visits.nested {path : List String} {target : Target} {met : List (List Input)}
    (visits : Visits r ⟨path, [.step target]⟩ met q) (done : q.agenda = []) (rest : List Pending) :
    Visits r ⟨path, .step target :: rest⟩ met ⟨path, rest⟩ := by
  have framed := visits.frame rest
  rw [done, visits.path_eq done] at framed
  exact framed

end Kept

/-! ## Circles -/

section Circles

variable {σ : Type} (r : Repertoire) (host : SessionHost σ) (sessionId : String)

/-- A traversal comes, without failing before, to a command that is on the path already, while the
run is not cancelled. -/
def Circles (a : Position × σ) (sent : List Delivery) (id : String) (trail : List String)
    (last : σ) : Prop :=
  ∃ path agenda s, Walks r host sessionId a sent (⟨path, .step (.command id) :: agenda⟩, s) ∧
    host.isCancelled s = (false, last) ∧ r.lowerCase id ∈ path ∧ trail = path ++ [r.lowerCase id]

variable {r host sessionId} {a b : Position × σ} {sent : List Delivery} {id : String}
  {trail : List String} {last : σ}

theorem Circles.halts (circles : Circles r host sessionId a sent id trail last) :
    ∃ b, Walks r host sessionId a sent b ∧
      Halts r host sessionId b none (.cycle id trail) last := by
  obtain ⟨path, agenda, s, walks, looked, onPath, rfl⟩ := circles
  exact ⟨_, walks, .blocked (.cycle onPath) (.command ⟨id, agenda, rfl⟩ looked)⟩

/-- No other point fails in this way. -/
theorem Halts.circles {refused : Option Delivery} (walks : Walks r host sessionId a sent b)
    (halts : Halts r host sessionId b refused (.cycle id trail) last) :
    refused = none ∧ Circles r host sessionId a sent id trail last := by
  generalize same : CommandError.cycle id trail = error at halts
  cases halts with
  | cancelled => cases same
  | blocked blocked going =>
    cases blocked with
    | @cycle path _ agenda onPath =>
      cases same
      cases going with
      | command _ looked => exact ⟨rfl, path, agenda, _, walks, looked, onPath, rfl⟩
      | other stays => exact absurd ⟨_, agenda, rfl⟩ stays
    | _ => cases same
  | @refused _ _ _ _ _ failure => cases failure <;> cases same

/-- The trail of a circle goes from call to call, and only where it closes does it come to a
command again. -/
theorem Circles.closes {start : String} {s : σ}
    (circles : Circles r host sessionId (.start start, s) sent id trail last) :
    (∃ ids, r.CallPath start (ids ++ [id]) ∧ trail = (ids ++ [id]).map r.lowerCase) ∧
      trail.dropLast.Nodup ∧ trail.getLast? = some (r.lowerCase id) ∧
      trail.count (r.lowerCase id) = 2 := by
  obtain ⟨path, agenda, t, walks, _, onPath, rfl⟩ := circles
  have sound := (Position.Sound.begun r start).visit walks.visits
  obtain ⟨ids, called, rfl, distinct⟩ := sound.callPath
  refine ⟨⟨ids, called, ?_⟩, ?_, List.getLast?_concat, ?_⟩
  · rw [List.map_append, List.map_singleton]
  · rw [List.dropLast_concat]
    exact distinct
  · have once : (ids.map r.lowerCase).count (r.lowerCase id) = 1 :=
      List.count_eq_one_of_mem distinct onPath
    rw [List.count_append, once, List.count_singleton_self]

end Circles

namespace Repertoire

variable {σ : Type} (r : Repertoire) (host : SessionHost σ) (sessionId : String)

/-- Running a command ends, with never more commands on the path than are stored. It fails because
of a circle if and only if the traversal comes to one before it fails otherwise; the trail is then
that of the circle, and nothing is sent after it. A nested run that does not fail leaves the path
as it was at its start, and one that fails leaves the path of the point that fails. -/
theorem forceExecute_circles (id : String) (s : σ) :
    ∃ outcome last sent,
      (r.forceExecute host sessionId id).run s = (outcome, last) ∧
      (r.forceExecute host.recording sessionId id).run (s, []) = (outcome, last, sent) ∧
      (∀ t, Acc (fun later now => ∃ delivery, Advances r host sessionId now delivery later)
        (.start id, t)) ∧
      (∀ met p, Visits r (.start id) met p → p.path.length ≤ r.keys.length) ∧
      (∀ caller trail, outcome = .error (.cycle caller trail) ↔
        ∃ t before final, host.RunsAt sessionId s t ∧
          Circles r host sessionId (.start id, t) before caller trail final) ∧
      (∀ t before caller trail final, host.RunsAt sessionId s t →
        Circles r host sessionId (.start id, t) before caller trail final →
        sent = before ∧ last = final ∧
          (∃ ids, r.CallPath id (ids ++ [caller]) ∧ trail = (ids ++ [caller]).map r.lowerCase) ∧
          trail.dropLast.Nodup ∧ trail.getLast? = some (r.lowerCase caller) ∧
          trail.count (r.lowerCase caller) = 2) ∧
      (∀ path target met p, Visits r ⟨path, [.step target]⟩ met p → p.agenda = [] →
        p.path = path ∧ ∀ rest, Visits r ⟨path, .step target :: rest⟩ met ⟨path, rest⟩) ∧
      ∀ path nested t agenda, let run := r.runCommand host sessionId path nested t
        (∀ count, run.outcome = .ok count → run.left = path ∧ ∃ part,
          Walks r host sessionId (⟨path, .step (.command nested) :: agenda⟩, t) part
            (⟨path, agenda⟩, run.state)) ∧
        ∀ error, run.outcome = .error error → ∃ part b refused,
          Walks r host sessionId (⟨path, .step (.command nested) :: agenda⟩, t) part b ∧
            Halts r host sessionId b refused error run.state ∧ run.left = b.1.path := by
  obtain ⟨sent, executes, recorded⟩ := r.forceExecute_recording host sessionId id s
  rcases ended : (r.forceExecute host sessionId id).run s with ⟨outcome, last⟩
  rw [ended] at executes recorded
  -- A circle is one way to run the command, and there is no other.
  have closed {t final : σ} {before : List Delivery} {caller : String} {trail : List String}
      (running : host.RunsAt sessionId s t)
      (circles : Circles r host sessionId (.start id, t) before caller trail final) :
      sent = before ∧ outcome = .error (.cycle caller trail) ∧ last = final := by
    obtain ⟨b, walks, halts⟩ := circles.halts
    have again := Executes.runs running (.halts walks halts)
    rw [Option.toList_none, List.append_nil] at again
    exact executes.unique again
  refine ⟨outcome, last, sent, rfl, recorded, fun t => ?_, fun met p visits => ?_,
    fun caller trail => ⟨fun failed => ?_, ?_⟩, ?_,
    fun path target met p visits done => ⟨visits.path_eq done, visits.nested done⟩,
    fun path nested t agenda => ?_⟩
  · obtain ⟨more, passes⟩ := (r.run_follows host sessionId).1 [] id t []
    exact passes.ends.acc rfl
  · exact ((Position.Sound.begun r id).visit visits).length_path_le
  · subst failed
    cases executes with
    | absent absent => cases absent
    | runs running ends =>
      cases ends with
      | halts walks halts => exact ⟨_, _, _, running, (halts.circles walks).2⟩
  · rintro ⟨t, before, final, running, circles⟩
    exact (closed running circles).2.1
  · intro t before caller trail final running circles
    obtain ⟨same, _, ends⟩ := closed running circles
    exact ⟨same, ends, circles.closes⟩
  · obtain ⟨part, passes⟩ := (r.run_follows host sessionId).1 path nested t agenda
    refine ⟨fun count ended => ?_, fun error failed => passes.halted failed⟩
    obtain ⟨kept, walks⟩ := passes.arrived ended
    exact ⟨kept, part, walks⟩

/-- A command that aims and then runs itself under its name in capitals. -/
def roundabout : Repertoire where
  commands := .ofList [.ofSteps "Turn" [⟨.action "aim", 0⟩, ⟨.command "TURN", 1⟩]]
  actions := .ofList [{ id := "aim", inputs := [.tap 1 2] }]

/-- The batch before the circle is sent, and the command is not even looked up again. -/
theorem roundabout_circles : ∃ sent,
    (roundabout.forceExecute yielding.recording "door" "Turn").run ((), []) =
      (.error (.cycle "TURN" ["turn", "turn"]), (), sent) ∧
    sent.map Delivery.inputs = [[.tap 1 2]] := by
  have running : yielding.RunsAt "door" () () := ⟨.running "door", rfl, rfl⟩
  have found : roundabout.commands.get "Turn" = .ok (some (.ofSteps "Turn"
    [⟨.action "aim", 0⟩, ⟨.command "TURN", 1⟩])) := rfl
  have aim : roundabout.actions.get "aim" = .ok (some { id := "aim", inputs := [.tap 1 2] }) := rfl
  have arranged : Command.Arranged [⟨.action "aim", 0⟩, ⟨.command "TURN", 1⟩]
      [⟨.action "aim", 0⟩, ⟨.command "TURN", 1⟩] := ⟨by decide, fun _ => rfl⟩
  have entered : Advances roundabout yielding "door" (.start "Turn", ()) none
      (⟨["turn"], [.step (.action "aim"), .step (.command "TURN"), .leave]⟩, ()) :=
    .quiet (.enter (by decide) found arranged) (.command ⟨_, _, rfl⟩ rfl)
  have acted : Advances roundabout yielding "door"
      (⟨["turn"], [.step (.action "aim"), .step (.command "TURN"), .leave]⟩, ())
      (some ⟨"door", [.tap 1 2], .ok 1⟩)
      (⟨["turn"], [.step (.command "TURN"), .leave]⟩, ()) :=
    .send (.act aim) rfl
  have circles : Circles roundabout yielding "door" (.start "Turn", ())
      [⟨"door", [.tap 1 2], .ok 1⟩] "TURN" ["turn", "turn"] () :=
    ⟨["turn"], [.leave], (), .go entered (.go acted (.stay _)), rfl, by decide, rfl⟩
  obtain ⟨outcome, last, sent, _, recorded, _, _, reported, closed, _⟩ :=
    roundabout.forceExecute_circles yielding "door" "Turn" ()
  obtain rfl := (reported _ _).2 ⟨(), _, (), running, circles⟩
  obtain ⟨rfl, _⟩ := closed () _ _ _ () running circles
  exact ⟨_, recorded, rfl⟩

end Repertoire

end Autopilot
