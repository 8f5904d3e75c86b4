import Autopilot.Proofs.Command.Cycle

/-!
Runs of commands that are cancelled on their way. Whether a run is cancelled is looked at
only when a command comes next, so a run that is cancelled enters no command anymore, but the
actions that come before the next command are still sent, up to the first that fails.
-/

namespace Autopilot

/-- From here on the host always tells that the run is cancelled. -/
def SessionHost.CancelledFrom {σ : Type} (host : SessionHost σ) (sessionId : String) (s : σ) : Prop :=
  ∀ t, host.Reaches sessionId s t → ∃ next, host.isCancelled t = (true, next)

/-- The actions that come before the next command. -/
def Target.leading : List Target → List String
  | .action id :: rest => id :: leading rest
  | _ => []

/-- The batches of the actions that come before the next command, up to one that is not there. -/
def Repertoire.imminent (r : Repertoire) : List Target → List (List Input)
  | .action id :: rest =>
    match r.actions.get id with
    | .ok (some action) => action.batch?.toList ++ r.imminent rest
    | _ => []
  | _ => []

/-- How a run that is cancelled comes to its end, with some targets left: the actions before the
next command are sent, unless one of them fails, and then the run is cancelled if there is a
command. -/
inductive WindsUp (r : Repertoire) (sessionId : String) (targets : List Target) :
    List Delivery → Except CommandError Unit → Prop where
  | completes {sent : List Delivery} (all : sent.map Delivery.inputs = r.imminent targets)
      (taken : ∀ d ∈ sent, ∃ count, d.answer = .ok count)
      (only : ∀ id, .command id ∉ targets) : WindsUp r sessionId targets sent (.ok ())
  | cancelled {sent : List Delivery} {id : String}
      (all : sent.map Delivery.inputs = r.imminent targets)
      (taken : ∀ d ∈ sent, ∃ count, d.answer = .ok count)
      (left : .command id ∈ targets) : WindsUp r sessionId targets sent (.error .cancelled)
  | actionRefused {sent : List Delivery} {id : String} {error : StoreError}
      (all : sent.map Delivery.inputs = r.imminent targets)
      (left : id ∈ Target.leading targets) (refused : r.actions.get id = .error error) :
      WindsUp r sessionId targets sent (.error (.store error))
  | noAction {sent : List Delivery} {id : String}
      (all : sent.map Delivery.inputs = r.imminent targets)
      (left : id ∈ Target.leading targets) (missing : r.actions.get id = .ok none) :
      WindsUp r sessionId targets sent (.error (.notFound .action id))
  | refused {sent : List Delivery} {inputs : List Input} {error : SessionError}
      (part : sent.map Delivery.inputs ++ [inputs] <+: r.imminent targets) :
      WindsUp r sessionId targets (sent ++ [⟨sessionId, inputs, .error error⟩])
        (.error (.ofSession error))

namespace WindsUp

variable {r : Repertoire} {sessionId : String} {targets : List Target} {sent : List Delivery}
  {ending : Except CommandError Unit}

/-- Only actions that come before the next command are sent. -/
theorem prefix_imminent (windsUp : WindsUp r sessionId targets sent ending) :
    sent.map Delivery.inputs <+: r.imminent targets := by
  cases windsUp with
  | completes all => exact all ▸ List.prefix_refl _
  | cancelled all => exact all ▸ List.prefix_refl _
  | actionRefused all => exact all ▸ List.prefix_refl _
  | noAction all => exact all ▸ List.prefix_refl _
  | refused part =>
    rw [List.map_append]
    exact part

/-- Where no action comes next, nothing is sent anymore, and the run is cancelled if anything is
left. -/
theorem of_no_action (windsUp : WindsUp r sessionId targets sent ending)
    (other : ∀ name, targets.head? ≠ some (.action name)) :
    sent = [] ∧ (targets ≠ [] → ending = .error .cancelled) := by
  obtain ⟨nothing, nobody, begins⟩ : r.imminent targets = [] ∧ Target.leading targets = [] ∧
      (targets ≠ [] → ∃ id, .command id ∈ targets) := by
    cases targets with
    | nil => exact ⟨rfl, rfl, fun some => absurd rfl some⟩
    | cons first rest =>
      cases first with
      | action name => exact absurd rfl (other name)
      | command id => exact ⟨rfl, rfl, fun _ => ⟨id, List.mem_cons_self⟩⟩
  have none := windsUp.prefix_imminent
  rw [nothing, List.prefix_nil, List.map_eq_nil_iff] at none
  refine ⟨none, fun some => ?_⟩
  obtain ⟨id, left⟩ := begins some
  cases windsUp with
  | completes _ _ only => exact absurd left (only id)
  | cancelled => rfl
  | actionRefused _ named => exact absurd (nobody ▸ named) List.not_mem_nil
  | noAction _ named => exact absurd (nobody ▸ named) List.not_mem_nil
  | refused => exact absurd none (List.append_ne_nil_of_right_ne_nil _ (List.cons_ne_nil _ _))

/-- With an action that is sent first. -/
theorem sending {id : String} {action : Action} {delivery : Option Delivery}
    (windsUp : WindsUp r sessionId targets sent ending)
    (found : r.actions.get id = .ok (some action))
    (batch : delivery.map Delivery.inputs = action.batch?)
    (taken : ∀ d ∈ delivery, ∃ count, d.answer = .ok count) :
    WindsUp r sessionId (.action id :: targets) (delivery.toList ++ sent) ending := by
  have first : delivery.toList.map Delivery.inputs = action.batch?.toList := by
    rw [← batch]
    cases delivery <;> rfl
  have next : r.imminent (.action id :: targets) = action.batch?.toList ++ r.imminent targets := by
    rw [Repertoire.imminent, found]
  have whole (all : sent.map Delivery.inputs = r.imminent targets) :
      (delivery.toList ++ sent).map Delivery.inputs = r.imminent (.action id :: targets) := by
    rw [List.map_append, first, all, next]
  have accepted (rest : ∀ d ∈ sent, ∃ count, d.answer = .ok count) :
      ∀ d ∈ delivery.toList ++ sent, ∃ count, d.answer = .ok count := by
    intro d member
    rcases List.mem_append.1 member with one | other
    · exact taken d (Option.mem_toList.1 one)
    · exact rest d other
  cases windsUp with
  | completes all taken only =>
    refine .completes (whole all) (accepted taken) fun name member => ?_
    rcases List.mem_cons.1 member with same | later
    · cases same
    · exact only name later
  | cancelled all taken left =>
    exact .cancelled (whole all) (accepted taken) (List.mem_cons_of_mem _ left)
  | actionRefused all left refused =>
    exact .actionRefused (whole all) (List.mem_cons_of_mem _ left) refused
  | noAction all left missing => exact .noAction (whole all) (List.mem_cons_of_mem _ left) missing
  | refused part =>
    rw [← List.append_assoc]
    refine .refused ?_
    rw [List.map_append, first, next, List.append_assoc]
    exact (List.prefix_append_right_inj _).2 part

end WindsUp

section Walks

variable {σ : Type} {r : Repertoire} {host : SessionHost σ} {sessionId : String}

theorem SessionHost.CancelledFrom.sent {s next : σ} {inputs : List Input}
    {answer : Except SessionError Nat} (cancelled : host.CancelledFrom sessionId s)
    (sent : host.send sessionId inputs s = (answer, next)) : host.CancelledFrom sessionId next :=
  fun t reaches => cancelled t (.send sent reaches)

/-- A run that is cancelled does not try a command. -/
theorem SessionHost.CancelledFrom.going {p : Position} {s next : σ}
    (cancelled : host.CancelledFrom sessionId s) (going : Going host p s next) :
    ¬ p.Runs ∧ next = s := by
  obtain ⟨after, told⟩ := cancelled s (.here s)
  cases going with
  | command _ looked => cases looked.symm.trans told
  | other stays => exact ⟨stays, rfl⟩

/-- A walk goes on from each point of it. -/
theorem Walks.onward {a b c : Position × σ} {before sent : List Delivery}
    (one : Walks r host sessionId a before b) (other : Walks r host sessionId a sent c)
    (stuck : Stuck r host sessionId c) :
    ∃ after, sent = before ++ after ∧ Walks r host sessionId b after c := by
  induction one generalizing sent with
  | stay => exact ⟨sent, rfl, other⟩
  | go first _ ih =>
    cases other with
    | stay => exact absurd first (stuck _ _)
    | go first' later' =>
      obtain ⟨rfl, rfl⟩ := first.deterministic first'
      obtain ⟨after, rfl, onward⟩ := ih later'
      exact ⟨after, (List.append_assoc _ _ _).symm, onward⟩

/-- A run goes on from each point of it. -/
theorem Ends.onward {a b : Position × σ} {goal : Position} {before sent : List Delivery}
    {outcome : Except CommandError Nat} {last : σ} (done : goal.agenda = [])
    (one : Walks r host sessionId a before b)
    (ends : Ends r host sessionId a goal sent outcome last) :
    ∃ after rest, sent = before ++ after ∧ Ends r host sessionId b goal after rest last ∧
      outcome = rest.map (accepted before + ·) := by
  cases ends with
  | arrives walks =>
    obtain ⟨after, rfl, onward⟩ := one.onward walks (stuck_of_done done _)
    exact ⟨after, _, rfl, .arrives onward, congrArg _ (accepted_append _ _)⟩
  | halts walks halts =>
    obtain ⟨after, rfl, onward⟩ := one.onward walks halts.stuck
    exact ⟨_, _, List.append_assoc _ _ _, .halts onward halts, rfl⟩

/-- Where a run that is cancelled halts, an action fails or a command comes next. -/
theorem Halts.windsUp {p : Position} {s last : σ} {refused : Option Delivery} {error : CommandError}
    (halts : Halts r host sessionId (p, s) refused error last)
    (cancelled : host.CancelledFrom sessionId s) :
    WindsUp r sessionId p.targets refused.toList (.error error) := by
  cases halts with
  | cancelled runs =>
    obtain ⟨id, agenda, next⟩ := runs
    have begins : p.targets = .command id :: (⟨p.path, agenda⟩ : Position).targets := by
      unfold Position.targets
      rw [next]
      rfl
    rw [begins]
    exact .cancelled rfl (List.forall_mem_nil _) List.mem_cons_self
  | blocked blocked going =>
    have stays := (cancelled.going going).1
    cases blocked with
    | cycle => exact absurd ⟨_, _, rfl⟩ stays
    | commandRefused => exact absurd ⟨_, _, rfl⟩ stays
    | noCommand => exact absurd ⟨_, _, rfl⟩ stays
    | @actionRefused path id agenda error refused =>
      have nothing : r.imminent (.action id :: (⟨path, agenda⟩ : Position).targets) = [] := by
        rw [Repertoire.imminent, refused]
      exact .actionRefused nothing.symm List.mem_cons_self refused
    | @noAction path id agenda missing =>
      have nothing : r.imminent (.action id :: (⟨path, agenda⟩ : Position).targets) = [] := by
        rw [Repertoire.imminent, missing]
      exact .noAction nothing.symm List.mem_cons_self missing
  | @refused _ q _ _ inputs error moves =>
    generalize met : some inputs = batch at moves
    cases moves with
    | enter => cases met
    | leave => cases met
    | @act path id agenda action found =>
      have next : r.imminent (.action id :: (⟨path, agenda⟩ : Position).targets) =
          [inputs] ++ r.imminent (⟨path, agenda⟩ : Position).targets := by
        rw [Repertoire.imminent, found]
        dsimp only
        rw [← met]
        rfl
      have part : [inputs] <+: r.imminent (.action id :: (⟨path, agenda⟩ : Position).targets) :=
        next ▸ List.prefix_append _ _
      have winds : WindsUp r sessionId (.action id :: (⟨path, agenda⟩ : Position).targets)
          ([] ++ [⟨sessionId, inputs, .error error⟩]) (.error (.ofSession error)) := .refused part
      exact winds

/-- A run that is cancelled enters no command on its way to where it ends. -/
theorem Walks.windsUp {a b : Position × σ} {sent rest : List Delivery}
    {ending : Except CommandError Unit} (walks : Walks r host sessionId a sent b)
    (cancelled : host.CancelledFrom sessionId a.2)
    (later : host.CancelledFrom sessionId b.2 → WindsUp r sessionId b.1.targets rest ending) :
    WindsUp r sessionId a.1.targets (sent ++ rest) ending := by
  induction walks with
  | stay => exact later cancelled
  | @go a _ _ delivery more first _ ih =>
    rw [List.append_assoc]
    cases first with
    | @quiet p q s next moves going =>
      obtain ⟨stays, rfl⟩ := cancelled.going going
      have winds := ih cancelled later
      generalize met : (none : Option (List Input)) = batch at moves
      cases moves with
      | enter => exact absurd ⟨_, _, rfl⟩ stays
      | leave => exact winds
      | act found => exact winds.sending found met nofun
    | @send p q s next inputs count moves taken =>
      have winds := ih (cancelled.sent taken) later
      generalize met : some inputs = batch at moves
      cases moves with
      | enter => cases met
      | leave => cases met
      | act found =>
        have taken : ∀ d ∈ some (⟨sessionId, inputs, .ok count⟩ : Delivery),
            ∃ count, d.answer = .ok count := by
          intro d one
          cases one
          exact ⟨count, rfl⟩
        exact winds.sending found met taken

/-- From a point where it is cancelled, a run winds up. -/
theorem Ends.windsUp {p : Position} {s last : σ} {sent : List Delivery}
    {outcome : Except CommandError Nat}
    (ends : Ends r host sessionId (p, s) ⟨[], []⟩ sent outcome last)
    (cancelled : host.CancelledFrom sessionId s) :
    WindsUp r sessionId p.targets sent (outcome.map fun _ => ()) := by
  cases ends with
  | arrives walks =>
    have done : WindsUp r sessionId (⟨[], []⟩ : Position).targets [] (.ok ()) :=
      .completes rfl (List.forall_mem_nil _) fun _ => List.not_mem_nil
    have winds := walks.windsUp cancelled fun _ => done
    rw [List.append_nil] at winds
    exact winds
  | halts walks halts => exact walks.windsUp cancelled halts.windsUp

end Walks

namespace Repertoire

variable {σ : Type} (r : Repertoire) (host : SessionHost σ) (sessionId : String)

/-- Without a session nothing is sent. A run that is cancelled from some point on sends after it only
the actions that come before the next command, up to the first that fails, and is then cancelled if
there is a command. If it is not an action that comes next, nothing is sent anymore, and the run is
cancelled if anything is left to be done. -/
theorem forceExecute_interrupted (id : String) (s : σ) :
    (∀ next error, host.Absent sessionId s next error →
      (r.forceExecute host.recording sessionId id).run (s, []) = (.error error, next, [])) ∧
    ∀ (start now : σ) (before : List Delivery) (p : Position), host.RunsAt sessionId s start →
      Walks r host sessionId (.start id, start) before (p, now) →
      host.CancelledFrom sessionId now →
      ∃ outcome last after,
        (r.forceExecute host sessionId id).run s = (outcome, last) ∧
        (r.forceExecute host.recording sessionId id).run (s, []) =
          (outcome, last, before ++ after) ∧
        (∀ d ∈ after, d.sessionId = sessionId) ∧
        WindsUp r sessionId p.targets after (outcome.map fun _ => ()) ∧
        after.map Delivery.inputs <+: r.imminent p.targets ∧
        (∀ count, outcome = .ok count → count = accepted (before ++ after)) ∧
        ((∀ name, p.targets.head? ≠ some (.action name)) →
          after = [] ∧ (p.targets ≠ [] → outcome = .error .cancelled)) := by
  obtain ⟨sent, executes, recorded⟩ := r.forceExecute_recording host sessionId id s
  rcases ended : (r.forceExecute host sessionId id).run s with ⟨outcome, last⟩
  rw [ended] at executes recorded
  refine ⟨fun next error absent => ?_, fun start now before p running walks cancelled => ?_⟩
  · obtain ⟨rfl, rfl, rfl⟩ := executes.unique (.absent absent)
    exact recorded
  · have directed := executes.sessionId_eq
    cases executes with
    | absent absent => exact absurd absent running.not_absent
    | runs again ends =>
      obtain rfl := running.unique again
      obtain ⟨after, rest, rfl, onward, rfl⟩ := ends.onward rfl walks
      have winds := onward.windsUp cancelled
      have same : (rest.map (accepted before + ·)).map (fun _ => ()) = rest.map fun _ => () := by
        cases rest <;> rfl
      refine ⟨_, last, after, rfl, recorded, ?_, same ▸ winds, winds.prefix_imminent, ?_, ?_⟩
      · exact fun d member => directed d (List.mem_append_right _ member)
      · intro count counted
        cases onward with
        | arrives =>
          cases counted
          exact (accepted_append before after).symm
        | halts => cases counted
      · intro other
        obtain ⟨nothing, fails⟩ := winds.of_no_action other
        refine ⟨nothing, fun some => ?_⟩
        have failed := fails some
        cases rest with
        | ok count => cases failed
        | error error =>
          cases failed
          rfl

/-- A host on which a run is cancelled while its first batch is being sent. -/
def hangingUp : SessionHost Bool where
  session id := return some (.running id)
  send _ inputs := do
    set true
    return .ok inputs.length
  isCancelled := get

theorem hangingUp_cancelledFrom : hangingUp.CancelledFrom "door" true := by
  have still {s t : Bool} (reaches : hangingUp.Reaches "door" s t) (begun : s = true) : t = true := by
    induction reaches with
    | here => exact begun
    | send sent _ ih =>
      cases sent
      exact ih rfl
    | look looked _ ih =>
      cases looked
      exact ih begun
  intro t reaches
  exact ⟨true, still reaches rfl ▸ rfl⟩

theorem hangingUp_runsAt (s : Bool) : hangingUp.RunsAt "door" s s := ⟨.running "door", rfl, rfl⟩

/-- The command that comes after the batch is not entered, and the circle goes unnoticed. -/
theorem forceExecute_interrupted_roundabout : ∃ p last,
    hangingUp.RunsAt "door" false false ∧
    Walks roundabout hangingUp "door" (.start "Turn", false) [⟨"door", [.tap 1 2], .ok 1⟩] (p, true) ∧
    hangingUp.CancelledFrom "door" true ∧
    p.targets = [.command "TURN"] ∧
    (roundabout.forceExecute hangingUp.recording "door" "Turn").run (false, []) =
      (.error .cancelled, last, [⟨"door", [.tap 1 2], .ok 1⟩]) := by
  have found : roundabout.commands.get "Turn" = .ok (some (.ofSteps "Turn"
    [⟨.action "aim", 0⟩, ⟨.command "TURN", 1⟩])) := rfl
  have aim : roundabout.actions.get "aim" = .ok (some { id := "aim", inputs := [.tap 1 2] }) := rfl
  have arranged : Command.Arranged [⟨.action "aim", 0⟩, ⟨.command "TURN", 1⟩]
      [⟨.action "aim", 0⟩, ⟨.command "TURN", 1⟩] := ⟨by decide, fun _ => rfl⟩
  have entered : Advances roundabout hangingUp "door" (.start "Turn", false) none
      (⟨["turn"], [.step (.action "aim"), .step (.command "TURN"), .leave]⟩, false) :=
    .quiet (.enter (by decide) found arranged) (.command ⟨_, _, rfl⟩ rfl)
  have acted : Advances roundabout hangingUp "door"
      (⟨["turn"], [.step (.action "aim"), .step (.command "TURN"), .leave]⟩, false)
      (some ⟨"door", [.tap 1 2], .ok 1⟩)
      (⟨["turn"], [.step (.command "TURN"), .leave]⟩, true) :=
    .send (.act aim) rfl
  have walks : Walks roundabout hangingUp "door" (.start "Turn", false)
      [⟨"door", [.tap 1 2], .ok 1⟩] (⟨["turn"], [.step (.command "TURN"), .leave]⟩, true) :=
    .go entered (.go acted (.stay _))
  obtain ⟨_, interrupted⟩ := roundabout.forceExecute_interrupted hangingUp "door" "Turn" false
  obtain ⟨outcome, last, after, _, recorded, _, _, _, _, settled⟩ := interrupted false true _ _
    (hangingUp_runsAt false) walks hangingUp_cancelledFrom
  obtain ⟨rfl, fails⟩ := settled nofun
  obtain rfl := fails (List.cons_ne_nil _ _)
  exact ⟨_, last, hangingUp_runsAt false, walks, hangingUp_cancelledFrom, rfl, recorded⟩

/-- A command that aims and then fires. -/
def salute : Repertoire where
  commands := .ofList [.ofSteps "salute" [⟨.action "aim", 0⟩, ⟨.action "fire", 1⟩]]
  actions := .ofList [{ id := "aim", inputs := [.tap 1 2] }, { id := "fire", inputs := [.press "F"] }]

/-- The second batch is still sent, and the run is not cancelled. -/
theorem salute_goes_on : ∃ p,
    hangingUp.RunsAt "door" false false ∧
    Walks salute hangingUp "door" (.start "salute", false) [⟨"door", [.tap 1 2], .ok 1⟩] (p, true) ∧
    hangingUp.CancelledFrom "door" true ∧
    p.targets = [.action "fire"] ∧
    (salute.forceExecute hangingUp.recording "door" "salute").run (false, []) =
      (.ok 2, true, [⟨"door", [.tap 1 2], .ok 1⟩, ⟨"door", [.press "F"], .ok 1⟩]) := by
  have found : salute.commands.get "salute" = .ok (some (.ofSteps "salute"
    [⟨.action "aim", 0⟩, ⟨.action "fire", 1⟩])) := rfl
  have aim : salute.actions.get "aim" = .ok (some { id := "aim", inputs := [.tap 1 2] }) := rfl
  have fire : salute.actions.get "fire" = .ok (some { id := "fire", inputs := [.press "F"] }) := rfl
  have arranged : Command.Arranged [⟨.action "aim", 0⟩, ⟨.action "fire", 1⟩]
      [⟨.action "aim", 0⟩, ⟨.action "fire", 1⟩] := ⟨by decide, fun _ => rfl⟩
  have entered : Advances salute hangingUp "door" (.start "salute", false) none
      (⟨["salute"], [.step (.action "aim"), .step (.action "fire"), .leave]⟩, false) :=
    .quiet (.enter (by decide) found arranged) (.command ⟨_, _, rfl⟩ rfl)
  have acted : Advances salute hangingUp "door"
      (⟨["salute"], [.step (.action "aim"), .step (.action "fire"), .leave]⟩, false)
      (some ⟨"door", [.tap 1 2], .ok 1⟩) (⟨["salute"], [.step (.action "fire"), .leave]⟩, true) :=
    .send (.act aim) rfl
  have again : Advances salute hangingUp "door"
      (⟨["salute"], [.step (.action "fire"), .leave]⟩, true)
      (some ⟨"door", [.press "F"], .ok 1⟩) (⟨["salute"], [.leave]⟩, true) :=
    .send (.act fire) rfl
  have leaves : Moves salute ⟨[] ++ ["salute"], [.leave]⟩ none ⟨[], []⟩ := .leave
  have left : Advances salute hangingUp "door" (⟨["salute"], [.leave]⟩, true) none
      (⟨[], []⟩, true) :=
    .quiet leaves (.other fun ⟨_, _, next⟩ => nomatch next)
  have executes : Executes salute hangingUp "door" "salute" false
      [⟨"door", [.tap 1 2], .ok 1⟩, ⟨"door", [.press "F"], .ok 1⟩] (.ok 2) true :=
    .runs (hangingUp_runsAt false) (.arrives (.go entered (.go acted (.go again (.go left (.stay _))))))
  obtain ⟨sent, known, recorded⟩ := salute.forceExecute_recording hangingUp "door" "salute" false
  obtain ⟨rfl, same, ends⟩ := known.unique executes
  rw [same, ends] at recorded
  exact ⟨_, hangingUp_runsAt false, .go entered (.go acted (.stay _)), hangingUp_cancelledFrom, rfl,
    recorded⟩

end Repertoire

end Autopilot
