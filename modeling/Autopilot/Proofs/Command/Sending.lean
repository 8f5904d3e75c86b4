import Autopilot.Proofs.Command.Run

/-!
What the run of a command sends. Running a command and going through the graph move by move
are the same: each nested run starts where the traversal has its step next, and ends where
the step is done and the path is as it was, or at the first point that fails, whose path it
leaves. So a run hands over the batches of the traversal one by one and in order, up to that
point.
-/

namespace Autopilot

/-! ## Parts of a run -/

section Sending

variable {σ α β : Type}

/-- What comes after a part sees the state that the part leaves behind, unless it fails. -/
theorem Sending.bind_apply (part : Sending σ α) (next : α → Sending σ β) (s : σ) :
    (part >>= next).run s =
      match part.run s with
      | (.ok value, later) => (next value).run later
      | (.error error, later) => (.error error, later) := by
  change (match part s with | (outcome, later) => ExceptT.bindCont next outcome later) = _
  rcases ended : part s with ⟨_ | _, later⟩ <;> simp only [ExceptT.run, ended] <;> rfl

theorem Sending.bind_of_ok {part : Sending σ α} {s later : σ} {value : α}
    (ended : part.run s = (.ok value, later)) (next : α → Sending σ β) :
    (part >>= next).run s = (next value).run later := by
  rw [Sending.bind_apply, ended]

theorem Sending.bind_of_error {part : Sending σ α} {s later : σ} {error : CommandError}
    (failed : part.run s = (.error error, later)) (next : α → Sending σ β) :
    (part >>= next).run s = (.error error, later) := by
  rw [Sending.bind_apply, failed]

/-- A call does not fail, whatever its answer. -/
theorem Sending.lift_run {part : StateM σ α} {s later : σ} {answer : α}
    (answered : part s = (answer, later)) :
    (ExceptT.lift part : Sending σ α).run s = (.ok answer, later) := by
  change (Except.ok (part s).1, (part s).2) = _
  rw [answered]

end Sending

section Passes

variable {σ : Type} (r : Repertoire) (host : SessionHost σ) (sessionId : String)

/-- How a traversal ends and the path that it leaves, which is that of the position it comes to or
that of the point that fails. -/
inductive Passes (a : Position × σ) (goal : Position) :
    List Delivery → Except CommandError Nat → List String → σ → Prop where
  | arrives {sent : List Delivery} {last : σ} (walks : Walks r host sessionId a sent (goal, last)) :
      Passes a goal sent (.ok (accepted sent)) goal.path last
  | halts {sent : List Delivery} {b : Position × σ} {refused : Option Delivery}
      {error : CommandError} {last : σ} (walks : Walks r host sessionId a sent b)
      (halts : Halts r host sessionId b refused error last) :
      Passes a goal (sent ++ refused.toList) (.error error) b.1.path last

variable {r host sessionId} {a b : Position × σ} {goal : Position} {sent rest : List Delivery}
  {outcome : Except CommandError Nat} {left : List String} {last : σ}

theorem Passes.ends (passes : Passes r host sessionId a goal sent outcome left last) :
    Ends r host sessionId a goal sent outcome last := by
  cases passes with
  | arrives walks => exact .arrives walks
  | halts walks halts => exact .halts walks halts

/-- A traversal that does not fail comes to where it should, with the path of that position. -/
theorem Passes.arrived {count : Nat} (passes : Passes r host sessionId a goal sent outcome left last)
    (ended : outcome = .ok count) :
    left = goal.path ∧ Walks r host sessionId a sent (goal, last) := by
  cases passes with
  | arrives walks => exact ⟨rfl, walks⟩
  | halts => cases ended

/-- A traversal that fails leaves the path of the first point that fails. -/
theorem Passes.halted {error : CommandError}
    (passes : Passes r host sessionId a goal sent outcome left last) (failed : outcome = .error error) :
    ∃ before b refused, Walks r host sessionId a before b ∧
      Halts r host sessionId b refused error last ∧ left = b.1.path := by
  cases passes with
  | arrives => cases failed
  | halts walks halts =>
    cases failed
    exact ⟨_, _, _, walks, halts, rfl⟩

/-- A walk and what comes after it. -/
theorem Passes.after (walks : Walks r host sessionId a sent b)
    (passes : Passes r host sessionId b goal rest outcome left last) :
    Passes r host sessionId a goal (sent ++ rest) (outcome.map (accepted sent + ·)) left last := by
  cases passes with
  | arrives later =>
    have all := Passes.arrives (walks.trans later)
    rw [accepted_append] at all
    exact all
  | halts later halts =>
    rw [← List.append_assoc]
    exact .halts (walks.trans later) halts

/-- A move without a delivery before a traversal. -/
theorem Passes.quiet {p q : Position} {s next : σ} (moves : Moves r p none q)
    (going : Going host p s next)
    (passes : Passes r host sessionId (q, next) goal sent outcome left last) :
    Passes r host sessionId (p, s) goal sent outcome left last := by
  have first : Walks r host sessionId (p, s) [] (q, next) := .go (.quiet moves going) (.stay _)
  cases passes with
  | arrives later => exact .arrives (first.trans later)
  | halts later halts => exact .halts (first.trans later) halts

/-- A command is left when its steps are done, and stays on the path when one of them fails. -/
theorem Passes.pop {path : List String} {key : String} {agenda : List Pending}
    {inner : Passage σ (path ++ [key])}
    (passes : Passes r host sessionId a ⟨path ++ [key], .leave :: agenda⟩ sent inner.outcome
      inner.left inner.state) :
    Passes r host sessionId a ⟨path, agenda⟩ sent inner.pop.outcome inner.pop.left
      inner.pop.state := by
  obtain ⟨outcome, left, last, restores⟩ := inner
  cases passes with
  | arrives walks =>
    have stays : ¬ (⟨path ++ [key], .leave :: agenda⟩ : Position).Runs := by
      rintro ⟨_, _, next⟩
      cases next
    have gone := walks.trans (.go (.quiet .leave (.other stays)) (.stay _))
    rw [Option.toList_none, List.append_nil, List.append_nil] at gone
    change Passes r host sessionId a ⟨path, agenda⟩ sent (.ok (accepted sent))
      (path ++ [key]).dropLast last
    rw [List.dropLast_concat]
    exact .arrives gone
  | halts walks halts => exact .halts walks halts

end Passes

/-! ## Runs as traversals -/

section Follows

variable {σ : Type} (r : Repertoire) (host : SessionHost σ) (sessionId : String)

/-- A part of a run goes through the traversal from where some entries come next on the agenda up
to where they are done and the path is as before, or to the first point that fails. -/
def Passage.Follows {path : List String} (pending : List Pending) (s : σ)
    (run : Passage σ path) : Prop :=
  ∀ agenda, ∃ sent, Passes r host sessionId (⟨path, pending ++ agenda⟩, s) ⟨path, agenda⟩ sent
    run.outcome run.left run.state

variable {r host sessionId}

theorem Passage.Follows.andThen {path : List String} {first rest : List Pending} {s : σ}
    {part : Passage σ path} {others : (left : List String) → left = path → σ → Passage σ left}
    (one : part.Follows r host sessionId first s)
    (other : ∀ left same next, (others left same next).Follows r host sessionId rest next) :
    (part.andThen others).Follows r host sessionId (first ++ rest) s := by
  intro agenda
  obtain ⟨sent, passes⟩ := one (rest ++ agenda)
  rw [← List.append_assoc] at passes
  obtain ⟨outcome, left, middle, restores⟩ := part
  cases outcome with
  | error error =>
    cases passes with
    | halts walks halts => exact ⟨_, .halts walks halts⟩
  | ok count =>
    obtain rfl := restores count rfl
    cases passes with
    | arrives walks =>
      obtain ⟨more, later⟩ := other left rfl middle agenda
      exact ⟨_, later.after walks⟩

end Follows

namespace Repertoire

variable {σ : Type} (r : Repertoire) (host : SessionHost σ) (sessionId : String)

/-- An action is one move. -/
theorem sendAction_follows (path : List String) (id : String) (s : σ) :
    (Passage.ofSending path (r.sendAction host sessionId id) s).Follows r host sessionId
      [.step (.action id)] s := by
  intro agenda
  have stays : ¬ (⟨path, .step (.action id) :: agenda⟩ : Position).Runs := by
    rintro ⟨_, _, next⟩
    cases next
  rw [List.singleton_append]
  unfold Passage.ofSending sendAction
  cases found : r.actions.get id with
  | error error =>
    exact ⟨[], .halts (.stay _) (.blocked (.actionRefused found) (.other stays))⟩
  | ok known =>
    cases known with
    | none =>
      exact ⟨[], .halts (.stay _) (.blocked (.noAction found) (.other stays))⟩
    | some action =>
      have moves : Moves r ⟨path, .step (.action id) :: agenda⟩ action.batch? ⟨path, agenda⟩ :=
        .act found
      cases any : action.hasInputs with
      | false =>
        rw [Action.batch?, any, if_neg Bool.false_ne_true] at moves
        refine ⟨[], ?_⟩
        simp only [any, Bool.not_false, if_true]
        exact Passes.quiet moves (.other stays) (.arrives (.stay _))
      | true =>
        rw [Action.batch?, any, if_pos rfl] at moves
        simp only [any, Bool.not_true, Bool.false_eq_true, if_false]
        rcases answered : host.send sessionId action.inputs s with ⟨answer, next⟩
        rw [Sending.bind_of_ok (Sending.lift_run answered)]
        cases answer with
        | ok count =>
          exact ⟨_, .arrives (.go (.send moves answered) (.stay _))⟩
        | error error =>
          exact ⟨_, .halts (.stay _) (.refused moves answered)⟩

/-- What is looked at before the steps of a command are run. -/
theorem runCommand_eq {path : List String} {id : String} {s next : σ}
    (looked : host.isCancelled s = (false, next)) (fresh : r.lowerCase id ∉ path) :
    r.runCommand host sessionId path id s =
      match r.commands.get id with
      | .error error => .fail path (.store error) next
      | .ok none => .fail path (.notFound .command id) next
      | .ok (some command) =>
        (r.runSteps host sessionId (path ++ [r.lowerCase id]) command.orderedSteps next).pop := by
  rw [runCommand, looked]
  dsimp only
  rw [dif_neg fun known => fresh (List.contains_iff_mem.1 known)]
  split <;> simp_all

/-- The run of a command, and that of steps, goes through the traversal. -/
theorem run_follows :
    (∀ path id s, (r.runCommand host sessionId path id s).Follows r host sessionId
      [.step (.command id)] s) ∧
    ∀ path steps s, (r.runSteps host sessionId path steps s).Follows r host sessionId
      (Pending.ofSteps steps) s := by
  have runs (path : List String) (id : String) (agenda : List Pending) :
      (⟨path, .step (.command id) :: agenda⟩ : Position).Runs := ⟨id, agenda, rfl⟩
  have fresh {path : List String} {id : String} (new : ¬ path.contains (r.lowerCase id) = true) :
      r.lowerCase id ∉ path := fun known => new (List.contains_iff_mem.2 known)
  apply runCommand.mutual_induct r host sessionId
  -- A command fails before its steps in four ways.
  case case1 =>
    intro path id s next looked agenda
    rw [runCommand, looked]
    exact ⟨[], .halts (.stay _) (.cancelled (runs path id agenda) looked)⟩
  case case2 =>
    intro path id s next looked key onPath agenda
    rw [runCommand, looked]
    dsimp only
    rw [dif_pos onPath]
    exact ⟨[], .halts (.stay _) (.blocked (.cycle (List.contains_iff_mem.1 onPath))
      (.command (runs path id agenda) looked))⟩
  case case3 =>
    intro path id s next looked key new error refused agenda
    rw [runCommand_eq r host sessionId looked (fresh new), refused]
    exact ⟨[], .halts (.stay _) (.blocked (.commandRefused (fresh new) refused)
      (.command (runs path id agenda) looked))⟩
  case case4 =>
    intro path id s next looked key new missing agenda
    rw [runCommand_eq r host sessionId looked (fresh new), missing]
    exact ⟨[], .halts (.stay _) (.blocked (.noCommand (fresh new) missing)
      (.command (runs path id agenda) looked))⟩
  case case5 =>
    intro path id s next looked key new command found _ inner agenda
    obtain ⟨sent, passes⟩ := inner (.leave :: agenda)
    rw [runCommand_eq r host sessionId looked (fresh new), found]
    exact ⟨sent, .quiet (.enter (fresh new) found command.orderedSteps_arranged)
      (.command (runs path id agenda) looked) passes.pop⟩
  case case6 =>
    intro path s agenda
    rw [runSteps]
    exact ⟨[], .arrives (.stay _)⟩
  case case7 =>
    intro path step rest s inner others
    rw [runSteps]
    show Passage.Follows r host sessionId ([.step step.target] ++ Pending.ofSteps rest) s _
    refine Passage.Follows.andThen ?_ others
    cases step.target with
    | action id => exact r.sendAction_follows host sessionId path id s
    | command id => exact inner id

end Repertoire

/-! ## Whole runs -/

section Executes

variable {σ : Type} (r : Repertoire) (host : SessionHost σ) (sessionId : String)

/-- How a command is run whatever its trigger says: without a session to send to it fails at once,
and else it goes through the traversal from its start. -/
inductive Executes (id : String) (s : σ) :
    List Delivery → Except CommandError Nat → σ → Prop where
  | absent {next : σ} {error : CommandError} (absent : host.Absent sessionId s next error) :
      Executes id s [] (.error error) next
  | runs {next : σ} {sent : List Delivery} {outcome : Except CommandError Nat} {last : σ}
      (running : host.RunsAt sessionId s next)
      (ends : Ends r host sessionId (.start id, next) ⟨[], []⟩ sent outcome last) :
      Executes id s sent outcome last

variable {r host sessionId} {id : String} {s next next' : σ} {sent sent' : List Delivery}
  {outcome outcome' : Except CommandError Nat} {last last' : σ}

theorem SessionHost.RunsAt.not_absent {error : CommandError} (running : host.RunsAt sessionId s next) :
    ¬ host.Absent sessionId s next' error := by
  obtain ⟨session, found, running⟩ := running
  intro absent
  cases absent with
  | missing missing => cases missing.symm.trans found
  | stopped again stopped =>
    cases again.symm.trans found
    cases stopped.symm.trans running

theorem SessionHost.RunsAt.unique (running : host.RunsAt sessionId s next)
    (other : host.RunsAt sessionId s next') : next = next' := by
  obtain ⟨session, found, _⟩ := running
  obtain ⟨session', found', _⟩ := other
  exact (Prod.mk.inj (found.symm.trans found')).2

theorem SessionHost.Absent.unique {error error' : CommandError}
    (absent : host.Absent sessionId s next error) (other : host.Absent sessionId s next' error') :
    error = error' ∧ next = next' := by
  cases absent with
  | missing missing =>
    cases other with
    | missing again =>
      cases missing.symm.trans again
      exact ⟨rfl, rfl⟩
    | stopped found => cases missing.symm.trans found
  | stopped found =>
    cases other with
    | missing missing => cases missing.symm.trans found
    | stopped again =>
      cases found.symm.trans again
      exact ⟨rfl, rfl⟩

/-- There is one way only to run a command. -/
theorem Executes.unique (one : Executes r host sessionId id s sent outcome last)
    (other : Executes r host sessionId id s sent' outcome' last') :
    sent = sent' ∧ outcome = outcome' ∧ last = last' := by
  cases one with
  | absent absent =>
    cases other with
    | absent absent' =>
      obtain ⟨rfl, rfl⟩ := absent.unique absent'
      exact ⟨rfl, rfl, rfl⟩
    | runs running => exact absurd absent running.not_absent
  | runs running ends =>
    cases other with
    | absent absent => exact absurd absent running.not_absent
    | runs again ends' =>
      obtain rfl := running.unique again
      exact ends.unique rfl ends'

/-- All that is handed over goes to the session. -/
theorem Executes.sessionId_eq (executes : Executes r host sessionId id s sent outcome last) :
    ∀ d ∈ sent, d.sessionId = sessionId := by
  cases executes with
  | absent => exact fun d member => absurd member List.not_mem_nil
  | runs _ ends =>
    cases ends with
    | arrives walks => exact fun d member => (walks.taken d member).1
    | halts walks halts =>
      intro d member
      rcases List.mem_append.1 member with early | refused
      · exact (walks.taken d early).1
      · cases halts with
        | refused =>
          rw [List.mem_singleton.1 refused]
        | _ => cases refused

/-- What is handed over are the batches that a traversal meets. -/
theorem Executes.visits (executes : Executes r host sessionId id s sent outcome last) :
    ∃ q, Visits r (.start id) (sent.map Delivery.inputs) q := by
  cases executes with
  | absent => exact ⟨_, .stay _⟩
  | runs _ ends =>
    cases ends with
    | arrives walks => exact ⟨_, walks.visits⟩
    | halts walks halts =>
      cases halts with
      | @refused p q _ _ inputs _ moves =>
        have met := walks.visits.trans (.go moves (.stay q))
        rw [List.map_append]
        exact ⟨q, met⟩
      | _ =>
        rw [Option.toList_none, List.append_nil]
        exact ⟨_, walks.visits⟩

/-- A host that records does as it would without, and records what is handed over. -/
theorem Executes.of_recording {s last : σ × List Delivery}
    (executes : Executes r host.recording sessionId id s sent outcome last) :
    Executes r host sessionId id s.1 sent outcome last.1 ∧ last.2 = s.2 ++ sent := by
  rcases answered : host.session sessionId s.1 with ⟨session, after⟩
  cases executes with
  | absent absent =>
    cases absent with
    | missing missing =>
      simp only [SessionHost.recording, answered] at missing
      cases missing
      exact ⟨.absent (.missing answered), (List.append_nil _).symm⟩
    | stopped found stopped =>
      simp only [SessionHost.recording, answered] at found
      cases found
      exact ⟨.absent (.stopped answered stopped), (List.append_nil _).symm⟩
  | runs running ends =>
    obtain ⟨session, found, running⟩ := running
    simp only [SessionHost.recording, answered] at found
    cases found
    obtain ⟨ends, listed⟩ := ends.of_recording
    exact ⟨.runs ⟨session, answered, running⟩ ends, listed⟩

end Executes

/-- A host that is never cancelled and accepts every batch. -/
def SessionHost.Obliging {σ : Type} (host : SessionHost σ) (sessionId : String) (s : σ) : Prop :=
  ∀ t, host.Reaches sessionId s t → (∃ next, host.isCancelled t = (false, next)) ∧
    ∀ inputs, ∃ count next, host.send sessionId inputs t = (.ok count, next)

/-- With such a host, a traversal that nothing blocks does not halt. -/
theorem SessionHost.Obliging.not_halts {σ : Type} {r : Repertoire} {host : SessionHost σ}
    {sessionId : String} {a b : Position × σ} {sent : List Delivery} {refused : Option Delivery}
    {error : CommandError} {last : σ} (obliging : host.Obliging sessionId a.2)
    (walks : Walks r host sessionId a sent b) (free : ∀ error, ¬ Blocked r b.1 error) :
    ¬ Halts r host sessionId b refused error last := by
  intro halts
  obtain ⟨⟨next, going⟩, accepts⟩ := obliging _ walks.reaches
  cases halts with
  | cancelled _ cancelled => cases going.symm.trans cancelled
  | blocked blocked => exact free _ blocked
  | @refused _ _ _ _ inputs _ _ refused =>
    obtain ⟨count, next, taken⟩ := accepts inputs
    cases taken.symm.trans refused

/-- Where nothing can fail, the whole expansion is handed over and accepted. -/
theorem Executes.complete {σ : Type} {r : Repertoire} {host : SessionHost σ} {sessionId id : String}
    {s next last : σ} {sent : List Delivery} {outcome : Except CommandError Nat}
    (executes : Executes r host sessionId id s sent outcome last)
    (running : host.RunsAt sessionId s next) (acyclic : r.Acyclic id) (resolves : r.Resolves id)
    (obliging : host.Obliging sessionId next) :
    r.Expansion [.command id] (sent.map Delivery.inputs) ∧
      (∀ d ∈ sent, ∃ count, d.answer = .ok count) ∧ outcome = .ok (accepted sent) := by
  cases executes with
  | absent absent => exact absurd absent running.not_absent
  | runs again ends =>
    obtain rfl := running.unique again
    cases ends with
    | arrives walks =>
      exact ⟨walks.visits.expands rfl, fun d member => (walks.taken d member).2, rfl⟩
    | halts walks halts =>
      have sound := (Position.Sound.begun r id).visit walks.visits
      exact absurd halts (obliging.not_halts walks fun _ => sound.not_blocked acyclic resolves)

namespace Repertoire

variable {σ : Type} (r : Repertoire) (host : SessionHost σ) (sessionId : String)

theorem requireRunning_cases (s : σ) : ∃ next,
    (∃ error, host.Absent sessionId s next error ∧
      (requireRunning host sessionId).run s = (.error error, next)) ∨
    (host.RunsAt sessionId s next ∧ (requireRunning host sessionId).run s = (.ok (), next)) := by
  unfold requireRunning
  rcases found : host.session sessionId s with ⟨_ | session, next⟩
  · rw [Sending.bind_of_ok (Sending.lift_run found)]
    exact ⟨next, .inl ⟨_, .missing found, rfl⟩⟩
  · rw [Sending.bind_of_ok (Sending.lift_run found)]
    cases running : session.isRunning with
    | false =>
      simp only [running, Bool.not_false, if_true]
      exact ⟨next, .inl ⟨_, .stopped found running, rfl⟩⟩
    | true =>
      simp only [running, Bool.not_true, Bool.false_eq_true, if_false]
      exact ⟨next, .inr ⟨⟨session, found, running⟩, rfl⟩⟩

theorem forceExecute_executes (id : String) (s : σ) :
    ∃ sent, Executes r host sessionId id s sent ((r.forceExecute host sessionId id).run s).1
      ((r.forceExecute host sessionId id).run s).2 := by
  unfold forceExecute
  rcases requireRunning_cases host sessionId s with
    ⟨next, ⟨error, absent, failed⟩ | ⟨running, passed⟩⟩
  · rw [Sending.bind_of_error failed]
    exact ⟨[], .absent absent⟩
  · rw [Sending.bind_of_ok passed]
    obtain ⟨sent, passes⟩ := (r.run_follows host sessionId).1 [] id next []
    exact ⟨sent, .runs running passes.ends⟩

/-- A host that records comes to the same outcome, and records what is handed over. -/
theorem forceExecute_recording (id : String) (s : σ) :
    ∃ sent, Executes r host sessionId id s sent ((r.forceExecute host sessionId id).run s).1
        ((r.forceExecute host sessionId id).run s).2 ∧
      (r.forceExecute host.recording sessionId id).run (s, []) =
        (((r.forceExecute host sessionId id).run s).1,
          ((r.forceExecute host sessionId id).run s).2, sent) := by
  obtain ⟨sent, plain⟩ := r.forceExecute_executes host sessionId id s
  obtain ⟨sent', recorded⟩ := r.forceExecute_executes host.recording sessionId id (s, [])
  rcases ended : (r.forceExecute host.recording sessionId id).run (s, [])
    with ⟨outcome, last, log⟩
  rw [ended] at recorded
  obtain ⟨again, rfl⟩ := recorded.of_recording
  obtain ⟨rfl, rfl, rfl⟩ := plain.unique again
  exact ⟨_, plain, rfl⟩

/-- A host that has every session and accepts everything. -/
def yielding : SessionHost Unit where
  session id := return some (.running id)
  send _ inputs := return .ok inputs.length
  isCancelled := return false

end Repertoire

end Autopilot
