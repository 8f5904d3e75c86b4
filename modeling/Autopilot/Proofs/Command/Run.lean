import Autopilot.Proofs.Command.Traversal

/-!
Runs of commands as traversals. A host takes the batches that a traversal meets, one after
another, and it is asked whether the run is cancelled whenever a command comes next. A run
of a command goes through the traversal up to its end or to the first point that fails, and
it hands over the batches that it meets on the way.
-/

namespace Autopilot

/-- A batch that was handed to a session, and the answer to it. -/
structure Delivery where
  sessionId : String
  inputs : List Input
  answer : Except SessionError Nat

/-- The number of inputs that were accepted. -/
def Delivery.accepted (d : Delivery) : Nat :=
  match d.answer with
  | .ok count => count
  | .error _ => 0

/-- The number of inputs that were accepted in all. -/
def accepted : List Delivery → Nat
  | [] => 0
  | first :: rest => first.accepted + accepted rest

theorem accepted_append (first rest : List Delivery) :
    accepted (first ++ rest) = accepted first + accepted rest := by
  induction first with
  | nil => exact (Nat.zero_add _).symm
  | cons delivery first ih =>
    calc
      accepted (delivery :: first ++ rest) = delivery.accepted + accepted (first ++ rest) := rfl
      _ = delivery.accepted + (accepted first + accepted rest) := by rw [ih]
      _ = accepted (delivery :: first) + accepted rest := (Nat.add_assoc _ _ _).symm

namespace SessionHost

variable {σ : Type}

/-- The host with a list of all that is handed to it. -/
def recording (host : SessionHost σ) : SessionHost (σ × List Delivery) where
  session id s :=
    let (session, next) := host.session id s.1
    (session, next, s.2)
  send sessionId inputs s :=
    let (answer, next) := host.send sessionId inputs s.1
    (answer, next, s.2 ++ [⟨sessionId, inputs, answer⟩])
  isCancelled s :=
    let (cancelled, next) := host.isCancelled s.1
    (cancelled, next, s.2)

/-- Inputs can be sent to the session, and the state after asking for it. -/
def RunsAt (host : SessionHost σ) (sessionId : String) (s next : σ) : Prop :=
  ∃ session, host.session sessionId s = (some session, next) ∧ session.isRunning = true

/-- Why no inputs can be sent to the session, and the state after asking for it. -/
inductive Absent (host : SessionHost σ) (sessionId : String) (s next : σ) : CommandError → Prop where
  | missing (missing : host.session sessionId s = (none, next)) :
      Absent host sessionId s next (.notFound .session sessionId)
  | stopped {session : Session} (found : host.session sessionId s = (some session, next))
      (stopped : session.isRunning = false) :
      Absent host sessionId s next (.invalidState session.id session.state)

/-- The states that a host can come to while batches are sent to a session. -/
inductive Reaches (host : SessionHost σ) (sessionId : String) : σ → σ → Prop where
  | here (s : σ) : Reaches host sessionId s s
  | send {s next last : σ} {inputs : List Input} {answer : Except SessionError Nat}
      (sent : host.send sessionId inputs s = (answer, next))
      (later : Reaches host sessionId next last) : Reaches host sessionId s last
  | look {s next last : σ} {cancelled : Bool} (looked : host.isCancelled s = (cancelled, next))
      (later : Reaches host sessionId next last) : Reaches host sessionId s last

end SessionHost

/-! ## Traversals with a host -/

section Relations

variable {σ : Type} (r : Repertoire) (host : SessionHost σ) (sessionId : String)

/-- The state in which a move is tried: if a command comes next, the run may not be cancelled. -/
inductive Going (p : Position) (s : σ) : σ → Prop where
  | command {next : σ} (runs : p.Runs) (looked : host.isCancelled s = (false, next)) : Going p s next
  | other (stays : ¬ p.Runs) : Going p s s

/-- One move that does not fail, and the delivery that it makes. -/
inductive Advances : Position × σ → Option Delivery → Position × σ → Prop where
  | quiet {p q : Position} {s next : σ} (moves : Moves r p none q) (going : Going host p s next) :
      Advances (p, s) none (q, next)
  | send {p q : Position} {s next : σ} {inputs : List Input} {count : Nat}
      (moves : Moves r p (some inputs) q)
      (taken : host.send sessionId inputs s = (.ok count, next)) :
      Advances (p, s) (some ⟨sessionId, inputs, .ok count⟩) (q, next)

/-- Some moves that do not fail, and the deliveries that they make. -/
inductive Walks : Position × σ → List Delivery → Position × σ → Prop where
  | stay (a : Position × σ) : Walks a [] a
  | go {a b c : Position × σ} {sent : Option Delivery} {rest : List Delivery}
      (first : Advances r host sessionId a sent b) (later : Walks b rest c) :
      Walks a (sent.toList ++ rest) c

/-- A point that fails, the delivery that fails there, the error, and the state after it. -/
inductive Halts : Position × σ → Option Delivery → CommandError → σ → Prop where
  | cancelled {p : Position} {s next : σ} (runs : p.Runs)
      (cancelled : host.isCancelled s = (true, next)) : Halts (p, s) none .cancelled next
  | blocked {p : Position} {s next : σ} {error : CommandError} (blocked : Blocked r p error)
      (going : Going host p s next) : Halts (p, s) none error next
  | refused {p q : Position} {s next : σ} {inputs : List Input} {error : SessionError}
      (moves : Moves r p (some inputs) q)
      (refused : host.send sessionId inputs s = (.error error, next)) :
      Halts (p, s) (some ⟨sessionId, inputs, .error error⟩) (.ofSession error) next

/-- How a traversal ends: it comes to a position, or halts at the first point that fails. -/
inductive Ends (a : Position × σ) (goal : Position) :
    List Delivery → Except CommandError Nat → σ → Prop where
  | arrives {sent : List Delivery} {last : σ} (walks : Walks r host sessionId a sent (goal, last)) :
      Ends a goal sent (.ok (accepted sent)) last
  | halts {sent : List Delivery} {b : Position × σ} {refused : Option Delivery}
      {error : CommandError} {last : σ} (walks : Walks r host sessionId a sent b)
      (halts : Halts r host sessionId b refused error last) :
      Ends a goal (sent ++ refused.toList) (.error error) last

end Relations

section Walks

variable {σ : Type} {r : Repertoire} {host : SessionHost σ} {sessionId : String}
  {a b c : Position × σ} {sent rest : List Delivery} {goal : Position}
  {outcome : Except CommandError Nat} {last : σ}

theorem Walks.trans (one : Walks r host sessionId a sent b) (other : Walks r host sessionId b rest c) :
    Walks r host sessionId a (sent ++ rest) c := by
  induction one with
  | stay => exact other
  | go first _ ih =>
    rw [List.append_assoc]
    exact .go first (ih other)

theorem Advances.moves {delivery : Option Delivery}
    (advances : Advances r host sessionId a delivery b) :
    Moves r a.1 (delivery.map Delivery.inputs) b.1 := by
  cases advances with
  | quiet moves => exact moves
  | send moves => exact moves

theorem Walks.visits (walks : Walks r host sessionId a sent b) :
    Visits r a.1 (sent.map Delivery.inputs) b.1 := by
  induction walks with
  | stay => exact .stay _
  | @go _ _ _ delivery _ first _ ih =>
    have visits := Visits.go first.moves ih
    rw [List.map_append]
    cases delivery with
    | none => exact visits
    | some delivery => exact visits

/-- All deliveries on a walk go to the session, and are accepted. -/
theorem Walks.taken (walks : Walks r host sessionId a sent b) :
    ∀ d ∈ sent, d.sessionId = sessionId ∧ ∃ count, d.answer = .ok count := by
  induction walks with
  | stay => exact fun d member => absurd member List.not_mem_nil
  | go first _ ih =>
    cases first with
    | quiet => exact ih
    | @send _ _ _ _ _ count =>
      intro d member
      rcases List.mem_cons.1 member with rfl | member
      · exact ⟨rfl, count, rfl⟩
      · exact ih d member

theorem Walks.reaches (walks : Walks r host sessionId a sent b) :
    host.Reaches sessionId a.2 b.2 := by
  induction walks with
  | stay => exact .here _
  | go first _ ih =>
    cases first with
    | quiet _ going =>
      cases going with
      | command _ looked => exact .look looked ih
      | other => exact ih
    | send _ taken => exact .send taken ih

/-! ### There is one walk only -/

theorem Going.unique {p : Position} {s next next' : σ} (one : Going host p s next)
    (other : Going host p s next') : next = next' := by
  cases one with
  | command runs looked =>
    cases other with
    | command _ again =>
      cases looked.symm.trans again
      rfl
    | other stays => exact absurd runs stays
  | other stays =>
    cases other with
    | command runs => exact absurd runs stays
    | other => rfl

theorem Going.not_cancelled {p : Position} {s next next' : σ} (going : Going host p s next)
    (runs : p.Runs) : host.isCancelled s ≠ (true, next') := by
  cases going with
  | command _ looked =>
    intro cancelled
    cases looked.symm.trans cancelled
  | other stays => exact absurd runs stays

theorem Advances.deterministic {delivery again : Option Delivery}
    (one : Advances r host sessionId a delivery b) (other : Advances r host sessionId a again c) :
    delivery = again ∧ b = c := by
  cases one with
  | quiet moves going =>
    cases other with
    | quiet moves' going' =>
      obtain ⟨_, rfl⟩ := moves.deterministic moves'
      obtain rfl := going.unique going'
      exact ⟨rfl, rfl⟩
    | send moves' => cases (moves.deterministic moves').1
  | send moves taken =>
    cases other with
    | quiet moves' => cases (moves.deterministic moves').1
    | send moves' taken' =>
      obtain ⟨same, rfl⟩ := moves.deterministic moves'
      cases same
      cases taken.symm.trans taken'
      exact ⟨rfl, rfl⟩

/-- Where a traversal cannot go on. -/
def Stuck (r : Repertoire) (host : SessionHost σ) (sessionId : String) (a : Position × σ) : Prop :=
  ∀ delivery b, ¬ Advances r host sessionId a delivery b

theorem stuck_of_done {p : Position} (done : p.agenda = []) (s : σ) :
    Stuck r host sessionId (p, s) := by
  intro delivery b advances
  exact advances.moves.not_done done

theorem Halts.stuck {refused : Option Delivery} {error : CommandError}
    (halts : Halts r host sessionId a refused error last) : Stuck r host sessionId a := by
  intro delivery b advances
  cases halts with
  | cancelled runs cancelled =>
    cases advances with
    | quiet _ going => exact going.not_cancelled runs cancelled
    | send moves => exact moves.not_runs runs
  | blocked blocked => exact advances.moves.not_blocked blocked
  | refused moves refused =>
    cases advances with
    | quiet moves' => cases (moves.deterministic moves').1
    | send moves' taken =>
      cases (moves.deterministic moves').1
      cases refused.symm.trans taken

theorem Halts.unique {refused refused' : Option Delivery} {error error' : CommandError} {last' : σ}
    (one : Halts r host sessionId a refused error last)
    (other : Halts r host sessionId a refused' error' last') :
    refused = refused' ∧ error = error' ∧ last = last' := by
  cases one with
  | cancelled runs cancelled =>
    cases other with
    | cancelled _ again =>
      cases cancelled.symm.trans again
      exact ⟨rfl, rfl, rfl⟩
    | blocked _ going => exact absurd cancelled (going.not_cancelled runs)
    | refused moves => exact absurd runs moves.not_runs
  | blocked blocked going =>
    cases other with
    | cancelled runs cancelled => exact absurd cancelled (going.not_cancelled runs)
    | blocked again going' => exact ⟨rfl, blocked.unique again, going.unique going'⟩
    | refused moves => exact absurd blocked moves.not_blocked
  | refused moves refused =>
    cases other with
    | cancelled runs => exact absurd runs moves.not_runs
    | blocked blocked => exact absurd blocked moves.not_blocked
    | refused moves' refused' =>
      cases (moves.deterministic moves').1
      cases refused.symm.trans refused'
      exact ⟨rfl, rfl, rfl⟩

theorem Walks.unique {sent' : List Delivery} (one : Walks r host sessionId a sent b)
    (stuck : Stuck r host sessionId b) (other : Walks r host sessionId a sent' c)
    (stuck' : Stuck r host sessionId c) : sent = sent' ∧ b = c := by
  induction one generalizing sent' with
  | stay =>
    cases other with
    | stay => exact ⟨rfl, rfl⟩
    | go first => exact absurd first (stuck _ _)
  | go first _ ih =>
    cases other with
    | stay => exact absurd first (stuck' _ _)
    | go first' later' =>
      obtain ⟨rfl, rfl⟩ := first.deterministic first'
      obtain ⟨rfl, rfl⟩ := ih stuck later'
      exact ⟨rfl, rfl⟩

theorem Halts.not_done {p : Position} {s : σ} {refused : Option Delivery} {error : CommandError}
    (halts : Halts r host sessionId (p, s) refused error last) : p.agenda ≠ [] := by
  cases halts with
  | cancelled runs => exact runs.not_done
  | blocked blocked => exact blocked.not_done
  | refused moves => exact moves.not_done

/-- A traversal ends in one way only. -/
theorem Ends.unique {sent' : List Delivery} {outcome' : Except CommandError Nat} {last' : σ}
    (done : goal.agenda = []) (one : Ends r host sessionId a goal sent outcome last)
    (other : Ends r host sessionId a goal sent' outcome' last') :
    sent = sent' ∧ outcome = outcome' ∧ last = last' := by
  cases one with
  | arrives walks =>
    cases other with
    | arrives walks' =>
      obtain ⟨rfl, same⟩ := walks.unique (stuck_of_done done _) walks' (stuck_of_done done _)
      cases same
      exact ⟨rfl, rfl, rfl⟩
    | halts walks' halts' =>
      obtain ⟨rfl, rfl⟩ := walks.unique (stuck_of_done done _) walks' halts'.stuck
      exact absurd done halts'.not_done
  | halts walks halts =>
    cases other with
    | arrives walks' =>
      obtain ⟨rfl, rfl⟩ := walks.unique halts.stuck walks' (stuck_of_done done _)
      exact absurd done halts.not_done
    | halts walks' halts' =>
      obtain ⟨rfl, rfl⟩ := walks.unique halts.stuck walks' halts'.stuck
      obtain ⟨rfl, rfl, rfl⟩ := halts.unique halts'
      exact ⟨rfl, rfl, rfl⟩

/-! ### Recording -/

theorem Going.of_recording {p : Position} {s next : σ × List Delivery}
    (going : Going host.recording p s next) : Going host p s.1 next.1 ∧ next.2 = s.2 := by
  cases going with
  | command runs looked =>
    rcases answered : host.isCancelled s.1 with ⟨cancelled, after⟩
    simp only [SessionHost.recording, answered] at looked
    cases looked
    exact ⟨.command runs answered, rfl⟩
  | other stays => exact ⟨.other stays, rfl⟩

theorem Advances.of_recording {a b : Position × σ × List Delivery} {delivery : Option Delivery}
    (advances : Advances r host.recording sessionId a delivery b) :
    Advances r host sessionId (a.1, a.2.1) delivery (b.1, b.2.1) ∧
      b.2.2 = a.2.2 ++ delivery.toList := by
  cases advances with
  | quiet moves going =>
    obtain ⟨going, same⟩ := going.of_recording
    refine ⟨.quiet moves going, ?_⟩
    rw [Option.toList_none, List.append_nil]
    exact same
  | @send p q s next inputs count moves taken =>
    rcases answered : host.send sessionId inputs s.1 with ⟨answer, after⟩
    simp only [SessionHost.recording, answered] at taken
    cases taken
    exact ⟨.send moves answered, rfl⟩

theorem Walks.of_recording {a b : Position × σ × List Delivery}
    (walks : Walks r host.recording sessionId a sent b) :
    Walks r host sessionId (a.1, a.2.1) sent (b.1, b.2.1) ∧ b.2.2 = a.2.2 ++ sent := by
  induction walks with
  | stay => exact ⟨.stay _, (List.append_nil _).symm⟩
  | go first _ ih =>
    obtain ⟨advances, listed⟩ := first.of_recording
    obtain ⟨later, all⟩ := ih
    refine ⟨.go advances later, ?_⟩
    rw [all, listed, List.append_assoc]

theorem Halts.of_recording {a : Position × σ × List Delivery} {refused : Option Delivery}
    {error : CommandError} {last : σ × List Delivery}
    (halts : Halts r host.recording sessionId a refused error last) :
    Halts r host sessionId (a.1, a.2.1) refused error last.1 ∧
      last.2 = a.2.2 ++ refused.toList := by
  cases halts with
  | @cancelled p s next runs cancelled =>
    rcases answered : host.isCancelled s.1 with ⟨answer, after⟩
    simp only [SessionHost.recording, answered] at cancelled
    cases cancelled
    exact ⟨.cancelled runs answered, (List.append_nil _).symm⟩
  | blocked blocked going =>
    obtain ⟨going, same⟩ := going.of_recording
    refine ⟨.blocked blocked going, ?_⟩
    rw [Option.toList_none, List.append_nil]
    exact same
  | @refused p q s next inputs error moves refused =>
    rcases answered : host.send sessionId inputs s.1 with ⟨answer, after⟩
    simp only [SessionHost.recording, answered] at refused
    cases refused
    exact ⟨.refused moves answered, rfl⟩

/-- A host that records does as it would without, and records what is handed over. -/
theorem Ends.of_recording {a : Position × σ × List Delivery} {last : σ × List Delivery}
    (ends : Ends r host.recording sessionId a goal sent outcome last) :
    Ends r host sessionId (a.1, a.2.1) goal sent outcome last.1 ∧ last.2 = a.2.2 ++ sent := by
  cases ends with
  | arrives walks =>
    obtain ⟨walks, listed⟩ := walks.of_recording
    exact ⟨.arrives walks, listed⟩
  | halts walks halts =>
    obtain ⟨walks, before⟩ := walks.of_recording
    obtain ⟨halts, listed⟩ := halts.of_recording
    refine ⟨.halts walks halts, ?_⟩
    rw [listed, before, List.append_assoc]

end Walks

end Autopilot
