import Autopilot.Trigger.Coordinator
import Autopilot.Trigger.Poller
import Mathlib

/-!
A poller at work. Any number of ticks may be on their way, and passes over the triggers go on
beside them, until they end in one way or another. The flag of the poller and each of its
counters change one at a time, and what a tick or a pass does to them one after the other may
be interleaved with all that others do. However it is, one pass at most is under way, every
tick is counted once, and every pass once when it starts and once when it ends, with what it
had to tell. The flag is up while one pass more has started than has ended, and a little
longer, because it is raised before the start is counted, and taken down after the end is.
-/

namespace Autopilot

/-- How many triggers a pass judged, as far as its outcome tells. -/
def evaluatedBy : Except TriggerError Nat → Nat
  | .ok evaluated => evaluated
  | .error (.persistFailed evaluated _ _) => evaluated
  | .error _ => 0

/-- How many triggers a pass could not store. -/
def unstoredBy : Except TriggerError Nat → Nat
  | .error (.persistFailed _ failed _) => failed.length
  | _ => 0

/-- Passes that ended in an error, other than by a cancellation or with triggers not stored. -/
def isPassError : Except TriggerError Nat → Bool
  | .ok _ => false
  | .error (.persistFailed _ _ _) => false
  | .error .cancelled => false
  | .error _ => true

/-! ## What is counted -/

namespace Count

/-- How many triggers are added to those that were judged. -/
def judged : Count → Nat
  | .evaluated triggers => triggers
  | _ => 0

/-- How many triggers are added to those that could not be stored. -/
def refused : Count → Nat
  | .unstored triggers => triggers
  | _ => 0

/-- What is counted of an outcome is what it tells. -/
theorem ofOutcome_tells (outcome : Except TriggerError Nat) :
    ((ofOutcome outcome).map judged).sum = evaluatedBy outcome ∧
      ((ofOutcome outcome).map refused).sum = unstoredBy outcome ∧
      (ofOutcome outcome).count .passError = if isPassError outcome then 1 else 0 := by
  cases outcome with
  | ok triggers => exact ⟨rfl, rfl, rfl⟩
  | error error =>
    cases error with
    | persistFailed triggers failed message => exact ⟨rfl, Nat.zero_add _, rfl⟩
    | _ => exact ⟨rfl, rfl, rfl⟩

/-- Only three of the counters have to do with outcomes. -/
theorem count_ofOutcome {outcome : Except TriggerError Nat} {count : Count}
    (counted : count ∈ ofOutcome outcome) (m : Metrics) :
    m.count count = { m with
      triggersEvaluated := m.triggersEvaluated + count.judged
      persistFailures := m.persistFailures + count.refused
      passErrors := m.passErrors + [count].count .passError } := by
  cases outcome with
  | ok triggers =>
    cases List.mem_singleton.1 counted
    rfl
  | error error =>
    cases error with
    | persistFailed triggers failed message =>
      rcases List.mem_pair.1 counted with rfl | rfl <;> rfl
    | cancelled => cases counted
    | _ =>
      cases List.mem_singleton.1 counted
      rfl

end Count

/-- The counters are those of the ticks and passes that there were, the last first, while some passes
go on and this is already counted of them. -/
structure Metrics.Tells (m : Metrics) (ticks : List Tick) (outcomes : List (Except TriggerError Nat))
    (going : Nat) (early : List Count) : Prop where
  started : m.cyclesStarted = ticks.count .started
  idle : m.idleSkips = ticks.count .idleSkipped
  overlapping : m.overlapSkips = ticks.count .overlapSkipped
  completed : m.cyclesCompleted = outcomes.length
  underWay : m.cyclesStarted = m.cyclesCompleted + going
  evaluated : m.triggersEvaluated = (outcomes.map evaluatedBy).sum + (early.map Count.judged).sum
  unstored : m.persistFailures = (outcomes.map unstoredBy).sum + (early.map Count.refused).sum
  errors : m.passErrors = outcomes.countP isPassError + early.count .passError

namespace Metrics.Tells

variable {m : Metrics} {ticks : List Tick} {outcomes : List (Except TriggerError Nat)} {going : Nat}
  {early : List Count}

theorem tick (tells : m.Tells ticks outcomes going early) (tick : Tick) :
    (m.count (.ofTick tick)).Tells (tick :: ticks) outcomes
      (if tick = .started then going + 1 else going) early := by
  have started : (m.count (.ofTick tick)).cyclesStarted = (tick :: ticks).count .started := by
    rw [List.count_cons, ← tells.started]
    cases tick <;> rfl
  have idle : (m.count (.ofTick tick)).idleSkips = (tick :: ticks).count .idleSkipped := by
    rw [List.count_cons, ← tells.idle]
    cases tick <;> rfl
  have overlapping : (m.count (.ofTick tick)).overlapSkips = (tick :: ticks).count .overlapSkipped := by
    rw [List.count_cons, ← tells.overlapping]
    cases tick <;> rfl
  cases tick with
  | started =>
    exact { tells with started, idle, overlapping, underWay := congrArg (· + 1) tells.underWay }
  | idleSkipped | overlapSkipped => exact { tells with started, idle, overlapping }

theorem early_count (tells : m.Tells ticks outcomes going early) {outcome : Except TriggerError Nat}
    {count : Count} (counted : count ∈ Count.ofOutcome outcome) :
    (m.count count).Tells ticks outcomes going (early ++ [count]) := by
  rw [Count.count_ofOutcome counted]
  exact { tells with
    evaluated := by
      rw [List.map_append, List.sum_append, ← Nat.add_assoc, ← tells.evaluated]
      rfl
    unstored := by
      rw [List.map_append, List.sum_append, ← Nat.add_assoc, ← tells.unstored]
      rfl
    errors := by rw [List.count_append, ← Nat.add_assoc, ← tells.errors] }

/-- A pass of which all but this is counted is completed with it. -/
theorem completes {outcome : Except TriggerError Nat}
    (tells : m.Tells ticks outcomes (going + 1) (Count.ofOutcome outcome)) :
    (m.count .cycleCompleted).Tells ticks (outcome :: outcomes) going [] := by
  obtain ⟨judged, refused, errors⟩ := Count.ofOutcome_tells outcome
  have evaluated := tells.evaluated
  have unstored := tells.unstored
  have failed := tells.errors
  rw [judged] at evaluated
  rw [refused] at unstored
  rw [errors] at failed
  exact { tells with
    completed := congrArg (· + 1) tells.completed
    underWay := by
      rw [count, Nat.succ_add_eq_add_succ]
      exact tells.underWay
    evaluated := by
      rw [List.map_cons, List.sum_cons, Nat.add_comm (evaluatedBy outcome)]
      exact evaluated
    unstored := by
      rw [List.map_cons, List.sum_cons, Nat.add_comm (unstoredBy outcome)]
      exact unstored
    errors := by
      rw [List.countP_cons]
      exact failed }

end Metrics.Tells

/-! ## Ticks and passes in parts -/

/-- Where a tick stands: it waits to hear whether a session is running, or comes to the flag next, or
knows what it does and counts that next. -/
inductive Ticking where
  | asking
  | boarding
  | counting (tick : Tick)
  deriving DecidableEq

/-- Where a pass stands: something is left to be said in it, or it has ended and something is left to
be counted. When nothing is left, it takes the flag down next. -/
inductive Passing where
  | talking (rest : Dialogue (Except TriggerError Nat))
  | recording (outcome : Except TriggerError Nat) (done left : List Count)

namespace Passing

/-- The pass is counted as completed. -/
def isCompleted : Passing → Bool
  | .talking _ => false
  | .recording _ _ left => left.isEmpty

/-- What is already counted of a pass that is not yet counted as completed. -/
def early : Passing → List Count
  | .talking _ => []
  | .recording _ done left => if left.isEmpty then [] else done

end Passing

/-- A poller with what goes on around it. Ticks that are over and passes that are counted as
completed are listed, the last first. -/
structure Patrol where
  poller : Poller
  ticking : List Ticking := []
  passes : List Passing := []
  ticks : List Tick := []
  outcomes : List (Except TriggerError Nat) := []

namespace Patrol

/-- What can happen next. Whether a session is running may be different each time that a tick
hears of it, a pass may be told anything, and a polling loop shows any interval. -/
inductive Step (engine : Engine) (patrol : Patrol) : Patrol → Prop where
  | asks (looks : patrol.poller.settings.skipWhenNoSessions = true) :
      Step engine patrol { patrol with ticking := .asking :: patrol.ticking }
  | boards (looksNot : patrol.poller.settings.skipWhenNoSessions = false) :
      Step engine patrol { patrol with ticking := .boarding :: patrol.ticking }
  | hears (first rest : List Ticking) (asks : patrol.ticking = first ++ .asking :: rest)
      (anyRunning : Bool) :
      Step engine patrol
        { patrol with
          ticking := first ++ (if anyRunning then .boarding else .counting .idleSkipped) :: rest }
  | takesOff (first rest : List Ticking) (boards : patrol.ticking = first ++ .boarding :: rest) :
      Step engine patrol
        { patrol with
          poller := patrol.poller.takeOff.2
          ticking := first ++ .counting patrol.poller.takeOff.1 :: rest }
  | counts (first rest : List Ticking) (tick : Tick)
      (knows : patrol.ticking = first ++ .counting tick :: rest) :
      Step engine patrol
        { patrol with
          poller := patrol.poller.count (.ofTick tick)
          ticking := first ++ rest
          passes := if tick = .started then .talking (engine.evaluateAll none).run :: patrol.passes
            else patrol.passes
          ticks := tick :: patrol.ticks }
  | told (first rest : List Passing) (question : Question)
      (next : question.Answer → Dialogue (Except TriggerError Nat))
      (asks : patrol.passes = first ++ .talking (.ask question next) :: rest)
      (answer : question.Answer) :
      Step engine patrol { patrol with passes := first ++ .talking (next answer) :: rest }
  | ends (first rest : List Passing) (outcome : Except TriggerError Nat)
      (done : patrol.passes = first ++ .talking (.done outcome) :: rest) :
      Step engine patrol
        { patrol with passes := first ++ .recording outcome [] (Count.ofPass outcome) :: rest }
  | records (first rest : List Passing) (outcome : Except TriggerError Nat) (done : List Count)
      (count : Count) (left : List Count)
      (ended : patrol.passes = first ++ .recording outcome done (count :: left) :: rest) :
      Step engine patrol
        { patrol with
          poller := patrol.poller.count count
          passes := first ++ .recording outcome (done ++ [count]) left :: rest
          outcomes := if left.isEmpty then outcome :: patrol.outcomes else patrol.outcomes }
  | lands (first rest : List Passing) (outcome : Except TriggerError Nat) (done : List Count)
      (recorded : patrol.passes = first ++ .recording outcome done [] :: rest) :
      Step engine patrol { patrol with poller := patrol.poller.land, passes := first ++ rest }
  | shows (delay : Duration) : Step engine patrol { patrol with poller := patrol.poller.shows delay }

/-- What a poller can come to from its start. -/
inductive Reached (engine : Engine) (config : PollerConfig) : Patrol → Prop where
  | start : Reached engine config { poller := .ofConfig config }
  | step {patrol next : Patrol} (reached : Reached engine config patrol)
      (step : Step engine patrol next) : Reached engine config next

/-! ## Ticks and ends of passes that nothing comes between -/

theorem Reached.steps {engine : Engine} {config : PollerConfig} {patrol next : Patrol}
    (reached : Reached engine config patrol) (steps : Relation.ReflTransGen (Step engine) patrol next) :
    Reached engine config next := by
  induction steps with
  | refl => exact reached
  | tail _ step ih => exact ih.step step

/-- A tick decides, and may so start a pass over all triggers. -/
def ticked (engine : Engine) (anyRunning : Bool) (patrol : Patrol) : Patrol :=
  let (tick, poller) := patrol.poller.tick anyRunning
  { patrol with
    poller
    passes := if tick = .started then .talking (engine.evaluateAll none).run :: patrol.passes
      else patrol.passes
    ticks := tick :: patrol.ticks }

/-- A tick that nothing comes between is one of its parts after the other. -/
theorem steps_ticked (engine : Engine) (anyRunning : Bool) (patrol : Patrol) :
    Relation.ReflTransGen (Step engine) patrol (patrol.ticked engine anyRunning) := by
  have counted {patrol : Patrol} {tick : Tick} {ticking : List Ticking}
      (knows : patrol.ticking = .counting tick :: ticking) : Step engine patrol _ := .counts [] _ _ knows
  have boarded (patrol : Patrol) :
      Relation.ReflTransGen (Step engine) { patrol with ticking := .boarding :: patrol.ticking }
        { patrol with
          poller := patrol.poller.takeOff.2.count (.ofTick patrol.poller.takeOff.1)
          passes := if patrol.poller.takeOff.1 = .started then
              .talking (engine.evaluateAll none).run :: patrol.passes
            else patrol.passes
          ticks := patrol.poller.takeOff.1 :: patrol.ticks } :=
    .tail (.single (.takesOff [] _ rfl)) (counted rfl)
  unfold ticked Poller.tick
  cases looks : patrol.poller.settings.skipWhenNoSessions with
  | false => exact .head (.boards looks) (boarded patrol)
  | true =>
    cases anyRunning with
    | true => exact .head (.asks looks) (.head (.hears [] _ rfl true) (boarded patrol))
    | false => exact .head (.asks looks) (.head (.hears [] _ rfl false) (.single (counted rfl)))

/-- The end of a pass that nothing comes between, by induction on what is left to be counted. -/
theorem steps_recorded {engine : Engine} {patrol : Patrol} {first rest : List Passing}
    {outcome : Except TriggerError Nat} {done : List Count} {count : Count} {left : List Count}
    (ended : patrol.passes = first ++ .recording outcome done (count :: left) :: rest) :
    Relation.ReflTransGen (Step engine) patrol
      { patrol with
        poller := ((count :: left).foldl Poller.count patrol.poller).land
        passes := first ++ rest
        outcomes := outcome :: patrol.outcomes } := by
  induction left generalizing patrol done count with
  | nil => exact .head (.records _ _ _ _ _ _ ended) (.single (.lands _ _ _ _ rfl))
  | cons next left ih =>
    have step : Step engine patrol _ := .records _ _ _ _ _ _ ended
    exact .head step (ih rfl)

theorem steps_passEnded {engine : Engine} {patrol : Patrol} (first rest : List Passing)
    (outcome : Except TriggerError Nat)
    (done : patrol.passes = first ++ .talking (.done outcome) :: rest) :
    Relation.ReflTransGen (Step engine) patrol
      { patrol with
        poller := patrol.poller.passEnded outcome
        passes := first ++ rest
        outcomes := outcome :: patrol.outcomes } := by
  refine .head (.ends _ _ _ done) ?_
  obtain ⟨count, left, counts⟩ := List.exists_cons_of_ne_nil
    (List.append_ne_nil_of_right_ne_nil (Count.ofOutcome outcome) (List.cons_ne_nil _ []))
  have all : Count.ofPass outcome = count :: left := counts
  unfold Poller.passEnded
  rw [all]
  exact steps_recorded rfl

/-! ## Balance -/

/-- How many ticks have raised the flag and not yet counted that. -/
def raised (patrol : Patrol) : Nat := patrol.ticking.count (.counting .started)

/-- How many passes are not yet counted as completed. -/
def going (patrol : Patrol) : Nat := patrol.passes.countP (!·.isCompleted)

/-- What is already counted of passes that are not yet counted as completed. -/
def early (patrol : Patrol) : List Count := patrol.passes.flatMap Passing.early

/-- The flag is up for the one tick or pass that holds it, and the counters tell what there was. What
is counted of a pass, and left to be counted, is what belongs to its outcome. -/
structure Balanced (patrol : Patrol) : Prop where
  holders : patrol.raised + patrol.passes.length = if patrol.poller.inFlight then 1 else 0
  tells : patrol.poller.metrics.Tells patrol.ticks patrol.outcomes patrol.going patrol.early
  whole : ∀ {outcome : Except TriggerError Nat} {done left : List Count},
    .recording outcome done left ∈ patrol.passes → done ++ left = Count.ofPass outcome

namespace Balanced

variable {patrol : Patrol} (balanced : patrol.Balanced)

include balanced

/-- A tick goes on, and neither raises the flag nor is counted. -/
theorem ticking {ticking : List Ticking} (same : ticking.count (.counting .started) = patrol.raised) :
    Balanced { patrol with ticking } := by
  have holders := balanced.holders
  rw [← same] at holders
  exact { balanced with holders }

theorem takeOff {first rest : List Ticking} (boards : patrol.ticking = first ++ .boarding :: rest) :
    Balanced { patrol with
      poller := patrol.poller.takeOff.2
      ticking := first ++ .counting patrol.poller.takeOff.1 :: rest } := by
  have holders := balanced.holders
  have raised : patrol.raised = first.count (.counting .started) + rest.count (.counting .started) := by
    unfold Patrol.raised
    rw [boards, List.count_append, List.count_cons_of_ne (by decide)]
  unfold Poller.takeOff
  cases flies : patrol.poller.inFlight with
  | true =>
    rw [if_pos rfl]
    refine balanced.ticking ?_
    change (first ++ .counting .overlapSkipped :: rest).count (.counting .started) = _
    rw [raised, List.count_append, List.count_cons_of_ne (by decide)]
  | false =>
    rw [flies, if_neg Bool.false_ne_true, raised] at holders
    rw [if_neg Bool.false_ne_true]
    refine { balanced with holders := ?_ }
    change (first ++ .counting .started :: rest).count (.counting .started) + patrol.passes.length = 1
    rw [List.count_append, List.count_cons_self]
    omega

/-- A tick is counted; if it holds the flag, that goes over to its pass. -/
theorem counts {first rest : List Ticking} {tick : Tick}
    (knows : patrol.ticking = first ++ .counting tick :: rest)
    (pass : Dialogue (Except TriggerError Nat)) :
    Balanced { patrol with
      poller := patrol.poller.count (.ofTick tick)
      ticking := first ++ rest
      passes := if tick = .started then .talking pass :: patrol.passes else patrol.passes
      ticks := tick :: patrol.ticks } := by
  have holders := balanced.holders
  have raised : patrol.raised = (first ++ rest).count (.counting .started) +
      if tick = .started then 1 else 0 := by
    unfold Patrol.raised
    rw [knows, List.count_append, List.count_append, List.count_cons]
    cases tick <;> rfl
  rw [raised] at holders
  have tells := balanced.tells.tick tick
  cases tick with
  | started =>
    have goes : (.talking pass :: patrol.passes).countP (!·.isCompleted) = patrol.going + 1 :=
      List.countP_cons_of_pos rfl
    rw [if_pos rfl, ← goes] at tells
    exact {
      holders := (Nat.succ_add_eq_add_succ _ _).symm.trans holders
      tells
      whole := fun member => balanced.whole ((List.mem_cons.1 member).resolve_left nofun) }
  | idleSkipped | overlapSkipped => exact { balanced with holders, tells }

/-- The only pass under way. -/
theorem alone {first rest : List Passing} {pass : Passing}
    (under : patrol.passes = first ++ pass :: rest) :
    patrol.raised = 0 ∧ patrol.poller.inFlight = true ∧ first = [] ∧ rest = [] := by
  have holders := balanced.holders
  rw [under, List.length_append, List.length_cons] at holders
  cases flies : patrol.poller.inFlight with
  | false =>
    rw [flies, if_neg Bool.false_ne_true] at holders
    omega
  | true =>
    rw [flies, if_pos rfl] at holders
    exact ⟨by omega, rfl, List.length_eq_zero_iff.1 (by omega), List.length_eq_zero_iff.1 (by omega)⟩

/-- The only pass goes on, and the counters tell so. -/
theorem passing {first rest : List Passing} {pass next : Passing}
    (under : patrol.passes = first ++ pass :: rest) {metrics : Metrics}
    {outcomes : List (Except TriggerError Nat)}
    (tells : patrol.poller.metrics.Tells patrol.ticks patrol.outcomes
        (if pass.isCompleted then 0 else 1) pass.early →
      metrics.Tells patrol.ticks outcomes (if next.isCompleted then 0 else 1) next.early)
    (whole : ∀ {outcome : Except TriggerError Nat} {done left : List Count},
      next = .recording outcome done left → done ++ left = Count.ofPass outcome) :
    Balanced { patrol with
      poller := { patrol.poller with metrics }
      passes := first ++ next :: rest
      outcomes } := by
  obtain ⟨none, flies, rfl, rfl⟩ := balanced.alone under
  have going (pass : Passing) : [pass].countP (!·.isCompleted) = if pass.isCompleted then 0 else 1 := by
    cases completed : pass.isCompleted <;> simp [completed]
  have before := balanced.tells
  unfold Patrol.going Patrol.early at before
  rw [under, List.nil_append, going, List.flatMap_singleton] at before
  refine { holders := ?_, tells := ?_, whole := fun member => whole (List.mem_singleton.1 member).symm }
  · simp only [flies, if_true]
    exact congrArg (· + 1) none
  · unfold Patrol.going Patrol.early
    rw [List.nil_append, going, List.flatMap_singleton]
    exact tells before

theorem records {first rest : List Passing} {outcome : Except TriggerError Nat} {done left : List Count}
    {count : Count} (ended : patrol.passes = first ++ .recording outcome done (count :: left) :: rest) :
    Balanced { patrol with
      poller := patrol.poller.count count
      passes := first ++ .recording outcome (done ++ [count]) left :: rest
      outcomes := if left.isEmpty then outcome :: patrol.outcomes else patrol.outcomes } := by
  have whole : done ++ count :: left = Count.ofPass outcome := balanced.whole (by simp [ended])
  refine balanced.passing ended (fun tells => ?_) fun same => ?_
  · obtain rfl | ⟨left, last, rfl⟩ := left.eq_nil_or_concat'
    · obtain ⟨rfl, same⟩ := List.append_inj' whole rfl
      cases same
      exact tells.completes
    · have inner : (done ++ count :: left) ++ [last] = Count.ofOutcome outcome ++ [.cycleCompleted] := by
        rw [List.append_assoc]
        exact whole
      obtain ⟨same, _⟩ := List.append_inj' inner rfl
      have listed : count ∈ Count.ofOutcome outcome := by simp [← same]
      simpa [Passing.isCompleted, Passing.early] using tells.early_count listed
  · cases same
    rwa [List.append_assoc]

/-- Nobody holds the flag when the pass takes it down. -/
theorem lands {first rest : List Passing} {outcome : Except TriggerError Nat} {done : List Count}
    (recorded : patrol.passes = first ++ .recording outcome done [] :: rest) :
    Balanced { patrol with poller := patrol.poller.land, passes := first ++ rest } := by
  obtain ⟨none, _, rfl, rfl⟩ := balanced.alone recorded
  have tells := balanced.tells
  unfold Patrol.going Patrol.early at tells
  rw [recorded] at tells
  exact { holders := none, tells, whole := nofun }

end Balanced

theorem step_balanced {engine : Engine} {patrol next : Patrol} (balanced : patrol.Balanced)
    (step : Step engine patrol next) : next.Balanced := by
  cases step with
  | asks looks | boards looksNot => exact balanced.ticking (List.count_cons_of_ne (by decide))
  | hears first rest asks anyRunning =>
    apply balanced.ticking
    cases anyRunning <;> simp [raised, asks]
  | takesOff first rest boards => exact balanced.takeOff boards
  | counts first rest tick knows => exact balanced.counts knows _
  | told first rest question next asks answer => exact balanced.passing asks id nofun
  | ends first rest outcome done =>
    refine balanced.passing done (fun tells => ?_) fun same => ?_
    · simpa [Passing.isCompleted, Passing.early, Count.ofPass] using tells
    · cases same
      rfl
  | records first rest outcome done count left ended => exact balanced.records ended
  | lands first rest outcome done recorded => exact balanced.lands recorded
  | shows delay => exact { balanced with tells := { balanced.tells with } }

theorem reached_balanced {engine : Engine} {config : PollerConfig} {patrol : Patrol}
    (reached : Reached engine config patrol) : patrol.Balanced := by
  induction reached with
  | start => exact { holders := rfl, tells := by constructor <;> rfl, whole := nofun }
  | step _ step ih => exact step_balanced ih step

/-- Every tick is of one of three kinds. -/
theorem length_ticks (ticks : List Tick) :
    ticks.length = ticks.count .started + ticks.count .idleSkipped + ticks.count .overlapSkipped := by
  induction ticks with
  | nil => rfl
  | cons tick rest ih => cases tick <;> simp [ih] <;> omega

/-- A tick has raised the flag and comes to count that next, or a pass is counted as completed and
comes to take the flag down next. -/
def Midway (patrol : Patrol) : Prop :=
  .counting .started ∈ patrol.ticking ∨ ∃ pass ∈ patrol.passes, pass.isCompleted = true

section Midway

variable {patrol : Patrol} (balanced : patrol.Balanced)

include balanced

/-- Who is midway holds the flag, and no pass goes on beside that. -/
theorem going_of_midway (midway : patrol.Midway) : patrol.poller.inFlight = true ∧ patrol.going = 0 := by
  rcases midway with member | ⟨pass, member, completed⟩
  · have raises : 0 < patrol.raised := List.count_pos_iff.2 member
    have holders := balanced.holders
    cases flies : patrol.poller.inFlight with
    | false =>
      rw [flies, if_neg Bool.false_ne_true] at holders
      omega
    | true =>
      rw [flies, if_pos rfl] at holders
      have none : patrol.passes = [] := List.length_eq_zero_iff.1 (by omega)
      exact ⟨rfl, by rw [going, none]; rfl⟩
  · obtain ⟨first, rest, under⟩ := List.append_of_mem member
    obtain ⟨_, flies, rfl, rfl⟩ := balanced.alone under
    exact ⟨flies, by simp [going, under, completed]⟩

/-- If nobody is midway, a pass goes on exactly while the flag is up. -/
theorem going_of_not_midway (settled : ¬ patrol.Midway) :
    patrol.going = if patrol.poller.inFlight then 1 else 0 := by
  obtain ⟨none, unfinished⟩ := not_or.1 settled
  have lowered : patrol.raised = 0 := List.count_eq_zero.2 none
  have all : patrol.going = patrol.passes.length :=
    List.countP_eq_length.2 fun pass member => by simpa using fun done => unfinished ⟨pass, member, done⟩
  rw [all, ← balanced.holders, lowered, Nat.zero_add]

end Midway

/-- Whatever ticks and passes come between each other, and wherever in their parts, one pass at most
is under way, and the flag is up exactly while one is or is about to be. As many passes have
started as have ended, or one more, and the flag is up exactly while it is one more or somebody is
midway. Every tick that is over is counted once, and the counters add up what the passes that are
completed told, and what is already counted of one that is not. -/
theorem reached_accounts {engine : Engine} {config : PollerConfig} {patrol : Patrol}
    (reached : Reached engine config patrol) :
    let counters := patrol.poller.metrics
    (patrol.raised + patrol.passes.length ≤ 1 ∧
      (patrol.poller.inFlight = true ↔ patrol.raised + patrol.passes.length = 1)) ∧
    (counters.cyclesStarted = counters.cyclesCompleted ∨
      counters.cyclesStarted = counters.cyclesCompleted + 1) ∧
    (patrol.Midway → patrol.poller.inFlight = true ∧
      counters.cyclesStarted = counters.cyclesCompleted) ∧
    (¬ patrol.Midway →
      (patrol.poller.inFlight = true ↔ counters.cyclesStarted = counters.cyclesCompleted + 1) ∧
      (patrol.poller.inFlight = false ↔ counters.cyclesStarted = counters.cyclesCompleted)) ∧
    patrol.ticks.length = counters.cyclesStarted + counters.idleSkips + counters.overlapSkips ∧
    counters.cyclesStarted = patrol.ticks.count .started ∧
    counters.idleSkips = patrol.ticks.count .idleSkipped ∧
    counters.overlapSkips = patrol.ticks.count .overlapSkipped ∧
    counters.cyclesCompleted = patrol.outcomes.length ∧
    counters.triggersEvaluated =
      (patrol.outcomes.map evaluatedBy).sum + (patrol.early.map Count.judged).sum ∧
    counters.persistFailures =
      (patrol.outcomes.map unstoredBy).sum + (patrol.early.map Count.refused).sum ∧
    counters.passErrors = patrol.outcomes.countP isPassError + patrol.early.count .passError ∧
    ((∀ pass ∈ patrol.passes, pass.early = []) →
      counters.triggersEvaluated = (patrol.outcomes.map evaluatedBy).sum ∧
      counters.persistFailures = (patrol.outcomes.map unstoredBy).sum ∧
      counters.passErrors = patrol.outcomes.countP isPassError) := by
  have balanced := reached_balanced reached
  have holders := balanced.holders
  have tells := balanced.tells
  have underWay := tells.underWay
  have all : patrol.ticks.length = patrol.poller.metrics.cyclesStarted +
      patrol.poller.metrics.idleSkips + patrol.poller.metrics.overlapSkips := by
    rw [tells.started, tells.idle, tells.overlapping]
    exact length_ticks patrol.ticks
  have atMidway (midway : patrol.Midway) : patrol.poller.inFlight = true ∧
      patrol.poller.metrics.cyclesStarted = patrol.poller.metrics.cyclesCompleted := by
    obtain ⟨flies, none⟩ := going_of_midway balanced midway
    exact ⟨flies, by rw [underWay, none, Nat.add_zero]⟩
  have beside (settled : ¬ patrol.Midway) := going_of_not_midway balanced settled
  refine ⟨⟨?_, ?_⟩, ?_, atMidway, fun settled => ?_, all, tells.started, tells.idle, tells.overlapping,
    tells.completed, tells.evaluated, tells.unstored, tells.errors, fun silent => ?_⟩
  · split at holders <;> omega
  · cases flies : patrol.poller.inFlight with
    | true => simpa only [flies, if_true, true_iff] using holders
    | false =>
      simp only [flies, Bool.false_eq_true, if_false, false_iff] at holders ⊢
      omega
  · by_cases midway : patrol.Midway
    · exact .inl (atMidway midway).2
    · have goes := beside midway
      split at goes <;> omega
  · have goes := beside settled
    cases flies : patrol.poller.inFlight with
    | true =>
      simp only [flies, if_true, reduceCtorEq, true_iff, false_iff] at goes ⊢
      omega
    | false =>
      simp only [flies, Bool.false_eq_true, if_false, true_iff, false_iff] at goes ⊢
      omega
  · have none : patrol.early = [] := List.flatMap_eq_nil_iff.2 silent
    have evaluated := tells.evaluated
    have unstored := tells.unstored
    have errors := tells.errors
    rw [none] at evaluated unstored errors
    exact ⟨evaluated, unstored, errors⟩

/-- Two ticks heard that a session is running, so that the second met the pass of the first. Then no
session was running anymore, and the pass ended with a trigger not stored. -/
def nightWatch : Patrol where
  poller := {
    settings := ({} : PollerSettings).toConfig
    metrics := {
      cyclesStarted := 1, cyclesCompleted := 1, idleSkips := 1, overlapSkips := 1,
      triggersEvaluated := 1, persistFailures := 1, currentIntervalMs := 1000 } }
  ticks := [.idleSkipped, .overlapSkipped, .started]
  outcomes := [.error (.persistFailed 1 ["door"] (StoreError.storage "full").message)]

theorem nightWatch_reached : Reached (.standard false) ({} : PollerSettings).toConfig nightWatch := by
  let door : Trigger := { id := "door", kind := .delay 0, enabled := false }
  have begun : Reached (.standard false) ({} : PollerSettings).toConfig { poller := .ofConfig _ } := .start
  -- The second tick looks at the flag before the first has counted that it starts a pass.
  have asked := (begun.step (.asks rfl)).step (.asks rfl)
  have heard := (asked.step (.hears [] _ rfl true)).step (.hears [.boarding] _ rfl true)
  have decided := (heard.step (.takesOff [] _ rfl)).step (.takesOff [.counting .started] _ rfl)
  have counted := (decided.step (.counts [] _ _ rfl)).step (.counts [] _ _ rfl)
  have listed := counted.step (.told [] [] .triggers _ rfl (.ok [door]))
  have again := listed.steps (steps_ticked _ false _)
  have going := again.step (.told [] [] .isCancelled _ rfl false)
  have timed := going.step (.told [] [] .now _ rfl ⟨0, 0⟩)
  have judged := timed.step (.told [] [] .isCancelled _ rfl false)
  have refused := judged.step (.told [] [] (.keep _) _ rfl (.error (.storage "full")))
  have ended := refused.steps (steps_passEnded [] [] _ rfl)
  exact ended

theorem reached_accounts_nightWatch :
    let counters := nightWatch.poller.metrics
    nightWatch.ticks.length = 3 ∧
      nightWatch.ticks.length =
        counters.cyclesStarted + counters.idleSkips + counters.overlapSkips ∧
      counters.persistFailures = (nightWatch.outcomes.map unstoredBy).sum :=
  let ⟨_, _, _, _, ticks, _, _, _, _, _, _, _, silent⟩ := reached_accounts nightWatch_reached
  ⟨rfl, ticks, (silent nofun).2.1⟩

end Patrol

end Autopilot
