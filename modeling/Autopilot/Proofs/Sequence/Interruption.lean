import Autopilot.Proofs.Sequence.Progress

/-!
What a run still does once it is cancelled. The journal has a place where this happens:
no entry before it is marked as cancelled, and every later one is. If the run was struck
while it waited for an answer, that answer is the first marked entry, and only
conditions of blocks and the command of a step whose gate has just opened can follow.
If it was struck while it rested, nothing follows at all, unless the rest is overslept.
An overslept rest is slept out, and if it was the delay of a step without a gate, the
command of that step is still called.
-/

namespace Autopilot

/-- No rest is slept out in a cancelled run. -/
def Hooks.Prompt {World : Type} (hooks : Hooks World) : Prop :=
  ∀ ms asleep, (hooks.rest ms asleep).overslept = false

/-- A call of a collaborator, and an answer to such a call. -/
def Act.isAnsweredBy : Act → Act → Bool
  | .gateAsked _, .gateAnswered _ => true
  | .conditionAsked _, .conditionAnswered _ => true
  | .commandCalled _, .commandAnswered _ => true
  | _, _ => false

theorem Act.isAnsweredBy_quiet {asked answered : Act} (answers : asked.isAnsweredBy answered = true) :
    answered.isBeginning = false ∧ (∀ ms, answered ≠ .slept ms) ∧
      ∀ commandId, answered ≠ .commandCalled commandId := by
  cases asked <;> cases answered <;> simp [Act.isAnsweredBy, Act.isBeginning] at answers ⊢

/-- What a cancelled run still does: it asks for conditions, it hears answers, and it may oversleep. -/
inductive Act.IsEpilogue {World : Type} (hooks : Hooks World) : Act → Prop where
  | asked (condition : Condition) : IsEpilogue hooks (.conditionAsked condition)
  | answered (answer : Except ConditionError Bool) : IsEpilogue hooks (.conditionAnswered answer)
  | ended (answer : Except RunError Unit) : IsEpilogue hooks (.commandAnswered answer)
  | overslept {ms : Nat} {asleep : World} (late : (hooks.rest ms asleep).overslept = true) :
      IsEpilogue hooks (.slept ms)

theorem Act.IsEpilogue.isBeginning {World : Type} {hooks : Hooks World} {act : Act}
    (epilogue : act.IsEpilogue hooks) : act.isBeginning = false := by
  cases epilogue <;> rfl

/-- The call that evaluates the gate of a step, and the answer that opens it. -/
inductive Step.Opened (step : Step) : Act → Act → Prop where
  | decided (gated : step.gate.isSome) :
      Opened step (.gateAsked step.commandId) (.gateAnswered (.ok true))
  | measured {gate : Condition} (given : step.gate = some gate) :
      Opened step (.conditionAsked gate) (.conditionAnswered (.ok true))

theorem Step.Opened.answers {step : Step} {asked answered : Act}
    (opened : step.Opened asked answered) : asked.isAnsweredBy answered = true := by
  cases opened <;> rfl

theorem Step.Opened.isSome {step : Step} {asked answered : Act}
    (opened : step.Opened asked answered) : step.gate.isSome := by
  cases opened with
  | decided gated => exact gated
  | measured given => exact Option.isSome_of_eq_some given

namespace Entry

/-- The time of the last entry. -/
def lastTime (start : Nat) (entries : List Entry) : Nat := (entries.getLast?.map (·.time)).getD start

@[simp] theorem lastTime_concat (start : Nat) (entries : List Entry) (entry : Entry) :
    lastTime start (entries ++ [entry]) = entry.time := by
  simp only [lastTime, List.getLast?_concat, Option.map_some, Option.getD_some]

/-- No entry was made in a cancelled run. -/
def Calm (entries : List Entry) : Prop := ∀ entry ∈ entries, entry.cancelled = false

theorem Calm.concat {entries : List Entry} (calm : Calm entries) {entry : Entry}
    (going : entry.cancelled = false) : Calm (entries ++ [entry]) := by
  unfold Calm
  rw [List.forall_mem_append, List.forall_mem_singleton]
  exact ⟨calm, going⟩

/-- What the first entry of a cancelled run tells: an answer, during which the run was cancelled, or
a rest, which was overslept. -/
inductive Strikes {World : Type} (hooks : Hooks World) (before : List Entry) (first : Entry) :
    Prop where
  | answer {asked : Entry} (last : before.getLast? = some asked)
      (answers : asked.act.isAnsweredBy first.act = true)
  | rest {ms : Nat} {asleep : World} (slept : first.act = .slept ms)
      (late : (hooks.rest ms asleep).overslept = true)

end Entry

/-- A step whose command is called next although the run was just cancelled: its gate was opened by
the answer, or it has none and its delay was overslept. -/
inductive Step.Released (step : Step) (before : List Entry) (first : Entry) : Prop where
  | opened {asked : Entry} (last : before.getLast? = some asked)
      (opened : step.Opened asked.act first.act)
  | delayed {begun : Entry} {ms : Nat} (ungated : step.gate = none)
      (last : before.getLast? = some begun) (begins : begun.act = .step step.commandId)
      (slept : first.act = .slept ms)

namespace Entry

/-- What is known of the entries around the first that was made in a cancelled run. The command of
a step that is released there may be called next; otherwise, and after that, there is only an
epilogue. -/
structure Aftermath {World : Type} (hooks : Hooks World) (mayRun : Step → Prop) (before : List Entry)
    (first : Entry) (after : List Entry) : Prop where
  calm : Calm before
  marked : ∀ entry ∈ first :: after, entry.cancelled = true
  strikes : first.Strikes hooks before
  next : ∀ entry ∈ after.head?, entry.act.IsEpilogue hooks ∨
    ∃ step, mayRun step ∧ step.Released before first ∧
      (begun before).getLast? = some (.step step.commandId) ∧
      entry.act = .commandCalled step.commandId
  epilogue : ∀ entry ∈ after.tail, entry.act.IsEpilogue hooks

variable {World : Type} {hooks : Hooks World} {before after : List Entry} {first entry : Entry}

theorem Strikes.isBeginning (strikes : first.Strikes hooks before) : first.act.isBeginning = false := by
  cases strikes with
  | answer _ answers => exact (Act.isAnsweredBy_quiet answers).1
  | rest slept =>
    rw [slept]
    rfl

theorem Strikes.not_called (strikes : first.Strikes hooks before) (commandId : String) :
    first.act ≠ .commandCalled commandId := by
  cases strikes with
  | answer _ answers => exact (Act.isAnsweredBy_quiet answers).2.2 commandId
  | rest slept =>
    rw [slept]
    nofun

theorem Strikes.overslept (strikes : first.Strikes hooks before) {ms : Nat}
    (slept : first.act = .slept ms) : ∃ asleep, (hooks.rest ms asleep).overslept = true := by
  cases strikes with
  | answer _ answers => exact absurd slept ((Act.isAnsweredBy_quiet answers).2.1 ms)
  | rest other late =>
    cases slept.symm.trans other
    exact ⟨_, late⟩

namespace Aftermath

variable {mayRun : Step → Prop}

theorem struck (calm : Calm before) (marked : first.cancelled = true)
    (strikes : first.Strikes hooks before) : Aftermath hooks mayRun before first [] := by
  refine ⟨calm, List.forall_mem_singleton.2 marked, strikes, ?_, List.forall_mem_nil _⟩
  intro entry head
  cases head

theorem called (known : Aftermath hooks mayRun before first []) {step : Step} (runs : mayRun step)
    (released : step.Released before first)
    (current : (begun before).getLast? = some (.step step.commandId))
    (late : entry.cancelled = true) (call : entry.act = .commandCalled step.commandId) :
    Aftermath hooks mayRun before first [entry] := by
  have marked : first.cancelled = true := known.marked first List.mem_cons_self
  refine ⟨known.calm, ?_, known.strikes, ?_, List.forall_mem_nil _⟩
  · rw [List.forall_mem_cons, List.forall_mem_singleton]
    exact ⟨marked, late⟩
  · intro other head
    cases head
    exact .inr ⟨step, runs, released, current, call⟩

theorem later (known : Aftermath hooks mayRun before first after)
    (late : entry.cancelled = true) (epilogue : entry.act.IsEpilogue hooks) :
    Aftermath hooks mayRun before first (after ++ [entry]) := by
  refine ⟨known.calm, ?_, known.strikes, ?_, ?_⟩
  · rw [← List.cons_append, List.forall_mem_append, List.forall_mem_singleton]
    exact ⟨known.marked, late⟩
  · intro other head
    cases after with
    | nil =>
      cases head
      exact .inl epilogue
    | cons second more => exact known.next other head
  · cases after with
    | nil => exact List.forall_mem_nil _
    | cons second more =>
      rw [List.cons_append, List.tail_cons, List.forall_mem_append, List.forall_mem_singleton]
      exact ⟨known.epilogue, epilogue⟩

/-- An entry is the first, or belongs to the epilogue, or is the call of a released step. -/
theorem cases (known : Aftermath hooks mayRun before first after) {i : Nat}
    (found : (first :: after)[i]? = some entry) :
    (i = 0 ∧ entry = first) ∨ entry.act.IsEpilogue hooks ∨
      (i = 1 ∧ ∃ step, mayRun step ∧ step.Released before first ∧
        (begun before).getLast? = some (.step step.commandId) ∧
        entry.act = .commandCalled step.commandId) := by
  cases i with
  | zero => exact .inl ⟨rfl, (Option.some.inj found).symm⟩
  | succ i =>
    right
    cases after with
    | nil => cases found
    | cons second rest =>
      cases i with
      | zero =>
        obtain rfl := Option.some.inj found
        exact (known.next second rfl).imp id fun call => ⟨rfl, call⟩
      | succ i => exact .inl (known.epilogue entry (List.mem_of_getElem? found))

/-- Nothing begins in the cancelled run, and no rest is slept out that is not overslept. -/
theorem quiet (known : Aftermath hooks mayRun before first after) :
    ∀ entry ∈ first :: after, entry.act.isBeginning = false ∧
      ∀ ms, entry.act = .slept ms → ∃ asleep, (hooks.rest ms asleep).overslept = true := by
  intro entry member
  obtain ⟨i, found⟩ := List.getElem?_of_mem member
  rcases known.cases found with ⟨_, rfl⟩ | epilogue | ⟨_, step, _, _, _, call⟩
  · exact ⟨known.strikes.isBeginning, fun ms => known.strikes.overslept⟩
  · refine ⟨epilogue.isBeginning, fun ms slept => ?_⟩
    rw [slept] at epilogue
    cases epilogue with
    | overslept late => exact ⟨_, late⟩
  · rw [call]
    exact ⟨rfl, nofun⟩

/-- The only command that can still be called is that of a step that was released. -/
theorem call (known : Aftermath hooks mayRun before first after) {i : Nat} {commandId : String}
    (found : (first :: after)[i]? = some entry) (called : entry.act = .commandCalled commandId) :
    i = 1 ∧ ∃ step, mayRun step ∧ step.commandId = commandId ∧ step.Released before first ∧
      (begun before).getLast? = some (.step step.commandId) := by
  rcases known.cases found with ⟨_, rfl⟩ | epilogue | ⟨second, step, runs, released, current, call⟩
  · exact absurd called (known.strikes.not_called commandId)
  · rw [called] at epilogue
    cases epilogue
  · cases called.symm.trans call
    exact ⟨second, step, runs, rfl, released, current⟩

end Aftermath

end Entry

namespace Run

variable {World : Type} (hooks : Hooks World) (mayRun : Step → Prop) (start : Nat)

/-- The run is not cancelled, and its clock shows the time of its last entry. -/
structure Going (run : Run World) : Prop where
  going : run.cancelled = false
  calm : Entry.Calm run.journal.toList
  clock : run.now = Entry.lastTime start run.journal.toList

/-- The run was cancelled, with these entries since then. -/
structure Late (before : List Entry) (first : Entry) (after : List Entry) (run : Run World) :
    Prop where
  cancelled : run.cancelled = true
  journal : run.journal.toList = before ++ first :: after
  aftermath : Entry.Aftermath hooks mayRun before first after

/-- The run was cancelled during its last rest, which ended there. -/
structure CutShort (run : Run World) : Prop where
  cancelled : run.cancelled = true
  calm : Entry.Calm run.journal.toList
  rest : ∃ (asleep : World) (ms early : Nat),
    hooks.rest ms asleep = { world := run.world, cancelledAfter := some early } ∧
      run.now = Entry.lastTime start run.journal.toList + min early ms

/-- The run goes on, or it does what is left to do in it. -/
def Sound (run : Run World) : Prop :=
  run.Going start ∨ ∃ before first after, run.Late hooks mayRun before first after

/-- A run that halted for good. -/
def Stopped : Halt → Run World → Prop
  | .impatient, run => run.Going start
  | .failed _, run => run.Sound hooks mayRun start ∨ run.CutShort hooks start

/-- How a part of the run halts, for good or with an error that is settled further out. -/
abbrev Halts : Halt → Run World → Prop :=
  Runner.Halting (Sound hooks mayRun start) (Stopped hooks mayRun start)

/-- The delay of a step is over: the run goes on, or it was cancelled in the delay, which was
overslept. -/
def Ready (step : Step) (run : Run World) : Prop :=
  run.Going start ∨ ∃ before first, run.Late hooks mayRun before first [] ∧
    (step.gate = none → step.Released before first)

/-- The gate of a step has let the run pass: the run goes on, or the step was released when the run
was cancelled. -/
def Passed (step : Step) (run : Run World) : Prop :=
  run.Going start ∨ ∃ before first, run.Late hooks mayRun before first [] ∧
    step.Released before first

variable {hooks mayRun start} {run : Run World}

theorem Going.noted (going : run.Going start) (act : Act) : (run.noted act).Going start := by
  refine ⟨going.going, ?_, ?_⟩
  · simp only [Run.noted, Array.toList_push]
    exact going.calm.concat going.going
  · simp only [Run.noted, Array.toList_push, Entry.lastTime_concat]

/-- A call from a run that goes on: it goes on after the answer, or was struck meanwhile. -/
theorem Going.consulted {α : Type} (going : run.Going start) {asked answered : Act}
    (answers : asked.isAnsweredBy answered = true) (reply : Reply World α) :
    (run.consulted asked reply answered).Going start ∨
      (run.consulted asked reply answered).Late hooks mayRun
        (run.journal.toList ++ [⟨run.now, false, asked⟩])
        ⟨run.now + reply.elapsed, true, answered⟩ [] := by
  have calm : Entry.Calm (run.journal.toList ++ [⟨run.now, false, asked⟩]) :=
    going.calm.concat rfl
  have journal : (run.consulted asked reply answered).journal.toList =
      run.journal.toList ++ [⟨run.now, false, asked⟩] ++
        [⟨run.now + reply.elapsed, reply.cancels, answered⟩] := by
    simp only [Run.consulted, Run.noted, Run.replied, Array.toList_push, going.going, Bool.false_or]
  have flag : (run.consulted asked reply answered).cancelled = reply.cancels := by
    simp only [Run.consulted, Run.noted, Run.replied, going.going, Bool.false_or]
  cases cancels : reply.cancels with
  | false =>
    rw [cancels] at journal flag
    refine .inl ⟨flag, ?_, ?_⟩
    · rw [journal]
      exact calm.concat rfl
    · rw [journal, Entry.lastTime_concat]
      rfl
  | true =>
    rw [cancels] at journal flag
    exact .inr ⟨flag, journal, .struck calm rfl (.answer List.getLast?_concat answers)⟩

theorem Going.consulted_sound {α : Type} (going : run.Going start) {asked answered : Act}
    (answers : asked.isAnsweredBy answered = true) (reply : Reply World α) :
    (run.consulted asked reply answered).Sound hooks mayRun start := by
  rcases going.consulted answers reply with still | struck
  · exact .inl still
  · exact .inr ⟨_, _, _, struck⟩

/-- A rest that is slept out from a run that goes on: it goes on after it, or was struck meanwhile
and overslept. -/
theorem Going.rested (going : run.Going start) {ms : Nat} {asleep : World}
    (late : (run.rested ms (hooks.rest ms asleep)).cancelled = true →
      (hooks.rest ms asleep).overslept = true) :
    ((run.rested ms (hooks.rest ms asleep)).noted (.slept ms)).Going start ∨
      ((run.rested ms (hooks.rest ms asleep)).noted (.slept ms)).Late hooks mayRun
        run.journal.toList ⟨run.now + ms, true, .slept ms⟩ [] := by
  have journal : ((run.rested ms (hooks.rest ms asleep)).noted (.slept ms)).journal.toList =
      run.journal.toList ++
        [⟨run.now + ms, (run.rested ms (hooks.rest ms asleep)).cancelled, .slept ms⟩] :=
    Array.toList_push
  cases cancelled : (run.rested ms (hooks.rest ms asleep)).cancelled with
  | false =>
    rw [cancelled] at journal
    refine .inl ⟨cancelled, ?_, ?_⟩
    · rw [journal]
      exact going.calm.concat rfl
    · rw [journal, Entry.lastTime_concat]
      rfl
  | true =>
    rw [cancelled] at journal
    exact .inr ⟨cancelled, journal, .struck going.calm rfl (.rest rfl (late cancelled))⟩

theorem Late.noted {before after : List Entry} {first : Entry}
    (late : run.Late hooks mayRun before first after) {act : Act} (epilogue : act.IsEpilogue hooks) :
    (run.noted act).Late hooks mayRun before first (after ++ [⟨run.now, run.cancelled, act⟩]) := by
  refine ⟨late.cancelled, ?_, late.aftermath.later late.cancelled epilogue⟩
  simp only [Run.noted, Array.toList_push, late.journal, List.append_assoc, List.cons_append]

theorem Late.replied {α : Type} {before after : List Entry} {first : Entry}
    (late : run.Late hooks mayRun before first after) (reply : Reply World α) :
    (run.replied reply).Late hooks mayRun before first after := by
  refine ⟨?_, late.journal, late.aftermath⟩
  simp only [Run.replied, late.cancelled, Bool.true_or]

theorem Late.rested {before after : List Entry} {first : Entry}
    (late : run.Late hooks mayRun before first after) (ms : Nat) (rest : Rest World) :
    (run.rested ms rest).Late hooks mayRun before first after := by
  refine ⟨?_, late.journal, late.aftermath⟩
  simp only [Run.rested, late.cancelled, Bool.true_or]

/-- The call of the command of a step that was released when the run was cancelled. -/
theorem Late.called {before : List Entry} {first : Entry} {step : Step}
    (late : run.Late hooks mayRun before first []) (runs : mayRun step)
    (released : step.Released before first) (current : run.Current step) :
    (run.noted (.commandCalled step.commandId)).Late hooks mayRun before first
      [⟨run.now, run.cancelled, .commandCalled step.commandId⟩] := by
  have begun : (Entry.begun before).getLast? = some (.step step.commandId) := by
    have quiet : Entry.begun [first] = [] := by
      simp [Entry.begun, late.aftermath.strikes.isBeginning]
    unfold Current at current
    rwa [late.journal, Entry.begun_append, quiet, List.append_nil] at current
  refine ⟨late.cancelled, ?_, late.aftermath.called runs released begun late.cancelled rfl⟩
  simp only [Run.noted, Array.toList_push, late.journal, List.append_assoc, List.cons_append,
    List.nil_append]

/-- Nothing else of a run matters. -/
theorem Sound.loose (sound : run.Sound hooks mayRun start) (world : World) (tally : Tally)
    (steps : Array StepResult) (blocks : Array BlockResult) :
    ({ run with world, tally, steps, blocks } : Run World).Sound hooks mayRun start := by
  rcases sound with going | ⟨before, first, after, late⟩
  · exact .inl ⟨going.going, going.calm, going.clock⟩
  · exact .inr ⟨before, first, after, late.cancelled, late.journal, late.aftermath⟩

theorem Sound.going (sound : run.Sound hooks mayRun start) (going : run.cancelled = false) :
    run.Going start := by
  rcases sound with sound | ⟨before, first, after, late⟩
  · exact sound
  · rw [late.cancelled] at going
    cases going

theorem Sound.rested (sound : run.Sound hooks mayRun start) {ms : Nat} {asleep : World}
    (late : (run.rested ms (hooks.rest ms asleep)).cancelled = true →
      (hooks.rest ms asleep).overslept = true) :
    ((run.rested ms (hooks.rest ms asleep)).noted (.slept ms)).Sound hooks mayRun start := by
  rcases sound with going | ⟨before, first, after, struck⟩
  · rcases going.rested late with still | struck
    · exact .inl still
    · exact .inr ⟨_, _, _, struck⟩
  · have rested := struck.rested ms (hooks.rest ms asleep)
    exact .inr ⟨_, _, _, rested.noted (.overslept (late rested.cancelled))⟩

theorem Sound.stopped (sound : run.Sound hooks mayRun start) (error : RunError) :
    run.Halts hooks mayRun start (.failed error) := by
  by_cases cancelled : error = .cancelled
  · rw [cancelled]
    exact .inl sound
  · exact .of_failed cancelled sound

theorem Ready.sound {step : Step} (ready : run.Ready hooks mayRun start step) :
    run.Sound hooks mayRun start := by
  rcases ready with going | ⟨before, first, late, _⟩
  · exact .inl going
  · exact .inr ⟨before, first, [], late⟩

end Run

namespace Runner

open Run

variable {World α : Type} {hooks : Hooks World} {mayRun : Step → Prop} {start : Nat}

/-- A rest leads where one leads that is slept out, if the run is not struck in it. -/
theorem pause_leads {P Q : Run World → Prop} (sound : ∀ run, P run → run.Sound hooks mayRun start)
    (empty : ∀ run, P run → Q run)
    (slept : ∀ (run : Run World) (ms : Nat), P run →
      ((run.rested ms (hooks.rest ms run.world)).cancelled = true →
        (hooks.rest ms run.world).overslept = true) →
      Q ((run.rested ms (hooks.rest ms run.world)).noted (.slept ms))) (ms : Nat) :
    Leads P (pause hooks ms) (fun _ => Q) (Halts hooks mayRun start) := by
  intro run holds
  rcases pause_cases hooks ms run with ⟨_, same⟩ | ⟨_, _, same⟩ | ⟨going, early, struck, same⟩ |
    ⟨_, late, same⟩
  all_goals rw [same]
  · exact (sound run holds).stopped _
  · exact empty run holds
  · have still := (sound run holds).going going
    refine .inr ⟨rfl, still.calm, run.world, ms, early, struck, ?_⟩
    rw [still.clock]
  · exact slept run ms holds late

theorem pause_keeps (ms : Nat) :
    Keeps (Sound hooks mayRun start) (Stopped hooks mayRun start) (pause hooks ms) :=
  pause_leads (fun _ sound => sound) (fun _ sound => sound) (fun _ _ sound late => sound.rested late) ms

/-- A condition may be asked for at any time. -/
theorem evaluate_keeps (evaluator : Condition → World → Reply World (Except ConditionError Bool))
    (condition : Condition) :
    Keeps (Sound hooks mayRun start) (Stopped hooks mayRun start) (evaluate evaluator condition) := by
  have after {run : Run World} (sound : run.Sound hooks mayRun start)
      (answer : Except ConditionError Bool) (reply : Reply World (Except ConditionError Bool)) :
      (run.consulted (.conditionAsked condition) reply (.conditionAnswered answer)).Sound
        hooks mayRun start := by
    rcases sound with going | ⟨before, first, after, late⟩
    · exact going.consulted_sound rfl reply
    · exact .inr ⟨_, _, _, ((late.noted (.asked condition)).replied reply).noted (.answered answer)⟩
  apply ask_leads
  · intro run value sound _
    exact after sound _ _
  · intro run error sound _
    exact (after sound _ _).stopped _

theorem Sound.composes : Composes hooks fun {_} part =>
    Keeps (Sound hooks mayRun start) (Stopped hooks mayRun start) (part ()) :=
  Keeps.composes (fun _ sound _ => .inl sound)
    pause_keeps (fun _ condition _ => evaluate_keeps _ condition)
    fun run tally sound => sound.loose run.world tally run.steps run.blocks

/-- A look at the flag lets only a run pass that goes on. -/
theorem checkCancel_sound :
    Leads (Sound hooks mayRun start) checkCancel (fun _ run => run.Going start)
      (Halts hooks mayRun start) := by
  have checked : Leads (Sound hooks mayRun start) checkCancel
      (fun _ run => run.Sound hooks mayRun start ∧ run.cancelled = false) (Halts hooks mayRun start) :=
    checkCancel_going fun run sound _ => sound.stopped _
  exact checked.weaken (fun _ sound => sound) (fun _ _ passed => passed.1.going passed.2)
    fun _ _ halted => halted

/-! ## Steps -/

section Steps

variable {polling : Polling} {step : Step}

/-- A gate is only asked in a run that goes on. -/
theorem gateOpen_leads {gate : Condition} (given : step.gate = some gate) :
    Leads (Going start) (gateOpen hooks step gate)
      (fun isOpen run => if isOpen then run.Passed hooks mayRun start step
        else run.Sound hooks mayRun start)
      (Halts hooks mayRun start) := by
  have gated : step.gate.isSome := Option.isSome_of_eq_some given
  have opens {run : Run World} {α : Type} (going : run.Going start) {asked answered : Act}
      (opened : step.Opened asked answered) (reply : Reply World α) :
      (run.consulted asked reply answered).Passed hooks mayRun start step := by
    rcases going.consulted opened.answers reply with still | struck
    · exact .inl still
    · exact .inr ⟨_, _, struck, .opened List.getLast?_concat opened⟩
  cases decides : hooks.gate with
  | some decide =>
    rw [gateOpen_of_decider step gate decides]
    apply ask_leads
    · intro run isOpen going _
      cases isOpen with
      | true => exact opens going (.decided gated) _
      | false => exact going.consulted_sound rfl _
    · intro run error going _
      exact (going.consulted_sound rfl _).stopped _
  | none =>
    cases evaluates : hooks.condition with
    | some evaluator =>
      rw [gateOpen_of_evaluator step gate decides evaluates]
      apply ask_leads
      · intro run isOpen going _
        cases isOpen with
        | true => exact opens going (.measured given) _
        | false => exact going.consulted_sound rfl _
      · intro run error going _
        exact (going.consulted_sound rfl _).stopped _
    | none =>
      rw [gateOpen_of_nobody step gate decides evaluates]
      intro run going
      exact .inl going

/-- A gate is left when it has opened, by induction on how often it is still polled: before every
poll the flag is looked at, so that it does not matter whether the rest before it was overslept. -/
theorem awaitGate_leads {gate : Condition} (given : step.gate = some gate) (deadline : Option Nat)
    (patience : Nat) :
    Leads (Sound hooks mayRun start) (awaitGate hooks polling step gate deadline patience)
      (fun _ run => run.Passed hooks mayRun start step) (Halts hooks mayRun start) := by
  induction patience with
  | zero => exact checkCancel_sound.bind fun _ run going => Halting.of_cut rfl going
  | succ patience ih =>
    apply checkCancel_sound.bind
    intro _
    apply (gateOpen_leads given).bind
    intro isOpen
    cases isOpen with
    | true => exact fun run passed => passed
    | false =>
      apply Leads.bind (untilNextPoll_composes Sound.composes polling deadline)
      intro ms
      exact Leads.bind (pause_keeps ms) fun _ => ih

theorem passGate_leads :
    Leads (Ready hooks mayRun start step) (passGate hooks polling step)
      (fun _ run => run.Passed hooks mayRun start step) (Halts hooks mayRun start) := by
  unfold passGate
  cases given : step.gate with
  | none =>
    rintro run (going | ⟨before, first, late, released⟩)
    · exact .inl going
    · exact .inr ⟨before, first, late, released given⟩
  | some gate =>
    have looked : Leads (Ready hooks mayRun start step) (get : Runner World (Run World))
        (fun _ run => run.Sound hooks mayRun start) (Halts hooks mayRun start) :=
      fun run ready => ready.sound
    exact looked.bind fun run => awaitGate_leads given _ _

/-- The command of a step is called in a run that goes on, or next after the entry that released
the step. -/
theorem callCommand_leads (runs : mayRun step) :
    Leads (fun run => run.Passed hooks mayRun start step ∧ run.Current step) (callCommand hooks step)
      (fun _ => Sound hooks mayRun start) (Halts hooks mayRun start) := by
  have after {run : Run World} (ready : run.Passed hooks mayRun start step ∧ run.Current step)
      (answer : Except RunError Unit) (reply : Reply World (Except RunError Unit)) :
      (run.consulted (.commandCalled step.commandId) reply (.commandAnswered answer)).Sound
        hooks mayRun start := by
    obtain ⟨going | ⟨before, first, late, released⟩, current⟩ := ready
    · exact going.consulted_sound rfl reply
    · have called := late.called runs released current
      exact .inr ⟨_, _, _, (called.replied reply).noted (.ended answer)⟩
  apply ask_leads
  · intro run value ready _
    exact after ready _ _
  · intro run error ready _
    exact (after ready _ _).stopped _

theorem performStep_leads (runs : mayRun step) (delayMs : Nat) :
    Leads (fun run => run.Ready hooks mayRun start step ∧ run.Current step)
      (performStep hooks polling step delayMs) (fun _ => Sound hooks mayRun start)
      (Halts hooks mayRun start) := by
  apply (passGate_leads.and ((passGate_waits polling step).current_leads step)).attempt.bind
  intro passed
  cases passed with
  | error error => exact fun run failed => failed.2.of_settled failed.1
  | ok _ =>
    apply (callCommand_leads runs).attempt.bind
    intro called
    cases called with
    | error error => exact fun run failed => failed.2.of_settled failed.1
    | ok _ => exact fun run sound => sound

/-- A delay that is overslept releases the step that it is the delay of, if there is no gate. -/
theorem pause_ready (ms : Nat) :
    Leads (fun run => run.Going start ∧ run.Begun step) (pause hooks ms)
      (fun _ run => run.Ready hooks mayRun start step) (Halts hooks mayRun start) := by
  apply pause_leads (fun _ begun => .inl begun.1) (fun _ begun => .inl begun.1)
  intro run ms ⟨going, begun⟩ late
  obtain ⟨entry, last, begins⟩ := begun
  exact (going.rested late).imp id fun struck =>
    ⟨_, _, struck, fun ungated => .delayed ungated last begins rfl⟩

theorem runStep_leads (runs : mayRun step) :
    Leads (Sound hooks mayRun start) (runStep hooks polling step)
      (fun result run => (run.reported result).Sound hooks mayRun start)
      (Halts hooks mayRun start) := by
  have current (run : Run World) (begun : run.Going start ∧ run.Begun step) :
      run.Ready hooks mayRun start step ∧ run.Current step := ⟨.inl begun.1, begun.2.current⟩
  apply runStep_leads_past (fun _ sound _ => .inl sound) _ _ current
  · intro ms
    exact ((pause_ready ms).and ((pause_waits ms).current_leads step)).weaken
      (fun run begun => ⟨begun, begun.2.current⟩) (fun _ _ ready => ready) fun _ _ halted => halted
  · intro delayMs
    exact (performStep_leads runs delayMs).weaken (fun _ ready => ready)
      (fun _ run sound => sound.loose _ _ _ _) fun _ _ halted => halted
  · intro run sound going
    exact ⟨(sound.going going).noted _, run.begun_noted step⟩
  · intro run ready
    obtain ⟨world, same⟩ := drawDelay_cases hooks step run
    rw [same]
    exact ⟨⟨ready.1.going, ready.1.calm, ready.1.clock⟩, ready.2⟩

end Steps

/-! ## Blocks, and whole runs -/

theorem runBlock_sound {polling : Polling} (record : Datum)
    (runs : ∀ step, Block.Holds record step → mayRun step) :
    Keeps (Sound hooks mayRun start) (Stopped hooks mayRun start) (runBlock hooks polling record) := by
  have begins {act : Act} (run : Run World) (sound : run.Sound hooks mayRun start)
      (going : run.cancelled = false) : (run.noted act).Sound hooks mayRun start :=
    .inl ((sound.going going).noted act)
  apply runBlock_keeps (fun run tally blocks sound => sound.loose run.world tally run.steps blocks)
    (fun _ sound _ => .inl sound) pause_keeps (fun _ condition _ => evaluate_keeps _ condition)
    begins begins record fun _ _ _ => trivial
  intro step held
  exact runStep_leads (runs step held)

theorem runParts_sound {polling : Polling} (sequence : Sequence) :
    Keeps (Sound hooks sequence.Holds start) (Stopped hooks sequence.Holds start)
      (runParts hooks polling sequence) := by
  have steps : Keeps (Sound hooks sequence.Holds start) (Stopped hooks sequence.Holds start)
      (runSteps hooks polling sequence.orderedSteps) := by
    apply runSteps_keeps
    intro step member
    exact runStep_leads (Sequence.holds_of_mem_orderedSteps member)
  apply Leads.bind steps
  intro failure
  cases failure with
  | some error => exact pure_keeps _
  | none =>
    apply runBlocks_keeps (fun _ sound _ => .inl sound)
    · intro run sound going
      exact .inl ((sound.going going).noted .block)
    · intro record member
      exact runBlock_sound record fun step held => Sequence.holds_of_block member held

end Runner

namespace Sequence

variable {World : Type}

/-- How a run went that was cancelled between the entries `before` and `after` of its
journal: after that nothing begins, only overslept rests are slept out, and the only command that
can still be called, next after the first of the later entries, is that of the step which this
entry released. If the run rested instead and did not oversleep, it was over at once. -/
structure Interrupted (sequence : Sequence) (hooks : Hooks World) (start : Nat)
    (outcome : Except Halt RunResult) (run : Run World) (before after : List Entry) : Prop where
  journal : run.journal.toList = before ++ after
  calm : ∀ entry ∈ before, entry.cancelled = false
  marked : ∀ entry ∈ after, entry.cancelled = true
  quiet : ∀ entry ∈ after, entry.act.isBeginning = false ∧
    ∀ ms, entry.act = .slept ms → ∃ asleep, (hooks.rest ms asleep).overslept = true
  call : ∀ {i : Nat} {entry : Entry} {commandId : String}, after[i]? = some entry →
    entry.act = .commandCalled commandId →
      i = 1 ∧ ∃ step first, sequence.Holds step ∧ step.commandId = commandId ∧
        after.head? = some first ∧ step.Released before first ∧
        (Entry.begun before).getLast? = some (.step step.commandId)
  struck : (∃ first, after.head? = some first ∧ first.Strikes hooks before) ∨
    (after = [] ∧ outcome = .error (.failed .cancelled) ∧ ∃ (asleep : World) (ms early : Nat),
      hooks.rest ms asleep = { world := run.world, cancelledAfter := some early } ∧
        run.now = Entry.lastTime start before + min early ms)

/-- The run heeded that it was cancelled: no rest is slept out after that, and the only command that
can still be called is that of the step whose gate was opened by the answer during which the run was
cancelled. If the run rested instead, it was over at once. -/
structure Heeded (sequence : Sequence) (hooks : Hooks World) (start : Nat)
    (outcome : Except Halt RunResult) (run : Run World) (before after : List Entry) : Prop where
  slept : ∀ entry ∈ after, ∀ ms, entry.act ≠ .slept ms
  call : ∀ {i : Nat} {entry : Entry} {commandId : String}, after[i]? = some entry →
    entry.act = .commandCalled commandId →
      i = 1 ∧ ∃ step asked answered, sequence.Holds step ∧ step.commandId = commandId ∧
        before.getLast? = some asked ∧ after.head? = some answered ∧
        step.Opened asked.act answered.act ∧
        (Entry.begun before).getLast? = some (.step step.commandId)
  silent : (∀ step, sequence.Holds step → step.gate = none) →
    ∀ entry ∈ after, ∀ commandId, entry.act ≠ .commandCalled commandId
  struck : (∃ asked answered, before.getLast? = some asked ∧ after.head? = some answered ∧
      asked.act.isAnsweredBy answered.act = true) ∨
    (after = [] ∧ outcome = .error (.failed .cancelled) ∧ ∃ (asleep : World) (ms early : Nat),
      hooks.rest ms asleep = { world := run.world, cancelledAfter := some early } ∧
        run.now = Entry.lastTime start before + min early ms)

theorem Interrupted.of_late {sequence : Sequence} {hooks : Hooks World} {start : Nat}
    {run : Run World} {before after : List Entry} {first : Entry}
    (late : run.Late hooks sequence.Holds before first after) (outcome : Except Halt RunResult) :
    sequence.Interrupted hooks start outcome run before (first :: after) where
  journal := late.journal
  calm := late.aftermath.calm
  marked := late.aftermath.marked
  quiet := late.aftermath.quiet
  call := by
    intro i entry commandId found called
    obtain ⟨next, step, runs, same, released, current⟩ := late.aftermath.call found called
    exact ⟨next, step, first, runs, same, rfl, released, current⟩
  struck := .inl ⟨first, rfl, late.aftermath.strikes⟩

theorem Interrupted.of_sound {sequence : Sequence} {hooks : Hooks World} {start : Nat}
    {run : Run World} (sound : run.Sound hooks sequence.Holds start) (cancelled : run.cancelled = true)
    (outcome : Except Halt RunResult) :
    ∃ before after, sequence.Interrupted hooks start outcome run before after := by
  rcases sound with going | ⟨before, first, after, late⟩
  · rw [going.going] at cancelled
    cases cancelled
  · exact ⟨_, _, .of_late late outcome⟩

theorem Interrupted.of_cutShort {sequence : Sequence} {hooks : Hooks World} {start : Nat}
    {run : Run World} (cut : run.CutShort hooks start) :
    sequence.Interrupted hooks start (.error (.failed .cancelled)) run run.journal.toList [] where
  journal := (List.append_nil _).symm
  calm := cut.calm
  marked := List.forall_mem_nil _
  quiet := List.forall_mem_nil _
  call := by
    intro i entry commandId found
    cases found
  struck := .inr ⟨rfl, rfl, cut.rest⟩

namespace Interrupted

variable {sequence : Sequence} {hooks : Hooks World} {start : Nat} {outcome : Except Halt RunResult}
  {run : Run World} {before after : List Entry}
  (interrupted : sequence.Interrupted hooks start outcome run before after)

include interrupted

/-- All that was begun in the run was begun before it was cancelled. -/
theorem begun :
    stepsBegun run.acts = stepsBegun (before.map (·.act)) ∧
      blocksBegun run.acts = blocksBegun (before.map (·.act)) := by
  have quiet : ∀ act ∈ after.map (·.act), act.isBeginning = false := by
    intro act member
    obtain ⟨entry, listed, rfl⟩ := List.mem_map.1 member
    exact (interrupted.quiet entry listed).1
  unfold Run.acts
  rw [interrupted.journal, List.map_append]
  exact ⟨stepsBegun_append quiet, blocksBegun_append quiet⟩

/-- Where no rest is overslept, the run heeds that it was cancelled. -/
theorem heeded (prompt : hooks.Prompt) : sequence.Heeded hooks start outcome run before after := by
  have awake {ms : Nat} (late : ∃ asleep, (hooks.rest ms asleep).overslept = true) : False := by
    obtain ⟨asleep, late⟩ := late
    rw [prompt ms asleep] at late
    cases late
  have slept : ∀ entry ∈ after, ∀ ms, entry.act ≠ .slept ms := fun entry member ms slept =>
    awake ((interrupted.quiet entry member).2 ms slept)
  have call {i : Nat} {entry : Entry} {commandId : String} (found : after[i]? = some entry)
      (called : entry.act = .commandCalled commandId) : i = 1 ∧ ∃ step asked answered,
        sequence.Holds step ∧ step.commandId = commandId ∧ before.getLast? = some asked ∧
        after.head? = some answered ∧ step.Opened asked.act answered.act ∧
        (Entry.begun before).getLast? = some (.step step.commandId) := by
    obtain ⟨next, step, first, runs, same, head, released, current⟩ := interrupted.call found called
    cases released with
    | opened last opened => exact ⟨next, step, _, first, runs, same, last, head, opened, current⟩
    | delayed _ _ _ rested => exact absurd rested (slept first (List.mem_of_head? head) _)
  refine ⟨slept, call, fun ungated entry member commandId called => ?_, ?_⟩
  · obtain ⟨i, found⟩ := List.getElem?_of_mem member
    obtain ⟨_, step, asked, answered, runs, _, _, _, opened, _⟩ := call found called
    have gated := opened.isSome
    rw [ungated step runs] at gated
    cases gated
  · refine interrupted.struck.imp_left fun ⟨first, head, strikes⟩ => ?_
    cases strikes with
    | answer last answers => exact ⟨_, first, last, head, answers⟩
    | rest rested late => exact absurd rested (slept first (List.mem_of_head? head) _)

end Interrupted

/-- A run that is cancelled on its way does little after that. If no rest is overslept, it heeds the
cancellation at once. If a step or a block at the top was still to begin, and no step at the top had
failed, the cancellation is the outcome. -/
theorem execute_interrupted (sequence : Sequence) (hooks : Hooks World) (polling : Polling)
    (epoch : Instant) (world : World) (now : Nat)
    (cancelled : (sequence.execute hooks polling epoch { world, now }).2.cancelled = true) :
    let outcome := (sequence.execute hooks polling epoch { world, now }).1
    let run := (sequence.execute hooks polling epoch { world, now }).2
    let flat := (Runner.runSteps hooks polling sequence.orderedSteps { world, now }).2
    ∃ before after, sequence.Interrupted hooks now outcome run before after ∧
      (hooks.Prompt → sequence.Heeded hooks now outcome run before after) ∧
      ((stepsBegun (before.map (·.act)) < sequence.steps.length ∨
          blocksBegun (before.map (·.act)) < sequence.blocks.length) →
        (∀ result ∈ flat.steps, result.isFailed = false) →
        outcome = .error (.failed .cancelled)) := by
  have fresh : ({ world, now } : Run World).Sound hooks sequence.Holds now :=
    .inl ⟨rfl, List.forall_mem_nil _, rfl⟩
  have keeps : Runner.Keeps (Run.Sound hooks sequence.Holds now)
      (Run.Stopped hooks sequence.Holds now) (Runner.runParts hooks polling sequence) :=
    Runner.runParts_sound sequence
  rcases parts : Runner.runParts hooks polling sequence { world, now } with ⟨halt | failure, final⟩
  · rw [execute_of_parts epoch parts] at cancelled ⊢
    have settled := Runner.runParts_settled hooks polling sequence _ _ _ parts
    have stopped : final.Stopped hooks sequence.Holds now halt :=
      Runner.Halting.cut settled (keeps.halted fresh parts)
    rcases Halt.settled_eq_none settled with rfl | rfl
    · have interrupted : ∃ before after, sequence.Interrupted hooks now
          (.error (.failed .cancelled)) final before after := by
        rcases stopped with sound | cut
        · exact Interrupted.of_sound sound cancelled _
        · exact ⟨_, _, .of_cutShort cut⟩
      obtain ⟨before, after, known⟩ := interrupted
      exact ⟨before, after, known, known.heeded, fun _ _ => rfl⟩
    · have going : final.cancelled = false := stopped.going
      rw [going] at cancelled
      cases cancelled
  · rw [execute_of_parts epoch parts] at cancelled ⊢
    have sound : final.Sound hooks sequence.Holds now := keeps.ended fresh parts
    obtain ⟨before, after, known⟩ := Interrupted.of_sound sound cancelled
      (.ok (sequence.resultOf epoch now final failure))
    refine ⟨before, after, known, known.heeded, fun rest fine => ?_⟩
    -- Here the run has an end, so that all was begun, and before it was cancelled.
    obtain ⟨steps, blocks⟩ := Runner.runParts_begun parts fine
    rw [← known.begun.1, ← known.begun.2, steps, blocks] at rest
    omega

/-- A step behind a gate, and a block after it. -/
def guarded : Sequence :=
  { id := "errand"
    steps := [{ commandId := "enter", gate := some { source := .image, targetId := "door" } }]
    blocks := [.object [("type", .str "repeatCount"), ("maxIterations", .ofNat 2),
      ("steps", .arr [.object [("commandId", .str "leave")]])]] }

/-- Collaborators that open a gate after some time, in which the run is cancelled. -/
def calledOff (ms : Nat) : Hooks Unit where
  command _ _ := { answer := .ok (), world := () }
  gate := some fun _ _ => { answer := .ok true, world := (), elapsed := ms, cancels := true }
  rest _ _ := { world := () }
  random world := (0, world)

/-- The command behind the gate is still called, and then the run is over. -/
theorem execute_interrupted_guarded :
    let outcome := (guarded.execute (calledOff 5) { patience := 1 } ⟨0, 0⟩ { world := () }).1
    let run := (guarded.execute (calledOff 5) { patience := 1 } ⟨0, 0⟩ { world := () }).2
    run.cancelled = true ∧ run.acts.filterMap Act.called? = ["enter"] ∧
      ∃ before after, guarded.Interrupted (calledOff 5) 0 outcome run before after ∧
        guarded.Heeded (calledOff 5) 0 outcome run before after := by
  have cancelled : (guarded.execute (calledOff 5) { patience := 1 } ⟨0, 0⟩
      { world := () }).2.cancelled = true := by decide +kernel
  obtain ⟨before, after, known, heeds, _⟩ :=
    execute_interrupted guarded (calledOff 5) { patience := 1 } ⟨0, 0⟩ () 0 cancelled
  exact ⟨cancelled, by decide +kernel, before, after, known, heeds fun _ _ => rfl⟩

/-- A step with a delay and without a gate. -/
def postponed : Sequence := { id := "errand", steps := [{ commandId := "enter", delayMs := some 100 }] }

/-- Collaborators that answer at once. The run is cancelled just before the end of each rest, which
is overslept. -/
def oversleeping : Hooks Unit where
  command _ _ := { answer := .ok (), world := () }
  rest ms _ := { world := (), cancelledAfter := some (ms - 1), overslept := true }
  random world := (0, world)

/-- The delay is slept out although the run is cancelled, then the command of the step is called,
and the run succeeds. -/
theorem postponed_not_heeded :
    let outcome := (postponed.execute oversleeping { patience := 1 } ⟨0, 0⟩ { world := () }).1
    let run := (postponed.execute oversleeping { patience := 1 } ⟨0, 0⟩ { world := () }).2
    outcome.toOption.map (·.status) = some .succeeded ∧
      run.journal.toList = [⟨0, false, .step "enter"⟩, ⟨100, true, .slept 100⟩,
        ⟨100, true, .commandCalled "enter"⟩, ⟨100, true, .commandAnswered (.ok ())⟩] ∧
      ∀ before after, postponed.Interrupted oversleeping 0 outcome run before after →
        ¬ postponed.Heeded oversleeping 0 outcome run before after := by
  have journal : (postponed.execute oversleeping { patience := 1 } ⟨0, 0⟩
      { world := () }).2.journal.toList = [⟨0, false, .step "enter"⟩, ⟨100, true, .slept 100⟩,
        ⟨100, true, .commandCalled "enter"⟩, ⟨100, true, .commandAnswered (.ok ())⟩] := by
    with_unfolding_all rfl
  refine ⟨by decide +kernel, journal, fun before after interrupted heeded => ?_⟩
  have listed : (⟨100, true, .slept 100⟩ : Entry) ∈ before ++ after := by
    rw [← interrupted.journal, journal]
    exact List.mem_cons_of_mem _ List.mem_cons_self
  rcases List.mem_append.1 listed with early | late
  · cases interrupted.calm _ early
  · exact heeded.slept _ late 100 rfl

end Sequence

end Autopilot
