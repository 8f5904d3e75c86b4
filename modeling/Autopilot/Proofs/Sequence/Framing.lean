import Autopilot.Proofs.Sequence.Outcome

/-!
Runs do not look back. What was reported before a part begins, and what the journal told
until then, stays as it is, and the part does what it would do without it: it only adds.
So a run through some blocks and then through others is the run through the first,
continued by a run through the others that begins with nothing reported.
-/

namespace Autopilot

namespace Run

variable {World α : Type}

/-- The run with all that an earlier one has reported and told before its own. -/
def onto (base run : Run World) : Run World :=
  { run with
    steps := base.steps ++ run.steps
    blocks := base.blocks ++ run.blocks
    journal := base.journal ++ run.journal }

/-- The run from where it is, with nothing reported and nothing told. -/
def renewed (run : Run World) : Run World :=
  { world := run.world, now := run.now, cancelled := run.cancelled }

/-- The same run, up to what is counted in it, is the one that continues `base`. -/
def Continues (base run whole : Run World) : Prop :=
  ∃ tally, whole = { base.onto run with tally }

variable (base run : Run World)

@[simp] theorem onto_noted (act : Act) : (base.onto run).noted act = base.onto (run.noted act) := by
  simp only [onto, noted, Array.push_append]

@[simp] theorem onto_replied (reply : Reply World α) :
    (base.onto run).replied reply = base.onto (run.replied reply) := rfl

theorem onto_opened : (base.onto run).opened = base.onto run.opened := rfl

theorem onto_closed (after : Run World) (result : BlockResult) :
    (base.onto run).closed (base.onto after) result = base.onto (run.closed after result) := by
  simp only [onto, closed, Array.push_append]

/-- Every run continues itself from where it is. -/
theorem continues_renewed : base.Continues base.renewed base := by
  refine ⟨base.tally, ?_⟩
  simp only [onto, renewed, Array.append_empty]

end Run

namespace Runner

variable {World α β : Type} {hooks : Hooks World} {polling : Polling}

/-- A part that only adds to what was there before it. -/
def Framed (part : Runner World α) : Prop :=
  ∀ base run : Run World, part (base.onto run) = ((part run).1, base.onto (part run).2)

namespace Framed

theorem bind {part : Runner World α} {next : α → Runner World β} (first : Framed part)
    (later : ∀ value, Framed (next value)) : Framed (part >>= next) := by
  intro base run
  have start := first base run
  rcases ended : part run with ⟨halt | value, middle⟩
  · rw [ended] at start
    rw [bind_of_halt start, bind_of_halt ended]
  · rw [ended] at start
    rw [bind_of_ok start, bind_of_ok ended]
    exact later value base middle

theorem attempt {part : Runner World α} (inner : Framed part) : Framed (Runner.attempt part) := by
  intro base run
  have same := inner base run
  unfold Runner.attempt
  rw [same]
  rcases part run with ⟨halt | value, after⟩
  · dsimp only
    cases halt.settled? <;> rfl
  · rfl

theorem ask {ε : Type} (asked : Act) (answered : Except ε α → Act) (asError : ε → RunError)
    (question : World → Reply World (Except ε α)) :
    Framed (Runner.ask asked answered asError question) := by
  intro base run
  have world : (base.onto run).world = run.world := rfl
  rw [ask_apply, ask_apply, world]
  simp only [Run.onto_noted, Run.onto_replied]

theorem note (act : Act) : Framed (Runner.note act : Runner World Unit) := by
  intro base run
  rw [note_apply, note_apply, Run.onto_noted]

theorem checkCancel : Framed (Runner.checkCancel : Runner World Unit) := by
  intro base run
  cases cancelled : run.cancelled with
  | true =>
    have stopped : (base.onto run).cancelled = true := cancelled
    rw [checkCancel_of_cancelled cancelled, checkCancel_of_cancelled stopped]
  | false =>
    have going : (base.onto run).cancelled = false := cancelled
    rw [checkCancel_of_going cancelled, checkCancel_of_going going]

theorem pause (ms : Nat) : Framed (Runner.pause hooks ms) := by
  intro base run
  have world : (base.onto run).world = run.world := rfl
  have flag : (base.onto run).cancelled = run.cancelled := rfl
  have slept (rest : Rest World) : ((base.onto run).rested ms rest).noted (.slept ms) =
      base.onto ((run.rested ms rest).noted (.slept ms)) := Run.onto_noted base (run.rested ms rest) _
  rw [pause_apply, pause_apply, world, flag, slept]
  by_cases empty : ms = 0
  · rw [if_pos empty, if_pos empty]
    exact checkCancel base run
  · rw [if_neg empty, if_neg empty]
    cases (hooks.rest ms run.world).overslept with
    | true => rfl
    | false =>
      cases run.cancelled with
      | true => rfl
      | false => cases (hooks.rest ms run.world).cancelledAfter <;> rfl

theorem reporting {content : Runner World BlockStatus} (inner : Framed content) (record : Datum) :
    Framed (Runner.reporting record content) := by
  intro base before
  rw [reporting_apply, reporting_apply, Run.onto_opened, inner.attempt]
  rcases Runner.attempt content before.opened with ⟨halt | outcome, after⟩
  · rfl
  · dsimp only
    rw [← Run.onto_closed]
    rfl

theorem settleStep (result : StepResult) : Framed (Runner.settleStep result : Runner World Unit) := by
  intro base run
  rw [settleStep_apply, settleStep_apply]
  simp only [Run.onto, Array.push_append]

theorem settleBlock (record : Datum) (status : BlockStatus) :
    Framed (Runner.settleBlock record status : Runner World Unit) := by
  intro base run
  rw [settleBlock_apply, settleBlock_apply]

theorem composes : Composes hooks fun {_} part => Framed (part ()) where
  pure _ _ _ := rfl
  bind := bind
  clock _ _ := rfl
  fail _ _ _ _ := rfl
  checkCancel := checkCancel
  count _ _ _ := rfl
  pause := pause
  evaluate _ _ _ := ask _ _ _ _

end Framed

/-! ## Steps and blocks -/

theorem runStep_framed (step : Step) : Framed (runStep hooks polling step) := by
  have drawn : Framed (drawDelay hooks step) := by
    intro base run
    unfold drawDelay
    cases step.delayRange <;> rfl
  exact runStep_composes Framed.composes (fun _ _ => rfl) (fun _ _ => .ask _ _ _ _) Framed.attempt
    (fun _ _ _ => trivial) (.ask _ _ _ _) (.note _) drawn polling

theorem blockContent_framed (record : Datum) : Framed (blockContent hooks polling record) := by
  have begins (act : Act) : Framed (do checkCancel; note act : Runner World Unit) :=
    Framed.checkCancel.bind fun _ => .note act
  apply blockContent_composes Framed.composes (begins .head) (begins .item) (fun _ => polling)
    record fun _ _ _ => trivial
  · intro step _
    exact (runStep_framed step).bind fun result => .settleStep result
  · intro inner content framed
    exact (framed.reporting inner).bind fun status => .settleBlock inner status

/-- A block does not see what is counted around it. -/
theorem reporting_tally (record : Datum) (content : Runner World BlockStatus) (run : Run World)
    (tally : Tally) :
    (reporting record content { run with tally }).1 = (reporting record content run).1 ∧
      ∃ later, (reporting record content { run with tally }).2 =
        { (reporting record content run).2 with tally := later } := by
  have opened : ({ run with tally } : Run World).opened = run.opened := rfl
  rw [reporting_apply, reporting_apply, opened]
  rcases Runner.attempt content run.opened with ⟨halt | outcome, after⟩
  · exact ⟨rfl, after.tally, rfl⟩
  · exact ⟨rfl, tally, rfl⟩

/-! ## Blocks at the top -/

/-- Blocks that follow others run where those end; only the first error counts. -/
theorem runBlocks_append (first second : List Datum) :
    runBlocks hooks polling (first ++ second) = do
      let failure ← runBlocks hooks polling first
      let later ← runBlocks hooks polling second
      return failure.or later := by
  induction first with
  | nil => simp only [runBlocks, List.nil_append, pure_bind, Option.none_or, bind_pure]
  | cons record rest ih =>
    have merge (failed : Prop) [Decidable failed] (error : Option String)
        (failure later : Option (Option String)) :
        (if failed then some error else failure).or later =
          if failed then some error else failure.or later := by
      by_cases holds : failed <;> simp [holds]
    simp only [List.cons_append, runBlocks, ih, bind_assoc, pure_bind, merge]

/-- A part that does the same after an earlier run, whatever was counted in that. -/
def Continuing (part : Runner World α) : Prop :=
  ∀ base run whole : Run World, base.Continues run whole →
    (part whole).1 = (part run).1 ∧ base.Continues (part run).2 (part whole).2

theorem Continuing.bind {part : Runner World α} {next : α → Runner World β}
    (first : Continuing part) (later : ∀ value, Continuing (next value)) :
    Continuing (part >>= next) := by
  intro base run whole continues
  obtain ⟨same, left⟩ := first base run whole continues
  rcases alone : part run with ⟨ended, middle⟩
  rcases began : part whole with ⟨outcome, after⟩
  rw [alone, began] at same left
  obtain rfl : outcome = ended := same
  cases outcome with
  | error halt =>
    rw [bind_of_halt alone, bind_of_halt began]
    exact ⟨rfl, left⟩
  | ok value =>
    rw [bind_of_ok alone, bind_of_ok began]
    exact later value base middle after left

/-- What a part leaves behind is what it adds to the run in which it begins. -/
theorem Continuing.resumed {part : Runner World α} (continuing : Continuing part) {run after : Run World}
    {outcome : Except Halt α} (ended : part run = (outcome, after)) :
    ∃ last tally, part run.renewed = (outcome, last) ∧ after = { run.onto last with tally } := by
  obtain ⟨same, tally, left⟩ := continuing run run.renewed run run.continues_renewed
  rw [ended] at same left
  have alone : part run.renewed = (outcome, (part run.renewed).2) := Prod.ext same.symm rfl
  exact ⟨_, tally, alone, left⟩

theorem checkCancel_continuing : Continuing (checkCancel : Runner World Unit) := by
  rintro base run _ ⟨tally, rfl⟩
  cases cancelled : run.cancelled with
  | true =>
    have stopped : ({ base.onto run with tally } : Run World).cancelled = true := cancelled
    rw [checkCancel_of_cancelled cancelled, checkCancel_of_cancelled stopped]
    exact ⟨rfl, tally, rfl⟩
  | false =>
    have going : ({ base.onto run with tally } : Run World).cancelled = false := cancelled
    rw [checkCancel_of_going cancelled, checkCancel_of_going going]
    exact ⟨rfl, tally, rfl⟩

theorem note_continuing (act : Act) : Continuing (note act : Runner World Unit) := by
  rintro base run _ ⟨tally, rfl⟩
  refine ⟨rfl, tally, ?_⟩
  rw [note_apply, note_apply, ← Run.onto_noted]
  rfl

theorem runBlock_continuing (record : Datum) : Continuing (runBlock hooks polling record) := by
  rintro base run _ ⟨tally, rfl⟩
  rw [runBlock_eq]
  have framed : Framed (reporting record (blockContent hooks polling record)) :=
    (blockContent_framed record).reporting record
  obtain ⟨same, later, left⟩ := reporting_tally record (blockContent hooks polling record)
    (base.onto run) tally
  rw [framed] at same left
  exact ⟨same, later, left⟩

/-- The error that a block at the top tells is that of its own report, which is the last. -/
theorem runBlock_tells (record : Datum) :
    Continuing do
      let status ← runBlock hooks polling record
      let error := (← get).blocks.back?.bind (·.error)
      return if status = .failed then some error else none := by
  intro base run whole continues
  have block : Continuing (runBlock hooks polling record) := runBlock_continuing record
  obtain ⟨same, left⟩ := block base run whole continues
  rcases alone : runBlock hooks polling record run with ⟨ended, middle⟩
  rcases began : runBlock hooks polling record whole with ⟨outcome, after⟩
  rw [alone, began] at same left
  obtain rfl : outcome = ended := same
  cases outcome with
  | error halt =>
    rw [bind_of_halt alone, bind_of_halt began]
    exact ⟨rfl, left⟩
  | ok status =>
    rw [bind_of_ok alone, bind_of_ok began]
    refine ⟨?_, left⟩
    obtain ⟨own, _, _, _, _, last, _⟩ := runBlock_ended alone
    obtain ⟨tally, rfl⟩ := left
    have back : (base.onto middle).blocks.back? = some own := by
      simp [Run.onto, last]
    show Except.ok _ = Except.ok _
    simp [last, back]

/-- Blocks at the top go on as they would if nothing had been reported before them. -/
theorem runBlocks_continuing (records : List Datum) :
    Continuing (runBlocks hooks polling records) := by
  induction records with
  | nil => exact fun base run whole continues => ⟨rfl, continues⟩
  | cons record rest ih =>
    have parts : runBlocks hooks polling (record :: rest) = _ := runBlocks_append [record] rest
    rw [parts]
    have single : Continuing (runBlocks hooks polling [record]) := by
      simp only [runBlocks, pure_bind]
      apply checkCancel_continuing.bind
      intro _
      apply (note_continuing .block).bind
      intro _
      exact runBlock_tells record
    apply single.bind
    intro failure
    apply ih.bind
    exact fun later base run whole continues => ⟨rfl, continues⟩

end Runner

end Autopilot
