import Autopilot.Proofs.Sequence.Cancellation
import Autopilot.Proofs.Sequence.Framing
import Autopilot.Proofs.Sequence.Invariant

/-!
The results of a run, block by block. Each block at the top leaves a segment of the
results, which is what it would leave if it were run alone, in the world and at the time
at which the blocks before it ended. A segment lists a tree of nested blocks, and each
block comes after the blocks that are nested in it.
-/

namespace Autopilot

/-- What a block and all blocks nested in it report: those of its items that are blocks
come first, in the order in which they ran, and then its own result. -/
inductive Block.Account : Datum → List BlockResult → Prop where
  | mk {record : Datum} (nested : List (Datum × List BlockResult)) (own : BlockResult)
      (type : own.blockType = Block.typeName record)
      (within : ∀ part ∈ nested, ∃ block, Block.read record = .ok block ∧
        part.1 ∈ block.items ∧ Item.read part.1 = .ok .block)
      (accounts : ∀ part ∈ nested, Account part.1 part.2) :
      Account record (nested.flatMap (·.2) ++ [own])

/-- Every block reports itself. -/
theorem Block.Account.nonempty {record : Datum} {results : List BlockResult}
    (account : Account record results) : results ≠ [] := by
  cases account
  simp

namespace Runner

variable {World α : Type} {hooks : Hooks World} {polling : Polling}

/-- The results of nested blocks that were added in a body. -/
def Accounted (block : Block Datum) (base : List BlockResult) (blocks : Array BlockResult) : Prop :=
  ∃ nested : List (Datum × List BlockResult), blocks.toList = base ++ nested.flatMap (·.2) ∧
    ∀ part ∈ nested, part.1 ∈ block.items ∧ Item.read part.1 = .ok .block ∧
      Block.Account part.1 part.2

section Reports

variable {J : Array BlockResult → Prop}

variable (hooks) in
/-- Silent parts keep what is known of the results of blocks. -/
theorem silent_keeps {part : Runner World α} (quiet : Silent hooks part) :
    Keeps (fun run => J run.blocks) (fun _ _ => True) part := by
  intro run holds
  have same := (quiet.sameReports run).blocks
  have still : J (part run).2.blocks := by rwa [same]
  rcases ended : part run with ⟨halt | value, after⟩
  · rw [ended] at still
    exact .of_holds still
  · rw [ended] at still
    exact still

theorem silent_composes :
    Composes hooks fun {_} part => Keeps (fun run => J run.blocks) (fun _ _ => True) (part ()) where
  pure value := silent_keeps hooks (.pure value)
  bind := Leads.bind
  clock := silent_keeps hooks Silent.composes.clock
  fail error other := silent_keeps hooks (.fail error other)
  checkCancel := silent_keeps hooks .checkCancel
  count f := silent_keeps hooks (.count f)
  pause ms := silent_keeps hooks (.pause ms)
  evaluate given condition _ := silent_keeps hooks (.evaluate given condition)

end Reports

theorem Accounted.concat {block : Block Datum} {base : List BlockResult} {blocks : Array BlockResult}
    (accounted : Accounted block base blocks) {item : Datum} {results : List BlockResult}
    (member : item ∈ block.items) (isBlock : Item.read item = .ok .block)
    (account : Block.Account item results) {more : Array BlockResult}
    (added : more.toList = blocks.toList ++ results) : Accounted block base more := by
  obtain ⟨nested, listed, known⟩ := accounted
  refine ⟨nested ++ [(item, results)], by simp [added, listed], ?_⟩
  rw [List.forall_mem_append, List.forall_mem_singleton]
  exact ⟨known, member, isBlock, account⟩

/-- A part that adds the account of the block of a record. -/
def AddsAccount (record : Datum) (part : Runner World BlockStatus) : Prop :=
  ∀ base : List BlockResult, Leads (fun run => run.blocks.toList = base) part
    (fun _ run => ∃ results, run.blocks.toList = base ++ results ∧ Block.Account record results)
    (fun _ _ => True)

/-- A part of a body that only adds accounts of the blocks in it. -/
def AddsAccounts (block : Block Datum) (base : List BlockResult) (part : Unit → Runner World α) :
    Prop :=
  Keeps (fun run => Accounted block base run.blocks) (fun _ _ => True) (part ())

theorem AddsAccounts.composes {block : Block Datum} {base : List BlockResult} :
    Composes hooks fun {_} part => AddsAccounts block base part :=
  silent_composes

/-- What goes on in a body adds the accounts of the blocks in it. -/
theorem block_accounted {block : Block Datum} {base : List BlockResult}
    (inner : ∀ item ∈ block.items, Item.read item = .ok .block →
      AddsAccount item (runBlock hooks polling item)) :
    AddsAccounts block base fun _ =>
      block.run hooks fun item => runItem hooks polling (runBlock hooks polling item) item := by
  have begins {act : Act} (begun : act.isBeginning = true) :
      AddsAccounts block base fun _ => (do checkCancel; note act : Runner World Unit) :=
    silent_keeps hooks (.bind .checkCancel fun _ => .note act begun)
  apply block_composes AddsAccounts.composes (begins rfl) fun _ _ => trivial
  intro item member
  apply runItem_composes AddsAccounts.composes (begins rfl) (fun _ => polling)
    (fun _ => runBlock hooks polling item) item
  · intro step _
    apply Leads.bind (silent_keeps hooks (runStep_silent polling step))
    intro result run accounted
    rw [settleStep_apply]
    cases result.isFailed with
    | true => exact .of_holds accounted
    | false => exact accounted
  · intro isBlock
    have left : Leads (fun run => Accounted block base run.blocks) (runBlock hooks polling item)
        (fun _ run => Accounted block base run.blocks)
        (Halting (fun run => Accounted block base run.blocks) fun _ _ => True) := by
      intro run accounted
      rcases ended : runBlock hooks polling item run with ⟨halt | status, after⟩
      · exact .of_cut (runBlock_settled hooks polling item _ _ _ ended) trivial
      · obtain ⟨results, added, account⟩ := (inner item member isBlock _).ended rfl ended
        exact accounted.concat member isBlock account added
    apply left.bind
    intro status
    exact settleBlock_keeps item status

/-- A block that is left has added its account, by induction on the record. -/
theorem runBlock_account (record : Datum) : AddsAccount record (runBlock hooks polling record) := by
  intro base before here
  have opened : before.opened.blocks.toList = base := here
  rw [runBlock_eq]
  rcases reporting_cases record (blockContent hooks polling record) before with
    ⟨outcome, after, tried, same⟩ | ⟨halt, after, _, same⟩
  · rw [same]
    have inside : ∃ nested : List (Datum × List BlockResult),
        after.blocks.toList = base ++ nested.flatMap (·.2) ∧
        ∀ part ∈ nested, (∃ block, Block.read record = .ok block ∧ part.1 ∈ block.items ∧
          Item.read part.1 = .ok .block) ∧ Block.Account part.1 part.2 := by
      unfold blockContent at tried
      split at tried
      next fault _ =>
        cases tried
        exact ⟨[], by simpa using opened, List.forall_mem_nil _⟩
      next block read =>
        have inner : ∀ item ∈ block.items, Item.read item = .ok .block →
            AddsAccount item (runBlock hooks polling item) := by
          intro item member _
          have smaller := Block.sizeOf_lt_of_mem_items read member
          exact runBlock_account item
        have fresh : Accounted block base before.opened.blocks :=
          ⟨[], by simpa using opened, List.forall_mem_nil _⟩
        have kept := (Leads.attempt (block_accounted inner)).ended fresh tried
        have accounted : Accounted block base after.blocks := by
          cases outcome with
          | ok status => exact kept
          | error error => exact kept.2.of_settled kept.1
        obtain ⟨nested, listed, known⟩ := accounted
        exact ⟨nested, listed, fun part member =>
          ⟨⟨block, read, (known part member).1, (known part member).2.1⟩, (known part member).2.2⟩⟩
    obtain ⟨nested, listed, known⟩ := inside
    refine ⟨nested.flatMap (·.2) ++ [blockResult record before.now after outcome], ?_,
      .mk nested _ rfl (fun part member => (known part member).1)
        fun part member => (known part member).2⟩
    show (after.blocks.push _).toList = _
    rw [Array.toList_push, listed, List.append_assoc]
  · rw [same]
    trivial
termination_by sizeOf record

/-- Without steps at the top there are only the blocks. -/
theorem runParts_of_blocks (sequence : Sequence) (blocks : List Json) :
    runParts hooks polling { sequence with steps := [], blocks } =
      runBlocks hooks polling (blocks.map Datum.ofJson) := by
  have steps : ({ sequence with steps := [], blocks } : Sequence).orderedSteps = [] := by
    simp [Sequence.orderedSteps]
  unfold runParts
  rw [steps]
  rfl

/-- After steps of which none failed, a run goes through the blocks. -/
theorem runParts_of_steps {sequence : Sequence} {start flat : Run World}
    (steps : runSteps hooks polling sequence.orderedSteps start = (.ok none, flat)) :
    runParts hooks polling sequence start =
      runBlocks hooks polling (sequence.blocks.map Datum.ofJson) flat := by
  unfold runParts
  rw [bind_of_ok steps]

end Runner

/-- The result of two parts of a run, the second of which begins where the first ended. -/
def RunResult.followedBy (first second : RunResult) : RunResult :=
  { sequenceId := first.sequenceId
    status := if first.status = .failed ∨ second.status = .failed then .failed else .succeeded
    startedAt := first.startedAt
    completedAt := second.completedAt
    error := if first.status = .failed then first.error else second.error
    steps := first.steps ++ second.steps
    blocks := first.blocks ++ second.blocks }

namespace Sequence

open Runner

variable {World : Type} (sequence : Sequence) (hooks : Hooks World) (polling : Polling)
  (epoch : Instant)

/-- The outcome of a run through some blocks and then, from where it ended, of a run through
others, with the world and the time in the end. -/
def executeInTwo (first second : List Json) (start : Run World) :
    Except Halt RunResult × World × Nat :=
  match ({ sequence with blocks := first } : Sequence).execute hooks polling epoch start with
  | (.error halt, run) => (.error halt, run.world, run.now)
  | (.ok result, middle) =>
    match ({ sequence with steps := [], blocks := second } : Sequence).execute hooks polling epoch
      middle.renewed with
    | (outcome, last) => (outcome.map result.followedBy, last.world, last.now)

/-- Blocks that are run alone, each from the world and the time that the one before it left,
whether that failed or not. What one reports is the account of the block, and ends with its
own result. -/
inductive Separately : List Json → World → Nat → List RunResult → World → Nat → Prop where
  | nil (world : World) (now : Nat) : Separately [] world now [] world now
  | cons {block : Json} {rest : List Json} {world last : World} {now stop : Nat}
      {segment : RunResult} {segments : List RunResult} {after : Run World}
      (alone : ({ sequence with steps := [], blocks := [block] } : Sequence).execute hooks polling
        epoch { world, now } = (.ok segment, after))
      (account : Block.Account (.ofJson block) segment.blocks)
      (own : segment.blocks.getLast? =
        ownResult hooks polling (.ofJson block) (({ world, now } : Run World).noted .block))
      (later : Separately rest after.world after.now segments last stop) :
      Separately (block :: rest) world now (segment :: segments) last stop

variable {sequence hooks polling epoch}

theorem Separately.length_eq {blocks : List Json} {world last : World} {now stop : Nat}
    {segments : List RunResult}
    (separately : Separately sequence hooks polling epoch blocks world now segments last stop) :
    segments.length = blocks.length := by
  induction separately with
  | nil => rfl
  | cons _ _ _ _ ih => rw [List.length_cons, List.length_cons, ih]

theorem Separately.nonempty {blocks : List Json} {world last : World} {now stop : Nat}
    {segments : List RunResult}
    (separately : Separately sequence hooks polling epoch blocks world now segments last stop) :
    ∀ segment ∈ segments, segment.blocks ≠ [] := by
  induction separately with
  | nil => exact List.forall_mem_nil _
  | cons _ account _ _ ih =>
    exact List.forall_mem_cons.2 ⟨account.nonempty, ih⟩

/-- What a single block reports when it is run alone. -/
theorem runBlocks_single {record : Datum} {run after : Run World} {failure : Option (Option String)}
    (fresh : run.blocks = #[]) (ended : runBlocks hooks polling [record] run = (.ok failure, after)) :
    Block.Account record after.blocks.toList ∧
      after.blocks.toList.getLast? = ownResult hooks polling record (run.noted .block) := by
  obtain ⟨status, middle, later, block, rest, _⟩ := runBlocks_cons ended
  cases rest
  have nothing : (run.noted .block).blocks.toList = [] := congrArg Array.toList fresh
  obtain ⟨results, added, account⟩ := (runBlock_account record []).ended nothing block
  obtain ⟨own, told, _, _, _, back, _⟩ := runBlock_ended block
  refine ⟨?_, ?_⟩
  · rw [added]
    exact account
  · rw [told, ← back]
    simp

/-- A run through blocks is the runs through each of them, one after the other. -/
theorem runBlocks_separately {blocks : List Json} {run after : Run World}
    {failure : Option (Option String)}
    (ended : runBlocks hooks polling (blocks.map Datum.ofJson) run = (.ok failure, after)) :
    ∃ segments, Separately sequence hooks polling epoch blocks run.world run.now segments
        after.world after.now ∧
      after.blocks.toList = run.blocks.toList ++ segments.flatMap (·.blocks) ∧
      after.steps.toList = run.steps.toList ++ segments.flatMap (·.steps) := by
  induction blocks generalizing run failure with
  | nil =>
    cases ended
    exact ⟨[], .nil _ _, by simp, by simp⟩
  | cons block rest ih =>
    have parts : runBlocks hooks polling ((block :: rest).map Datum.ofJson) = _ :=
      runBlocks_append [.ofJson block] (rest.map Datum.ofJson)
    rw [parts] at ended
    obtain ⟨first, middle, single, ended⟩ := parts_of_ok ended
    obtain ⟨second, last, others, ended⟩ := parts_of_ok ended
    cases ended
    have going : run.cancelled = false := by
      cases cancelled : run.cancelled with
      | false => rfl
      | true =>
        rw [runBlocks, bind_of_halt (checkCancel_of_cancelled cancelled)] at single
        cases single
    obtain ⟨after, tally, alone, rfl⟩ := (runBlocks_continuing [.ofJson block]).resumed single
    have fresh : run.renewed = { world := run.world, now := run.now } := by
      simp only [Run.renewed, going]
    rw [fresh] at alone
    obtain ⟨account, own⟩ := runBlocks_single rfl alone
    obtain ⟨segments, separately, blocks, steps⟩ := ih others
    have parts : runParts hooks polling { sequence with steps := [], blocks := [block] }
        { world := run.world, now := run.now } = (.ok first, after) := by
      rw [runParts_of_blocks, List.map_singleton, alone]
    have executed := execute_of_parts epoch parts
    refine ⟨_ :: segments, .cons executed account own separately, ?_, ?_⟩
    · simp [blocks, Run.onto, resultOf]
    · simp [steps, Run.onto, resultOf]

/-- The first part of a run and what it adds after it make up its result. -/
theorem resultOf_onto (first second : List Json) (epoch : Instant) (startMs : Nat)
    (middle last : Run World) (tally : Tally) (failure later : Option (Option String)) :
    sequence.resultOf epoch startMs { middle.onto last with tally } (failure.or later) =
      (resultOf { sequence with blocks := first } epoch startMs middle failure).followedBy
        (resultOf { sequence with steps := [], blocks := second } epoch middle.now last later) := by
  cases failure with
  | none => cases later <;> simp [resultOf, RunResult.followedBy, Run.onto]
  | some error => simp [resultOf, RunResult.followedBy, Run.onto]

/-- If no step at the top fails, a run through blocks and then through others is the run
through the first, and then the run through the others from where the first ended. -/
theorem execute_inTwo {first second : List Json} (parts : sequence.blocks = first ++ second)
    {start : Run World} (clean : start.Clean)
    (fine : ∀ result ∈ (runSteps hooks polling sequence.orderedSteps start).2.steps,
      result.isFailed = false) :
    ((sequence.execute hooks polling epoch start).1,
      (sequence.execute hooks polling epoch start).2.world,
      (sequence.execute hooks polling epoch start).2.now) =
    sequence.executeInTwo hooks polling epoch first second start := by
  unfold executeInTwo
  rcases steps : runSteps hooks polling sequence.orderedSteps start with ⟨halt | stopped, flat⟩
  · have whole : runParts hooks polling sequence start = (.error halt, flat) := bind_of_halt steps _
    have begun : runParts hooks polling { sequence with blocks := first } start = (.error halt, flat) :=
      bind_of_halt steps _
    rw [execute_of_parts epoch whole, execute_of_parts epoch begun]
    rfl
  · rw [steps] at fine
    obtain rfl : stopped = none := runSteps_passed steps clean fine
    have whole : runParts hooks polling sequence start = _ := runParts_of_steps steps
    have begun : runParts hooks polling { sequence with blocks := first } start = _ :=
      runParts_of_steps steps
    rw [parts, List.map_append, runBlocks_append] at whole
    rcases blocks : runBlocks hooks polling (first.map Datum.ofJson) flat with ⟨halt | failure, middle⟩
    · rw [bind_of_halt blocks] at whole
      rw [execute_of_parts epoch whole, execute_of_parts epoch (begun.trans blocks)]
      rfl
    · rw [bind_of_ok blocks] at whole
      rw [execute_of_parts epoch (begun.trans blocks)]
      rcases others : runBlocks hooks polling (second.map Datum.ofJson) middle with ⟨outcome, after⟩
      obtain ⟨last, tally, alone, rfl⟩ := (runBlocks_continuing _).resumed others
      have later : runParts hooks polling { sequence with steps := [], blocks := second }
          middle.renewed = (outcome, last) := by
        rw [runParts_of_blocks, alone]
      simp only [Except.map, execute_of_parts epoch later]
      cases outcome with
      | error halt =>
        rw [bind_of_halt others] at whole
        rw [execute_of_parts epoch whole]
        rfl
      | ok failed =>
        rw [bind_of_ok others] at whole
        rw [execute_of_parts epoch whole]
        simp only [Except.map, resultOf_onto first second]
        rfl

/-- If no step at the top fails, the results of a run split into one segment for each block
at the top: what the block leaves when it is run alone, from where the blocks before it
ended. So a run through blocks and then through others gives the results of the first and
then those of the others, it fails exactly if one of the two does, and it tells the error of
the first that failed. -/
theorem execute_segments (sequence : Sequence) (hooks : Hooks World) (polling : Polling)
    (epoch : Instant) (world : World) (now : Nat) (cancelled : Bool)
    (fine : ∀ result ∈ (runSteps hooks polling sequence.orderedSteps { world, now, cancelled }).2.steps,
      result.isFailed = false) :
    let flat := (runSteps hooks polling sequence.orderedSteps { world, now, cancelled }).2
    let outcome := (sequence.execute hooks polling epoch { world, now, cancelled }).1
    let run := (sequence.execute hooks polling epoch { world, now, cancelled }).2
    (∀ result, outcome = .ok result → ∃ segments,
      Separately sequence hooks polling epoch sequence.blocks flat.world flat.now segments run.world
        run.now ∧
      segments.length = sequence.blocks.length ∧ (∀ segment ∈ segments, segment.blocks ≠ []) ∧
      result.blocks = segments.flatMap (·.blocks) ∧
      result.steps = flat.steps.toList ++ segments.flatMap (·.steps)) ∧
    ∀ first second, sequence.blocks = first ++ second →
      (outcome, run.world, run.now) =
        sequence.executeInTwo hooks polling epoch first second { world, now, cancelled } := by
  have clean : ({ world, now, cancelled } : Run World).Clean := ⟨nofun, nofun⟩
  refine ⟨?_, fun first second parts => execute_inTwo parts clean fine⟩
  intro result returned
  rcases steps : runSteps hooks polling sequence.orderedSteps { world, now, cancelled } with
    ⟨halt | stopped, flat⟩
  · have whole : sequence.execute hooks polling epoch { world, now, cancelled } = (.error halt, flat) :=
      execute_of_parts epoch (bind_of_halt steps _)
    rw [whole] at returned
    cases returned
  · rw [steps] at fine
    obtain rfl : stopped = none := runSteps_passed steps clean fine
    rcases blocks : runBlocks hooks polling (sequence.blocks.map Datum.ofJson) flat with
      ⟨halt | failure, run⟩
    all_goals rw [execute_of_parts epoch ((runParts_of_steps steps).trans blocks)] at returned ⊢
    · cases returned
    · cases returned
      obtain ⟨segments, separately, listed, stepped⟩ := runBlocks_separately blocks
      have nothing : flat.blocks = #[] := (runSteps_ended steps clean).1
      refine ⟨segments, separately, separately.length_eq, separately.nonempty, ?_, stepped⟩
      show run.blocks.toList = _
      rw [listed, nothing, List.nil_append]

/-- A good step, and then a block that fails twice. -/
def stumblingTwice : Sequence :=
  { stumbling with blocks := stumbling.blocks ++ stumbling.blocks }

theorem execute_segments_stumblingTwice :
    let start : Run Unit := { world := () }
    let polling : Polling := { patience := 1 }
    (∀ result ∈ (runSteps (refusing "locked") polling stumblingTwice.orderedSteps start).2.steps,
      result.isFailed = false) ∧
    (∃ (result : RunResult) (after : Run Unit) (segments : List RunResult),
      stumblingTwice.execute (refusing "locked") polling ⟨0, 0⟩ start = (.ok result, after) ∧
      result.status = .failed ∧ segments.length = 2 ∧ result.blocks.length = 2 ∧
      result.blocks = segments.flatMap (·.blocks)) ∧
    (stumblingTwice.execute (refusing "locked") polling ⟨0, 0⟩ start).1 =
      (stumblingTwice.executeInTwo (refusing "locked") polling ⟨0, 0⟩ stumbling.blocks stumbling.blocks
        start).1 := by
  have passed : (runSteps (refusing "locked") { patience := 1 } stumblingTwice.orderedSteps
      { world := () }).2.steps.all (fun result => !result.isFailed) = true := by decide +kernel
  have fine : ∀ result ∈ (runSteps (refusing "locked") { patience := 1 } stumblingTwice.orderedSteps
      { world := () }).2.steps, result.isFailed = false := by
    intro result member
    have each := Array.all_eq_true_iff_forall_mem.1 passed result member
    simpa using each
  have told : (stumblingTwice.execute (refusing "locked") { patience := 1 } ⟨0, 0⟩
      { world := () }).1.toOption.map (fun result => (result.status, result.blocks.length)) =
      some (.failed, 2) := by decide +kernel
  have whole := execute_segments stumblingTwice (refusing "locked") { patience := 1 } ⟨0, 0⟩ () 0 false
    fine
  refine ⟨fine, ?_, congrArg Prod.fst (whole.2 _ _ rfl)⟩
  rcases ended : stumblingTwice.execute (refusing "locked") { patience := 1 } ⟨0, 0⟩ { world := () } with
    ⟨halt | result, after⟩
  · rw [ended] at told
    cases told
  · rw [ended] at told
    have both : (result.status, result.blocks.length) = (.failed, 2) := Option.some.inj told
    obtain ⟨segments, _, length, _, blocks, _⟩ := whole.1 result (by rw [ended])
    exact ⟨result, after, segments, rfl, congrArg Prod.fst both, length, congrArg Prod.snd both, blocks⟩

end Sequence

end Autopilot
