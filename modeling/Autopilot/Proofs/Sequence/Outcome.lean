import Autopilot.Proofs.Sequence.Parts

/-!
How failures reach the result of a run. Reports only pile up, and a part that ends
well in a run without failures leaves a run without failures behind. So a failure
anywhere, at any depth, makes the block at the top around it fail, and the run
with it; the run then tells the error of its first failure at the top.
-/

namespace Autopilot

variable {World : Type}

/-- Nothing that was reported so far has failed. -/
structure Run.Clean (run : Run World) : Prop where
  steps : ∀ result ∈ run.steps, result.isFailed = false
  blocks : ∀ result ∈ run.blocks, result.isFailed = false

/-- All reports of the earlier run are in the later one, before all others. -/
structure Run.Grows (before after : Run World) : Prop where
  steps : before.steps.toList <+: after.steps.toList
  blocks : before.blocks.toList <+: after.blocks.toList

/-- Both runs have the same reports. -/
structure Run.SameReports (before after : Run World) : Prop where
  steps : after.steps = before.steps
  blocks : after.blocks = before.blocks

namespace Run

variable {first second third : Run World}

theorem SameReports.refl (run : Run World) : SameReports run run := ⟨rfl, rfl⟩

theorem SameReports.trans (earlier : SameReports first second)
    (later : SameReports second third) : SameReports first third :=
  ⟨later.steps.trans earlier.steps, later.blocks.trans earlier.blocks⟩

theorem SameReports.grows (same : SameReports first second) : Grows first second := by
  obtain ⟨steps, blocks⟩ := same
  exact ⟨steps ▸ List.prefix_refl _, blocks ▸ List.prefix_refl _⟩

theorem SameReports.clean (same : SameReports first second) (clean : first.Clean) :
    second.Clean := by
  constructor
  · rw [same.steps]
    exact clean.steps
  · rw [same.blocks]
    exact clean.blocks

theorem Grows.trans (earlier : Grows first second) (later : Grows second third) :
    Grows first third :=
  ⟨earlier.steps.trans later.steps, earlier.blocks.trans later.blocks⟩

end Run

namespace Runner

variable {α β : Type} {hooks : Hooks World}

theorem ask_sameReports {ε : Type} (asked : Act) (answered : Except ε α → Act)
    (asError : ε → RunError) (question : World → Reply World (Except ε α)) (run : Run World) :
    Run.SameReports run (ask asked answered asError question run).2 := by
  rw [ask_apply]
  exact ⟨rfl, rfl⟩

/-- A silent part reports nothing, however it ends. -/
theorem Silent.sameReports {part : Runner World α} (quiet : Silent hooks part)
    (run : Run World) : Run.SameReports run (part run).2 := by
  induction quiet generalizing run with
  | pure value => exact .refl run
  | @bind _ _ part next first later earlier rest =>
    have start := earlier run
    rcases ended : part run with ⟨halt | value, middle⟩
    · rw [bind_of_halt ended]
      rwa [ended] at start
    · rw [bind_of_ok ended]
      rw [ended] at start
      exact start.trans (rest value middle)
  | get => exact .refl run
  | fail error notCancelled => exact .refl run
  | impatient => exact .refl run
  | checkCancel =>
    rw [checkCancel_same]
    exact .refl run
  | note act begun => exact ⟨rfl, rfl⟩
  | count f => exact ⟨rfl, rfl⟩
  | pause ms =>
    rcases pause_cases hooks ms run with ⟨_, same⟩ | ⟨_, _, same⟩ | ⟨_, _, _, same⟩ | ⟨_, _, same⟩
    all_goals rw [same]
    all_goals exact ⟨rfl, rfl⟩
  | draw step =>
    obtain ⟨world, drawn⟩ := drawDelay_cases hooks step run
    rw [drawn]
    exact ⟨rfl, rfl⟩
  | askGate given step => exact ask_sameReports _ _ _ _ run
  | evaluate given condition => exact ask_sameReports _ _ _ _ run
  | callCommand step => exact ask_sameReports _ _ _ _ run
  | @attempt _ part inner ih =>
    have same := ih run
    rcases attempt_cases part run with ⟨_, _, ended, tried⟩ | ⟨_, _, ended, _, tried⟩ |
      ⟨_, _, ended, _, tried⟩
    all_goals rw [ended] at same
    all_goals rw [tried]
    all_goals exact same

theorem attempt_grows {content : Runner World α} (grows : ∀ run, Run.Grows run (content run).2)
    (run : Run World) : Run.Grows run (attempt content run).2 := by
  have kept := grows run
  rcases attempt_cases content run with ⟨_, _, ended, tried⟩ | ⟨_, _, ended, _, tried⟩ |
    ⟨_, _, ended, _, tried⟩
  all_goals rw [ended] at kept
  all_goals rw [tried]
  all_goals exact kept

theorem reporting_grows {content : Runner World BlockStatus}
    (grows : ∀ run, Run.Grows run (content run).2) (record : Datum) (before : Run World) :
    Run.Grows before (reporting record content before).2 := by
  have kept := attempt_grows grows before.opened
  rcases reporting_cases record content before with ⟨outcome, after, tried, same⟩ |
    ⟨halt, after, tried, same⟩
  · rw [tried] at kept
    rw [same]
    refine ⟨kept.steps, kept.blocks.trans ⟨[blockResult record before.now after outcome], ?_⟩⟩
    simp only [Run.closed, Array.toList_push]
  · rw [tried] at kept
    rw [same]
    exact ⟨kept.steps, kept.blocks⟩

/-- A working part keeps what was reported before it. -/
theorem Working.grows {part : Runner World α} (works : Working hooks part) (run : Run World) :
    Run.Grows run (part run).2 := by
  induction works generalizing run with
  | silent quiet => exact (quiet.sameReports run).grows
  | @bind _ _ part next first later earlier rest =>
    have start := earlier run
    rcases ended : part run with ⟨halt | value, middle⟩
    · rw [bind_of_halt ended]
      rwa [ended] at start
    · rw [bind_of_ok ended]
      rw [ended] at start
      exact start.trans (rest value middle)
  | settleStep result =>
    rw [settleStep_apply]
    exact ⟨⟨[result], by simp only [Array.toList_push]⟩, List.prefix_refl _⟩
  | @nested content record inner ih => 
    have kept := reporting_grows ih record run
    rcases ended : reporting record content run with ⟨halt | status, after⟩
    · rw [bind_of_halt ended]
      rwa [ended] at kept
    · rw [bind_of_ok ended, settleBlock_apply]
      rwa [ended] at kept

theorem reporting_clean {content : Runner World BlockStatus}
    (keeps : ∀ {run after : Run World} {status : BlockStatus},
      content run = (.ok status, after) → run.Clean → after.Clean)
    {record : Datum} {before after : Run World} {status : BlockStatus}
    (ended : reporting record content before = (.ok status, after)) (clean : before.Clean)
    (fine : status ≠ .failed) : after.Clean := by
  have opened : before.opened.Clean := ⟨clean.steps, clean.blocks⟩
  rcases reporting_cases record content before with ⟨outcome, middle, tried, same⟩ |
    ⟨halt, middle, tried, same⟩
  · rw [same] at ended
    cases ended
    rcases attempt_cases content before.opened with ⟨value, _, went, told⟩ |
      ⟨error, _, went, _, told⟩ | ⟨_, _, _, _, told⟩
    · rw [told] at tried
      cases tried
      have inside := keeps went opened
      refine ⟨inside.steps, fun result member => ?_⟩
      rcases Array.mem_push.1 member with old | new
      · exact inside.blocks result old
      · rw [new]
        exact decide_eq_false fine
    · rw [told] at tried
      cases tried
      exact absurd rfl fine
    · rw [told] at tried
      cases tried
  · rw [same] at ended
    cases ended

/-- A working part that ends well in a run without failures leaves one behind. -/
theorem Working.clean {part : Runner World α} (works : Working hooks part) {run after : Run World}
    {value : α} (ended : part run = (.ok value, after)) (clean : run.Clean) : after.Clean := by
  induction works generalizing run after with
  | silent quiet =>
    have same := quiet.sameReports run
    rw [ended] at same
    exact same.clean clean
  | @bind _ _ part next first later earlier rest =>
    obtain ⟨middle, between, began, ended⟩ := parts_of_ok ended
    exact rest middle ended (earlier began clean)
  | settleStep result =>
    rw [settleStep_apply] at ended
    cases failed : result.isFailed with
    | true =>
      rw [failed] at ended
      cases ended
    | false =>
      rw [failed] at ended
      cases ended
      refine ⟨fun other member => ?_, clean.blocks⟩
      rcases Array.mem_push.1 member with old | new
      · exact clean.steps other old
      · rw [new, failed]
  | @nested content record inner ih =>
    obtain ⟨status, middle, told, ended⟩ := parts_of_ok ended
    rw [settleBlock_apply] at ended
    by_cases fine : status = .failed
    · rw [if_pos fine] at ended
      cases ended
    · rw [if_neg fine] at ended
      cases ended
      exact reporting_clean (fun went => ih went) told clean fine

/-! ## Steps and blocks at the top -/

/-- Every value that a part ends with has a property. -/
def Ends (P : α → Prop) (part : Runner World α) : Prop :=
  ∀ (run after : Run World) (value : α), part run = (.ok value, after) → P value

theorem Ends.pure {P : α → Prop} {value : α} (holds : P value) :
    Ends P (pure value : Runner World α) := by
  intro run after other ended
  cases ended
  exact holds

theorem Ends.bind {P : α → Prop} {part : Runner World β} {next : β → Runner World α}
    (later : ∀ value, Ends P (next value)) : Ends P (part >>= next) := by
  intro run after value ended
  obtain ⟨middle, between, _, ended⟩ := parts_of_ok ended
  exact later middle between after value ended

theorem Ends.fail {P : α → Prop} (error : RunError) :
    Ends P (fail error : Runner World α) := by
  intro run after value ended
  cases ended

theorem Ends.ite {P : α → Prop} {condition : Prop} [Decidable condition]
    {part other : Runner World α} (first : Ends P part) (second : Ends P other) :
    Ends P (if condition then part else other) := by
  split
  · exact first
  · exact second

variable (hooks) (polling : Polling)

/-- A step tells an error exactly if it failed. -/
theorem performStep_ends (step : Step) (delayMs : Nat) :
    Ends (fun result => result.isFailed = result.error.isSome)
      (performStep hooks polling step delayMs) := by
  refine .bind fun passed => ?_
  cases passed with
  | error error => exact .pure rfl
  | ok _ =>
    refine .bind fun called => ?_
    cases called with
    | error error => exact .pure rfl
    | ok _ => exact .pure rfl

theorem runStep_ends (step : Step) :
    Ends (fun result => result.isFailed = result.error.isSome) (runStep hooks polling step) := by
  refine .bind fun _ => .bind fun _ => .bind fun ms => .ite (.bind fun _ => ?_) ?_
  · exact performStep_ends hooks polling step ms
  · exact performStep_ends hooks polling step ms

/-- A block fails only by an error. -/
theorem blockContent_ends (record : Datum) :
    Ends (· ≠ .failed) (blockContent hooks polling record) := by
  have succeeded : BlockStatus.succeeded ≠ .failed := by decide
  have skipped : BlockStatus.skipped ≠ .failed := by decide
  unfold blockContent
  split
  · exact .fail _
  next block read =>
    cases block with
    | ifElse condition thenItems elseItems =>
      refine .bind fun holds => .ite ?_ ?_
      · exact .bind fun _ => .bind fun _ => .pure succeeded
      · exact .bind fun _ => .bind fun _ => .pure succeeded
    | whileHolds condition loop => exact .bind fun _ => .bind fun _ => .pure succeeded
    | untilHolds condition loop => exact .bind fun _ => .bind fun _ => .pure succeeded
    | times condition loop =>
      simp only [Block.run]
      split
      · exact .pure skipped
      · exact .ite (.pure skipped) (.bind fun _ => .pure succeeded)

/-- What a block reports on itself, unless the run halts in it. -/
def ownResult (record : Datum) (before : Run World) : Option BlockResult :=
  match attempt (blockContent hooks polling record) before.opened with
  | (.ok outcome, after) => some (blockResult record before.now after outcome)
  | (.error _, _) => none

/-- What the blocks at the top report on themselves, one after the other. -/
def ownResults : List Datum → Run World → List BlockResult
  | [], _ => []
  | record :: rest, run =>
    let before := run.noted .block
    (ownResult hooks polling record before).toList ++
      ownResults rest (runBlock hooks polling record before).2

variable {hooks polling}

theorem runStep_ended {step : Step} {run after : Run World} {result : StepResult}
    (ended : runStep hooks polling step run = (.ok result, after)) :
    Run.SameReports run after ∧ result.isFailed = result.error.isSome := by
  have quiet : Silent hooks (runStep hooks polling step) := runStep_silent polling step
  have same := quiet.sameReports run
  rw [ended] at same
  exact ⟨same, runStep_ends hooks polling step _ _ _ ended⟩

/-- The steps at the top report up to the first that fails, and tell its error. -/
theorem runSteps_ended {steps : List Step} {run after : Run World}
    {failure : Option (Option String)}
    (ended : runSteps hooks polling steps run = (.ok failure, after)) (clean : run.Clean) :
    after.blocks = run.blocks ∧
      ((failure = none ∧ after.Clean) ∨
        ∃ earlier last, after.steps = Array.push earlier last ∧ last.isFailed = true ∧
          last.error.isSome = true ∧ failure = some last.error ∧
          ∀ result ∈ earlier, result.isFailed = false) := by
  induction steps generalizing run with
  | nil =>
    cases ended
    exact ⟨rfl, .inl ⟨rfl, clean⟩⟩
  | cons step rest ih =>
    obtain ⟨result, middle, began, ended⟩ := parts_of_ok ended
    obtain ⟨same, told⟩ := runStep_ended began
    have reported : (report result : Runner World Unit) middle =
        (.ok (), { middle with steps := middle.steps.push result }) := rfl
    rw [bind_of_ok reported] at ended
    have still := same.clean clean
    cases failed : result.isFailed with
    | true =>
      rw [failed] at ended
      cases ended
      exact ⟨same.blocks, .inr ⟨middle.steps, result, rfl, failed, told.symm.trans failed, rfl,
        still.steps⟩⟩
    | false =>
      rw [failed] at ended
      have later := ih ended ⟨fun other member => ?_, still.blocks⟩
      · exact ⟨later.1.trans same.blocks, later.2⟩
      · rcases Array.mem_push.1 member with old | new
        · exact still.steps other old
        · rw [new, failed]

/-- Steps that report no failure have told none. -/
theorem runSteps_passed {steps : List Step} {run after : Run World} {failure : Option (Option String)}
    (ended : runSteps hooks polling steps run = (.ok failure, after)) (clean : run.Clean)
    (fine : ∀ result ∈ after.steps, result.isFailed = false) : failure = none := by
  obtain ⟨_, ⟨told, _⟩ | ⟨earlier, last, reported, failed, _⟩⟩ := runSteps_ended ended clean
  · exact told
  · have member : last ∈ after.steps := by
      rw [reported]
      exact Array.mem_push_self
    rw [fine last member] at failed
    cases failed

theorem runBlock_grows (record : Datum) (run : Run World) :
    Run.Grows run (runBlock hooks polling record run).2 := by
  rw [runBlock_eq]
  exact reporting_grows (blockContent_working polling record).grows record run

theorem runBlock_clean {record : Datum} {before after : Run World} {status : BlockStatus}
    (ended : runBlock hooks polling record before = (.ok status, after)) (clean : before.Clean)
    (fine : status ≠ .failed) : after.Clean := by
  rw [runBlock_eq] at ended
  exact reporting_clean (blockContent_working polling record).clean ended clean fine

/-- A block that ends reports itself last, and tells an error exactly if it failed. -/
theorem runBlock_ended {record : Datum} {before after : Run World} {status : BlockStatus}
    (ended : runBlock hooks polling record before = (.ok status, after)) :
    ∃ own, ownResult hooks polling record before = some own ∧
      own.blockType = Block.typeName record ∧ own.status = status ∧
      own.isFailed = own.error.isSome ∧ after.blocks.back? = some own ∧
      (before.blocks.toList ++ [own]).Sublist after.blocks.toList := by
  have working : Working hooks (blockContent hooks polling record) := blockContent_working polling record
  have kept := attempt_grows working.grows before.opened
  rw [runBlock_eq] at ended
  rcases reporting_cases record (blockContent hooks polling record) before with
    ⟨outcome, middle, tried, same⟩ | ⟨halt, middle, tried, same⟩
  · rw [same] at ended
    cases ended
    rw [tried] at kept
    refine ⟨blockResult record before.now middle outcome, ?_, rfl, rfl, ?_, ?_, ?_⟩
    · rw [ownResult, tried]
    · cases outcome with
      | error error => rfl
      | ok status =>
        rcases attempt_cases (blockContent hooks polling record) before.opened with
          ⟨value, _, went, told⟩ | ⟨_, _, _, _, told⟩ | ⟨_, _, _, _, told⟩
        · rw [told] at tried
          cases tried
          exact decide_eq_false (blockContent_ends hooks polling record _ _ _ went)
        · rw [told] at tried
          cases tried
        · rw [told] at tried
          cases tried
    · exact Array.back?_push
    · simp only [Run.closed, Array.toList_push]
      exact kept.blocks.sublist.append (List.Sublist.refl _)
  · rw [same] at ended
    cases ended

/-- How a run through the blocks at the top ended: each has reported on itself, in order,
and the run tells the error of the first that failed. -/
structure BlocksEnded (hooks : Hooks World) (polling : Polling) (records : List Datum)
    (before : Run World) (failure : Option (Option String)) (after : Run World) : Prop where
  types : (ownResults hooks polling records before).map (·.blockType) = records.map Block.typeName
  told : ∀ own ∈ ownResults hooks polling records before, own.isFailed = own.error.isSome
  kept : (before.blocks.toList ++ ownResults hooks polling records before).Sublist
    after.blocks.toList
  grows : before.Grows after
  first : failure =
    ((ownResults hooks polling records before).find? (·.isFailed)).map (·.error)
  clean : failure = none → before.Clean → after.Clean

/-- The blocks at the top run one by one; only the first error counts. -/
theorem runBlocks_cons {record : Datum} {rest : List Datum} {before after : Run World}
    {failure : Option (Option String)}
    (ended : runBlocks hooks polling (record :: rest) before = (.ok failure, after)) :
    ∃ status middle later, runBlock hooks polling record (before.noted .block) = (.ok status, middle) ∧
      runBlocks hooks polling rest middle = (.ok later, after) ∧
      failure = if status = .failed then some (middle.blocks.back?.bind (·.error)) else later := by
  rw [runBlocks] at ended
  obtain ⟨_, between, checked, ended⟩ := parts_of_ok ended
  cases cancelled : before.cancelled with
  | true =>
    rw [checkCancel_of_cancelled cancelled] at checked
    cases checked
  | false =>
    rw [checkCancel_of_going cancelled] at checked
    cases checked
    rw [bind_of_ok (note_apply .block before)] at ended
    obtain ⟨status, middle, block, ended⟩ := parts_of_ok ended
    rw [bind_of_ok (get_apply middle)] at ended
    obtain ⟨later, final, others, ended⟩ := parts_of_ok ended
    cases ended
    exact ⟨status, middle, later, block, others, rfl⟩

theorem runBlocks_ended {records : List Datum} {before after : Run World}
    {failure : Option (Option String)}
    (ended : runBlocks hooks polling records before = (.ok failure, after)) :
    BlocksEnded hooks polling records before failure after := by
  induction records generalizing before failure with
  | nil =>
    have kept : (before.blocks.toList ++ ownResults hooks polling [] before).Sublist
        before.blocks.toList := by
      simp only [ownResults, List.append_nil, List.Sublist.refl]
    cases ended
    exact ⟨rfl, nofun, kept, ⟨List.prefix_refl _, List.prefix_refl _⟩, rfl, fun _ clean => clean⟩
  | cons record rest ih =>
    obtain ⟨status, middle, later, block, others, rfl⟩ := runBlocks_cons ended
    obtain ⟨own, found, type, same, told, last, kept⟩ := runBlock_ended block
    have following := ih others
    have grown : Run.Grows (before.noted .block)
        (runBlock hooks polling record (before.noted .block)).2 := runBlock_grows record _
    rw [block] at grown
    have results : ownResults hooks polling (record :: rest) before =
        own :: ownResults hooks polling rest middle := by
      simp only [ownResults, found, block, Option.toList_some, List.singleton_append]
    refine ⟨?_, ?_, ?_, ⟨grown.steps.trans following.grows.steps,
      grown.blocks.trans following.grows.blocks⟩, ?_, ?_⟩
    · rw [results, List.map_cons, List.map_cons, type, following.types]
    · rw [results]
      intro other member
      rcases List.mem_cons.1 member with rfl | member
      · exact told
      · exact following.told other member
    · rw [results, List.append_cons]
      exact (kept.append_right _).trans following.kept
    · rw [results, last, List.find?_cons]
      by_cases failed : status = .failed
      · have found : own.isFailed = true := decide_eq_true (same.trans failed)
        simp only [failed, if_true, found, Option.map_some, Option.bind_some]
      · have passed : own.isFailed = false := decide_eq_false (same ▸ failed)
        simp only [failed, if_false, passed, following.first]
    · intro fine clean
      by_cases failed : status = .failed
      · rw [if_pos failed] at fine
        cases fine
      · rw [if_neg failed] at fine
        exact following.clean fine (runBlock_clean block ⟨clean.steps, clean.blocks⟩ failed)

namespace BlocksEnded

variable {records : List Datum} {before after : Run World} {failure : Option (Option String)}
  (blocks : BlocksEnded hooks polling records before failure after)

include blocks

/-- The first own result that failed, if the run through the blocks failed. -/
theorem first_failed (failed : failure.isSome) :
    ∃ own ∈ ownResults hooks polling records before, own.isFailed = true ∧
      failure = some own.error := by
  have first := blocks.first
  cases found : (ownResults hooks polling records before).find? (·.isFailed) with
  | none =>
    rw [first, found] at failed
    cases failed
  | some own =>
    rw [found] at first
    exact ⟨own, List.mem_of_find?_eq_some found, List.find?_some found, first⟩

theorem isSome_iff_reported (clean : before.Clean) :
    failure.isSome ↔ (∃ step ∈ after.steps.toList, step.isFailed) ∨
      ∃ block ∈ after.blocks.toList, block.isFailed := by
  constructor
  · intro failed
    obtain ⟨own, member, isFailed, _⟩ := blocks.first_failed failed
    exact .inr ⟨own, blocks.kept.subset (List.mem_append_right _ member), isFailed⟩
  · intro reported
    cases failure with
    | some error => rfl
    | none =>
      have still := blocks.clean rfl clean
      rcases reported with ⟨step, member, isFailed⟩ | ⟨block, member, isFailed⟩
      · rw [still.steps step (Array.mem_toList_iff.1 member)] at isFailed
        cases isFailed
      · rw [still.blocks block (Array.mem_toList_iff.1 member)] at isFailed
        cases isFailed

theorem isSome_iff_told : failure.isSome ↔ failure.join.isSome := by
  constructor
  · intro failed
    obtain ⟨own, member, isFailed, same⟩ := blocks.first_failed failed
    rw [same, Option.join_some, ← blocks.told own member, isFailed]
  · intro told
    cases failure with
    | none => cases told
    | some error => rfl

end BlocksEnded

end Runner

namespace Sequence

open Runner

theorem resultOf_failed_iff (sequence : Sequence) (epoch : Instant) (startMs : Nat)
    (run : Run World) (failure : Option (Option String)) :
    (sequence.resultOf epoch startMs run failure).status = .failed ↔ failure.isSome := by
  cases failure with
  | none => exact iff_of_false nofun nofun
  | some error => exact iff_of_true rfl rfl

/-- The result of a run that ends is made of the run as its parts leave it. -/
theorem execute_ended {sequence : Sequence} {hooks : Hooks World} {polling : Polling} {epoch : Instant}
    {start after : Run World} {result : RunResult}
    (ended : sequence.execute hooks polling epoch start = (.ok result, after)) :
    ∃ failure, runParts hooks polling sequence start = (.ok failure, after) ∧
      result = sequence.resultOf epoch start.now after failure := by
  unfold execute at ended
  split at ended
  next failure final parts =>
    cases ended
    exact ⟨failure, parts, rfl⟩
  next => cases ended

/-- A run that ends has failed exactly if something in it failed, at whatever depth, and
exactly if it tells an error: that of the step at the top that failed, or else that of
the first block at the top whose own result is a failure. -/
theorem execute_failed_iff (sequence : Sequence) (hooks : Hooks World) (polling : Polling)
    (epoch : Instant) (world : World) (now : Nat) (cancelled : Bool) {result : RunResult}
    {after : Run World}
    (ended : sequence.execute hooks polling epoch { world, now, cancelled } = (.ok result, after)) :
    let records := sequence.blocks.map Datum.ofJson
    let flat := (runSteps hooks polling sequence.orderedSteps { world, now, cancelled }).2
    let own := ownResults hooks polling records flat
    (result.status = .failed ↔
      (∃ step ∈ result.steps, step.isFailed) ∨ ∃ block ∈ result.blocks, block.isFailed) ∧
    (result.status = .failed ↔ result.error.isSome) ∧
    flat.steps.toList <+: result.steps ∧
    (∀ step ∈ flat.steps, step.isFailed → result.error = step.error) ∧
    ((∀ step ∈ flat.steps, step.isFailed = false) →
      own.map (·.blockType) = records.map Block.typeName ∧ own.Sublist result.blocks ∧
      result.error = (own.find? (·.isFailed)).bind (·.error)) := by
  have fresh : ({ world, now, cancelled } : Run World).Clean := ⟨nofun, nofun⟩
  obtain ⟨failure, parts, rfl⟩ := execute_ended ended
  obtain ⟨stopped, middle, steps, parts⟩ := parts_of_ok parts
  dsimp only
  rw [steps]
  obtain ⟨same, ⟨rfl, clean⟩ | ⟨earlier, last, reported, failed, told, rfl, fine⟩⟩ :=
    runSteps_ended steps fresh
  · have blocks := runBlocks_ended parts
    have kept : (ownResults hooks polling (sequence.blocks.map Datum.ofJson) middle).Sublist
        after.blocks.toList := by
      have whole := blocks.kept
      rwa [same] at whole
    have error : failure.join = ((ownResults hooks polling (sequence.blocks.map Datum.ofJson)
        middle).find? (·.isFailed)).bind (·.error) := by
      rw [blocks.first]
      cases (ownResults hooks polling _ middle).find? (·.isFailed) <;> rfl
    have status := sequence.resultOf_failed_iff epoch now after failure
    refine ⟨status.trans (blocks.isSome_iff_reported clean), status.trans blocks.isSome_iff_told,
      blocks.grows.steps, ?_, fun _ => ⟨blocks.types, kept, error⟩⟩
    · intro step member failed
      rw [clean.steps step member] at failed
      cases failed
  · cases parts
    have member : last ∈ after.steps := by
      rw [reported]
      exact Array.mem_push_self
    refine ⟨iff_of_true rfl (.inl ⟨last, Array.mem_toList_iff.2 member, failed⟩),
      iff_of_true rfl told, List.prefix_refl _, ?_, ?_⟩
    · rw [reported]
      intro step member isFailed
      rcases Array.mem_push.1 member with old | new
      · rw [fine step old] at isFailed
        cases isFailed
      · rw [new]
        rfl
    · intro none
      rw [none last member] at failed
      cases failed

/-- A good step, and then a block around a step whose command is refused. -/
def stumbling : Sequence :=
  { id := "errand"
    steps := [{ commandId := "open" }]
    blocks := [.object [("type", .str "repeatCount"), ("maxIterations", .ofNat 2),
      ("steps", .arr [.object [("commandId", .str "locked")]])]] }

/-- Collaborators that refuse one command, and answer at once. -/
def refusing (refused : String) : Hooks Unit where
  command id _ :=
    { answer := if id = refused then .error (.command id "refused") else .ok (), world := () }
  rest _ _ := { world := () }
  random world := (0, world)

theorem execute_failed_iff_stumbling :
    ∃ result after, stumbling.execute (refusing "locked") { patience := 1 } ⟨0, 0⟩ { world := () } =
        (.ok result, after) ∧
      result.status = .failed ∧ result.error.isSome ∧
      ((∃ step ∈ result.steps, step.isFailed) ∨ ∃ block ∈ result.blocks, block.isFailed) := by
  have status : (stumbling.execute (refusing "locked") { patience := 1 } ⟨0, 0⟩
      { world := () }).1.toOption.map (·.status) = some .failed := by decide +kernel
  rcases ended : stumbling.execute (refusing "locked") { patience := 1 } ⟨0, 0⟩ { world := () } with
    ⟨halt | result, after⟩
  · rw [ended] at status
    cases status
  · rw [ended] at status
    have failed : result.status = .failed := Option.some.inj status
    have whole := execute_failed_iff stumbling (refusing "locked") { patience := 1 } ⟨0, 0⟩ () 0 false
      ended
    exact ⟨result, after, rfl, failed, whole.2.1.1 failed, whole.1.1 failed⟩

end Sequence

end Autopilot
