import Autopilot.Proofs.Sequence.Charges
import Autopilot.Proofs.Sequence.Deadline
import Autopilot.Proofs.Sequence.Tallies

/-!
What the reports of blocks tell. Each report in the result of a run is that of a block record of the
sequence, which was run at some point of it, and its fields belong together: the status and the error,
the branch and the counters of a branch, the passes of a loop and its limit. They do so however the
block ended, and however deep it was nested.
-/

namespace Autopilot

/-! ## Messages -/

theorem String.head?_append {c : Char} {literal : String} (first : literal.toList.head? = some c)
    (more : String) : (literal ++ more).toList.head? = some c := by
  rw [String.toList_append, List.head?_append, first]
  rfl

namespace RunError

theorem head_maxIterations (n : Nat) :
    (RunError.maxIterations n).message.toList.head? = some 'M' :=
  String.head?_append (String.head?_append (by decide +kernel) _) _

/-- Only the limit of passes has a message that begins as its own does, among what ends a block. -/
theorem message_ne_of_head {error : RunError} {c : Char} (n : Nat)
    (first : error.message.toList.head? = some c) (differs : c ≠ 'M') :
    error.message ≠ (RunError.maxIterations n).message := by
  intro same
  rw [same, head_maxIterations] at first
  exact differs (Option.some.inj first).symm

theorem message_ne_of_pass {error : RunError} (ofPass : error.OfPass) (n : Nat) :
    error.message ≠ (RunError.maxIterations n).message := by
  cases error with
  | noEvaluator =>
    have first : RunError.noEvaluator.message.toList.head? = some 'N' := by decide +kernel
    exact message_ne_of_head n first (by decide)
  | condition error =>
    have first : (RunError.condition error).message.toList.head? = some 'C' :=
      String.head?_append (by decide +kernel) _
    exact message_ne_of_head n first (by decide)
  | invalidStep fault =>
    have first : (RunError.invalidStep fault).message.toList.head? = some 'I' :=
      String.head?_append (by decide +kernel) _
    exact message_ne_of_head n first (by decide)
  | stepFailed reason =>
    have first : (RunError.stepFailed reason).message.toList.head? = some 'S' :=
      String.head?_append (by decide +kernel) _
    exact message_ne_of_head n first (by decide)
  | nestedFailed blockType =>
    have first : (RunError.nestedFailed blockType).message.toList.head? = some 'N' :=
      String.head?_append (String.head?_append (by decide +kernel) _) _
    exact message_ne_of_head n first (by decide)
  | _ => exact ofPass.elim

theorem message_ne_of_timeout (n : Nat) :
    RunError.timeout.message ≠ (RunError.maxIterations n).message := by
  have first : RunError.timeout.message.toList.head? = some 'B' := by decide +kernel
  exact message_ne_of_head n first (by decide)

end RunError

/-! ## Reports of one block -/

/-- The items of the branch that is not taken make no difference to the run of a block. -/
def Block.Ignores {World : Type} (hooks : Hooks World) (polling : Polling) (run : Run World)
    (condition : Condition) (thenItems elseItems : List Datum) : Branch → Prop
  | .thenItems => ∀ others,
      (Block.ifElse condition thenItems others).run hooks (Runner.nestedItem hooks polling) run =
        (Block.ifElse condition thenItems elseItems).run hooks (Runner.nestedItem hooks polling) run
  | .elseItems => ∀ others,
      (Block.ifElse condition others elseItems).run hooks (Runner.nestedItem hooks polling) run =
        (Block.ifElse condition thenItems elseItems).run hooks (Runner.nestedItem hooks polling) run

/-- The fields of a report belong together, and to the record of a block that was run from `before`. A
number of passes that is not given counts as zero. -/
structure BlockResult.WellFormed {World : Type} (hooks : Hooks World) (polling : Polling)
    (record : Datum) (before : Run World) (result : BlockResult) : Prop where
  error : result.error.isSome = true ↔ result.status = .failed
  skipped : result.status = .skipped ↔ ∃ condition loop,
    Block.read record = .ok (.times condition loop) ∧ loop.maxIterations.getD 0 ≤ 0
  idle : result.status = .skipped → result.iterations = 0 ∧ result.conditionsEvaluated = 0
  chosen : ∀ branch ∈ result.branch, result.iterations = 1 ∧ result.conditionsEvaluated = 1 ∧
    ∃ condition thenItems elseItems,
      Block.read record = .ok (.ifElse condition thenItems elseItems) ∧
      Block.Ignores hooks polling before.opened condition thenItems elseItems branch
  undecided : ∀ condition thenItems elseItems,
    Block.read record = .ok (.ifElse condition thenItems elseItems) → result.branch = none →
      result.status = .failed ∧ result.iterations = 0
  capped : ∀ condition loop,
    (Block.read record = .ok (.whileHolds condition loop) ∨
      Block.read record = .ok (.untilHolds condition loop)) →
      result.iterations.toNat ≤ loop.cap ∧
      ∀ n, result.error = some (RunError.maxIterations n).message → result.iterations.toNat = loop.cap
  counted : ∀ condition loop, Block.read record = .ok (.times condition loop) →
    result.iterations.toNat ≤ (loop.maxIterations.getD 0).toNat

namespace BlockResult.WellFormed

variable {World : Type} {hooks : Hooks World} {polling : Polling} {record : Datum} {before : Run World}
  {result : BlockResult} {block : Block Datum} {condition : Condition} {optional : Option Condition}
  {loop : Block.Loop Datum} {thenItems elseItems : List Datum}
  (error : result.error.isSome = true ↔ result.status = .failed)

include error

/-- The report of a record that is no block. -/
theorem of_unread {fault : BlockFault} (read : Block.read record = .error fault)
    (unskipped : result.status ≠ .skipped) (branchless : result.branch = none) :
    result.WellFormed hooks polling record before where
  error := error
  skipped := by
    refine ⟨fun skipped => absurd skipped unskipped, ?_⟩
    rintro ⟨_, _, other, _⟩
    cases read.symm.trans other
  idle := fun skipped => absurd skipped unskipped
  chosen := by
    rw [branchless]
    rintro _ ⟨⟩
  undecided := by
    intro _ _ _ other
    cases read.symm.trans other
  capped := by
    rintro _ _ (other | other) <;> cases read.symm.trans other
  counted := by
    intro _ _ other
    cases read.symm.trans other

/-- The report of a branch: either it failed before a branch was taken, or one was. -/
theorem of_ifElse (read : Block.read record = .ok (.ifElse condition thenItems elseItems))
    (unskipped : result.status ≠ .skipped)
    (left : (result.status = .failed ∧ result.branch = none ∧ result.iterations = 0) ∨
      ∃ branch, result.branch = some branch ∧ result.iterations = 1 ∧ result.conditionsEvaluated = 1 ∧
        Block.Ignores hooks polling before.opened condition thenItems elseItems branch) :
    result.WellFormed hooks polling record before where
  error := error
  skipped := by
    refine ⟨fun skipped => absurd skipped unskipped, ?_⟩
    rintro ⟨_, _, other, _⟩
    cases read.symm.trans other
  idle := fun skipped => absurd skipped unskipped
  chosen := by
    intro branch known
    obtain ⟨_, unchosen, _⟩ | ⟨other, chosen, passed, checked, ignores⟩ := left
    · cases unchosen.symm.trans known
    · cases chosen.symm.trans known
      exact ⟨passed, checked, condition, thenItems, elseItems, read, ignores⟩
  undecided := by
    intro _ _ _ _ unchosen
    obtain ⟨failed, _, unpassed⟩ | ⟨branch, chosen, _⟩ := left
    · exact ⟨failed, unpassed⟩
    · cases unchosen.symm.trans chosen
  capped := by
    rintro _ _ (other | other) <;> cases read.symm.trans other
  counted := by
    intro _ _ other
    cases read.symm.trans other

/-- The report of a loop that waits for a condition. -/
theorem of_waits (read : Block.read record = .ok block)
    (waits : block = .whileHolds condition loop ∨ block = .untilHolds condition loop)
    (unskipped : result.status ≠ .skipped) (branchless : result.branch = none)
    (few : result.iterations.toNat ≤ loop.cap)
    (capped : ∀ n, result.error = some (RunError.maxIterations n).message →
      result.iterations.toNat = loop.cap) :
    result.WellFormed hooks polling record before where
  error := error
  skipped := by
    refine ⟨fun skipped => absurd skipped unskipped, ?_⟩
    rintro ⟨_, _, other, _⟩
    rcases waits with rfl | rfl <;> cases read.symm.trans other
  idle := fun skipped => absurd skipped unskipped
  chosen := by
    rw [branchless]
    rintro _ ⟨⟩
  undecided := by
    intro _ _ _ other
    rcases waits with rfl | rfl <;> cases read.symm.trans other
  capped := by
    rintro _ _ (same | same)
    all_goals rcases waits with rfl | rfl <;> cases read.symm.trans same
    · exact ⟨few, capped⟩
    · exact ⟨few, capped⟩
  counted := by
    intro _ _ other
    rcases waits with rfl | rfl <;> cases read.symm.trans other

/-- The report of a loop with a given number of passes. -/
theorem of_times (read : Block.read record = .ok (.times optional loop))
    (skipped : result.status = .skipped ↔ loop.maxIterations.getD 0 ≤ 0)
    (idle : result.status = .skipped → result.iterations = 0 ∧ result.conditionsEvaluated = 0)
    (branchless : result.branch = none)
    (few : result.iterations.toNat ≤ (loop.maxIterations.getD 0).toNat) :
    result.WellFormed hooks polling record before where
  error := error
  skipped := by
    rw [skipped]
    refine ⟨fun none => ⟨optional, loop, read, none⟩, ?_⟩
    rintro ⟨_, _, same, none⟩
    cases read.symm.trans same
    exact none
  idle := idle
  chosen := by
    rw [branchless]
    rintro _ ⟨⟩
  undecided := by
    intro _ _ _ other
    cases read.symm.trans other
  capped := by
    rintro _ _ (other | other) <;> cases read.symm.trans other
  counted := by
    intro _ _ same
    cases read.symm.trans same
    exact few

end BlockResult.WellFormed

namespace Runner

variable {World Item : Type} {hooks : Hooks World} {polling : Polling} {record : Datum}
  {before inside : Run World} {outcome : Except RunError BlockStatus}

theorem attempt_congr {part other : Runner World BlockStatus} {run middle : Run World}
    (same : part run = other middle) : attempt part run = attempt other middle := by
  unfold attempt
  rw [same]

/-- The branch that is taken is the one that is counted, and its items are the only ones that matter. -/
theorem ifElse_ignores {condition : Condition} {thenItems elseItems : List Datum} {branch : Branch}
    (fresh : before.tally = {})
    (tried : attempt ((Block.ifElse condition thenItems elseItems).run hooks (nestedItem hooks polling))
      before = (.ok outcome, inside))
    (chosen : inside.tally.branch = some branch) :
    Block.Ignores hooks polling before condition thenItems elseItems branch := by
  have counts : Tallies (· = {}) (check hooks condition)
      (fun _ tally => tally = { conditionsEvaluated := 1 })
      fun error tally => error.OfPass ∧ tally.branch = none ∧ tally.iterations = 0 :=
    check_first condition
  rcases checked : check hooks condition before with ⟨halt | holds, middle⟩
  · -- Where the check fails no branch is taken.
    have halted : (Block.ifElse condition thenItems elseItems).run hooks (nestedItem hooks polling)
        before = (.error halt, middle) := by
      rw [ifElse_eq]
      exact bind_of_halt checked _
    unfold attempt at tried
    rw [halted] at tried
    dsimp only at tried
    cases settled : halt.settled? with
    | none =>
      rw [settled] at tried
      cases tried
    | some error =>
      rw [settled] at tried
      cases tried
      have unchosen := (counts.halted fresh checked error settled).2.1
      rw [chosen] at unchosen
      cases unchosen
  · have began := counts.ended fresh checked
    have taken (items others : List Datum) :
        (Block.ifElse condition items others).run hooks (nestedItem hooks polling) before =
          (if holds then takeBranch hooks (nestedItem hooks polling) .thenItems items
            else takeBranch hooks (nestedItem hooks polling) .elseItems others) middle := by
      rw [ifElse_eq]
      exact bind_of_ok checked _
    rw [attempt_congr (taken thenItems elseItems)] at tried
    have counted (taken : Branch) (items : List Datum)
        (tried : attempt (takeBranch hooks (nestedItem hooks polling) taken items) middle =
          (.ok outcome, inside)) : branch = taken := by
      have told := (takeBranch_tallies taken fun item _ =>
        (runItem_uncounting item : Uncounting (nestedItem hooks polling item))).attempted began tried
      have left : inside.tally = Tally.chosen taken := by
        cases outcome with
        | ok status => exact told.2
        | error error => exact told.2
      rw [left] at chosen
      exact (Option.some.inj chosen).symm
    cases holds with
    | true =>
      obtain rfl := counted .thenItems thenItems tried
      exact fun others => (taken thenItems others).trans (taken thenItems elseItems).symm
    | false =>
      obtain rfl := counted .elseItems elseItems tried
      exact fun others => (taken others elseItems).trans (taken thenItems elseItems).symm

/-- Only a failed block tells an error. -/
theorem blockResult_error (unfailed : outcome ≠ .ok .failed) :
    (blockResult record before.now inside outcome).error.isSome = true ↔
      (blockResult record before.now inside outcome).status = .failed := by
  cases outcome with
  | error error => exact ⟨fun _ => rfl, fun _ => rfl⟩
  | ok status =>
    constructor
    · intro told
      cases told
    · exact fun failed => absurd (congrArg Except.ok failed) unfailed

/-- The report of a record that cannot be read. -/
theorem invalid_wellFormed {fault : BlockFault} (read : Block.read record = .error fault)
    (tried : attempt (blockContent hooks polling record) before.opened = (.ok outcome, inside)) :
    (blockResult record before.now inside outcome).WellFormed hooks polling record before := by
  have content : blockContent hooks polling record = fail (.invalidBlock fault) := by
    simp only [blockContent, read]
  rw [content] at tried
  cases tried
  apply BlockResult.WellFormed.of_unread (blockResult_error (by rintro ⟨⟩)) read
  · rintro ⟨⟩
  · rfl

section Readable

variable {condition : Condition} {optional : Option Condition} {loop : Block.Loop Datum}
  {thenItems elseItems : List Datum}
  (tried : attempt (blockContent hooks polling record) before.opened = (.ok outcome, inside))

include tried

theorem ifElse_wellFormed
    (read : Block.read record = .ok (.ifElse condition thenItems elseItems)) :
    (blockResult record before.now inside outcome).WellFormed hooks polling record before := by
  have told := (blockContent_tallies read).attempted rfl tried
  have ran : blockContent hooks polling record =
      (Block.ifElse condition thenItems elseItems).run hooks (nestedItem hooks polling) := by
    simp only [blockContent, read]
    rfl
  rw [ran] at tried
  have chosen (branch : Branch) (known : inside.tally = Tally.chosen branch) :
      Block.Ignores hooks polling before.opened condition thenItems elseItems branch :=
    ifElse_ignores rfl tried (congrArg Tally.branch known)
  cases outcome with
  | ok status =>
    obtain ⟨rfl, branch, known⟩ := told
    refine .of_ifElse (blockResult_error (by rintro ⟨⟩)) read (by rintro ⟨⟩) (.inr ⟨branch, ?_⟩)
    exact ⟨congrArg Tally.branch known, congrArg Tally.iterations known,
      congrArg Tally.conditionsEvaluated known, chosen branch known⟩
  | error error =>
    refine .of_ifElse (blockResult_error (by rintro ⟨⟩)) read (by rintro ⟨⟩) ?_
    obtain ⟨_, unchosen | ⟨branch, known⟩⟩ := told
    · exact .inl ⟨rfl, unchosen⟩
    · exact .inr ⟨branch, congrArg Tally.branch known, congrArg Tally.iterations known,
        congrArg Tally.conditionsEvaluated known, chosen branch known⟩

omit tried in
/-- At its limit a loop that waits for a condition has made all its passes. -/
theorem FailedLoop.capped {error : RunError} {tally : Tally}
    (failed : FailedLoop loop.cap error tally) {n : Nat}
    (told : error.message = (RunError.maxIterations n).message) : tally.iterations.toNat = loop.cap := by
  obtain ⟨_, ofPass | rfl | ⟨_, made⟩⟩ := failed
  · exact absurd told (RunError.message_ne_of_pass ofPass n)
  · exact absurd told (RunError.message_ne_of_timeout n)
  · rw [made.2, UInt32.toNat_ofNat_of_lt' (Nat.lt_succ_of_le loop.cap_le)]

theorem waits_wellFormed {block : Block Datum} (read : Block.read record = .ok block)
    (waits : block = .whileHolds condition loop ∨ block = .untilHolds condition loop)
    (few : inside.tally.iterations.toNat ≤ loop.cap) :
    (blockResult record before.now inside outcome).WellFormed hooks polling record before := by
  have told : Tried (fun status tally => status = .succeeded ∧ Branchless tally) (FailedLoop loop.cap)
      outcome inside.tally := by
    have known := (blockContent_tallies read).attempted rfl tried
    rcases waits with rfl | rfl
    · exact known
    · exact known
  cases outcome with
  | ok status =>
    obtain ⟨rfl, branchless⟩ := told
    apply BlockResult.WellFormed.of_waits (blockResult_error (by rintro ⟨⟩)) read waits (by rintro ⟨⟩)
      branchless few
    rintro _ ⟨⟩
  | error error =>
    apply BlockResult.WellFormed.of_waits (blockResult_error (by rintro ⟨⟩)) read waits (by rintro ⟨⟩)
      told.1 few
    exact fun _ limited => FailedLoop.capped told (Option.some.inj limited)

theorem times_wellFormed (read : Block.read record = .ok (.times optional loop))
    (few : inside.tally.iterations.toNat ≤ (loop.maxIterations.getD 0).toNat) :
    (blockResult record before.now inside outcome).WellFormed hooks polling record before := by
  have told := (blockContent_tallies read).attempted rfl tried
  cases outcome with
  | ok status =>
    simp only [Tried, Finished] at told
    split at told
    next none =>
      obtain ⟨rfl, fresh⟩ := told
      refine .of_times (blockResult_error (by rintro ⟨⟩)) read ⟨fun _ => none, fun _ => rfl⟩ ?_
        (congrArg Tally.branch fresh) few
      exact fun _ => ⟨congrArg Tally.iterations fresh, congrArg Tally.conditionsEvaluated fresh⟩
    next some =>
      obtain ⟨rfl, branchless⟩ := told
      refine .of_times (blockResult_error (by rintro ⟨⟩)) read ⟨?_, fun none => absurd none some⟩ ?_
        branchless few
      · rintro ⟨⟩
      · rintro ⟨⟩
  | error error =>
    obtain ⟨some, _, branchless⟩ := told
    refine .of_times (blockResult_error (by rintro ⟨⟩)) read
      ⟨?_, fun none => absurd none (Int.not_le.2 some)⟩ ?_ branchless few
    · rintro ⟨⟩
    · rintro ⟨⟩

end Readable

/-- The fields of the report that a block leaves belong together. -/
theorem runBlock_wellFormed {after : Run World} {status : BlockStatus}
    (ended : runBlock hooks polling record before = (.ok status, after)) :
    ∃ result, after.blocks.back? = some result ∧ result.status = status ∧
      result.WellFormed hooks polling record before := by
  have reported := ended
  rw [runBlock_eq] at reported
  rcases reporting_cases record (blockContent hooks polling record) before with
    ⟨outcome, inside, tried, same⟩ | ⟨_, _, _, same⟩
  · rw [same] at reported
    cases reported
    refine ⟨blockResult record before.now inside outcome, Array.back?_push, rfl, ?_⟩
    cases read : Block.read record with
    | error fault => exact invalid_wellFormed read tried
    | ok block =>
      have few : inside.tally.iterations.toNat ≤ block.limit := by
        obtain ⟨_, result, _, _, blocks, counts, _⟩ := runBlock_ran read ended
        obtain ⟨passes, tallies, counted⟩ := counts.tallies
        have last : blockResult record before.now inside outcome = result := by
          have reports : inside.blocks.toList ++ [blockResult record before.now inside outcome] = _ :=
            Array.toList_push.symm.trans blocks
          simpa using congrArg List.getLast? reports
        calc inside.tally.iterations.toNat
          _ = result.iterations.toNat := congrArg (fun report => report.iterations.toNat) last
          _ = passes % 4294967296 := by rw [counted, UInt32.toNat_ofNat']
          _ ≤ passes := Nat.mod_le _ _
          _ ≤ block.limit := tallies.within
      cases block with
      | ifElse condition thenItems elseItems => exact ifElse_wellFormed tried read
      | whileHolds condition loop => exact waits_wellFormed tried read (.inl rfl) few
      | untilHolds condition loop => exact waits_wellFormed tried read (.inr rfl) few
      | times condition loop => exact times_wellFormed tried read few
  · rw [same] at reported
    cases reported

end Runner

/-! ## Reports of a run -/

/-- A block record in another: the record itself, or one that is nested in it at whatever depth. -/
inductive Block.Nests : Datum → Datum → Prop where
  | self (record : Datum) : Nests record record
  | deeper {record item inner : Datum} {block : Block Datum} (read : Block.read record = .ok block)
      (member : item ∈ block.items) (isBlock : Item.read item = .ok .block) (nests : Nests item inner) :
      Nests record inner

/-- A block record of a sequence, at whatever depth. -/
def Sequence.HoldsBlock (sequence : Sequence) (record : Datum) : Prop :=
  ∃ outer ∈ sequence.blocks, Block.Nests (Datum.ofJson outer) record

/-- A block record was run by the time when the journal told `acts`, it left this report, and the fields
of the report belong together. -/
def BlockResult.IsOf {World : Type} (hooks : Hooks World) (polling : Polling) (acts : List Act)
    (record : Datum) (report : BlockResult) : Prop :=
  ∃ before after : Run World,
    Runner.runBlock hooks polling record before = (.ok report.status, after) ∧
    after.blocks.back? = some report ∧ after.acts <+: acts ∧
    report.WellFormed hooks polling record before

section Chronicles

variable {World : Type} {hooks : Hooks World} {polling : Polling} {told acts : List Act}
  {record : Datum} {report : BlockResult} {deeds : List Deed}

theorem BlockResult.IsOf.later {more : List Act} (isOf : report.IsOf hooks polling acts record)
    (continued : acts <+: more) : report.IsOf hooks polling more record := by
  obtain ⟨before, after, ran, reported, earlier, wellFormed⟩ := isOf
  exact ⟨before, after, ran, reported, earlier.trans continued, wellFormed⟩

theorem Block.Left.isOf (left : Block.Left hooks polling told record (Deed.chapter deeds report)) :
    report.IsOf hooks polling (told ++ deeds.flatMap Deed.acts) record := by
  obtain ⟨before, after, status, rfl, ran, acts, blocks⟩ := left
  obtain ⟨result, reported, rfl, wellFormed⟩ := Runner.runBlock_wellFormed ran
  have last : after.blocks.back? = some report := by
    rw [← Array.getLast?_toList, blocks]
    simp [Deed.chapter]
  obtain rfl : result = report := Option.some.inj (reported.symm.trans last)
  exact ⟨before, after, ran, reported, acts ▸ List.prefix_rfl, wellFormed⟩

/-- The reports of deeds are those of the blocks among them. -/
theorem Deed.mem_results (member : report ∈ deeds.flatMap Deed.results) :
    ∃ earlier item chapter later, deeds = earlier ++ .block item chapter :: later ∧
      report ∈ chapter.results := by
  obtain ⟨deed, among, reported⟩ := List.mem_flatMap.1 member
  obtain ⟨earlier, later, rfl⟩ := List.append_of_mem among
  cases deed with
  | own act => cases reported
  | step step acts => cases reported
  | block item chapter => exact ⟨earlier, item, chapter, later, rfl, reported⟩

theorem Deed.acts_prefix (told : List Act) (earlier : List Deed) (item : Datum) (chapter : Chapter)
    (later : List Deed) :
    told ++ earlier.flatMap Deed.acts ++ chapter.acts <+:
      told ++ (earlier ++ Deed.block item chapter :: later).flatMap Deed.acts := by
  refine ⟨later.flatMap Deed.acts, ?_⟩
  simp [Deed.acts]

/-- Every report in the chronicle of a block is that of a block record in it, by induction on the
chronicle. -/
theorem Block.Chronicle.reports {chapter : Chapter}
    (chronicle : Block.Chronicle hooks polling told record chapter) :
    ∀ report ∈ chapter.results, ∃ inner, Block.Nests record inner ∧
      report.IsOf hooks polling (told ++ chapter.acts) inner := by
  induction chronicle with
  | unread _ left =>
    intro report member
    obtain rfl := List.mem_singleton.1 member
    exact ⟨_, .self _, left.isOf⟩
  | ran read left _ _ blocks _ _ _ ih =>
    intro report member
    rcases List.mem_append.1 member with nested | own
    · obtain ⟨earlier, item, chapter, later, same, reported⟩ := Deed.mem_results nested
      obtain ⟨inner, nests, isOf⟩ := ih earlier item chapter later same report reported
      obtain ⟨among, isBlock⟩ := blocks earlier item chapter later same
      subst same
      exact ⟨inner, .deeper read among isBlock nests, isOf.later (Deed.acts_prefix ..)⟩
    · obtain rfl := List.mem_singleton.1 own
      exact ⟨_, .self _, left.isOf⟩

end Chronicles

namespace Sequence

variable {World : Type}

/-- Each report in the result of a run is that of a block record of the sequence, at whatever depth, which
was run at some point of it, and its fields belong together. -/
theorem execute_reports (sequence : Sequence) (hooks : Hooks World) (polling : Polling)
    (epoch : Instant) (world : World) (now : Nat) (cancelled : Bool) {result : RunResult}
    {run : Run World}
    (ended : sequence.execute hooks polling epoch { world, now, cancelled } = (.ok result, run)) :
    ∀ report ∈ result.blocks, ∃ record, sequence.HoldsBlock record ∧
      report.IsOf hooks polling run.acts record := by
  obtain ⟨deeds, acts, blocks, inPlace⟩ := execute_narrates ended
  intro report member
  have reported : report ∈ deeds.flatMap Deed.results := blocks ▸ member
  obtain ⟨earlier, item, chapter, later, rfl, among⟩ := Deed.mem_results reported
  obtain ⟨given, chronicle⟩ := inPlace earlier _ later rfl
  obtain ⟨outer, held, rfl⟩ := List.mem_map.1 given
  obtain ⟨inner, nests, isOf⟩ := chronicle.reports report among
  refine ⟨inner, ⟨outer, held, nests⟩, isOf.later ?_⟩
  rw [acts]
  exact Deed.acts_prefix [] earlier _ chapter later

/-- On patrol the window cannot be seen: its block fails before a branch is taken, and the loop around
it in its first pass of two. -/
theorem execute_reports_patrol :
    ∃ (result : RunResult) (run : Run Nat),
      patrol.execute nearSighted { patience := 1 } ⟨0, 0⟩ { world := 0 } = (.ok result, run) ∧
      result.blocks.map (fun report => (report.blockType, report.status, report.iterations, report.branch)) =
        [("ifElse", .failed, 0, none), ("repeatCount", .failed, 1, none)] ∧
      ∀ report ∈ result.blocks, ∃ record, patrol.HoldsBlock record ∧
        report.IsOf nearSighted { patience := 1 } run.acts record := by
  have reports : (patrol.execute nearSighted { patience := 1 } ⟨0, 0⟩ { world := 0 }).1.toOption.map
      (·.blocks.map fun report => (report.blockType, report.status, report.iterations, report.branch)) =
        some [("ifElse", .failed, 0, none), ("repeatCount", .failed, 1, none)] := by decide +kernel
  rcases ended : patrol.execute nearSighted { patience := 1 } ⟨0, 0⟩ { world := 0 } with
    ⟨halt | result, run⟩
  · rw [ended] at reports
    cases reports
  · rw [ended] at reports
    exact ⟨result, run, rfl, Option.some.inj reports,
      execute_reports patrol nearSighted { patience := 1 } ⟨0, 0⟩ 0 0 false ended⟩

end Sequence

end Autopilot
