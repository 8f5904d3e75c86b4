import Autopilot.Proofs.Sequence.Parts

/-!
Waiting at gates. A closed gate is polled for as long as the patience of whoever looks
at the run lasts, and a run whose patience ends still waits. With more patience every
run that does not wait anymore is the same, so patience bounds how far a run is looked
at, and not what it does.
-/

namespace Autopilot

namespace Runner

variable {World α β Item : Type} {hooks : Hooks World}

section Halts

variable {part : Runner World α} {run after : Run World} {halt : Halt}

theorem halt_ne_impatient (ends : (part run).1 ≠ .error .impatient)
    (halted : part run = (.error halt, after)) : halt ≠ .impatient := by
  rw [halted] at ends
  rintro rfl
  exact ends rfl

theorem ne_impatient_of_halted (halted : part run = (.error halt, after))
    (never : halt ≠ .impatient) : (part run).1 ≠ .error .impatient := by
  rw [halted]
  intro waits
  exact never (Except.error.inj waits)

end Halts

/-- A part that goes on as another does wherever that does not wait at a gate. -/
def Outlasts (longer part : Runner World α) : Prop :=
  ∀ run, (part run).1 ≠ .error .impatient → longer run = part run

namespace Outlasts

theorem refl (part : Runner World α) : Outlasts part part := fun _ _ => rfl

theorem impatient (longer : Runner World α) : Outlasts longer (throw .impatient) :=
  fun _ waits => absurd rfl waits

/-- If the first part does not wait, the next is begun in the same run. -/
theorem bind {longer part : Runner World α} {goesOn next : α → Runner World β}
    (first : Outlasts longer part) (later : ∀ value, Outlasts (goesOn value) (next value)) :
    Outlasts (longer >>= goesOn) (part >>= next) := by
  intro run ended
  rcases began : part run with ⟨halt | value, middle⟩
  · have never : halt ≠ .impatient := halt_ne_impatient ended (bind_of_halt began next)
    have same := first run (ne_impatient_of_halted began never)
    rw [began] at same
    rw [bind_of_halt began]
    exact bind_of_halt same goesOn
  · rw [bind_of_ok began] at ended ⊢
    have going : (part run).1 ≠ .error .impatient := by
      rw [began]
      nofun
    have same := first run going
    rw [began] at same
    rw [bind_of_ok same]
    exact later value middle ended

theorem ite {condition : Prop} [Decidable condition] {longer part goesOn other : Runner World α}
    (first : Outlasts longer part) (second : Outlasts goesOn other) :
    Outlasts (if condition then longer else goesOn) (if condition then part else other) := by
  split
  · exact first
  · exact second

theorem attempt {longer part : Runner World α} (inner : Outlasts longer part) :
    Outlasts (Runner.attempt longer) (Runner.attempt part) := by
  intro run ended
  have same : longer run = part run := by
    refine inner run fun waits => ended ?_
    rcases attempt_cases part run with ⟨_, _, went, _⟩ | ⟨_, _, went, _, _⟩ | ⟨_, _, went, _, told⟩
    · rw [went] at waits
      cases waits
    · rw [went] at waits
      cases waits
    · rw [went] at waits
      cases waits
      rw [told]
  unfold Runner.attempt
  rw [same]

theorem reporting {longer part : Runner World BlockStatus} (inner : Outlasts longer part)
    (record : Datum) : Outlasts (Runner.reporting record longer) (Runner.reporting record part) :=
  .bind (.refl _) fun _ => .bind (.refl _) fun _ => .bind (.refl _) fun _ =>
    .bind inner.attempt fun _ => .refl _

theorem composes : Composes hooks fun {_} part => Outlasts (part true) (part false) where
  pure _ := .refl _
  bind := .bind
  clock := .refl _
  fail _ _ := .refl _
  checkCancel := .refl _
  count _ := .refl _
  pause _ := .refl _
  evaluate _ _ _ := .refl _

end Outlasts

section Steps

variable {polling : Polling} {more : Nat} (patient : polling.patience ≤ more)

/-- A gate, by induction on how often it is still polled. -/
theorem awaitGate_outlasts (step : Step) (gate : Condition) (deadline : Option Nat)
    {budget patience : Nat} (le : patience ≤ budget) :
    Outlasts (awaitGate hooks { polling with patience := more } step gate deadline budget)
      (awaitGate hooks polling step gate deadline patience) := by
  induction patience generalizing budget with
  | zero =>
    cases budget with
    | zero => exact .refl _
    | succ budget => exact .bind (.refl checkCancel) fun _ => .impatient _
  | succ patience ih =>
    cases budget with
    | zero => cases le
    | succ budget =>
      refine .bind (.refl _) fun _ => .bind (.refl _) fun isOpen => .ite (.refl _) ?_
      exact .bind (.refl _) fun ms => .bind (.refl _) fun _ => ih (Nat.le_of_succ_le_succ le)

include patient

theorem passGate_outlasts (step : Step) :
    Outlasts (passGate hooks { polling with patience := more } step)
      (passGate hooks polling step) := by
  unfold passGate
  cases step.gate with
  | none => exact .refl _
  | some gate => exact .bind (.refl _) fun run => awaitGate_outlasts step gate _ patient

theorem performStep_outlasts (step : Step) (delayMs : Nat) :
    Outlasts (performStep hooks { polling with patience := more } step delayMs)
      (performStep hooks polling step delayMs) :=
  .bind (passGate_outlasts patient step).attempt fun _ => .refl _

theorem runStep_outlasts (step : Step) :
    Outlasts (runStep hooks { polling with patience := more } step)
      (runStep hooks polling step) := by
  refine .bind (.refl _) fun _ => .bind (.refl _) fun _ => .bind (.refl _) fun ms => ?_
  refine .ite (.bind (.refl _) fun _ => ?_) ?_
  · exact performStep_outlasts patient step ms
  · exact performStep_outlasts patient step ms

theorem runSteps_outlasts (steps : List Step) :
    Outlasts (runSteps hooks { polling with patience := more } steps)
      (runSteps hooks polling steps) := by
  induction steps with
  | nil => exact .refl _
  | cons step rest ih =>
    refine .bind (runStep_outlasts patient step) fun result => .bind (.refl _) fun _ => ?_
    exact .ite (.refl _) ih

end Steps

section Top

variable {polling : Polling} {more : Nat} (patient : polling.patience ≤ more)

include patient

theorem runBlock_outlasts (record : Datum) :
    Outlasts (runBlock hooks { polling with patience := more } record)
      (runBlock hooks polling record) := by
  rw [runBlock_eq, runBlock_eq]
  apply Outlasts.reporting
  apply blockContent_composes Outlasts.composes (.refl _) (.refl _)
    (fun longer => if longer then { polling with patience := more } else polling) record
    fun _ _ _ => trivial
  · intro step _
    exact .bind (runStep_outlasts patient step) fun _ => .refl _
  · intro inner content outlasts
    exact .bind (outlasts.reporting inner) fun _ => .refl _

theorem runBlocks_outlasts (records : List Datum) :
    Outlasts (runBlocks hooks { polling with patience := more } records)
      (runBlocks hooks polling records) := by
  induction records with
  | nil => exact .refl _
  | cons record rest ih =>
    refine .bind (.refl _) fun _ => .bind (.refl _) fun _ => ?_
    refine .bind (runBlock_outlasts patient record) fun status => .bind (.refl _) fun run => ?_
    exact .bind ih fun later => .refl _

theorem runParts_outlasts (sequence : Sequence) :
    Outlasts (runParts hooks { polling with patience := more } sequence)
      (runParts hooks polling sequence) := by
  refine .bind (runSteps_outlasts patient _) fun failure => ?_
  cases failure with
  | some error => exact .refl _
  | none => exact runBlocks_outlasts patient _

end Top

end Runner

namespace Sequence

variable {World : Type}

/-- A run that does not wait at a gate anymore is the same for anybody with more patience. -/
theorem execute_of_patient (sequence : Sequence) (hooks : Hooks World) (polling : Polling)
    (epoch : Instant) (start : Run World) {more : Nat} (patient : polling.patience ≤ more)
    (ended : (sequence.execute hooks polling epoch start).1 ≠ .error .impatient) :
    sequence.execute hooks { polling with patience := more } epoch start =
      sequence.execute hooks polling epoch start := by
  have same : Runner.runParts hooks { polling with patience := more } sequence start =
      Runner.runParts hooks polling sequence start := by
    refine Runner.runParts_outlasts patient sequence start fun waits => ended ?_
    unfold execute
    rcases parts : Runner.runParts hooks polling sequence start with ⟨halt | failure, after⟩
    · rw [parts] at waits
      cases waits
      rfl
    · rw [parts] at waits
      cases waits
  unfold execute
  rw [same]

end Sequence

end Autopilot
