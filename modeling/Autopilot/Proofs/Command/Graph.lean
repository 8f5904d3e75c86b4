import Autopilot.Command.Execution
import Autopilot.Proofs.Sorting
import Autopilot.Proofs.Store
import Mathlib.Data.List.Chain
import Mathlib.Data.List.Dedup

/-!
The graph of stored commands. The steps of a command are taken in ascending order, and
those of equal order as they are stored; by following the references of each step in its
place, a command expands to the batches of inputs that it stands for. Commands that
call each other in a circle have no expansion.
-/

namespace Autopilot

/-! ## The order of steps -/

namespace Command

/-- The same steps in ascending order; steps of equal order stand as they are stored. -/
structure Arranged (stored steps : List CommandStep) : Prop where
  ascending : steps.Pairwise fun a b => a.order ≤ b.order
  stable : ∀ order : Int, (steps.filter fun step => step.order = order) =
    stored.filter fun step => step.order = order

namespace Arranged

variable {stored steps : List CommandStep}

theorem mem_iff (arranged : Arranged stored steps) (step : CommandStep) :
    step ∈ steps ↔ step ∈ stored := by
  have same := arranged.stable step.order
  constructor
  · intro member
    have kept : step ∈ steps.filter fun other => other.order = step.order :=
      List.mem_filter.2 ⟨member, decide_eq_true rfl⟩
    rw [same] at kept
    exact (List.mem_filter.1 kept).1
  · intro member
    have kept : step ∈ stored.filter fun other => other.order = step.order :=
      List.mem_filter.2 ⟨member, decide_eq_true rfl⟩
    rw [← same] at kept
    exact (List.mem_filter.1 kept).1

/-- The head of one arrangement has the least order of all steps. -/
theorem head_le {first : CommandStep} {rest others : List CommandStep}
    (arranged : Arranged stored (first :: rest)) (other : Arranged stored others)
    {step : CommandStep} (member : step ∈ others) : first.order ≤ step.order := by
  have known := (arranged.mem_iff step).2 ((other.mem_iff step).1 member)
  rcases List.mem_cons.1 known with rfl | later
  · exact Int.le_refl _
  · exact (List.pairwise_cons.1 arranged.ascending).1 step later

/-- There is only one way to arrange steps. -/
theorem unique {others : List CommandStep} (arranged : Arranged stored steps)
    (other : Arranged stored others) : steps = others := by
  induction steps generalizing stored others with
  | nil =>
    cases others with
    | nil => rfl
    | cons second more =>
      have known := (other.mem_iff second).1 List.mem_cons_self
      exact absurd ((arranged.mem_iff second).2 known) List.not_mem_nil
  | cons first rest ih =>
    cases others with
    | nil =>
      have known := (arranged.mem_iff first).1 List.mem_cons_self
      exact absurd ((other.mem_iff first).2 known) List.not_mem_nil
    | cons second more =>
      have level : second.order = first.order :=
        Int.le_antisymm (other.head_le arranged List.mem_cons_self)
          (arranged.head_le other List.mem_cons_self)
      have same (order : Int) := (arranged.stable order).trans (other.stable order).symm
      obtain rfl : first = second := by
        have heads := same first.order
        rw [List.filter_cons_of_pos (by simp), List.filter_cons_of_pos (by simpa using level)]
          at heads
        exact (List.cons.inj heads).1
      -- What is left are two arrangements of one of the two rests.
      have left : Arranged more rest := by
        refine ⟨(List.pairwise_cons.1 arranged.ascending).2, fun order => ?_⟩
        have tails := same order
        by_cases here : first.order = order
        · rw [List.filter_cons_of_pos (by simpa using here),
            List.filter_cons_of_pos (by simpa using here)] at tails
          exact (List.cons.inj tails).2
        · rwa [List.filter_cons_of_neg (by simpa using here),
            List.filter_cons_of_neg (by simpa using here)] at tails
      have right : Arranged more more :=
        ⟨(List.pairwise_cons.1 other.ascending).2, fun _ => rfl⟩
      rw [ih left right]

end Arranged

/-- Sorting the steps arranges them. -/
theorem orderedSteps_arranged (c : Command) : Arranged c.steps c.orderedSteps :=
  ⟨pairwise_mergeSort_order CommandStep.order c.steps,
    filter_mergeSort_order CommandStep.order c.steps⟩

end Command

/-! ## References -/

/-- What an action sends: its inputs as one batch, and nothing if it has none. -/
def Action.batch? (a : Action) : Option (List Input) := if a.hasInputs then some a.inputs else none

namespace Repertoire

/-- The command of one id has a step that runs the command of another id. -/
def Calls (r : Repertoire) (caller id : String) : Prop :=
  ∃ command, r.commands.get caller = .ok (some command) ∧
    ∃ step ∈ command.steps, step.target = .command id

/-- Ids of which each calls the next, from a given one on. -/
def CallPath (r : Repertoire) (start : String) (ids : List String) : Prop :=
  ids.head? = some start ∧ ids.IsChain r.Calls

/-- No command calls itself, not even through others, when ids are compared in lower case. -/
def Acyclic (r : Repertoire) (start : String) : Prop :=
  ∀ ids, r.CallPath start ids → (ids.map r.lowerCase).Nodup

/-- All commands and actions that can be reached from a command are stored. -/
def Resolves (r : Repertoire) (start : String) : Prop :=
  ∀ ids id, r.CallPath start (ids ++ [id]) → ∃ command, r.commands.get id = .ok (some command) ∧
    ∀ step ∈ command.steps, ∀ name, step.target = .action name →
      ∃ action, r.actions.get name = .ok (some action)

/-- The keys by which stored commands are told apart while they run. -/
def keys (r : Repertoire) : List String :=
  (r.commands.shelf.records.map fun command => r.lowerCase command.id).dedup

theorem mem_keys {r : Repertoire} {id : String} {command : Command}
    (found : r.commands.get id = .ok (some command)) : r.lowerCase id ∈ r.keys := by
  obtain ⟨stored, named⟩ := (Shelf.get?_eq_some_iff _ _ _).1 (Store.get?_of_get found)
  refine List.mem_dedup.2 (List.mem_map.2 ⟨command, stored, ?_⟩)
  exact congrArg r.lowerCase named

/-! ## Expansion -/

/-- The batches that targets stand for, one after the other: those of an action are its own, and
those of a command are what its steps stand for. -/
inductive Expansion (r : Repertoire) : List Target → List (List Input) → Prop where
  | nil : Expansion r [] []
  | action {id : String} {action : Action} {rest : List Target} {batches : List (List Input)}
      (found : r.actions.get id = .ok (some action)) (later : Expansion r rest batches) :
      Expansion r (.action id :: rest) (action.batch?.toList ++ batches)
  | command {id : String} {command : Command} {steps : List CommandStep} {rest : List Target}
      {inner batches : List (List Input)} (found : r.commands.get id = .ok (some command))
      (arranged : Command.Arranged command.steps steps)
      (within : Expansion r (steps.map CommandStep.target) inner)
      (later : Expansion r rest batches) : Expansion r (.command id :: rest) (inner ++ batches)

/-- Batches that the expansion of targets begins with, also where it would never end. -/
inductive Opening (r : Repertoire) : List Target → List (List Input) → Prop where
  | begun (targets : List Target) : Opening r targets []
  | action {id : String} {action : Action} {rest : List Target} {batches : List (List Input)}
      (found : r.actions.get id = .ok (some action)) (later : Opening r rest batches) :
      Opening r (.action id :: rest) (action.batch?.toList ++ batches)
  | command {id : String} {command : Command} {steps : List CommandStep} {rest : List Target}
      {batches : List (List Input)} (found : r.commands.get id = .ok (some command))
      (arranged : Command.Arranged command.steps steps)
      (later : Opening r (steps.map CommandStep.target ++ rest) batches) :
      Opening r (.command id :: rest) batches

namespace Expansion

variable {r : Repertoire}

theorem append {first rest : List Target} {before after : List (List Input)}
    (one : Expansion r first before) (other : Expansion r rest after) :
    Expansion r (first ++ rest) (before ++ after) := by
  induction one with
  | nil => exact other
  | action found _ ih =>
    rw [List.append_assoc]
    exact .action found ih
  | command found arranged within _ _ ih =>
    rw [List.append_assoc]
    exact .command found arranged within ih

theorem split {first rest : List Target} {batches : List (List Input)}
    (expands : Expansion r (first ++ rest) batches) :
    ∃ before after, batches = before ++ after ∧ Expansion r first before ∧ Expansion r rest after := by
  induction first generalizing batches with
  | nil => exact ⟨[], batches, rfl, .nil, expands⟩
  | cons target first ih =>
    cases expands with
    | action found later =>
      obtain ⟨before, after, rfl, one, other⟩ := ih later
      exact ⟨_, after, (List.append_assoc _ _ _).symm, .action found one, other⟩
    | command found arranged within later =>
      obtain ⟨before, after, rfl, one, other⟩ := ih later
      exact ⟨_, after, (List.append_assoc _ _ _).symm, .command found arranged within one, other⟩

/-- Targets stand for one list of batches at most. -/
theorem unique {targets : List Target} {batches others : List (List Input)}
    (one : Expansion r targets batches) (other : Expansion r targets others) :
    batches = others := by
  induction one generalizing others with
  | nil =>
    cases other
    rfl
  | action found _ ih =>
    cases other with
    | action again later =>
      cases found.symm.trans again
      rw [ih later]
  | command found arranged _ _ inner ih =>
    cases other with
    | command again rearranged within later =>
      cases found.symm.trans again
      cases arranged.unique rearranged
      rw [inner within, ih later]

end Expansion

/-- Where targets have an expansion, they open with nothing but its first batches. -/
theorem Opening.within {r : Repertoire} {targets : List Target} {first batches : List (List Input)}
    (opening : Opening r targets first) (expands : Expansion r targets batches) :
    first <+: batches := by
  induction opening generalizing batches with
  | begun => exact List.nil_prefix
  | action found _ ih =>
    cases expands with
    | action again later =>
      cases found.symm.trans again
      exact (List.prefix_append_right_inj _).2 (ih later)
  | command found arranged _ ih =>
    cases expands with
    | command again rearranged within later =>
      cases found.symm.trans again
      cases arranged.unique rearranged
      exact ih (within.append later)

end Repertoire

end Autopilot
