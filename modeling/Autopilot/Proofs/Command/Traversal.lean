import Autopilot.Proofs.Command.Graph
import Mathlib.Data.List.Perm.Subperm

/-!
Going through the graph of commands depth first, one move at a time. A position has the
one path that is kept, and the agenda of what is still to be done; a command that is
entered goes onto the path, its steps and a note to leave it go onto the agenda, and when
the note comes up the command is taken off the path again. What holds at every position
that can be reached follows from the shape of the agenda: it has one note for each command
on the path, with the steps of that command before it that are still to be done.
-/

namespace Autopilot

/-- What is still to be done: a step, or leaving the command that was entered last. -/
inductive Pending where
  | step (target : Target)
  | leave
  deriving DecidableEq

/-- A place in a traversal. -/
structure Position where
  path : List String
  agenda : List Pending

namespace Position

/-- At the start only one command is to be run. -/
def start (id : String) : Position := ⟨[], [.step (.command id)]⟩

/-- Whether a command is to be run next. -/
def Runs (p : Position) : Prop := ∃ id agenda, p.agenda = .step (.command id) :: agenda

/-- The targets that are still to be visited. -/
def targets (p : Position) : List Target :=
  p.agenda.filterMap fun
    | .step target => some target
    | .leave => none

end Position

/-- Steps as entries of an agenda. -/
def Pending.ofSteps (steps : List CommandStep) : List Pending :=
  steps.map fun step => .step step.target

/-- One move of a traversal, and the batch that is met in it. -/
inductive Moves (r : Repertoire) : Position → Option (List Input) → Position → Prop where
  | enter {path : List String} {id : String} {agenda : List Pending} {command : Command}
      {steps : List CommandStep} (fresh : r.lowerCase id ∉ path)
      (found : r.commands.get id = .ok (some command))
      (arranged : Command.Arranged command.steps steps) :
      Moves r ⟨path, .step (.command id) :: agenda⟩ none
        ⟨path ++ [r.lowerCase id], Pending.ofSteps steps ++ .leave :: agenda⟩
  | act {path : List String} {id : String} {agenda : List Pending} {action : Action}
      (found : r.actions.get id = .ok (some action)) :
      Moves r ⟨path, .step (.action id) :: agenda⟩ action.batch? ⟨path, agenda⟩
  | leave {path : List String} {last : String} {agenda : List Pending} :
      Moves r ⟨path ++ [last], .leave :: agenda⟩ none ⟨path, agenda⟩

/-- Why a traversal cannot go on. -/
inductive Blocked (r : Repertoire) : Position → CommandError → Prop where
  | cycle {path : List String} {id : String} {agenda : List Pending}
      (onPath : r.lowerCase id ∈ path) :
      Blocked r ⟨path, .step (.command id) :: agenda⟩ (.cycle id (path ++ [r.lowerCase id]))
  | commandRefused {path : List String} {id : String} {agenda : List Pending} {error : StoreError}
      (fresh : r.lowerCase id ∉ path) (refused : r.commands.get id = .error error) :
      Blocked r ⟨path, .step (.command id) :: agenda⟩ (.store error)
  | noCommand {path : List String} {id : String} {agenda : List Pending}
      (fresh : r.lowerCase id ∉ path) (missing : r.commands.get id = .ok none) :
      Blocked r ⟨path, .step (.command id) :: agenda⟩ (.notFound .command id)
  | actionRefused {path : List String} {id : String} {agenda : List Pending} {error : StoreError}
      (refused : r.actions.get id = .error error) :
      Blocked r ⟨path, .step (.action id) :: agenda⟩ (.store error)
  | noAction {path : List String} {id : String} {agenda : List Pending}
      (missing : r.actions.get id = .ok none) :
      Blocked r ⟨path, .step (.action id) :: agenda⟩ (.notFound .action id)

/-- Some moves of a traversal, and the batches that are met in them. -/
inductive Visits (r : Repertoire) : Position → List (List Input) → Position → Prop where
  | stay (p : Position) : Visits r p [] p
  | go {p q last : Position} {batch : Option (List Input)} {batches : List (List Input)}
      (first : Moves r p batch q) (later : Visits r q batches last) :
      Visits r p (batch.toList ++ batches) last

section Moves

variable {r : Repertoire} {p q : Position} {batch : Option (List Input)}

/-- At every position there is only one way to go on. -/
theorem Moves.deterministic {q' : Position} {batch' : Option (List Input)}
    (one : Moves r p batch q) (other : Moves r p batch' q') : batch = batch' ∧ q = q' := by
  generalize same : p = p' at other
  cases one with
  | enter fresh found arranged =>
    cases other with
    | enter _ again rearranged =>
      cases same
      cases found.symm.trans again
      cases arranged.unique rearranged
      exact ⟨rfl, rfl⟩
    | _ => cases same
  | act found =>
    cases other with
    | act again =>
      cases same
      cases found.symm.trans again
      exact ⟨rfl, rfl⟩
    | _ => cases same
  | leave =>
    cases other with
    | leave =>
      obtain ⟨paths, agendas⟩ := Position.mk.inj same
      rw [(List.append_inj_left' paths rfl), (List.cons.inj agendas).2]
      exact ⟨rfl, rfl⟩
    | _ => cases same

theorem Moves.not_blocked {error : CommandError} (moves : Moves r p batch q) :
    ¬ Blocked r p error := by
  intro blocked
  cases moves with
  | enter fresh found =>
    cases blocked with
    | cycle onPath => exact fresh onPath
    | commandRefused _ refused => cases found.symm.trans refused
    | noCommand _ missing => cases found.symm.trans missing
  | act found =>
    cases blocked with
    | actionRefused refused => cases found.symm.trans refused
    | noAction missing => cases found.symm.trans missing
  | leave => cases blocked

theorem Blocked.unique {error other : CommandError} (blocked : Blocked r p error)
    (again : Blocked r p other) : error = other := by
  cases blocked with
  | cycle onPath =>
    cases again with
    | cycle => rfl
    | commandRefused fresh => exact absurd onPath fresh
    | noCommand fresh => exact absurd onPath fresh
  | commandRefused fresh refused =>
    cases again with
    | cycle onPath => exact absurd onPath fresh
    | commandRefused _ other =>
      cases refused.symm.trans other
      rfl
    | noCommand _ missing => cases refused.symm.trans missing
  | noCommand fresh missing =>
    cases again with
    | cycle onPath => exact absurd onPath fresh
    | commandRefused _ refused => cases missing.symm.trans refused
    | noCommand => rfl
  | actionRefused refused =>
    cases again with
    | actionRefused other =>
      cases refused.symm.trans other
      rfl
    | noAction missing => cases refused.symm.trans missing
  | noAction missing =>
    cases again with
    | actionRefused refused => cases missing.symm.trans refused
    | noAction => rfl

theorem Moves.not_done (moves : Moves r p batch q) : p.agenda ≠ [] := by
  cases moves <;> exact List.cons_ne_nil _ _

theorem Blocked.not_done {error : CommandError} (blocked : Blocked r p error) : p.agenda ≠ [] := by
  cases blocked <;> exact List.cons_ne_nil _ _

theorem Position.Runs.not_done (runs : p.Runs) : p.agenda ≠ [] := by
  obtain ⟨id, agenda, next⟩ := runs
  rw [next]
  exact List.cons_ne_nil _ _

/-- Where a batch is met, no command comes next. -/
theorem Moves.not_runs {inputs : List Input} (moves : Moves r p (some inputs) q) : ¬ p.Runs := by
  rintro ⟨id, agenda, next⟩
  generalize same : some inputs = batch at moves
  cases moves with
  | act => cases next
  | _ => cases same

theorem Visits.trans {first rest : List (List Input)} {last : Position} (one : Visits r p first q)
    (other : Visits r q rest last) : Visits r p (first ++ rest) last := by
  induction one with
  | stay => exact other
  | go move _ ih =>
    rw [List.append_assoc]
    exact .go move (ih other)

/-- What comes after on the agenda does not matter. -/
theorem Moves.frame (moves : Moves r p batch q) (rest : List Pending) :
    Moves r ⟨p.path, p.agenda ++ rest⟩ batch ⟨q.path, q.agenda ++ rest⟩ := by
  cases moves with
  | enter fresh found arranged =>
    rw [List.append_assoc]
    exact .enter fresh found arranged
  | act found => exact .act found
  | leave => exact .leave

theorem Visits.frame {met : List (List Input)} (visits : Visits r p met q) (rest : List Pending) :
    Visits r ⟨p.path, p.agenda ++ rest⟩ met ⟨q.path, q.agenda ++ rest⟩ := by
  induction visits with
  | stay => exact .stay _
  | go first _ ih => exact .go (first.frame rest) ih

end Moves

/-! ## The batches that are met -/

section Expansion

variable {r : Repertoire} {p q : Position} {batches : List (List Input)}

theorem Position.targets_ofSteps (path : List String) (steps : List CommandStep)
    (agenda : List Pending) :
    (⟨path, Pending.ofSteps steps ++ .leave :: agenda⟩ : Position).targets =
      steps.map CommandStep.target ++ (⟨path, agenda⟩ : Position).targets := by
  unfold Position.targets Pending.ofSteps
  rw [List.filterMap_append, List.filterMap_map]
  congr 1
  exact List.filterMap_eq_map ▸ rfl

/-- A move puts its batch in front of what the agenda then stands for. -/
theorem Moves.expands {batch : Option (List Input)} (moves : Moves r p batch q)
    (later : r.Expansion q.targets batches) : r.Expansion p.targets (batch.toList ++ batches) := by
  cases moves with
  | enter fresh found arranged =>
    rw [Position.targets_ofSteps] at later
    obtain ⟨inner, rest, rfl, within, after⟩ := later.split
    rw [Option.toList_none, List.nil_append]
    exact .command found arranged within after
  | act found => exact .action found later
  | leave => exact later

/-- The batches that are met are those that the expansion begins with. -/
theorem Visits.opening {met : List (List Input)} (visits : Visits r p met q) :
    r.Opening p.targets met := by
  induction visits with
  | stay => exact .begun _
  | go move _ ih =>
    cases move with
    | enter fresh found arranged =>
      rw [Position.targets_ofSteps] at ih
      exact .command found arranged ih
    | act found => exact .action found ih
    | leave => exact ih

/-- The batches that are met from a position to the end are those that it stands for. -/
theorem Visits.expands {met : List (List Input)} (visits : Visits r p met q)
    (done : q.agenda = []) : r.Expansion p.targets met := by
  induction visits with
  | stay =>
    unfold Position.targets
    rw [done]
    exact .nil
  | go move _ ih => exact move.expands (ih done)

end Expansion

/-! ## The shape of the agenda -/

/-- The agenda while some commands are being run, innermost first: what is left of the innermost
one, the note to leave it, and then what is left of those around it. -/
inductive Nested (r : Repertoire) (start : String) : List String → List Pending → Prop where
  | begun : Nested r start [] [.step (.command start)]
  | finished : Nested r start [] []
  | inside {ids : List String} {id : String} {command : Command} {targets : List Target}
      {agenda : List Pending} (found : r.commands.get id = .ok (some command))
      (called : r.CallPath start (ids.reverse ++ [id]))
      (left : ∀ target ∈ targets, ∃ step ∈ command.steps, step.target = target)
      (outer : Nested r start ids agenda) :
      Nested r start (id :: ids) (targets.map .step ++ .leave :: agenda)

namespace Nested

variable {r : Repertoire} {start : String} {ids : List String} {agenda : List Pending}

/-- A step that comes next is the whole, or one of the innermost command. -/
theorem next {target : Target} (nested : Nested r start ids (.step target :: agenda)) :
    Nested r start ids agenda ∧ ((ids = [] ∧ target = .command start) ∨
      ∃ caller outer command, ids = caller :: outer ∧ r.CallPath start ids.reverse ∧
        r.commands.get caller = .ok (some command) ∧
        ∃ step ∈ command.steps, step.target = target) := by
  generalize same : Pending.step target :: agenda = whole at nested
  cases nested with
  | begun =>
    cases same
    exact ⟨.finished, .inl ⟨rfl, rfl⟩⟩
  | finished => cases same
  | @inside outer caller command targets _ found called left around =>
    cases targets with
    | nil => cases same
    | cons first targets =>
      cases same
      refine ⟨.inside found called (fun other member => ?_) around, .inr ?_⟩
      · exact left other (List.mem_cons_of_mem _ member)
      · rw [List.reverse_cons]
        exact ⟨caller, outer, command, rfl, called, found, left target List.mem_cons_self⟩

/-- A command that comes next is called by the innermost one. -/
theorem callPath {id : String} (nested : Nested r start ids (.step (.command id) :: agenda)) :
    r.CallPath start (ids.reverse ++ [id]) := by
  rcases nested.next with ⟨_, ⟨rfl, same⟩ | ⟨caller, outer, command, rfl, called, found, calls⟩⟩
  · cases same
    exact ⟨rfl, .singleton _⟩
  · obtain ⟨first, chain⟩ := called
    constructor
    · rw [List.head?_append, first]
      rfl
    · refine chain.append (.singleton _) fun last isLast next isNext => ?_
      rw [List.getLast?_reverse, List.head?_cons, Option.mem_some_iff] at isLast
      rw [List.head?_cons, Option.mem_some_iff] at isNext
      subst isLast isNext
      exact ⟨command, found, calls⟩

theorem leave (nested : Nested r start ids (.leave :: agenda)) :
    ∃ id outer, ids = id :: outer ∧ Nested r start outer agenda := by
  generalize same : Pending.leave :: agenda = whole at nested
  cases nested with
  | begun => cases same
  | finished => cases same
  | @inside outer id _ targets _ _ _ _ around =>
    cases targets with
    | nil =>
      cases same
      exact ⟨id, outer, rfl, around⟩
    | cons first targets => cases same

/-- Only stored commands are run. -/
theorem stored (nested : Nested r start ids agenda) :
    ∀ id ∈ ids, ∃ command, r.commands.get id = .ok (some command) := by
  induction nested with
  | begun => simp
  | finished => simp
  | inside found _ _ _ ih =>
    intro id member
    rcases List.mem_cons.1 member with rfl | member
    · exact ⟨_, found⟩
    · exact ih id member

end Nested

/-- The path holds the commands being run, each once. -/
def Position.Sound (r : Repertoire) (start : String) (p : Position) : Prop :=
  ∃ ids, Nested r start ids p.agenda ∧ p.path = ids.reverse.map r.lowerCase ∧ p.path.Nodup

namespace Position.Sound

variable {r : Repertoire} {start : String} {p q : Position}

theorem begun (r : Repertoire) (start : String) : Sound r start (.start start) :=
  ⟨[], .begun, rfl, List.nodup_nil⟩

theorem move {batch : Option (List Input)} (sound : Sound r start p) (moves : Moves r p batch q) :
    Sound r start q := by
  obtain ⟨ids, nested, path, distinct⟩ := sound
  cases moves with
  | @enter _ id _ command steps fresh found arranged =>
    refine ⟨id :: ids, ?_, ?_, ?_⟩
    · have left : ∀ target ∈ steps.map CommandStep.target,
          ∃ step ∈ command.steps, step.target = target := by
        intro target member
        obtain ⟨step, kept, rfl⟩ := List.mem_map.1 member
        exact ⟨step, (arranged.mem_iff step).1 kept, rfl⟩
      have inside := Nested.inside found nested.callPath left nested.next.1
      rw [List.map_map] at inside
      exact inside
    · dsimp only at path ⊢
      rw [path, List.reverse_cons, List.map_append, List.map_singleton]
    · refine List.nodup_append'.2 ⟨distinct, List.nodup_singleton _, ?_⟩
      exact List.disjoint_singleton.2 fresh
  | act => exact ⟨ids, nested.next.1, path, distinct⟩
  | leave =>
    obtain ⟨id, outer, rfl, around⟩ := nested.leave
    refine ⟨outer, around, ?_, (List.nodup_append'.1 distinct).1⟩
    rw [List.reverse_cons, List.map_append] at path
    exact List.append_inj_left' path rfl

theorem visit {met : List (List Input)} (sound : Sound r start p) (visits : Visits r p met q) :
    Sound r start q := by
  induction visits with
  | stay => exact sound
  | go move _ ih => exact ih (sound.move move)

/-- The path is never longer than there are stored commands to be told apart. -/
theorem length_path_le (sound : Sound r start p) : p.path.length ≤ r.keys.length := by
  obtain ⟨ids, nested, path, distinct⟩ := sound
  refine (List.subperm_of_subset distinct fun key member => ?_).length_le
  rw [path, List.mem_map] at member
  obtain ⟨id, known, rfl⟩ := member
  obtain ⟨command, found⟩ := nested.stored id (List.mem_reverse.1 known)
  exact Repertoire.mem_keys found

/-- A command that is to be run next is called through all commands on the path. -/
theorem callPath {path : List String} {id : String} {agenda : List Pending}
    (sound : Sound r start ⟨path, .step (.command id) :: agenda⟩) :
    ∃ ids, r.CallPath start (ids ++ [id]) ∧ path = ids.map r.lowerCase ∧ path.Nodup := by
  obtain ⟨ids, nested, same, distinct⟩ := sound
  exact ⟨ids.reverse, nested.callPath, same, distinct⟩

/-- An action that comes next is one of the innermost command. -/
theorem action {path : List String} {name : String} {agenda : List Pending}
    (sound : Sound r start ⟨path, .step (.action name) :: agenda⟩) :
    ∃ ids id command, r.CallPath start (ids ++ [id]) ∧
      r.commands.get id = .ok (some command) ∧
      ∃ step ∈ command.steps, step.target = .action name := by
  obtain ⟨ids, nested, _, _⟩ := sound
  rcases nested.next with ⟨_, ⟨_, same⟩ | ⟨caller, outer, command, rfl, called, found, uses⟩⟩
  · cases same
  · rw [List.reverse_cons] at called
    exact ⟨outer.reverse, caller, command, called, found, uses⟩

/-- Where no command calls itself and everything is stored, nothing blocks a traversal. -/
theorem not_blocked {error : CommandError} (sound : Sound r start p) (acyclic : r.Acyclic start)
    (resolves : r.Resolves start) : ¬ Blocked r p error := by
  intro blocked
  cases blocked with
  | cycle onPath =>
    obtain ⟨ids, called, rfl, _⟩ := sound.callPath
    have distinct := acyclic _ called
    rw [List.map_append, List.map_singleton] at distinct
    exact (List.disjoint_singleton.1 (List.nodup_append'.1 distinct).2.2) onPath
  | commandRefused _ refused =>
    obtain ⟨ids, called, _⟩ := sound.callPath
    obtain ⟨command, found, _⟩ := resolves _ _ called
    cases found.symm.trans refused
  | noCommand _ missing =>
    obtain ⟨ids, called, _⟩ := sound.callPath
    obtain ⟨command, found, _⟩ := resolves _ _ called
    cases found.symm.trans missing
  | actionRefused refused =>
    obtain ⟨ids, id, command, called, found, step, kept, uses⟩ := sound.action
    obtain ⟨_, again, actions⟩ := resolves _ _ called
    cases found.symm.trans again
    obtain ⟨action, known⟩ := actions step kept _ uses
    cases known.symm.trans refused
  | noAction missing =>
    obtain ⟨ids, id, command, called, found, step, kept, uses⟩ := sound.action
    obtain ⟨_, again, actions⟩ := resolves _ _ called
    cases found.symm.trans again
    obtain ⟨action, known⟩ := actions step kept _ uses
    cases known.symm.trans missing

end Position.Sound

end Autopilot
