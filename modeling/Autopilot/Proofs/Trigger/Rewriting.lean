import Autopilot.Proofs.Dialogue

/-!
Reading once and rewriting what was read. Such a path asks for stored triggers at one
point and afterwards asks only to store changes of what it was told, at most one for
each trigger. Nothing holds a trigger between the two: a path that nobody disturbs
changes what is stored, any other what it was told.
-/

namespace Autopilot

/-- A question that has nothing to do with stored triggers. -/
def Question.isQuiet : Question → Bool
  | .triggers | .trigger _ | .keep _ => false
  | _ => true

/-- What may follow when some triggers are to be changed: the changes are stored, in the same
order, and nothing is asked for again. -/
inductive Rewrites (change : Trigger → Trigger → Prop) : List Trigger → List Exchange → Prop where
  | done (sources : List Trigger) : Rewrites change sources []
  | quiet {exchange : Exchange} {sources : List Trigger} {path : List Exchange}
      (untouched : exchange.question.isQuiet = true) (later : Rewrites change sources path) :
      Rewrites change sources (exchange :: path)
  | keep {t v : Trigger} {answer : Except StoreError Unit} {sources : List Trigger}
      {path : List Exchange} (changed : change t v) (later : Rewrites change sources path) :
      Rewrites change (t :: sources) (⟨.keep v, answer⟩ :: path)

/-- What an operation may say: it asks for triggers once and rewrites what it is told. -/
inductive OneRead (change : Trigger → Trigger → Prop) : List Exchange → Prop where
  | done : OneRead change []
  | quiet {exchange : Exchange} {path : List Exchange}
      (untouched : exchange.question.isQuiet = true) (later : OneRead change path) :
      OneRead change (exchange :: path)
  | read {exchange : Exchange} {sources : List Trigger} {path : List Exchange}
      (reads : exchange.isReading = true) (told : sources.Sublist exchange.told)
      (later : Rewrites change sources path) : OneRead change (exchange :: path)

section Paths

variable {change : Trigger → Trigger → Prop}

theorem Rewrites.append_quiet {sources : List Trigger} {lead path : List Exchange}
    (untouched : ∀ exchange ∈ lead, exchange.question.isQuiet = true)
    (later : Rewrites change sources path) : Rewrites change sources (lead ++ path) := by
  induction lead with
  | nil => exact later
  | cons exchange lead ih =>
    refine .quiet (untouched exchange List.mem_cons_self) (ih fun other member => ?_)
    exact untouched other (List.mem_cons_of_mem _ member)

theorem Rewrites.of_quiet {sources : List Trigger} {path : List Exchange}
    (untouched : ∀ exchange ∈ path, exchange.question.isQuiet = true) :
    Rewrites change sources path := by
  rw [← List.append_nil path]
  exact (Rewrites.done sources).append_quiet untouched

end Paths

/-! ## On a shelf -/

section Shelves

variable {change : Trigger → Trigger → Prop}

theorem Exchange.stored?_of_quiet {exchange : Exchange}
    (untouched : exchange.question.isQuiet = true) : exchange.stored? = none := by
  obtain ⟨question, answer⟩ := exchange
  cases question <;> first | rfl | cases untouched

theorem Exchange.isReading_of_quiet {exchange : Exchange}
    (untouched : exchange.question.isQuiet = true) : exchange.isReading = false := by
  obtain ⟨question, answer⟩ := exchange
  cases question <;> first | rfl | cases untouched

theorem Exchange.stored?_of_reading {exchange : Exchange} (reads : exchange.isReading = true) :
    exchange.stored? = none := by
  obtain ⟨question, answer⟩ := exchange
  cases question <;> first | rfl | cases reads

theorem Exchange.isReading_of_told {exchange : Exchange} {t : Trigger} (told : t ∈ exchange.told) :
    exchange.isReading = true := by
  obtain ⟨question, answer⟩ := exchange
  cases question <;> first | rfl | cases told

/-- What is told by a shelf is on it, each trigger once. -/
theorem Exchange.told_of_answeredBy {shelf : Shelf Trigger} {exchange : Exchange}
    (answered : exchange.AnsweredBy shelf) :
    (∀ t ∈ exchange.told, shelf.get? t.id = some t) ∧ (exchange.told.map Trigger.id).Nodup := by
  have none : (∀ t ∈ ([] : List Trigger), shelf.get? t.id = some t) ∧
      (([] : List Trigger).map Trigger.id).Nodup := by
    constructor
    · intro t member
      cases member
    · exact List.nodup_nil
  obtain ⟨question, answer⟩ := exchange
  cases question with
  | triggers =>
    cases answer with
    | error error => exact none
    | ok triggers =>
      have same := answered triggers rfl
      constructor
      · intro t member
        exact (shelf.get?_eq_some_iff t.id t).2 ⟨same.subset member, rfl⟩
      · exact (same.map Trigger.id).nodup_iff.2 shelf.inOrder.nodup
  | trigger id =>
    cases answer with
    | error error => exact none
    | ok found =>
      have same := answered found rfl
      cases found with
      | none => exact none
      | some t =>
        constructor
        · intro other member
          obtain rfl := List.mem_singleton.1 member
          rw [← Shelf.recordId_of_get? same.symm] at same
          exact same.symm
        · exact List.pairwise_singleton _ _
  | _ => exact none

theorem Exchange.answeredBy_of_not_reading (shelf : Shelf Trigger) {exchange : Exchange}
    (other : exchange.isReading = false) : exchange.AnsweredBy shelf := by
  obtain ⟨question, answer⟩ := exchange
  cases question with
  | triggers => cases other
  | trigger id => cases other
  | _ => trivial

theorem Shelf.next_of_quiet (shelf : Shelf Trigger) {exchange : Exchange}
    (untouched : exchange.question.isQuiet = true) : shelf.next exchange = shelf := by
  unfold Shelf.next
  rw [Exchange.stored?_of_quiet untouched]

theorem Shelf.next_of_reading (shelf : Shelf Trigger) {exchange : Exchange}
    (reads : exchange.isReading = true) : shelf.next exchange = shelf := by
  unfold Shelf.next
  rw [Exchange.stored?_of_reading reads]

theorem follows_of_quiet (shelf : Shelf Trigger) {path : List Exchange}
    (untouched : ∀ exchange ∈ path, exchange.question.isQuiet = true) :
    Follows shelf path ∧ shelf.after path = shelf := by
  induction path with
  | nil => exact ⟨trivial, rfl⟩
  | cons exchange path ih =>
    have quiet := untouched exchange List.mem_cons_self
    have rest := ih fun other member => untouched other (List.mem_cons_of_mem _ member)
    rw [Follows, Shelf.after_cons, shelf.next_of_quiet quiet]
    have answered := Exchange.answeredBy_of_not_reading shelf (Exchange.isReading_of_quiet quiet)
    exact ⟨⟨answered, rest.1⟩, rest.2⟩

namespace Rewrites

variable {sources : List Trigger} {path : List Exchange}

theorem not_reading (rewrites : Rewrites change sources path) :
    ∀ exchange ∈ path, exchange.isReading = false := by
  induction rewrites with
  | done => exact fun exchange member => by cases member
  | quiet untouched _ ih =>
    intro exchange member
    rcases List.mem_cons.1 member with rfl | member
    · exact Exchange.isReading_of_quiet untouched
    · exact ih exchange member
  | keep _ _ ih =>
    intro exchange member
    rcases List.mem_cons.1 member with rfl | member
    · rfl
    · exact ih exchange member

theorem follows (rewrites : Rewrites change sources path) (shelf : Shelf Trigger) :
    Follows shelf path := by
  have others := rewrites.not_reading
  clear rewrites
  induction path generalizing shelf with
  | nil => trivial
  | cons exchange path ih =>
    have first := Exchange.answeredBy_of_not_reading shelf (others exchange List.mem_cons_self)
    exact ⟨first, ih _ fun other member => others other (List.mem_cons_of_mem _ member)⟩

/-- Only changes of the sources are stored. -/
theorem stored (rewrites : Rewrites change sources path) {exchange : Exchange} {v : Trigger}
    (member : exchange ∈ path) (stores : exchange.stored? = some v) :
    ∃ t ∈ sources, change t v := by
  induction rewrites with
  | done => cases member
  | quiet untouched _ ih =>
    rcases List.mem_cons.1 member with rfl | member
    · rw [Exchange.stored?_of_quiet untouched] at stores
      cases stores
    · exact ih member
  | @keep t w answer _ _ changed _ ih =>
    rcases List.mem_cons.1 member with rfl | member
    · cases answer with
      | ok _ =>
        cases stores
        exact ⟨t, List.mem_cons_self, changed⟩
      | error error => cases stores
    · obtain ⟨source, known, changed⟩ := ih member
      exact ⟨source, List.mem_cons_of_mem _ known, changed⟩

variable (keepsId : ∀ {t v : Trigger}, change t v → v.id = t.id)

include keepsId

/-- While the sources are on the shelf, each change is one of what is stored then, and it is
the last of its id. -/
theorem current (rewrites : Rewrites change sources path) {shelf : Shelf Trigger}
    (stored : ∀ t ∈ sources, shelf.get? t.id = some t) (distinct : (sources.map Trigger.id).Nodup)
    {before after : List Exchange} {exchange : Exchange} {v : Trigger}
    (split : path = before ++ exchange :: after) (stores : exchange.stored? = some v) :
    (∃ t, (shelf.after before).get? v.id = some t ∧ change t v) ∧
      ∀ other ∈ after, ∀ w, other.stored? = some w → w.id ≠ v.id := by
  induction rewrites generalizing shelf before with
  | done => cases before <;> cases split
  | quiet untouched _ ih =>
    cases before with
    | nil =>
      cases split
      rw [Exchange.stored?_of_quiet untouched] at stores
      cases stores
    | cons first before =>
      obtain ⟨rfl, rest⟩ := List.cons.inj split
      rw [Shelf.after_cons, shelf.next_of_quiet untouched]
      exact ih stored distinct rest
  | @keep t w answer sources path changed later ih =>
    have fresh := (List.nodup_cons.1 distinct).1
    cases before with
    | nil =>
      cases split
      cases answer with
      | error error => cases stores
      | ok _ =>
        cases stores
        have same := keepsId changed
        rw [same]
        refine ⟨⟨t, stored t List.mem_cons_self, changed⟩, fun other member u stores same => ?_⟩
        obtain ⟨source, known, change⟩ := later.stored member stores
        rw [keepsId change] at same
        exact fresh (same ▸ List.mem_map_of_mem known)
    | cons first before =>
      obtain ⟨rfl, rest⟩ := List.cons.inj split
      rw [Shelf.after_cons]
      refine ih (fun source known => ?_) (List.nodup_cons.1 distinct).2 rest
      rw [shelf.get?_next_of_other]
      · exact stored source (List.mem_cons_of_mem _ known)
      · intro u kept same
        obtain rfl : w = u := by
          cases answer with
          | ok _ => exact Option.some.inj kept
          | error error => cases kept
        rw [keepsId changed] at same
        exact fresh (same ▸ List.mem_map_of_mem known)

end Rewrites

namespace OneRead

variable {path : List Exchange}

/-- Before triggers are asked for nothing is stored, and afterwards they are rewritten. -/
theorem of_reading (oneRead : OneRead change path) {lead rest : List Exchange} {read : Exchange}
    (split : path = lead ++ read :: rest) (reads : read.isReading = true) :
    (∀ exchange ∈ lead, exchange.question.isQuiet = true) ∧
      ∃ sources : List Trigger, sources.Sublist read.told ∧ Rewrites change sources rest := by
  induction oneRead generalizing lead with
  | done => cases lead <;> cases split
  | quiet untouched _ ih =>
    cases lead with
    | nil =>
      cases split
      rw [Exchange.isReading_of_quiet untouched] at reads
      cases reads
    | cons first lead =>
      obtain ⟨rfl, tail⟩ := List.cons.inj split
      obtain ⟨quiet, later⟩ := ih tail
      refine ⟨fun exchange member => ?_, later⟩
      rcases List.mem_cons.1 member with rfl | member
      · exact untouched
      · exact quiet exchange member
  | read _ told later =>
    cases lead with
    | nil =>
      cases split
      exact ⟨fun exchange member => absurd member List.not_mem_nil, _, told, later⟩
    | cons first lead =>
      obtain ⟨rfl, rfl⟩ := List.cons.inj split
      rw [later.not_reading read (List.mem_append_right _ List.mem_cons_self)] at reads
      cases reads

/-- What is stored was read before, at one point. -/
theorem read_before (oneRead : OneRead change path) {before after : List Exchange}
    {exchange : Exchange} {v : Trigger} (split : path = before ++ exchange :: after)
    (stores : exchange.stored? = some v) :
    ∃ lead read middle, before = lead ++ read :: middle ∧ read.isReading = true ∧
      ∃ t ∈ read.told, change t v := by
  induction oneRead generalizing before with
  | done => cases before <;> cases split
  | quiet untouched _ ih =>
    cases before with
    | nil =>
      cases split
      rw [Exchange.stored?_of_quiet untouched] at stores
      cases stores
    | cons first before =>
      obtain ⟨rfl, tail⟩ := List.cons.inj split
      obtain ⟨lead, read, middle, rfl, reads⟩ := ih tail
      exact ⟨_ :: lead, read, middle, rfl, reads⟩
  | read reads told later =>
    cases before with
    | nil =>
      cases split
      rw [Exchange.stored?_of_reading reads] at stores
      cases stores
    | cons first before =>
      obtain ⟨rfl, rfl⟩ := List.cons.inj split
      obtain ⟨t, known, changed⟩ :=
        later.stored (List.mem_append_right _ List.mem_cons_self) stores
      exact ⟨[], _, before, rfl, reads, t, told.subset known, changed⟩

/-- Answered once from a shelf, a path can be followed from there without a stop. -/
theorem follows (oneRead : OneRead change path) {shelf : Shelf Trigger} {lead rest : List Exchange}
    {read : Exchange} (split : path = lead ++ read :: rest) (reads : read.isReading = true)
    (answered : read.AnsweredBy shelf) : Follows shelf path := by
  obtain ⟨quiet, sources, _, later⟩ := oneRead.of_reading split reads
  have ahead := follows_of_quiet shelf quiet
  rw [split, follows_append, ahead.2]
  exact ⟨ahead.1, answered, later.follows _⟩

/-- On its own, a path stores only changes of what is stored, one for each id. -/
theorem current (oneRead : OneRead change path)
    (keepsId : ∀ {t v : Trigger}, change t v → v.id = t.id) {shelf : Shelf Trigger}
    (follows : Follows shelf path) {before after : List Exchange} {exchange : Exchange}
    {v : Trigger} (split : path = before ++ exchange :: after)
    (stores : exchange.stored? = some v) :
    (∃ t, (shelf.after before).get? v.id = some t ∧ change t v) ∧
      ∀ other ∈ after, ∀ w, other.stored? = some w → w.id ≠ v.id := by
  induction oneRead generalizing before with
  | done => cases before <;> cases split
  | quiet untouched _ ih =>
    cases before with
    | nil =>
      cases split
      rw [Exchange.stored?_of_quiet untouched] at stores
      cases stores
    | cons first before =>
      obtain ⟨rfl, tail⟩ := List.cons.inj split
      have later := follows.2
      rw [shelf.next_of_quiet untouched] at later
      rw [Shelf.after_cons, shelf.next_of_quiet untouched]
      exact ih later tail
  | read reads told later =>
    cases before with
    | nil =>
      cases split
      rw [Exchange.stored?_of_reading reads] at stores
      cases stores
    | cons first before =>
      obtain ⟨rfl, tail⟩ := List.cons.inj split
      obtain ⟨stored, distinct⟩ := Exchange.told_of_answeredBy follows.1
      rw [Shelf.after_cons, shelf.next_of_reading reads]
      exact later.current keepsId (fun t known => stored t (told.subset known))
        (distinct.sublist (told.map Trigger.id)) tail stores

/-- On its own, a path is told only of triggers as they are at its start. -/
theorem told_alone (oneRead : OneRead change path) {shelf : Shelf Trigger}
    (follows : Follows shelf path) {read : Exchange} (member : read ∈ path) {t : Trigger}
    (told : t ∈ read.told) : shelf.get? t.id = some t := by
  obtain ⟨lead, rest, split⟩ := List.append_of_mem member
  obtain ⟨quiet, _⟩ := oneRead.of_reading split (Exchange.isReading_of_told told)
  rw [split, follows_append, (follows_of_quiet shelf quiet).2] at follows
  exact (Exchange.told_of_answeredBy follows.2.1).1 t told

/-- On its own, a path stores what it makes of a trigger that was there at its start, and
leaves it so. -/
theorem stored_alone (oneRead : OneRead change path)
    (keepsId : ∀ {t v : Trigger}, change t v → v.id = t.id) {shelf : Shelf Trigger}
    (follows : Follows shelf path) {exchange : Exchange} {v : Trigger} (member : exchange ∈ path)
    (stores : exchange.stored? = some v) :
    ∃ t, shelf.get? v.id = some t ∧ change t v ∧ (shelf.after path).get? v.id = some v := by
  obtain ⟨before, after, split⟩ := List.append_of_mem member
  obtain ⟨⟨t, found, changed⟩, last⟩ := oneRead.current keepsId follows split stores
  have first : ∀ other ∈ before, ∀ w, other.stored? = some w → w.id ≠ v.id := by
    intro other member w stored same
    obtain ⟨lead, middle, rfl⟩ := List.append_of_mem member
    rw [List.append_assoc, List.cons_append] at split
    have only := (oneRead.current keepsId follows split stored).2
    exact only exchange (List.mem_append_right _ List.mem_cons_self) v stores same.symm
  rw [shelf.get?_after_of_other first] at found
  refine ⟨t, found, changed, ?_⟩
  rw [split, shelf.get?_after_of_last stores last]

/-- On its own, a path leaves the trigger of an id as it is or changes it once. -/
theorem alone (oneRead : OneRead change path)
    (keepsId : ∀ {t v : Trigger}, change t v → v.id = t.id) {shelf : Shelf Trigger}
    (follows : Follows shelf path) (id : String) :
    (shelf.after path).get? id = shelf.get? id ∨
      ∃ t v, shelf.get? id = some t ∧ change t v ∧ (shelf.after path).get? id = some v := by
  by_cases stored : ∃ exchange ∈ path, ∃ v, exchange.stored? = some v ∧ v.id = id
  · obtain ⟨exchange, member, v, stores, rfl⟩ := stored
    obtain ⟨t, found, changed, now⟩ := oneRead.stored_alone keepsId follows member stores
    exact .inr ⟨t, v, found, changed, now⟩
  · refine .inl (shelf.get?_after_of_other fun exchange member t stores same => stored ?_)
    exact ⟨exchange, member, t, stores, same⟩

end OneRead

end Shelves

end Autopilot
