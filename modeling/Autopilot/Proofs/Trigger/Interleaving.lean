import Autopilot.Proofs.Trigger.Operation

/-!
Operations on triggers that run at the same time. They are interleaved question by
question, and nothing but the single access to the store is atomic. An operation that
stores a trigger after others have stored it overtakes them: what they did to the
trigger is lost, because it stores a change of what it read before. The operations
that nobody overtakes can be put in an order in which each, run alone, finds the
trigger as the one before it left it.
-/

namespace Autopilot

variable {ι : Type}

/-- What one of several operations says in their common history. -/
def pathOf [DecidableEq ι] (history : List (ι × Exchange)) (i : ι) : List Exchange :=
  (history.filter fun event => event.1 = i).map Prod.snd

/-- Operations carried on together until all have ended without an error, by a store that
starts with a given shelf. -/
structure Interleaving [DecidableEq ι] (engine : Engine) (ops : ι → Operation)
    (start : Shelf Trigger) (history : List (ι × Exchange)) : Prop where
  completes : ∀ i, Trace ((ops i).dialogue engine) (pathOf history i) true
  follows : Follows start (history.map Prod.snd)

/-- The shelf when a history has come to its end. -/
def shelfAfter (start : Shelf Trigger) (history : List (ι × Exchange)) : Shelf Trigger :=
  start.after (history.map Prod.snd)

/-- Operations run one after another, each with a path of its own and each alone on a shelf
that has the trigger of an id as the one before left it. -/
inductive Serial (engine : Engine) (ops : ι → Operation) (paths : ι → List Exchange)
    (id : String) : List ι → Option Trigger → Option Trigger → Prop where
  | nil (record : Option Trigger) : Serial engine ops paths id [] record record
  | cons {i : ι} {rest : List ι} {final : Option Trigger} (shelf : Shelf Trigger)
      (completes : Trace ((ops i).dialogue engine) (paths i) true)
      (follows : Follows shelf (paths i))
      (later : Serial engine ops paths id rest ((shelf.after (paths i)).get? id) final) :
      Serial engine ops paths id (i :: rest) (shelf.get? id) final

namespace Exchange

/-- Whether an exchange stores the trigger of an id. -/
def Stores (id : String) (exchange : Exchange) : Prop :=
  ∃ t, exchange.stored? = some t ∧ t.id = id

/-- Whether an exchange asks for the trigger of an id, alone or with all others. -/
def Reads (id : String) (exchange : Exchange) : Prop :=
  exchange.question = .triggers ∨ exchange.question = .trigger id

end Exchange

/-- Where a path takes effect on the trigger of an id: where it stores the trigger, or, if it
never does, where it reads it. -/
def TakesEffect (id : String) (path : List Exchange) (exchange : Exchange) : Prop :=
  exchange.Stores id ∨ (exchange.Reads id ∧ ∀ other ∈ path, ¬ other.Stores id)

/-- An operation reads the trigger of an id in the first part of a history and stores it in
the second. -/
def Overtakes (id : String) (before after : List (ι × Exchange)) (i : ι) : Prop :=
  (∃ read, (i, read) ∈ before ∧ read.Reads id) ∧ ∃ write, (i, write) ∈ after ∧ write.Stores id

/-! ## Paths in a history -/

section Paths

variable [DecidableEq ι]

theorem pathOf_append (first rest : List (ι × Exchange)) (i : ι) :
    pathOf (first ++ rest) i = pathOf first i ++ pathOf rest i := by
  unfold pathOf
  rw [List.filter_append, List.map_append]

theorem pathOf_cons_same (i : ι) (exchange : Exchange) (rest : List (ι × Exchange)) :
    pathOf ((i, exchange) :: rest) i = exchange :: pathOf rest i := by
  unfold pathOf
  rw [List.filter_cons_of_pos, List.map_cons]
  exact decide_eq_true rfl

theorem pathOf_cons_other {i j : ι} (other : j ≠ i) (exchange : Exchange)
    (rest : List (ι × Exchange)) : pathOf ((j, exchange) :: rest) i = pathOf rest i := by
  unfold pathOf
  rw [List.filter_cons_of_neg]
  exact fun same => other (of_decide_eq_true same)

theorem mem_pathOf {history : List (ι × Exchange)} {i : ι} {exchange : Exchange}
    (member : (i, exchange) ∈ history) : exchange ∈ pathOf history i :=
  List.mem_map.2 ⟨(i, exchange), List.mem_filter.2 ⟨member, decide_eq_true rfl⟩, rfl⟩

theorem pathOf_split {history past future : List (ι × Exchange)} {i : ι} {exchange : Exchange}
    (split : history = past ++ (i, exchange) :: future) :
    pathOf history i = pathOf past i ++ exchange :: pathOf future i := by
  rw [split, pathOf_append, pathOf_cons_same]

/-- Every place in a path is a place in the history. -/
theorem history_split {history : List (ι × Exchange)} {i : ι} {lead rest : List Exchange}
    {exchange : Exchange} (split : pathOf history i = lead ++ exchange :: rest) :
    ∃ before after, history = before ++ (i, exchange) :: after ∧ pathOf before i = lead := by
  induction history generalizing lead with
  | nil => cases lead <;> cases split
  | cons event history ih =>
    obtain ⟨j, said⟩ := event
    by_cases same : j = i
    · subst same
      rw [pathOf_cons_same] at split
      cases lead with
      | nil =>
        obtain ⟨rfl, _⟩ := List.cons.inj split
        exact ⟨[], history, rfl, rfl⟩
      | cons first lead =>
        obtain ⟨rfl, tail⟩ := List.cons.inj split
        obtain ⟨before, after, rfl, path⟩ := ih tail
        exact ⟨(j, said) :: before, after, rfl, by rw [pathOf_cons_same, path]⟩
    · rw [pathOf_cons_other same] at split
      obtain ⟨before, after, rfl, path⟩ := ih split
      exact ⟨(j, said) :: before, after, rfl, by rw [pathOf_cons_other same, path]⟩

/-- Two places in one list are in one order, in the other, or the same. -/
theorem places_cases {α : Type} {a b c d : List α} {p q : α} (same : a ++ p :: b = c ++ q :: d) :
    (∃ m, a = c ++ q :: m ∧ d = m ++ p :: b) ∨ (a = c ∧ p = q ∧ b = d) ∨
      ∃ m, c = a ++ p :: m ∧ b = m ++ q :: d := by
  induction a generalizing c with
  | nil =>
    cases c with
    | nil =>
      obtain ⟨rfl, rfl⟩ := List.cons.inj same
      exact .inr (.inl ⟨rfl, rfl, rfl⟩)
    | cons first c =>
      obtain ⟨rfl, rfl⟩ := List.cons.inj same
      exact .inr (.inr ⟨c, rfl, rfl⟩)
  | cons first a ih =>
    cases c with
    | nil =>
      obtain ⟨rfl, rfl⟩ := List.cons.inj same
      exact .inl ⟨a, rfl, rfl⟩
    | cons other c =>
      obtain ⟨rfl, tail⟩ := List.cons.inj same
      rcases ih tail with ⟨m, rfl, rfl⟩ | ⟨rfl, rfl, rfl⟩ | ⟨m, rfl, rfl⟩
      · exact .inl ⟨m, rfl, rfl⟩
      · exact .inr (.inl ⟨rfl, rfl, rfl⟩)
      · exact .inr (.inr ⟨m, rfl, rfl⟩)

end Paths

theorem Serial.append {engine : Engine} {ops : ι → Operation} {paths : ι → List Exchange}
    {id : String} {order : List ι} {first final : Option Trigger} {shelf : Shelf Trigger} {i : ι}
    (serial : Serial engine ops paths id order first (shelf.get? id))
    (completes : Trace ((ops i).dialogue engine) (paths i) true) (follows : Follows shelf (paths i))
    (ends : (shelf.after (paths i)).get? id = final) :
    Serial engine ops paths id (order ++ [i]) first final := by
  generalize reached : shelf.get? id = middle at serial
  induction serial with
  | nil record =>
    rw [← reached, ← ends]
    exact .cons shelf completes follows (.nil _)
  | cons other done followed _ ih => exact .cons other done followed (ih reached)

/-- What each operation keeps when it runs alone is kept by a run of them. -/
theorem Serial.keeps {engine : Engine} {ops : ι → Operation} {paths : ι → List Exchange}
    {id : String} {order : List ι} {first final : Option Trigger} {P : Trigger → Prop}
    (serial : Serial engine ops paths id order first final)
    (kept : ∀ i ∈ order, ∀ shelf, Trace ((ops i).dialogue engine) (paths i) true →
      Follows shelf (paths i) → (∃ t, shelf.get? id = some t ∧ P t) →
        ∃ t, (shelf.after (paths i)).get? id = some t ∧ P t)
    (was : ∃ t, first = some t ∧ P t) : ∃ t, final = some t ∧ P t := by
  induction serial with
  | nil record => exact was
  | cons shelf completes follows _ ih =>
    refine ih (fun j later => kept j (List.mem_cons_of_mem _ later)) ?_
    exact kept _ List.mem_cons_self shelf completes follows was

/-- Switched to one side and never to the other, a trigger ends up on that side. -/
theorem Serial.switched {engine : Engine} {ops : ι → Operation} {paths : ι → List Exchange}
    {id : String} {order : List ι} {first final : Option Trigger} {on : Bool}
    (serial : Serial engine ops paths id order first final)
    (switch : ∃ i ∈ order, ops i = .switch on id) (never : ∀ i ∈ order, ops i ≠ .switch (!on) id) :
    ∃ t, final = some t ∧ t.enabled = on := by
  induction serial with
  | nil record =>
    obtain ⟨i, member, _⟩ := switch
    cases member
  | cons shelf completes follows later ih =>
    obtain ⟨i, member, isSwitch⟩ := switch
    rcases List.mem_cons.1 member with rfl | member
    · rw [isSwitch] at completes
      refine later.keeps (fun j listed _ completes follows was => ?_)
        (Operation.switch_alone completes follows)
      exact Operation.enabled_alone completes follows (never j (List.mem_cons_of_mem _ listed)) was
    · exact ih ⟨i, member, isSwitch⟩ fun j listed => never j (List.mem_cons_of_mem _ listed)

/-- That a trigger has fired stays known once an operation has stored it. -/
theorem Serial.fired {engine : Engine} {ops : ι → Operation} {paths : ι → List Exchange}
    {order : List ι} {first final : Option Trigger} {i : ι} {exchange : Exchange} {v : Trigger}
    (serial : Serial engine ops paths v.id order first final) (listed : i ∈ order)
    (member : exchange ∈ paths i) (stores : exchange.stored? = some v)
    (fired : v.lastFiredAt.isSome) : ∃ t, final = some t ∧ t.lastFiredAt.isSome := by
  induction serial with
  | nil record => cases listed
  | cons shelf completes follows later ih =>
    rcases List.mem_cons.1 listed with rfl | listed
    · refine later.keeps (fun j _ _ completes follows was => ?_) ⟨v, ?_, fired⟩
      · exact Operation.keeps completes follows (fun t u changed was => changed.fired was) was
      · obtain ⟨before, after, split⟩ := List.append_of_mem member
        have last := ((Operation.oneRead completes).current (·.id) follows split stores).2
        rw [split, shelf.get?_after_of_last stores last]
    · exact ih listed

/-! ## The order of a history -/

theorem Exchange.not_stores_of_quiet {exchange : Exchange} {id : String}
    (untouched : exchange.question.isQuiet = true) : ¬ exchange.Stores id := by
  rintro ⟨t, stores, _⟩
  rw [Exchange.stored?_of_quiet untouched] at stores
  cases stores

theorem Exchange.Reads.isReading {exchange : Exchange} {id : String} (reads : exchange.Reads id) :
    exchange.isReading = true := by
  obtain ⟨question, answer⟩ := exchange
  rcases reads with same | same
  · cases same
    rfl
  · cases same
    rfl

/-- What a shelf tells of a trigger was asked for by its id, or for all ids. -/
theorem Exchange.reads_of_told {shelf : Shelf Trigger} {exchange : Exchange} {t : Trigger}
    (answered : exchange.AnsweredBy shelf) (told : t ∈ exchange.told) : exchange.Reads t.id := by
  obtain ⟨question, answer⟩ := exchange
  cases question with
  | triggers => exact .inl rfl
  | trigger id =>
    cases answer with
    | error error => cases told
    | ok found =>
      have same := answered found rfl
      cases found with
      | none => cases told
      | some other =>
        obtain rfl := List.mem_singleton.1 told
        exact .inr (congrArg _ (Shelf.recordId_of_get? same.symm).symm)
  | _ => cases told

/-- A quiet path takes no effect on any trigger. -/
theorem not_takesEffect_of_quiet {id : String} {path : List Exchange} {exchange : Exchange}
    (untouched : exchange.question.isQuiet = true) : ¬ TakesEffect id path exchange := by
  rintro (stores | ⟨reads, _⟩)
  · exact Exchange.not_stores_of_quiet untouched stores
  · have reading := reads.isReading
    rw [Exchange.isReading_of_quiet untouched] at reading
    cases reading

/-- An order of those operations that take effect in the first part of a history and are not
overtaken in it. -/
structure Ordered (engine : Engine) (ops : ι → Operation) (paths : ι → List Exchange)
    (id : String) (start : Shelf Trigger) (history : List (ι × Exchange)) (order : List ι) :
    Prop where
  nodup : order.Nodup
  serial : Serial engine ops paths id order (start.get? id) ((shelfAfter start history).get? id)
  effects : ∀ i ∈ order, ∃ before exchange after, history = before ++ (i, exchange) :: after ∧
    TakesEffect id (paths i) exchange
  covers : ∀ before i exchange after, history = before ++ (i, exchange) :: after →
    TakesEffect id (paths i) exchange → i ∈ order ∨ ∃ j ∈ order, Overtakes id before after j

theorem Overtakes.later {id : String} {before after : List (ι × Exchange)} {i : ι}
    (overtakes : Overtakes id before after i) (more : List (ι × Exchange)) :
    Overtakes id before (after ++ more) i := by
  obtain ⟨reads, write, member, stores⟩ := overtakes
  exact ⟨reads, write, List.mem_append_left _ member, stores⟩

theorem shelfAfter_concat (start : Shelf Trigger) (history : List (ι × Exchange)) (i : ι)
    (exchange : Exchange) :
    shelfAfter start (history ++ [(i, exchange)]) = (shelfAfter start history).next exchange := by
  unfold shelfAfter
  rw [List.map_append, Shelf.after_append]
  rfl

namespace Ordered

variable {engine : Engine} {ops : ι → Operation} {paths : ι → List Exchange} {id : String}
  {start : Shelf Trigger} {base gap : List (ι × Exchange)} {order : List ι} {i : ι}
  {exchange : Exchange}

theorem empty : Ordered engine ops paths id start [] [] :=
  ⟨List.nodup_nil, .nil _, fun _ member => absurd member List.not_mem_nil, fun before _ _ _ split =>
    by cases before <;> cases split⟩

/-- An exchange without an effect changes nothing. -/
theorem skip (ordered : Ordered engine ops paths id start base order)
    (idle : ¬ TakesEffect id (paths i) exchange) :
    Ordered engine ops paths id start (base ++ [(i, exchange)]) order := by
  refine ⟨ordered.nodup, ?_, ?_, ?_⟩
  · rw [shelfAfter_concat, Shelf.get?_next_of_other]
    · exact ordered.serial
    · exact fun t stores same => idle (.inl ⟨t, stores, same⟩)
  · intro j member
    obtain ⟨before, other, after, rfl, takes⟩ := ordered.effects j member
    refine ⟨before, other, after ++ [(i, exchange)], ?_, takes⟩
    rw [List.append_assoc, List.cons_append]
  · intro before j other after split takes
    rcases places_cases split.symm with ⟨m, _, nothing⟩ | ⟨_, same, _⟩ | ⟨m, rfl, rfl⟩
    · cases m <;> cases nothing
    · cases same
      exact absurd takes idle
    · rcases ordered.covers before j other m rfl takes with listed | ⟨k, listed, overtakes⟩
      · exact .inl listed
      · exact .inr ⟨k, listed, overtakes.later _⟩

/-- An operation takes effect at the end of a history, after what is ordered and after
others that it overtakes. -/
theorem extend (ordered : Ordered engine ops paths id start base order) (fresh : i ∉ order)
    (takes : TakesEffect id (paths i) exchange)
    (completes : Trace ((ops i).dialogue engine) (paths i) true)
    (follows : Follows (shelfAfter start base) (paths i))
    (ends : ((shelfAfter start base).after (paths i)).get? id =
      (shelfAfter start (base ++ gap ++ [(i, exchange)])).get? id)
    (overtaken : ∀ before j other after, gap = before ++ (j, other) :: after →
      TakesEffect id (paths j) other →
        (∃ read, (i, read) ∈ before ∧ read.Reads id) ∧ exchange.Stores id) :
    Ordered engine ops paths id start (base ++ gap ++ [(i, exchange)]) (order ++ [i]) := by
  refine ⟨?_, ordered.serial.append completes follows ends, ?_, ?_⟩
  · refine List.nodup_append.2 ⟨ordered.nodup, List.pairwise_singleton _ _, ?_⟩
    intro j listed k last same
    rw [List.mem_singleton.1 last] at same
    exact fresh (same ▸ listed)
  · intro j member
    rcases List.mem_append.1 member with listed | last
    · obtain ⟨before, other, after, rfl, takes⟩ := ordered.effects j listed
      refine ⟨before, other, after ++ gap ++ [(i, exchange)], ?_, takes⟩
      simp only [List.append_assoc, List.cons_append]
    · obtain rfl := List.mem_singleton.1 last
      exact ⟨base ++ gap, exchange, [], rfl, takes⟩
  · intro before j other after split takes
    rcases places_cases split.symm with ⟨m, _, nothing⟩ | ⟨_, same, _⟩ | ⟨m, inside, rfl⟩
    · cases m <;> cases nothing
    · cases same
      exact .inl (List.mem_append_right _ List.mem_cons_self)
    · rcases List.append_eq_append_iff.1 inside with ⟨ahead, rfl, gapIs⟩ | ⟨ahead, rfl, rest⟩
      · obtain ⟨⟨read, member, reads⟩, stores⟩ := overtaken ahead j other m gapIs takes
        have last : i ∈ order ++ [i] := List.mem_append_right _ List.mem_cons_self
        exact .inr ⟨i, last, ⟨read, List.mem_append_right _ member, reads⟩, exchange,
          List.mem_append_right _ List.mem_cons_self, stores⟩
      · cases ahead with
        | nil =>
          obtain ⟨⟨read, member, _⟩, _⟩ := overtaken [] j other m rest.symm takes
          cases member
        | cons first ahead =>
          obtain ⟨rfl, rfl⟩ := List.cons.inj rest
          rcases ordered.covers before j other ahead rfl takes with listed | ⟨k, listed, overtakes⟩
          · exact .inl (List.mem_append_left _ listed)
          · refine .inr ⟨k, List.mem_append_left _ listed, ?_⟩
            exact (overtakes.later gap).later _

end Ordered

namespace Interleaving

variable [DecidableEq ι] {engine : Engine} {ops : ι → Operation} {start : Shelf Trigger}
  {history : List (ι × Exchange)} (interleaving : Interleaving engine ops start history)

include interleaving

theorem oneRead (i : ι) :
    OneRead ((ops i).Changes engine (pathOf history i)) (pathOf history i) :=
  Operation.oneRead (interleaving.completes i)

section Place

variable {past future : List (ι × Exchange)} {i : ι} {exchange : Exchange}
  (split : history = past ++ (i, exchange) :: future)

include split

theorem answered : exchange.AnsweredBy (shelfAfter start past) := by
  have follows := interleaving.follows
  rw [split, List.map_append, follows_append] at follows
  exact follows.2.1

/-- An operation that asks for triggers here can be run from here without a stop. -/
theorem follows_alone (reads : exchange.isReading = true) :
    Follows (shelfAfter start past) (pathOf history i) :=
  (interleaving.oneRead i).follows (pathOf_split split) reads (interleaving.answered split)

/-- An operation that asks for triggers here has taken no effect before. -/
theorem not_listed {id : String} {order : List ι} (reads : exchange.isReading = true)
    (ordered : Ordered engine ops (pathOf history) id start past order) : i ∉ order := by
  intro listed
  obtain ⟨before, other, after, rfl, takes⟩ := ordered.effects i listed
  have quiet := ((interleaving.oneRead i).of_reading (pathOf_split split) reads).1
  refine not_takesEffect_of_quiet (quiet other ?_) takes
  exact mem_pathOf (List.mem_append_right _ List.mem_cons_self)

/-- An operation that reads a trigger here and never stores it comes last so far. -/
theorem ordered_of_reads {id : String} {order : List ι} (reads : exchange.Reads id)
    (never : ∀ other ∈ pathOf history i, ¬ other.Stores id)
    (ordered : Ordered engine ops (pathOf history) id start past order) :
    Ordered engine ops (pathOf history) id start (past ++ [(i, exchange)]) (order ++ [i]) := by
  have fresh := interleaving.not_listed split reads.isReading ordered
  have follows := interleaving.follows_alone split reads.isReading
  have unchanged : ∀ other ∈ pathOf history i, ∀ t, other.stored? = some t → t.id ≠ id :=
    fun other member t stores same => never other member ⟨t, stores, same⟩
  have ends : ((shelfAfter start past).after (pathOf history i)).get? id =
      (shelfAfter start (past ++ [] ++ [(i, exchange)])).get? id := by
    rw [Shelf.get?_after_of_other _ unchanged, List.append_nil, shelfAfter_concat,
      Shelf.next_of_reading _ reads.isReading]
  have whole : Ordered engine ops (pathOf history) id start (past ++ [] ++ [(i, exchange)])
      (order ++ [i]) := by
    refine ordered.extend fresh (.inr ⟨reads, never⟩) (interleaving.completes i) follows ends ?_
    intro before j other after nothing
    cases before <;> cases nothing
  rwa [List.append_nil] at whole

/-- An operation that stores a trigger here comes last of those that took effect before it
read the trigger, and overtakes all others. -/
theorem ordered_of_stores {t : Trigger} (stores : exchange.stored? = some t)
    (earlier : ∀ before after event, past = before ++ event :: after →
      ∃ order, Ordered engine ops (pathOf history) t.id start before order) :
    ∃ order, Ordered engine ops (pathOf history) t.id start (past ++ [(i, exchange)]) order := by
  obtain ⟨lead, read, middle, inPast, reads, source, told, changed⟩ :=
    (interleaving.oneRead i).read_before (pathOf_split split) stores
  obtain ⟨before, after, rfl, _⟩ := history_split inPast
  obtain ⟨order, ordered⟩ := earlier before after _ rfl
  have place : history = before ++ (i, read) :: (after ++ (i, exchange) :: future) := by
    rw [split, List.append_assoc, List.cons_append]
  have follows := interleaving.follows_alone place reads
  have last := ((interleaving.oneRead i).current (·.id) follows (pathOf_split split) stores).2
  have ends : ((shelfAfter start before).after (pathOf history i)).get? t.id =
      (shelfAfter start (before ++ (i, read) :: after ++ [(i, exchange)])).get? t.id := by
    rw [pathOf_split split, Shelf.get?_after_of_last _ stores last, shelfAfter_concat,
      Shelf.get?_next _ stores]
  have member : exchange ∈ pathOf history i := by
    rw [pathOf_split split]
    exact List.mem_append_right _ List.mem_cons_self
  refine ⟨order ++ [i], ordered.extend (interleaving.not_listed place reads ordered)
    (.inl ⟨t, stores, rfl⟩) (interleaving.completes i) follows ends ?_⟩
  intro ahead j other later inGap takes
  refine ⟨⟨read, ?_, ?_⟩, t, stores, rfl⟩
  · cases ahead with
    | nil =>
      obtain ⟨same, rfl⟩ := List.cons.inj inGap
      obtain ⟨rfl, rfl⟩ := Prod.mk.inj same
      rcases takes with ⟨u, stored, _⟩ | ⟨_, never⟩
      · rw [Exchange.stored?_of_reading reads] at stored
        cases stored
      · exact absurd ⟨t, stores, rfl⟩ (never exchange member)
    | cons first ahead =>
      obtain ⟨rfl, _⟩ := List.cons.inj inGap
      exact List.mem_cons_self
  · rw [changed.id]
    exact Exchange.reads_of_told (interleaving.answered place) told

end Place

theorem exists_ordered (id : String) (past future : List (ι × Exchange))
    (split : history = past ++ future) :
    ∃ order, Ordered engine ops (pathOf history) id start past order := by
  induction size : past.length using Nat.strongRecOn generalizing past future with
  | ind n ih =>
    rcases List.eq_nil_or_concat past with rfl | ⟨earlier, ⟨i, exchange⟩, rfl⟩
    · exact ⟨[], .empty⟩
    · rw [List.concat_eq_append] at split size ⊢
      rw [List.length_append, List.length_singleton] at size
      rw [List.append_assoc, List.singleton_append] at split
      by_cases stores : exchange.Stores id
      · obtain ⟨t, stored, rfl⟩ := stores
        refine interleaving.ordered_of_stores split stored fun before after event same => ?_
        refine ih before.length ?_ before (event :: after ++ (i, exchange) :: future) ?_ rfl
        · rw [← size, same, List.length_append, List.length_cons]
          omega
        · rw [split, same, List.append_assoc]
      · obtain ⟨order, ordered⟩ := ih earlier.length (by omega) earlier _ split rfl
        by_cases takes : TakesEffect id (pathOf history i) exchange
        · rcases takes with absurdly | ⟨reads, never⟩
          · exact absurd absurdly stores
          · exact ⟨_, interleaving.ordered_of_reads split reads never ordered⟩
        · exact ⟨order, ordered.skip takes⟩

/-- However operations on one store of triggers are interleaved, each trigger ends up as some
of them, run one after another, leave it: every one that takes effect on it, apart from
those that one of them overtakes. What these do is not undone: a switch stays, unless
there is one to the other side, and that the trigger has fired stays known. -/
theorem exists_serial (id : String) :
    ∃ order : List ι, order.Nodup ∧
      Serial engine ops (pathOf history) id order (start.get? id)
        ((shelfAfter start history).get? id) ∧
      (∀ i ∈ order, ∃ exchange ∈ pathOf history i, TakesEffect id (pathOf history i) exchange) ∧
      (∀ before i exchange after, history = before ++ (i, exchange) :: after →
        TakesEffect id (pathOf history i) exchange →
          i ∈ order ∨ ∃ j ∈ order, Overtakes id before after j) ∧
      (∀ on, (∃ i ∈ order, ops i = .switch on id) → (∀ i ∈ order, ops i ≠ .switch (!on) id) →
        ∃ t, (shelfAfter start history).get? id = some t ∧ t.enabled = on) ∧
      ∀ i ∈ order, ∀ exchange ∈ pathOf history i, ∀ v, exchange.stored? = some v → v.id = id →
        v.lastFiredAt.isSome →
          ∃ t, (shelfAfter start history).get? id = some t ∧ t.lastFiredAt.isSome := by
  obtain ⟨order, ordered⟩ := interleaving.exists_ordered id history [] (List.append_nil _).symm
  refine ⟨order, ordered.nodup, ordered.serial, fun i listed => ?_, ordered.covers, ?_, ?_⟩
  · obtain ⟨before, exchange, after, split, takes⟩ := ordered.effects i listed
    refine ⟨exchange, ?_, takes⟩
    rw [pathOf_split split]
    exact List.mem_append_right _ List.mem_cons_self
  · intro on switch never
    exact ordered.serial.switched switch never
  · rintro i listed exchange member v stores rfl fired
    exact ordered.serial.fired listed member stores fired

end Interleaving

/-! ## A lost switch -/

/-- All operations, run one after another in some order, leave each trigger so. -/
def Serializable (engine : Engine) (ops : ι → Operation) (start final : Shelf Trigger) : Prop :=
  ∀ id, ∃ (order : List ι) (paths : ι → List Exchange), order.Nodup ∧ (∀ i, i ∈ order) ∧
    Serial engine ops paths id order (start.get? id) (final.get? id)

/-- A trigger that looks at the screen. -/
def door : Trigger := { id := "door", kind := .imageMatch { targetId := "handle" } }

def doorShelf : Shelf Trigger := ⟨[door], List.pairwise_singleton _ _⟩

/-- What a pass makes of the trigger when it does not see the target. -/
def doorPassed : Trigger := door.record ⟨Trigger.Reason.matchNotFound.verdict ⟨0, 0⟩, none⟩

/-- A pass over all triggers, and somebody who disables one. -/
def doorOps : Bool → Operation
  | false => .pass none
  | true => .disable "door"

/-- The pass looks at the screen for so long that the trigger is disabled meanwhile. -/
def doorHistory : List (Bool × Exchange) :=
  [(false, ⟨.triggers, .ok [door]⟩), (false, ⟨.isCancelled, false⟩), (false, ⟨.now, ⟨0, 0⟩⟩),
    (false, ⟨.isCancelled, false⟩), (true, ⟨.trigger "door", .ok (some door)⟩),
    (true, ⟨.keep door.disable, .ok ()⟩),
    (false, ⟨.measure (Trigger.Match.condition { targetId := "handle" } .image),
      .ok { found := false }⟩),
    (false, ⟨.keep doorPassed, .ok ()⟩)]

theorem doorHistory_interleaving :
    Interleaving (Engine.standard true) doorOps doorShelf doorHistory := by
  constructor
  · intro i
    cases i with
    | false =>
      exact .ask _ (.ask _ (.ask _ (.ask _ (.ask _ (.ask _ (.done true))))))
    | true => exact .ask _ (.ask _ (.done true))
  · refine ⟨?_, trivial, trivial, trivial, ?_, trivial, trivial, trivial, trivial⟩
    · rintro triggers same
      cases same
      exact List.Perm.refl _
    · rintro found same
      cases same
      rfl

/-- What the two leave is what the pass alone leaves: it overtakes the switch. -/
theorem doorHistory_exists_serial :
    ∃ order : List Bool, order.Nodup ∧
      Serial (Engine.standard true) doorOps (pathOf doorHistory) "door" order (some door)
        (some doorPassed) := by
  obtain ⟨order, nodup, serial, _⟩ := Interleaving.exists_serial doorHistory_interleaving "door"
  exact ⟨order, nodup, serial⟩

/-- The disabled trigger ends up enabled, which no order of the two operations explains. -/
theorem doorHistory_not_serializable :
    Interleaving (Engine.standard true) doorOps doorShelf doorHistory ∧
      ¬ Serializable (Engine.standard true) doorOps doorShelf (shelfAfter doorShelf doorHistory) := by
  refine ⟨doorHistory_interleaving, fun serializable => ?_⟩
  obtain ⟨order, paths, _, all, serial⟩ := serializable "door"
  have never : ∀ i ∈ order, doorOps i ≠ .switch (!false) "door" := by
    intro i _
    cases i <;> exact nofun
  obtain ⟨t, final, disabled⟩ := serial.switched ⟨true, all true, rfl⟩ never
  cases final
  cases disabled

end Autopilot
