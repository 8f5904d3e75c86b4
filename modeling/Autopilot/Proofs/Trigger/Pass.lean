import Autopilot.Proofs.Trigger.Operation
import Mathlib.Data.List.Forall2
import Mathlib.Data.List.Induction

/-!
A pass over the triggers, on its own and at one time. What is seen on the screen depends on
nothing but the condition, and the store refuses the triggers of some ids. Each selected
trigger is then judged as it would be judged alone, however the store lists the triggers. A
trigger that cannot be stored does not stop the pass, and a cancellation stops it between two
triggers, so that none of them is left half changed.
-/

namespace Autopilot

/-! ## Records replaced in place -/

section Records

variable {α : Type} [Keyed α]

/-- A record takes the place of the one that has its id. -/
theorem insertRecord_eq_map (record : α) {records : List α} (sorted : InOrder records)
    (known : recordId record ∈ records.map recordId) :
    insertRecord record records =
      records.map fun old => if recordId old = recordId record then record else old := by
  induction records with
  | nil => cases known
  | cons first rest ih =>
    obtain ⟨before, tail⟩ := List.pairwise_cons.1 sorted
    have behind : ∀ later ∈ rest, recordId later ≠ recordId first := by
      intro later member same
      exact String.lt_irrefl _ (same ▸ before later member)
    unfold insertRecord
    by_cases same : recordId record = recordId first
    · have others : ∀ old ∈ rest, (if recordId old = recordId record then record else old) = old :=
        fun old member => if_neg fun other => behind old member (other.trans same)
      rw [if_neg (by rw [same]; exact String.lt_irrefl _), if_pos same, List.map_cons,
        if_pos same.symm, List.map_congr_left others, List.map_id']
    · have later : recordId record ∈ rest.map recordId :=
        (List.mem_cons.1 known).resolve_left same
      have notLess : ¬ recordId record < recordId first := by
        obtain ⟨old, member, equal⟩ := List.mem_map.1 later
        intro less
        rw [← equal] at less
        exact String.lt_irrefl _ (String.lt_trans less (before old member))
      rw [if_neg notLess, if_neg same, ih tail later, List.map_cons, if_neg (Ne.symm same)]

/-- Of the records on a shelf, no two have the same id. -/
theorem Shelf.eq_of_recordId (shelf : Shelf α) {first second : α} (one : first ∈ shelf.records)
    (other : second ∈ shelf.records) (same : recordId first = recordId second) :
    first = second := by
  have found := (shelf.get?_eq_some_iff (recordId second) first).2 ⟨one, same⟩
  have again := (shelf.get?_eq_some_iff (recordId second) second).2 ⟨other, rfl⟩
  exact Option.some.inj (found.symm.trans again)

end Records

/-- Without a filter all triggers are selected. -/
def Trigger.selectedBy (t : Trigger) (filter : Option Filter) : Bool := filter.all (·.selects t)

/-! ## Answers on the way -/

namespace Dialogue

variable {α : Type}

/-- Someone who answers in view of all that was said so far, and notes what is said. -/
def noting (reply : List Exchange → (question : Question) → question.Answer)
    (question : Question) : StateM (List Exchange) question.Answer :=
  fun said => (reply said question, said ++ [⟨question, reply said question⟩])

/-- What is noted is a trace, and every answer in it was given on the way. -/
theorem run_noting (reply : List Exchange → (question : Question) → question.Answer)
    (d : Dialogue α) (said : List Exchange) :
    ∃ path, (d.run (noting reply) said).2 = said ++ path ∧
      Trace d path (d.run (noting reply) said).1 ∧
      ∀ exchange ∈ path, ∃ before, exchange.answer = reply before exchange.question := by
  induction d generalizing said with
  | done value => exact ⟨[], (List.append_nil said).symm, .done value, fun _ member => by cases member⟩
  | ask question next ih =>
    obtain ⟨path, noted, later, given⟩ :=
      ih (reply said question) (said ++ [⟨question, reply said question⟩])
    refine ⟨⟨question, reply said question⟩ :: path, ?_, .ask _ later, ?_⟩
    · exact noted.trans (List.append_assoc _ _ _)
    · intro exchange member
      rcases List.mem_cons.1 member with rfl | member
      · exact ⟨said, rfl⟩
      · exact given exchange member

end Dialogue

/-- Whether an exchange tells that everything is to stop. -/
def Exchange.stops : Exchange → Bool
  | ⟨.isCancelled, answer⟩ => (answer : Bool)
  | _ => false

/-- What a pass meets: one time, a screen that shows for each condition the same all along and
never takes a look for cancelled, and a store that refuses the triggers of some ids. -/
structure Circumstances where
  now : Instant
  shows : Condition → Except ConditionError Measure
  calm : ∀ condition, shows condition ≠ .error .cancelled
  refusal : String → Option StoreError

namespace Circumstances

variable (c : Circumstances)

/-- What comes of storing the trigger of an id. -/
def storing (id : String) : Except StoreError Unit :=
  match c.refusal id with
  | some error => .error error
  | none => .ok ()

/-- An exchange in which the circumstances answer, and the store lists its triggers so. Whether
to stop, and what has no part in a pass, is left open. -/
def Gives (listed : List Trigger) : Exchange → Prop
  | ⟨.now, answer⟩ => answer = c.now
  | ⟨.triggers, answer⟩ => answer = .ok listed
  | ⟨.keep t, answer⟩ => answer = c.storing t.id
  | ⟨.measure condition, answer⟩ => answer = c.shows condition
  | _ => True

/-- The verdict on what is on the screen. -/
def look (condition : Condition) : Trigger.Evaluation :=
  match c.shows condition with
  | .ok m =>
    let reason : Trigger.Reason := if condition.satisfiedBy m then .matchFound else .matchNotFound
    ⟨{ reason.verdict c.now with confidence := m.confidence }, none⟩
  | .error _ => ⟨Trigger.Reason.conditionError.verdict c.now, none⟩

/-- The judgement of a trigger, on its own. -/
def own (engine : Engine) (t : Trigger) : Trigger.Evaluation :=
  if t.enabled = false then ⟨Trigger.Reason.triggerDisabled.verdict c.now, none⟩
  else if t.isCooling c.now then ⟨Trigger.Reason.cooldownActive.verdict c.now, none⟩
  else if engine.canJudge t = false then ⟨Trigger.Reason.noEvaluator.verdict c.now, none⟩
  else match t.kind with
    | .delay seconds => t.judgeDelay seconds c.now
    | .schedule time => t.judgeSchedule time c.now
    | .imageMatch target => c.look (target.condition .image)
    | .textMatch target => c.look (target.condition .text)

variable {c}

theorem judgeMeasure_shows (condition : Condition) :
    Trigger.judgeMeasure condition c.now (c.shows condition) = .ok (c.look condition) := by
  have calm := c.calm condition
  unfold look
  cases shown : c.shows condition with
  | ok m => rfl
  | error error =>
    rw [shown] at calm
    cases error with
    | cancelled => exact absurd rfl calm
    | _ => rfl

/-- Judging a trigger ends with the judgement that is its own, unless it is told to stop. -/
theorem evaluate_own {engine : Engine} {t : Trigger} {listed : List Trigger} {path : List Exchange}
    {outcome : Except TriggerError Trigger.Evaluation}
    (said : Trace (engine.evaluate t c.now).run path outcome)
    (given : ∀ exchange ∈ path, c.Gives listed exchange) :
    (path.any Exchange.stops = false ∧ outcome = .ok (c.own engine t)) ∨
      (path.any Exchange.stops = true ∧ outcome = .error .cancelled) := by
  rcases Engine.evaluate_cases said with ⟨rfl, rfl⟩ | ⟨rest, rfl, handled⟩
  · exact .inr ⟨rfl, rfl⟩
  · refine .inl ?_
    rcases handled with ⟨off, rfl, rfl⟩ | ⟨on, cools, rfl, rfl⟩ | ⟨on, awake, able, judged⟩ |
      ⟨on, awake, unable, rfl, rfl⟩
    · exact ⟨rfl, by simp only [own, off, if_true]⟩
    · exact ⟨rfl, by simp only [own, on, cools, Bool.true_eq_false, if_false, if_true]⟩
    · have looked : c.own engine t = match t.kind with
          | .delay seconds => t.judgeDelay seconds c.now
          | .schedule time => t.judgeSchedule time c.now
          | .imageMatch target => c.look (target.condition .image)
          | .textMatch target => c.look (target.condition .text) := by
        simp only [own, on, awake, able, Bool.true_eq_false, Bool.false_eq_true, if_false]
      rw [looked]
      rcases Engine.judge_cases judged with ⟨seconds, kind, rfl, rfl⟩ | ⟨time, kind, rfl, rfl⟩ |
        ⟨condition, answer, kind, rfl, rfl⟩
      · exact ⟨rfl, by rw [kind]⟩
      · exact ⟨rfl, by rw [kind]⟩
      · obtain rfl : answer = c.shows condition :=
          given ⟨.measure condition, answer⟩ (List.mem_cons_of_mem _ List.mem_cons_self)
        refine ⟨rfl, (judgeMeasure_shows condition).trans (congrArg Except.ok ?_)⟩
        cases same : t.kind with
        | delay | schedule =>
          rw [same] at kind
          cases kind
        | imageMatch | textMatch =>
          rw [same] at kind
          cases kind
          rfl
    · exact ⟨rfl, by simp only [own, on, awake, unable, Bool.true_eq_false, Bool.false_eq_true,
        if_false, if_true]⟩

variable (c)

/-! ## One trigger after another -/

/-- A shelf after a trigger was judged. -/
def storeOn (engine : Engine) (shelf : Shelf Trigger) (t : Trigger) : Shelf Trigger :=
  if (c.refusal t.id).isSome then shelf else shelf.insert (t.record (c.own engine t))

/-- What a pass has done when it has judged one more trigger. -/
def count (progress : Progress) (t : Trigger) : Progress := progress.judged t.id (c.storing t.id)

/-- The ids of triggers that cannot be stored. -/
def unstored (judged : List Trigger) : List String :=
  (judged.filter fun t => (c.refusal t.id).isSome).map Trigger.id

/-- A trigger after a pass that has judged the triggers of some ids. -/
def settle (engine : Engine) (judged : List String) (t : Trigger) : Trigger :=
  if t.id ∈ judged ∧ c.refusal t.id = none then t.record (c.own engine t) else t

variable {c} {engine : Engine}

theorem next_keep (shelf : Shelf Trigger) (t : Trigger) :
    shelf.next ⟨.keep (t.record (c.own engine t)), c.storing t.id⟩ = c.storeOn engine shelf t := by
  unfold storeOn storing
  cases c.refusal t.id <;> rfl

theorem settle_id (judged : List String) (t : Trigger) : (c.settle engine judged t).id = t.id := by
  unfold settle
  split <;> rfl

theorem unstored_append (first rest : List Trigger) :
    c.unstored (first ++ rest) = c.unstored first ++ c.unstored rest := by
  simp only [unstored, List.filter_append, List.map_append]

/-- A pass judges its triggers in their order, all of them unless it is told to stop. -/
theorem judgeEach_said {listed triggers : List Trigger} {progress : Progress}
    {path : List Exchange} {outcome : Except TriggerError Progress}
    (said : Trace (engine.judgeEach progress triggers).run path outcome)
    (given : ∀ exchange ∈ path, c.Gives listed exchange) :
    ∃ judged rest, triggers = judged ++ rest ∧
      (∀ shelf : Shelf Trigger, shelf.after path = judged.foldl (c.storeOn engine) shelf) ∧
      ((path.any Exchange.stops = false ∧ rest = [] ∧
          outcome = .ok (judged.foldl c.count progress)) ∨
        (path.any Exchange.stops = true ∧ outcome = .error .cancelled)) := by
  induction triggers generalizing progress path with
  | nil =>
    obtain ⟨rfl, rfl⟩ := Talk.trace_pure said
    exact ⟨[], [], rfl, fun _ => rfl, .inl ⟨rfl, rfl, rfl⟩⟩
  | cons t triggers ih =>
    obtain ⟨stop, asked, rfl, said₁⟩ := Talk.trace_ask said
    cases stop with
    | true =>
      rcases Talk.trace_bind said₁ with ⟨_, _, _, _, before, _⟩ | ⟨_, before, rfl⟩
      · cases (Talk.trace_throw before).2
      · obtain ⟨rfl, same⟩ := Talk.trace_throw before
        cases same
        exact ⟨[], _, rfl, fun _ => rfl, .inr ⟨rfl, rfl⟩⟩
    | false =>
      obtain ⟨now, judging, rfl, said₂⟩ := Talk.trace_ask said₁
      obtain rfl : now = c.now := given ⟨.now, now⟩ (by simp)
      -- Judging leaves the shelf as it is, whether or not it comes to its end.
      have quiet (shelf : Shelf Trigger) {first : List Exchange}
          {verdict : Except TriggerError Trigger.Evaluation}
          (before : Trace (engine.evaluate t c.now).run first verdict) : shelf.after first = shelf :=
        (follows_of_quiet shelf (Engine.evaluate_quiet before)).2
      rcases Talk.trace_bind said₂ with ⟨first, e, keeping, rfl, before, said₃⟩ | ⟨_, before, rfl⟩
      · obtain ⟨stored, others, rfl, said₄⟩ := Talk.trace_ask said₃
        obtain ⟨on, same⟩ | ⟨_, same⟩ :=
          evaluate_own before fun exchange member => given exchange (by simp [member])
        · cases same
          obtain rfl : stored = c.storing t.id :=
            given ⟨.keep (t.record (c.own engine t)), stored⟩ (by simp)
          obtain ⟨judged, rest, rfl, stores, ends⟩ :=
            ih said₄ fun exchange member => given exchange (by simp [member])
          refine ⟨t :: judged, rest, rfl, fun shelf => ?_, ?_⟩
          · change shelf.after (first ++ _ :: others) = _
            rw [Shelf.after_append, quiet shelf before, Shelf.after_cons, next_keep, stores]
            rfl
          · have stops : (⟨.isCancelled, false⟩ :: ⟨.now, c.now⟩ :: (first ++
                ⟨.keep (t.record (c.own engine t)), c.storing t.id⟩ :: others)).any Exchange.stops =
                  others.any Exchange.stops := by
              change (first ++ _ :: others).any Exchange.stops = _
              rw [List.any_append, on]
              rfl
            rw [stops]
            exact ends
        · cases same
      · obtain ⟨_, same⟩ | ⟨stops, same⟩ :=
          evaluate_own before fun exchange member => given exchange (by simp [member])
        · cases same
        · cases same
          refine ⟨[], _, rfl, fun shelf => ?_, .inr ⟨stops, rfl⟩⟩
          change shelf.after judging = shelf
          exact quiet shelf before

/-- Triggers that are judged one after another are replaced where they stand. -/
theorem records_foldl_storeOn {judged : List Trigger} {shelf : Shelf Trigger}
    (known : ∀ t ∈ judged, t ∈ shelf.records) (distinct : (judged.map Trigger.id).Nodup) :
    (judged.foldl (c.storeOn engine) shelf).records =
      shelf.records.map (c.settle engine (judged.map Trigger.id)) := by
  induction judged using List.reverseRecOn with
  | nil =>
    refine (List.map_id' _).symm.trans (List.map_congr_left fun u _ => ?_)
    simp [settle]
  | append_singleton judged t ih =>
    rw [List.map_append, List.nodup_append] at distinct
    have before := ih (fun u member => known u (List.mem_append_left _ member)) distinct.1
    have here := known t (List.mem_append_right _ List.mem_cons_self)
    have fresh : t.id ∉ judged.map Trigger.id := fun member =>
      distinct.2.2 t.id member t.id List.mem_cons_self rfl
    rw [List.foldl_append, List.foldl_cons, List.foldl_nil, storeOn]
    cases refused : c.refusal t.id with
    | some error =>
      simp only [Option.isSome_some, if_true]
      refine before.trans (List.map_congr_left fun u _ => ?_)
      by_cases same : u.id = t.id
      · simp [settle, same, refused]
      · simp [settle, same]
    | none =>
      simp only [Option.isSome_none, Bool.false_eq_true, if_false]
      have stays : t ∈ (judged.foldl (c.storeOn engine) shelf).records := by
        rw [before]
        exact List.mem_map.2 ⟨t, here, if_neg fun both => fresh both.1⟩
      have replaced := insertRecord_eq_map (t.record (c.own engine t))
        (judged.foldl (c.storeOn engine) shelf).inOrder (List.mem_map.2 ⟨t, stays, rfl⟩)
      refine replaced.trans ?_
      rw [before, List.map_map]
      refine List.map_congr_left fun u member => ?_
      change (if (c.settle engine _ u).id = t.id then _ else _) = _
      rw [settle_id]
      by_cases same : u.id = t.id
      · obtain rfl := shelf.eq_of_recordId member here same
        simp [settle, refused]
      · simp [settle, same]

/-- A pass counts what it judges, and lists what it cannot store. -/
theorem foldl_count (judged : List Trigger) :
    judged.foldl c.count {} =
      { evaluated := judged.length
        failed := c.unstored judged
        reason := (c.unstored judged).getLast?.bind c.refusal } := by
  induction judged using List.reverseRecOn with
  | nil => rfl
  | append_singleton judged t ih =>
    rw [List.foldl_append, ih, unstored_append]
    cases refused : c.refusal t.id with
    | some error => simp [count, storing, Progress.judged, unstored, refused]
    | none => simp [count, storing, Progress.judged, unstored, refused]

/-- A pass judges the first of the triggers that are selected, all of them unless it is told to
stop. -/
theorem evaluateAll_judges {filter : Option Filter} {listed : List Trigger} {path : List Exchange}
    {outcome : Except TriggerError Nat} (said : Trace (engine.evaluateAll filter).run path outcome)
    (given : ∀ exchange ∈ path, c.Gives listed exchange) :
    ∃ judged rest, listed.filter (·.selectedBy filter) = judged ++ rest ∧
      (∀ shelf : Shelf Trigger, shelf.after path = judged.foldl (c.storeOn engine) shelf) ∧
      ((path.any Exchange.stops = false ∧ rest = [] ∧
          outcome = (judged.foldl c.count {}).outcome) ∨
        (path.any Exchange.stops = true ∧ outcome = .error .cancelled)) := by
  obtain ⟨answer, asked, rfl, said₁⟩ := Talk.trace_ask said
  obtain rfl : answer = .ok listed := given ⟨.triggers, answer⟩ List.mem_cons_self
  rcases Talk.trace_bind said₁ with ⟨first, triggers, judging, rfl, before, said₂⟩ | ⟨_, before, _⟩
  · obtain ⟨rfl, same⟩ := Talk.trace_orFail before
    cases same
    rcases Talk.trace_bind said₂ with ⟨judging, progress, last, rfl, said₃, ending⟩ |
      ⟨_, said₃, rfl⟩
    · obtain ⟨judged, rest, split, stores, ends⟩ :=
        judgeEach_said said₃ fun exchange member => given exchange (by simp [member])
      obtain ⟨on, rfl, same⟩ | ⟨_, same⟩ := ends
      · cases same
        obtain ⟨rfl, rfl⟩ := Talk.trace_orFail ending
        refine ⟨judged, [], split, fun shelf => ?_, .inl ⟨?_, rfl, ?_⟩⟩
        · rw [List.append_nil]
          exact stores shelf
        · rw [List.append_nil]
          exact on
        · cases (judged.foldl c.count {}).outcome <;> rfl
      · cases same
    · obtain ⟨judged, rest, split, stores, ends⟩ :=
        judgeEach_said said₃ fun exchange member => given exchange (by simp [member])
      obtain ⟨_, _, same⟩ | ⟨stopped, same⟩ := ends
      · cases same
      · cases same
        exact ⟨judged, rest, split, stores, .inr ⟨stopped, rfl⟩⟩
  · cases (Talk.trace_orFail before).2

/-- What a pass comes to. -/
structure Settles (c : Circumstances) (engine : Engine) (filter : Option Filter)
    (shelf : Shelf Trigger) (listed : List Trigger) (path : List Exchange)
    (outcome : Except TriggerError Nat) : Prop where
  /-- Unless it is stopped, a pass changes the selected triggers that can be stored, and no
  others. -/
  replaced : path.any Exchange.stops = false → (shelf.after path).records =
    shelf.records.map fun t =>
      if t.selectedBy filter = true ∧ c.refusal t.id = none then t.record (c.own engine t) else t
  /-- If all of them can be stored, it tells how many they are. -/
  told : path.any Exchange.stops = false →
    c.unstored (listed.filter (·.selectedBy filter)) = [] →
    outcome = .ok (shelf.records.filter (·.selectedBy filter)).length
  /-- Else it also tells which of them could not be stored, and why the last of these. -/
  failed : path.any Exchange.stops = false →
    c.unstored (listed.filter (·.selectedBy filter)) ≠ [] →
    ∃ lead last error,
      c.unstored (listed.filter (·.selectedBy filter)) = lead ++ [last] ∧
      c.refusal last = some error ∧
      outcome = .error (.persistFailed
        (shelf.records.filter (·.selectedBy filter)).length (lead ++ [last]) error.message)
  /-- A pass that is stopped tells only that. -/
  cancelled : path.any Exchange.stops = true → outcome = .error .cancelled
  /-- In any case a trigger is as it was, or it is changed as a whole. -/
  whole : List.Forall₂
    (fun t later => later = t ∨ (t.selectedBy filter = true ∧ c.refusal t.id = none ∧
      later = t.record (c.own engine t)))
    shelf.records (shelf.after path).records

/-- A pass over the listed triggers, as it is told by its trace. -/
theorem evaluateAll_said {filter : Option Filter} {shelf : Shelf Trigger} {listed : List Trigger}
    {path : List Exchange} {outcome : Except TriggerError Nat}
    (all : listed.Perm shelf.records)
    (said : Trace (engine.evaluateAll filter).run path outcome)
    (given : ∀ exchange ∈ path, c.Gives listed exchange) :
    c.Settles engine filter shelf listed path outcome := by
  obtain ⟨judged, rest, split, stores, ends⟩ := evaluateAll_judges said given
  have selected : ∀ t ∈ judged, t ∈ shelf.records ∧ t.selectedBy filter = true := by
    intro t member
    have among : t ∈ listed.filter (·.selectedBy filter) :=
      split ▸ List.mem_append_left rest member
    exact ⟨all.subset (List.mem_filter.1 among).1, (List.mem_filter.1 among).2⟩
  have distinct : (judged.map Trigger.id).Nodup := by
    have whole : (listed.map Trigger.id).Nodup := (all.map Trigger.id).nodup_iff.2 shelf.inOrder.nodup
    have part : judged.Sublist listed :=
      (List.sublist_append_left judged rest).trans (split ▸ List.filter_sublist)
    exact whole.sublist (part.map Trigger.id)
  have records : (shelf.after path).records =
      shelf.records.map (c.settle engine (judged.map Trigger.id)) := by
    rw [stores]
    exact records_foldl_storeOn (fun t member => (selected t member).1) distinct
  have judged_of_id : ∀ t ∈ shelf.records, t.id ∈ judged.map Trigger.id → t ∈ judged := by
    intro t here member
    obtain ⟨u, judges, same⟩ := List.mem_map.1 member
    exact shelf.eq_of_recordId (selected u judges).1 here same ▸ judges
  have number : (listed.filter (·.selectedBy filter)).length =
      (shelf.records.filter (·.selectedBy filter)).length := (all.filter _).length_eq
  have complete (on : path.any Exchange.stops = false) :
      listed.filter (·.selectedBy filter) = judged ∧
        outcome = (judged.foldl c.count {}).outcome := by
    rcases ends with ⟨_, rfl, same⟩ | ⟨stopped, _⟩
    · exact ⟨split.trans (List.append_nil judged), same⟩
    · rw [on] at stopped
      cases stopped
  constructor
  case replaced =>
    intro on
    rw [records]
    refine List.map_congr_left fun t here => ?_
    have chosen : t.id ∈ judged.map Trigger.id ↔ t.selectedBy filter = true := by
      constructor
      · exact fun member => (selected t (judged_of_id t here member)).2
      · intro chosen
        rw [← (complete on).1]
        exact List.mem_map_of_mem (List.mem_filter.2 ⟨all.mem_iff.2 here, chosen⟩)
    simp only [settle, chosen]
  case told =>
    intro on stored
    rw [← number]
    obtain ⟨same, rfl⟩ := complete on
    rw [same] at stored ⊢
    rw [foldl_count, stored]
    rfl
  case failed =>
    intro on refused
    rw [← number]
    obtain ⟨same, rfl⟩ := complete on
    rw [same] at refused ⊢
    obtain ⟨lead, last, parts⟩ := (List.eq_nil_or_concat _).resolve_left refused
    rw [List.concat_eq_append] at parts
    have unstored : last ∈ c.unstored judged := parts ▸ List.mem_append_right _ List.mem_cons_self
    obtain ⟨t, member, same⟩ := List.mem_map.1 unstored
    obtain ⟨error, reason⟩ := Option.isSome_iff_exists.1 (List.mem_filter.1 member).2
    rw [same] at reason
    refine ⟨lead, last, error, parts, reason, ?_⟩
    rw [foldl_count, parts, List.getLast?_concat, Option.bind_some, reason]
    rfl
  case cancelled =>
    intro stopped
    rcases ends with ⟨on, _⟩ | ⟨_, same⟩
    · rw [on] at stopped
      cases stopped
    · exact same
  case whole =>
    rw [records, List.forall₂_map_right_iff, List.forall₂_same]
    intro t here
    unfold settle
    split
    next both => exact .inr ⟨(selected t (judged_of_id t here both.1)).2, both.2, rfl⟩
    next => exact .inl rfl

/-- However a pass over the triggers goes and whenever it is stopped, it comes to an end. Unless it
is stopped, the store then has, for each selected trigger that can be stored, its own judgement
taken in, and all other triggers as they were; the order in which the triggers are listed has no
part in that. -/
theorem evaluateAll_settles (c : Circumstances) (engine : Engine) (filter : Option Filter)
    (shelf : Shelf Trigger) {listed : List Trigger} (all : listed.Perm shelf.records)
    (reply : List Exchange → (question : Question) → question.Answer)
    (given : ∀ said question, c.Gives listed ⟨question, reply said question⟩) :
    (∀ t path outcome, Trace (engine.evaluate t c.now).run path outcome →
      (∀ exchange ∈ path, c.Gives listed exchange) → path.any Exchange.stops = false →
      outcome = .ok (c.own engine t)) ∧
    let pass := (engine.evaluateAll filter).run.run (Dialogue.noting reply) []
    c.Settles engine filter shelf listed pass.2 pass.1 := by
  constructor
  · intro t path outcome said answers on
    rcases evaluate_own said answers with ⟨_, same⟩ | ⟨stopped, _⟩
    · exact same
    · rw [on] at stopped
      cases stopped
  · obtain ⟨path, noted, said, answers⟩ :=
      Dialogue.run_noting reply (engine.evaluateAll filter).run []
    rw [List.nil_append] at noted
    change c.Settles engine filter shelf listed (Dialogue.run _ _ _).2 _
    rw [noted]
    refine evaluateAll_said all said fun exchange member => ?_
    obtain ⟨before, same⟩ := answers exchange member
    rw [show exchange = ⟨exchange.question, reply before exchange.question⟩ from same ▸ rfl]
    exact given before exchange.question

/-- At one time nothing is seen on the screen, and the store refuses the door. -/
def dusk : Circumstances where
  now := ⟨0, 0⟩
  shows _ := .ok { found := false }
  calm _ same := nomatch same
  refusal id := if id = "door" then some (.storage "full") else none

/-- A bell that rings at once, a door that is never seen, and a lamp that is off. -/
def duskShelf : Shelf Trigger :=
  .ofList [{ id := "bell", kind := .delay 0 },
    { id := "door", kind := .imageMatch { targetId := "handle" } },
    { id := "lamp", kind := .delay 0, enabled := false }]

def duskReply : List Exchange → (question : Question) → question.Answer
  | _, .isCancelled => false
  | _, .now => dusk.now
  | _, .triggers => .ok duskShelf.records.reverse
  | _, .trigger id => .ok (duskShelf.get? id)
  | _, .keep t => dusk.storing t.id
  | _, .measure condition => dusk.shows condition
  | _, .session _ => none
  | _, .command _ => .ok none
  | _, .execute _ _ => .error .cancelled

/-- The bell is changed, the door is not, and the lamp is not selected. -/
theorem evaluateAll_settles_dusk :
    let pass := ((Engine.standard true).evaluateAll (some { enabledOnly := true })).run.run
      (Dialogue.noting duskReply) []
    duskShelf.records.reverse.Perm duskShelf.records ∧
      (∀ said question, dusk.Gives duskShelf.records.reverse ⟨question, duskReply said question⟩) ∧
      pass.2.any Exchange.stops = false ∧
      pass.1 = .error (.persistFailed 2 ["door"] (StoreError.storage "full").message) ∧
      (duskShelf.after pass.2).records =
        duskShelf.records.map fun t =>
          if t.selectedBy (some { enabledOnly := true }) = true ∧ dusk.refusal t.id = none then
            t.record (dusk.own (.standard true) t)
          else t := by
  have given : ∀ said question,
      dusk.Gives duskShelf.records.reverse ⟨question, duskReply said question⟩ := by
    intro said question
    cases question <;> first | rfl | trivial
  obtain ⟨_, settles⟩ := evaluateAll_settles dusk (.standard true) (some { enabledOnly := true })
    duskShelf (List.reverse_perm _) duskReply given
  exact ⟨List.reverse_perm _, given, rfl, rfl, settles.replaced rfl⟩

end Circumstances

end Autopilot
