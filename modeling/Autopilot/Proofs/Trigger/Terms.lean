import Autopilot.Proofs.Trigger.Asking

/-!
Dialogues under terms. Whoever answers can be relied on to tell only of certain triggers, and of
certain measurements and commands; whoever asks stores only such triggers in return. So what holds
of all stored triggers goes on to hold, whichever dialogues are carried on in between.
-/

namespace Autopilot

/-- What stored triggers are like, which ones an id finds, what a measurement can come to, and what
the id of a command finds. -/
structure Terms where
  stored : Trigger → Prop
  finds : String → Trigger → Prop
  measured : Except ConditionError Measure → Prop
  command : String → Option Command → Prop

namespace Terms

/-- An answer that keeps to the terms. -/
def Tells (terms : Terms) : (question : Question) → question.Answer → Prop
  | .triggers, answer => ∀ triggers, answer = .ok triggers → ∀ t ∈ triggers, terms.stored t
  | .trigger id, answer => ∀ t, answer = .ok (some t) → terms.finds id t
  | .measure _, answer => terms.measured answer
  | .command id, answer => ∀ command, answer = .ok command → terms.command id command
  | _, _ => True

/-- A question that keeps to the terms, if some commands may be run. -/
def Asks (terms : Terms) (runs : String → String → Prop) : Question → Prop
  | .keep t => terms.stored t
  | .execute sessionId commandId => runs sessionId commandId
  | _ => True

/-- Terms that all answers keep to. -/
def free : Terms := ⟨fun _ => True, fun _ _ => True, fun _ => True, fun _ _ => True⟩

theorem free_tells (question : Question) (answer : question.Answer) : free.Tells question answer := by
  cases question with
  | triggers => exact fun _ _ _ _ => trivial
  | trigger => exact fun _ _ => trivial
  | command => exact fun _ _ => trivial
  | _ => trivial

end Terms

/-- As long as the answers keep to the terms, the questions do, and the end is as it should be. -/
inductive Dialogue.Abides {α : Type} (terms : Terms) (runs : String → String → Prop)
    (ends : α → Prop) : Dialogue α → Prop where
  | done {value : α} (fine : ends value) : Abides terms runs ends (.done value)
  | ask {question : Question} {next : question.Answer → Dialogue α}
      (fine : terms.Asks runs question)
      (later : ∀ answer, terms.Tells question answer → Abides terms runs ends (next answer)) :
      Abides terms runs ends (.ask question next)

/-- A talk that abides by the terms, with some property of what it gives when it succeeds. -/
def Talk.Abides {α ε : Type} (terms : Terms) (runs : String → String → Prop) (gives : α → Prop)
    (talk : Talk ε α) : Prop :=
  Dialogue.Abides terms runs (fun outcome => ∀ value, outcome = .ok value → gives value) talk.run

section Abides

variable {terms : Terms} {runs : String → String → Prop} {α β ε : Type}

theorem Dialogue.Abides.bind {d : Dialogue α} {f : α → Dialogue β} {middle : α → Prop}
    {ends : β → Prop} (first : d.Abides terms runs middle)
    (later : ∀ value, middle value → (f value).Abides terms runs ends) :
    (d.bind f).Abides terms runs ends := by
  induction first with
  | done fine => exact later _ fine
  | ask fine _ ih => exact .ask fine ih

/-- Without terms on the answers, only the questions matter. -/
theorem Dialogue.abides_free {d : Dialogue α} :
    d.Abides .free (fun _ _ => False) (fun _ => True) ↔ d.Asks Question.RunsNone := by
  constructor
  · intro abides
    induction abides with
    | done => exact .done _
    | @ask question _ fine _ ih =>
      refine .ask ?_ fun answer => ih answer (Terms.free_tells question answer)
      cases question with
      | execute => exact fine.elim
      | _ => trivial
  · intro asks
    induction asks with
    | done => exact .done trivial
    | @ask question _ none _ ih =>
      refine .ask ?_ fun answer _ => ih answer
      cases question with
      | execute => exact none.elim
      | _ => trivial

theorem Dialogue.Abides.weaken {d : Dialogue α} {ends other : α → Prop}
    (abides : d.Abides terms runs ends) (weaker : ∀ value, ends value → other value) :
    d.Abides terms runs other := by
  induction abides with
  | done fine => exact .done (weaker _ fine)
  | ask fine _ ih => exact .ask fine ih

namespace Talk

variable {gives : α → Prop} {middle : β → Prop}

theorem abides_pure {value : α} (fine : gives value) :
    (pure value : Talk ε α).Abides terms runs gives :=
  .done fun _ same => Except.ok.inj same ▸ fine

theorem abides_throw (error : ε) : (throw error : Talk ε α).Abides terms runs gives :=
  .done nofun

/-- What follows a part can rely on what the part gives. -/
theorem abides_bind {part : Talk ε β} {next : β → Talk ε α} (first : part.Abides terms runs middle)
    (later : ∀ value, middle value → (next value).Abides terms runs gives) :
    (part >>= next).Abides terms runs gives := by
  apply Dialogue.Abides.bind first
  intro outcome fine
  cases outcome with
  | ok value => exact later value (fine value rfl)
  | error error => exact .done nofun

/-- What follows a question can rely on the terms of the answer. -/
theorem abides_ask (question : Question) {next : question.Answer → Talk ε α}
    (fine : terms.Asks runs question)
    (later : ∀ answer, terms.Tells question answer → (next answer).Abides terms runs gives) :
    (ask question >>= next).Abides terms runs gives :=
  abides_bind (.ask fine fun _ told => .done fun _ same => Except.ok.inj same ▸ told) later

theorem abides_ite {condition : Prop} [Decidable condition] {part other : Talk ε α}
    (first : condition → part.Abides terms runs gives)
    (second : ¬condition → other.Abides terms runs gives) :
    (if condition then part else other).Abides terms runs gives := by
  split
  next holds => exact first holds
  next fails => exact second fails

theorem abides_orFail {δ : Type} (fail : δ → ε) {answer : Except δ α}
    (fine : ∀ value, answer = .ok value → gives value) :
    (orFail fail answer).Abides terms runs gives := by
  cases answer with
  | ok value => exact abides_pure (fine value rfl)
  | error error => exact abides_throw (fail error)

end Talk

end Abides

end Autopilot
