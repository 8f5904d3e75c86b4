import Autopilot.Config.Loader

/-!
Nodes of a document that stand for something else: the content of a file, or the value of a
variable. A document with such marks is settled by settling its marks in the order in which
they are written: the first one that fails makes it fail, and else each is replaced by its
value. Keys hold no marks, and all that is not a mark stays as it is.
-/

namespace Autopilot

/-- A node that stands for the content of a file or for the scalar of a variable. -/
inductive Mark where
  | file (named : Datum)
  | scalar (named : Datum)

namespace Mark

/-- The marks that a tag makes. -/
def ofTag? (tag : String) : Option (Datum → Mark) :=
  if tag = "!include" then some .file
  else if tag = "!env_var" then some .scalar
  else none

/-- The node that a mark is. -/
def node : Mark → Datum
  | .file named => .tagged "!include" named
  | .scalar named => .tagged "!env_var" named

theorem node_of_tag {tag : String} {mark : Datum → Mark} (made : ofTag? tag = some mark)
    (content : Datum) : (mark content).node = .tagged tag content := by
  unfold ofTag? at made
  split at made
  next same =>
    cases made
    rw [same]
    rfl
  next =>
    split at made
    next same =>
      cases made
      rw [same]
      rfl
    next => cases made

/-- The name of the file that a mark stands for. -/
def name? : Mark → Option String
  | .file (.text name) => some name
  | _ => none

theorem name?_eq_some_iff {mark : Mark} {name : String} :
    mark.name? = some name ↔ mark = .file (.text name) := by
  constructor
  · intro named
    unfold name? at named
    split at named
    · cases named
      rfl
    · cases named
  · rintro rfl
    rfl

end Mark

namespace Datum

mutual

/-- The marks of a datum in the order in which they are written, but for those in keys. -/
def marks : Datum → List Mark
  | .tagged tag content =>
    match Mark.ofTag? tag with
    | some mark => [mark content]
    | none => content.marks
  | .list items => marksItems items
  | .table rows => marksRows rows
  | _ => []

def marksItems : List Datum → List Mark
  | [] => []
  | item :: rest => item.marks ++ marksItems rest

def marksRows : List (Datum × Datum) → List Mark
  | [] => []
  | (_, value) :: rest => value.marks ++ marksRows rest

end

mutual

/-- The datum with values in the places of its marks. Keys and other tags stay. -/
def replace (value : Mark → Datum) : Datum → Datum
  | .tagged tag content =>
    match Mark.ofTag? tag with
    | some mark => value (mark content)
    | none => .tagged tag (content.replace value)
  | .list items => .list (replaceItems value items)
  | .table rows => .table (replaceRows value rows)
  | d => d

def replaceItems (value : Mark → Datum) : List Datum → List Datum
  | [] => []
  | item :: rest => item.replace value :: replaceItems value rest

def replaceRows (value : Mark → Datum) : List (Datum × Datum) → List (Datum × Datum)
  | [] => []
  | (key, row) :: rest => (key, row.replace value) :: replaceRows value rest

end

/-! ## Replacing -/

section Replace

variable {value other : Mark → Datum}

mutual

/-- What is put in the places of marks is all that is marked afterwards. -/
theorem marks_replace : ∀ d : Datum,
    (d.replace value).marks = d.marks.flatMap fun mark => (value mark).marks
  | .null | .bool _ | .int _ | .real _ | .text _ => rfl
  | .list items => marksItems_replace items
  | .table rows => marksRows_replace rows
  | .tagged tag content => by
    rw [replace, marks]
    cases found : Mark.ofTag? tag with
    | some mark => simp only [List.flatMap_singleton]
    | none => simpa only [marks, found] using marks_replace content

theorem marksItems_replace : ∀ items : List Datum,
    marksItems (replaceItems value items) =
      (marksItems items).flatMap fun mark => (value mark).marks
  | [] => rfl
  | item :: rest => by
    rw [replaceItems, marksItems, marksItems, marks_replace item, marksItems_replace rest,
      List.flatMap_append]

theorem marksRows_replace : ∀ rows : List (Datum × Datum),
    marksRows (replaceRows value rows) = (marksRows rows).flatMap fun mark => (value mark).marks
  | [] => rfl
  | (_, row) :: rest => by
    rw [replaceRows, marksRows, marksRows, marks_replace row, marksRows_replace rest,
      List.flatMap_append]

end

mutual

/-- Only the values of its own marks count. -/
theorem replace_congr : ∀ d : Datum, (∀ mark ∈ d.marks, value mark = other mark) →
    d.replace value = d.replace other
  | .null, _ | .bool _, _ | .int _, _ | .real _, _ | .text _, _ => rfl
  | .list items, same => congrArg Datum.list (replaceItems_congr items same)
  | .table rows, same => congrArg Datum.table (replaceRows_congr rows same)
  | .tagged tag content, same => by
    rw [marks] at same
    rw [replace, replace]
    cases found : Mark.ofTag? tag with
    | some mark =>
      rw [found] at same
      exact same _ List.mem_cons_self
    | none =>
      rw [found] at same
      exact congrArg (Datum.tagged tag) (replace_congr content same)

theorem replaceItems_congr : ∀ items : List Datum,
    (∀ mark ∈ marksItems items, value mark = other mark) →
      replaceItems value items = replaceItems other items
  | [], _ => rfl
  | item :: rest, same => by
    rw [marksItems, List.forall_mem_append] at same
    rw [replaceItems, replaceItems, replace_congr item same.1, replaceItems_congr rest same.2]

theorem replaceRows_congr : ∀ rows : List (Datum × Datum),
    (∀ mark ∈ marksRows rows, value mark = other mark) →
      replaceRows value rows = replaceRows other rows
  | [], _ => rfl
  | (_, row) :: rest, same => by
    rw [marksRows, List.forall_mem_append] at same
    rw [replaceRows, replaceRows, replace_congr row same.1, replaceRows_congr rest same.2]

end

end Replace

mutual

/-- A datum is what its marks are, and all that is not one. -/
theorem replace_node : ∀ d : Datum, d.replace Mark.node = d
  | .null | .bool _ | .int _ | .real _ | .text _ => rfl
  | .list items => congrArg Datum.list (replaceItems_node items)
  | .table rows => congrArg Datum.table (replaceRows_node rows)
  | .tagged tag content => by
    rw [replace]
    cases found : Mark.ofTag? tag with
    | some mark => exact Mark.node_of_tag found content
    | none => exact congrArg (Datum.tagged tag) (replace_node content)

theorem replaceItems_node : ∀ items : List Datum, replaceItems Mark.node items = items
  | [] => rfl
  | item :: rest => by rw [replaceItems, replace_node item, replaceItems_node rest]

theorem replaceRows_node : ∀ rows : List (Datum × Datum), replaceRows Mark.node rows = rows
  | [] => rfl
  | (_, row) :: rest => by rw [replaceRows, replace_node row, replaceRows_node rest]

end

/-- Nothing is replaced in a datum without marks. -/
theorem replace_of_unmarked {d : Datum} (unmarked : d.marks = []) (value : Mark → Datum) :
    d.replace value = d := calc
  d.replace value = d.replace Mark.node := by
    apply replace_congr
    rw [unmarked]
    exact List.forall_mem_nil _
  _ = d := replace_node d

/-! ## Settling -/

section Settle

variable {ε : Type}

/-- The error of an outcome. -/
def failure? : Except ε Datum → Option ε
  | .ok _ => none
  | .error error => some error

/-- The value of an outcome that is no error. -/
def valueOf : Except ε Datum → Datum
  | .ok value => value
  | .error _ => .null

/-- What becomes of something with marks: the first of them that fails makes it fail. -/
def settled {α : Type} (outcome : Mark → Except ε Datum) (marks : List Mark) (whole : α) :
    Except ε α :=
  match marks.findSome? fun mark => failure? (outcome mark) with
  | some error => .error error
  | none => .ok whole

/-- What becomes of a datum when it is known what becomes of its marks. -/
def settle (outcome : Mark → Except ε Datum) (d : Datum) : Except ε Datum :=
  settled outcome d.marks (d.replace fun mark => valueOf (outcome mark))

variable {outcome : Mark → Except ε Datum}

/-- Of two things in a row, the marks of the first come first. -/
theorem settled_append {α β γ : Type} (before after : List Mark) (first : α) (rest : β)
    (whole : α → β → γ) :
    (do
      let a ← settled outcome before first
      let b ← settled outcome after rest
      return whole a b) = settled outcome (before ++ after) (whole first rest) := by
  unfold settled
  rw [List.findSome?_append]
  cases before.findSome? fun mark => failure? (outcome mark) with
  | some error => rfl
  | none =>
    rw [Option.none_or]
    cases after.findSome? fun mark => failure? (outcome mark) <;> rfl

theorem settled_map {α β : Type} (marks : List Mark) (part : α) (whole : α → β) :
    (do return whole (← settled outcome marks part)) = settled outcome marks (whole part) := by
  unfold settled
  cases marks.findSome? fun mark => failure? (outcome mark) <;> rfl

theorem settled_single (mark : Mark) : settled outcome [mark] (valueOf (outcome mark)) = outcome mark := by
  unfold settled
  rw [List.findSome?_cons, List.findSome?_nil]
  cases outcome mark <;> rfl

/-- A datum is settled by its marks if all of them have values. -/
theorem settle_of_values {d : Datum} {value : Mark → Datum}
    (values : ∀ mark ∈ d.marks, outcome mark = .ok (value mark)) :
    d.settle outcome = .ok (d.replace value) := by
  have none : d.marks.findSome? (fun mark => failure? (outcome mark)) = none := by
    rw [List.findSome?_eq_none_iff]
    intro mark member
    rw [values mark member]
    rfl
  have same : d.replace (fun mark => valueOf (outcome mark)) = d.replace value := by
    apply replace_congr
    intro mark member
    rw [values mark member]
    rfl
  unfold settle settled
  rw [none, same]

/-- The first mark that fails makes a datum fail. -/
theorem settle_of_failure {d : Datum} {value : Mark → Datum} {before after : List Mark}
    {mark : Mark} {error : ε} (listed : d.marks = before ++ mark :: after)
    (values : ∀ earlier ∈ before, outcome earlier = .ok (value earlier))
    (fails : outcome mark = .error error) : d.settle outcome = .error error := by
  have first : d.marks.findSome? (fun mark => failure? (outcome mark)) = some error := by
    rw [List.findSome?_eq_some_iff]
    refine ⟨before, mark, after, listed, congrArg failure? fails, ?_⟩
    intro earlier member
    rw [values earlier member]
    rfl
  unfold settle settled
  rw [first]

/-- All marks of a datum have values, or there is a first one that fails. -/
theorem settle_cases (outcome : Mark → Except ε Datum) (d : Datum) :
    (∃ value : Mark → Datum, (∀ mark ∈ d.marks, outcome mark = .ok (value mark)) ∧
        d.settle outcome = .ok (d.replace value)) ∨
      ∃ (value : Mark → Datum) (before after : List Mark) (mark : Mark) (error : ε),
        d.marks = before ++ mark :: after ∧
        (∀ earlier ∈ before, outcome earlier = .ok (value earlier)) ∧
        outcome mark = .error error ∧ d.settle outcome = .error error := by
  have known {mark : Mark} (fine : failure? (outcome mark) = none) :
      outcome mark = .ok (valueOf (outcome mark)) := by
    cases told : outcome mark with
    | ok value => rfl
    | error error =>
      rw [told] at fine
      cases fine
  cases found : d.marks.findSome? fun mark => failure? (outcome mark) with
  | none =>
    rw [List.findSome?_eq_none_iff] at found
    have values := fun mark member => known (found mark member)
    exact .inl ⟨_, values, settle_of_values values⟩
  | some error =>
    obtain ⟨before, mark, after, listed, fails, fine⟩ := List.findSome?_eq_some_iff.1 found
    have failing : outcome mark = .error error := by
      cases told : outcome mark with
      | ok value =>
        rw [told] at fails
        cases fails
      | error other =>
        rw [told] at fails
        cases fails
        rfl
    have values := fun earlier member => known (fine earlier member)
    exact .inr ⟨_, before, after, mark, error, listed, values, failing,
      settle_of_failure listed values failing⟩

/-- If some errors are all that can become something else, then a datum without them becomes the
same. -/
theorem settle_of_agree {other : Mark → Except ε Datum} (passing : ε → Prop) {d : Datum}
    (agree : ∀ mark ∈ d.marks, (∀ error, passing error → outcome mark ≠ .error error) →
      other mark = outcome mark)
    (lasting : ∀ error, passing error → d.settle outcome ≠ .error error) :
    d.settle other = d.settle outcome := by
  have kept {mark : Mark} {value : Datum} (member : mark ∈ d.marks) (told : outcome mark = .ok value) :
      other mark = .ok value := by
    rw [agree mark member (fun _ _ failed => by rw [told] at failed; cases failed), told]
  rcases settle_cases outcome d with
    ⟨value, values, told⟩ | ⟨value, before, after, mark, error, listed, values, fails, told⟩
  · rw [told]
    exact settle_of_values fun mark member => kept member (values mark member)
  · have member {m : Mark} (inside : m ∈ before ++ [mark]) : m ∈ d.marks := by
      rw [listed, List.append_cons]
      exact List.mem_append_left _ inside
    rw [told]
    refine settle_of_failure listed
      (fun earlier first => kept (member (List.mem_append_left _ first)) (values earlier first)) ?_
    rw [agree mark (member (List.mem_append_right _ List.mem_cons_self)), fails]
    intro failure passes failed
    rw [fails] at failed
    cases failed
    exact lasting error passes told

end Settle

end Datum

end Autopilot
