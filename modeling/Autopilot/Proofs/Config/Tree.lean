import Autopilot.Proofs.Config.Inclusion

/-!
The files of a tree as a setting, and which of them a path leads to. The parts of a path are
followed one after another, and dots change nothing. Paths with the same components lead to the
same file, and among paths without dots only they do.
-/

namespace Autopilot

namespace Path

/-- Each component leads on from a directory to what is in it. -/
def Plain (p : Path) : Prop := .here ∉ p.components ∧ .up ∉ p.components

instance (p : Path) : Decidable p.Plain := inferInstanceAs (Decidable (_ ∧ _))

/-- The parts that are followed. -/
def steps (p : Path) : List String := p.parts.filter (· ≠ ".")

theorem steps_join (p : Path) {q : Path} (relative : q.isAbsolute = false) :
    (p.join q).steps = p.steps ++ q.steps := by
  unfold steps
  rw [parts_join p relative, List.filter_append]

theorem ofPart_injective : Function.Injective Component.ofPart := by
  intro part other same
  unfold Component.ofPart at same
  split at same <;> split at same
  · simp_all
  · cases same
  · cases same
  · exact Component.name.inj same

theorem named_parts (p : Path) :
    named p.parts = p.components.filter fun c => c ≠ .root ∧ c ≠ .here := by
  have kept : (named p.parts).filter (fun c => decide (c ≠ .root ∧ c ≠ .here)) = named p.parts := by
    rw [List.filter_eq_self]
    intro c member
    obtain ⟨part, _, rfl⟩ := List.mem_map.1 member
    unfold Component.ofPart
    split <;> rfl
  unfold components
  split
  · exact kept.symm
  · split
    · exact kept.symm
    · exact kept.symm

theorem root_mem_iff (p : Path) : .root ∈ p.components ↔ p.isAbsolute = true := by
  cases absolute : p.isAbsolute with
  | true =>
    unfold components
    rw [absolute, if_pos rfl]
    simp
  | false => simp [root_not_mem absolute]

/-- Paths with the same components start at the same place and take the same steps. -/
theorem steps_of_same {p q : Path} (same : p.same q = true) :
    p.isAbsolute = q.isAbsolute ∧ p.steps = q.steps := by
  unfold Path.same at same
  rw [decide_eq_true_eq] at same
  constructor
  · rw [Bool.eq_iff_iff, ← root_mem_iff, ← root_mem_iff, same]
  · apply List.map_injective_iff.2 ofPart_injective
    exact (named_parts p).trans ((congrArg _ same).trans (named_parts q).symm)

theorem components_of_plain {p : Path} (plain : p.Plain) (relative : p.isAbsolute = false) :
    p.components = p.steps.map Component.ofPart := by
  rw [components_of_relative relative]
  split
  next head =>
    refine absurd ?_ plain.1
    rw [components_of_relative relative, if_pos head]
    exact List.mem_append_left _ List.mem_cons_self
  next => rfl

/-- A path without a parent has no steps, unless it is absolute. -/
theorem steps_of_orphan {p : Path} (relative : p.isAbsolute = false) (orphan : p.parent? = none) :
    p.steps = [] := by
  have named := named_parts p
  rw [components_of_orphan relative orphan] at named
  exact List.map_eq_nil_iff.1 named

theorem steps_ne_up {p : Path} (plain : p.Plain) : ∀ part ∈ p.steps, part ≠ ".." := by
  rintro _ member rfl
  have named : .up ∈ named p.parts := List.mem_map.2 ⟨"..", member, rfl⟩
  rw [named_parts] at named
  exact plain.2 (List.mem_of_mem_filter named)

end Path

namespace FileTree

variable {t : FileTree} {p q : Path}

/-- The place that a path leads to. -/
def place (t : FileTree) (p : Path) : Except ReadFault Place :=
  p.parts.foldlM t.step (if p.isAbsolute then .root else .inside [])

/-- The file that a path leads to, by its names. -/
def target (t : FileTree) (p : Path) : Option (List String) :=
  match t.place p with
  | .ok (.inside names) => some names
  | _ => none

theorem passed {α : Type} {c : Prop} [Decidable c] {fault : ReadFault} {next : Except ReadFault α}
    {value : α} (done : (if c then .error fault else next) = .ok value) : ¬c ∧ next = .ok value := by
  by_cases stops : c
  · rw [if_pos stops] at done
    cases done
  · rw [if_neg stops] at done
    exact ⟨stops, done⟩

/-- What has been made sure of when the text of a file is there. -/
theorem read_of_ok {text : String} (read : t.read p = .ok text) :
    p.text.utf8ByteSize ≤ t.longestPath ∧ ∃ names, t.place p = .ok (.inside names) ∧
      t.isDirectory (.inside names) = false ∧ t.file? names = some (some text) := by
  have led : p.parts.foldlM t.step (if p.isAbsolute then .root else .inside []) = t.place p := rfl
  unfold FileTree.read at read
  obtain ⟨_, read⟩ := passed read
  obtain ⟨_, read⟩ := passed read
  obtain ⟨short, read⟩ := passed read
  rw [led] at read
  cases found : t.place p with
  | error fault =>
    rw [found] at read
    cases read
  | ok place =>
    rw [found] at read
    obtain ⟨directory, read⟩ := passed read
    obtain ⟨_, read⟩ := passed read
    rw [Bool.not_eq_true] at directory
    cases place with
    | inside names =>
      refine ⟨Nat.le_of_not_lt short, names, rfl, directory, ?_⟩
      dsimp only at read
      cases file : t.file? names with
      | none =>
        rw [file] at read
        cases read
      | some content =>
        rw [file] at read
        cases content <;> cases read
        rfl
    | above | root => cases directory

/-! ## Following the parts -/

theorem step_dot {place next : Place} (led : t.step place "." = .ok next) : next = place := by
  unfold step at led
  split at led
  · cases led
  · rw [if_pos rfl] at led
    cases led
    rfl

theorem step_name {names : List String} {part : String} {next : Place} (dot : part ≠ ".")
    (up : part ≠ "..") (led : t.step (.inside names) part = .ok next) :
    next = .inside (names ++ [part]) := by
  unfold step at led
  rw [if_neg dot, if_neg up] at led
  split at led
  · cases led
  · split at led
    · cases led
    · unfold enter at led
      dsimp only at led
      split at led <;> cases led
      rfl

/-- Dots change nothing. -/
theorem follow_filter {parts : List String} {place last : Place}
    (led : parts.foldlM t.step place = .ok last) :
    (parts.filter (· ≠ ".")).foldlM t.step place = .ok last := by
  induction parts generalizing place with
  | nil => exact led
  | cons part rest ih =>
    rw [List.foldlM_cons] at led
    cases stepped : t.step place part with
    | error fault =>
      rw [stepped] at led
      cases led
    | ok next =>
      rw [stepped] at led
      by_cases dot : part = "."
      · subst dot
        rw [step_dot stepped] at led
        exact ih led
      · rw [List.filter_cons_of_pos (by simpa using dot), List.foldlM_cons, stepped]
        exact ih led

theorem follow_names {parts : List String} {names : List String} {last : Place}
    (named : ∀ part ∈ parts, part ≠ "." ∧ part ≠ "..")
    (led : parts.foldlM t.step (.inside names) = .ok last) : last = .inside (names ++ parts) := by
  induction parts generalizing names with
  | nil =>
    cases led
    rw [List.append_nil]
  | cons part rest ih =>
    obtain ⟨⟨dot, up⟩, others⟩ := List.forall_mem_cons.1 named
    rw [List.foldlM_cons] at led
    cases stepped : t.step (.inside names) part with
    | error fault =>
      rw [stepped] at led
      cases led
    | ok next =>
      rw [stepped, step_name dot up stepped] at led
      rw [List.append_cons]
      exact ih others led

/-- Nothing is known of what the root leads to. -/
theorem follow_root {parts : List String} {last : Place}
    (led : parts.foldlM t.step .root = .ok last) : last = .root := by
  induction parts with
  | nil =>
    cases led
    rfl
  | cons part rest ih =>
    rw [List.foldlM_cons] at led
    cases stepped : t.step .root part with
    | error fault =>
      rw [stepped] at led
      cases led
    | ok next =>
      rw [stepped] at led
      unfold step at stepped
      split at stepped
      · cases stepped
      · split at stepped
        · cases stepped
          exact ih led
        · split at stepped
          · cases stepped
            exact ih led
          · split at stepped <;> cases stepped

theorem target_eq_some {names : List String} (led : t.target p = some names) :
    p.isAbsolute = false ∧ p.steps.foldlM t.step (.inside []) = .ok (.inside names) := by
  unfold target at led
  split at led
  next found =>
    cases led
    unfold place at found
    cases absolute : p.isAbsolute with
    | true =>
      rw [if_pos absolute] at found
      cases follow_root found
    | false =>
      rw [absolute, if_neg Bool.false_ne_true] at found
      exact ⟨rfl, follow_filter found⟩
  next => cases led

/-- Paths with the same components lead to the same file, if they lead to one at all. -/
theorem target_of_same {names others : List String} (same : p.same q = true)
    (led : t.target p = some names) (too : t.target q = some others) : names = others := by
  have first := (target_eq_some led).2
  have second := (target_eq_some too).2
  rw [(Path.steps_of_same same).2, second] at first
  cases first
  rfl

/-- Paths without dots have the names of the file for components. -/
theorem same_of_target {names : List String} (plain : p.Plain) (also : q.Plain)
    (led : t.target p = some names) (too : t.target q = some names) : p.same q = true := by
  have steps {r : Path} (plain : r.Plain) (led : t.target r = some names) :
      r.components = names.map Path.Component.ofPart := by
    obtain ⟨relative, followed⟩ := target_eq_some led
    have named : ∀ part ∈ r.steps, part ≠ "." ∧ part ≠ ".." := fun part member =>
      ⟨of_decide_eq_true (List.mem_filter.1 member).2, Path.steps_ne_up plain part member⟩
    have found := follow_names named followed
    rw [List.nil_append] at found
    cases found
    exact Path.components_of_plain plain relative
  unfold Path.same
  rw [decide_eq_true_eq, steps plain led, steps also too]

/-- The path of a file has a parent. -/
theorem isSome_parent {names : List String} (led : t.target p = some names)
    (file : t.isDirectory (.inside names) = false) : p.parent?.isSome := by
  obtain ⟨relative, followed⟩ := target_eq_some led
  cases orphan : p.parent? with
  | some parent => rfl
  | none =>
    -- Without steps the path leads to the tree itself, which is a directory.
    rw [Path.steps_of_orphan relative orphan] at followed
    cases followed
    cases file

end FileTree

/-- The files of a tree, and variables by their names. -/
def Setting.ofTree (t : FileTree) (scalars : List (String × String)) : Setting where
  read := t.read
  lookup name := scalars.lookup name
  longest := t.longestPath
  length_le read := (FileTree.read_of_ok read).1
  isSome_parent read := by
    obtain ⟨_, names, led, file, _⟩ := FileTree.read_of_ok read
    refine FileTree.isSome_parent ?_ file
    unfold FileTree.target
    rw [led]

end Autopilot
