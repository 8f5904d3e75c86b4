import Autopilot.Proofs.Config.Inclusion

/-!
Variables in configurations. Text that takes the place of a variable is the truth value or the
number that it reads as, or else stays text. A variable is named between white space, and after
more of it there may be a text for the case that it is not set. Loading reads both so.
-/

namespace Autopilot

/-! ## White space -/

namespace Text

variable {before text after : List Char}

/-- There is no white space at either end. -/
def Bare (text : List Char) : Prop :=
  (∀ c ∈ text.head?, isBlank c = false) ∧ ∀ c ∈ text.getLast?, isBlank c = false

theorem bare_of_solid (solid : ∀ c ∈ text, isBlank c = false) : Bare text :=
  ⟨fun c first => solid c (List.mem_of_head? first), fun c last => solid c (List.mem_of_getLast? last)⟩

/-- Such a text has no end that is all white space. -/
theorem Bare.not_blank (bare : Bare (before ++ after)) (some : after ≠ []) :
    ¬ ∀ c ∈ after, isBlank c = true := by
  intro blank
  have last := List.getLast?_eq_some_getLast some
  have solid := bare.2 (after.getLast some) (by rw [List.getLast?_append_of_ne_nil _ some]; exact last)
  rw [blank _ (List.getLast_mem some)] at solid
  cases solid

theorem trimStart_blank (blank : ∀ c ∈ before, isBlank c = true)
    (bare : ∀ c ∈ text.head?, isBlank c = false) : trimStart (before ++ text) = text := by
  unfold trimStart
  rw [List.dropWhile_append_of_pos blank]
  cases text with
  | nil => rfl
  | cons c text => exact List.dropWhile_cons_of_neg (by simp [bare c rfl])

/-- White space in front of a text, and the rest of it. -/
theorem exists_trimStart (text : List Char) :
    ∃ before, text = before ++ trimStart text ∧ (∀ c ∈ before, isBlank c = true) ∧
      ∀ c ∈ (trimStart text).head?, isBlank c = false := by
  refine ⟨text.takeWhile isBlank, List.takeWhile_append_dropWhile.symm,
    fun c member => List.mem_takeWhile_imp member, fun c first => ?_⟩
  have stops := List.head?_dropWhile_not isBlank text
  unfold trimStart at first
  rw [Option.mem_def.1 first] at stops
  simpa using stops

theorem trim_eq (blank : ∀ c ∈ before ++ after, isBlank c = true) (bare : Bare text) :
    trim (before ++ text ++ after) = text := by
  obtain ⟨front, back⟩ := List.forall_mem_append.1 blank
  cases text with
  | nil =>
    have nothing : trimStart (before ++ after) = [] := List.dropWhile_eq_nil_iff.2 blank
    rw [List.append_nil, trim, nothing]
    rfl
  | cons c rest =>
    have start : trimStart (before ++ (c :: rest ++ after)) = c :: rest ++ after :=
      trimStart_blank front fun d first => bare.1 d first
    have stop : trimStart (after.reverse ++ (c :: rest).reverse) = (c :: rest).reverse := by
      refine trimStart_blank (fun d member => back d (List.mem_reverse.1 member)) fun d first => ?_
      rw [List.head?_reverse] at first
      exact bare.2 d first
    rw [trim, List.append_assoc, start, List.reverse_append, stop, List.reverse_reverse]

/-- A text is what is left of it with white space on both sides. -/
theorem exists_trim (text : List Char) :
    ∃ before after, text = before ++ trim text ++ after ∧ (∀ c ∈ before ++ after, isBlank c = true) ∧
      Bare (trim text) := by
  obtain ⟨before, whole, front, begins⟩ := exists_trimStart text
  obtain ⟨after, reversed, back, ends⟩ := exists_trimStart (trimStart text).reverse
  have split : trimStart text = trim text ++ after.reverse := by
    rw [← List.reverse_reverse (trimStart text), reversed, List.reverse_append]
    rfl
  refine ⟨before, after.reverse, ?_, List.forall_mem_append.2 ⟨front, fun c member =>
    back c (List.mem_reverse.1 member)⟩, fun c first => begins c ?_, fun c last => ends c ?_⟩
  · rw [List.append_assoc, ← split]
    exact whole
  · rw [split]
    exact List.mem_head?_append_of_mem_head? first
  · rw [trim, List.getLast?_reverse] at last
    exact last

end Text

/-! ## Names of variables -/

/-- How a text names a variable, and what to take if that is not set. -/
inductive Naming (text : String) : String → Option String → Prop
  | alone {before name after : List Char} (written : text.toList = before ++ name ++ after)
      (blank : ∀ c ∈ before ++ after, Text.isBlank c = true)
      (solid : ∀ c ∈ name, Text.isBlank c = false) : Naming text (String.ofList name) none
  | otherwise {before name between rest after : List Char}
      (written : text.toList = before ++ (name ++ (between ++ rest)) ++ after)
      (blank : ∀ c ∈ before ++ after, Text.isBlank c = true) (named : name ≠ [])
      (solid : ∀ c ∈ name, Text.isBlank c = false) (apart : between ≠ [])
      (space : ∀ c ∈ between, Text.isBlank c = true) (given : rest ≠ []) (bare : Text.Bare rest) :
      Naming text (String.ofList name) (some (String.ofList rest))

/-- A variable's name ends before the first white space. -/
theorem splitVariable_of_trim {text name rest : List Char} (trimmed : Text.trim text = name ++ rest)
    (solid : ∀ c ∈ name, Text.isBlank c = false) (ends : ∀ c ∈ rest.head?, Text.isBlank c = true) :
    Loading.splitVariable text = (String.ofList name,
      if rest.isEmpty then none else some (String.ofList (Text.trim rest))) := by
  have inside : ∀ c ∈ name, (!Text.isBlank c) = true := fun c member => by rw [solid c member]; rfl
  have taken : (name ++ rest).takeWhile (!Text.isBlank ·) = name := by
    rw [List.takeWhile_append_of_pos inside]
    cases rest with
    | nil => exact List.append_nil _
    | cons c more => rw [List.takeWhile_cons_of_neg (by simp [ends c rfl]), List.append_nil]
  have dropped : (name ++ rest).dropWhile (!Text.isBlank ·) = rest := by
    rw [List.dropWhile_append_of_pos inside]
    cases rest with
    | nil => rfl
    | cons c more => exact List.dropWhile_cons_of_neg (by simp [ends c rfl])
  unfold Loading.splitVariable
  rw [trimmed]
  dsimp only
  rw [taken, dropped]
  cases rest <;> rfl

theorem Naming.splitVariable {text name : String} {fallback : Option String}
    (names : Naming text name fallback) : Loading.splitVariable text.toList = (name, fallback) := by
  cases names with
  | @alone before name after written blank solid =>
    have trimmed : Text.trim text.toList = name ++ [] := by
      rw [written, Text.trim_eq blank (Text.bare_of_solid solid), List.append_nil]
    exact splitVariable_of_trim trimmed solid (by simp)
  | @otherwise before name between rest after written blank named solid apart space given bare =>
    have whole : Text.Bare (name ++ (between ++ rest)) := by
      refine ⟨fun c first => solid c (List.mem_of_head? ?_), fun c last => bare.2 c ?_⟩
      · rwa [List.head?_append_of_ne_nil _ named] at first
      · rwa [← List.append_assoc, List.getLast?_append_of_ne_nil _ given] at last
    have trimmed : Text.trim text.toList = name ++ (between ++ rest) := by
      rw [written, Text.trim_eq blank whole]
    have inner : Text.trim (between ++ rest) = rest := by
      have cut : Text.trim (between ++ rest ++ []) = rest :=
        Text.trim_eq (by rwa [List.append_nil]) bare
      rwa [List.append_nil] at cut
    rw [splitVariable_of_trim trimmed solid, inner, if_neg (by simp [apart])]
    intro c first
    rw [List.head?_append_of_ne_nil _ apart] at first
    exact space c (List.mem_of_head? first)

theorem naming_of_splitVariable {text name : String} {fallback : Option String}
    (split : Loading.splitVariable text.toList = (name, fallback)) : Naming text name fallback := by
  obtain ⟨before, after, written, blank, bare⟩ := Text.exists_trim text.toList
  obtain ⟨name', rest, trimmed, solid, ends⟩ : ∃ name rest, Text.trim text.toList = name ++ rest ∧
      (∀ c ∈ name, Text.isBlank c = false) ∧ ∀ c ∈ rest.head?, Text.isBlank c = true := by
    refine ⟨_, _, (List.takeWhile_append_dropWhile (p := fun c => !Text.isBlank c)).symm,
      fun c member => ?_, fun c first => ?_⟩
    · simpa using List.mem_takeWhile_imp member
    · have stops := List.head?_dropWhile_not (!Text.isBlank ·) (Text.trim text.toList)
      rw [Option.mem_def.1 first] at stops
      simpa using stops
  rw [splitVariable_of_trim trimmed solid ends] at split
  rw [trimmed] at written bare
  cases split
  by_cases none : rest = []
  · rw [none, List.append_nil] at written
    rw [none]
    exact .alone written blank solid
  obtain ⟨first, more, starts⟩ := List.exists_cons_of_ne_nil none
  have blankFirst : Text.isBlank first = true := ends first (by rw [starts]; rfl)
  obtain ⟨between, tail, parts, space, inner⟩ := Text.exists_trim rest
  obtain ⟨front, back⟩ := List.forall_mem_append.1 space
  -- The text does not end in white space, and so neither does what follows the name.
  obtain rfl : tail = [] := by
    by_contra some
    rw [parts, ← List.append_assoc] at bare
    exact bare.not_blank some back
  rw [List.append_nil] at parts
  rw [if_neg (by simpa using none)]
  refine .otherwise (by rwa [← parts]) blank ?_ solid ?_ front ?_ inner
  · rintro rfl
    have solidFirst := bare.1 first (by rw [starts]; rfl)
    rw [blankFirst] at solidFirst
    cases solidFirst
  · rintro rfl
    have solidFirst := inner.1 first (by rw [List.nil_append] at parts; rw [← parts, starts]; rfl)
    rw [blankFirst] at solidFirst
    cases solidFirst
  · intro nothing
    rw [nothing, List.append_nil] at parts
    exact bare.not_blank none (parts ▸ front)

theorem naming_iff {text name : String} {fallback : Option String} :
    Naming text name fallback ↔ Loading.splitVariable text.toList = (name, fallback) :=
  ⟨Naming.splitVariable, naming_of_splitVariable⟩

/-! ## Their scalars -/

/-- What a text stands for that takes the place of a variable: the truth value or the number that it
reads as, or else itself. -/
inductive Denotes (parse : String → Option Datum) (value : String) : Datum → Prop
  | bool {b : Bool} (read : parse value = some (.bool b)) : Denotes parse value (.bool b)
  | int {n : Int} (read : parse value = some (.int n)) : Denotes parse value (.int n)
  | real {x : Float} (read : parse value = some (.real x)) : Denotes parse value (.real x)
  | text (noBool : ∀ b, parse value ≠ some (.bool b)) (noInt : ∀ n, parse value ≠ some (.int n))
      (noReal : ∀ x, parse value ≠ some (.real x)) : Denotes parse value (.text value)

theorem denotes_iff {parse : String → Option Datum} {value : String} {d : Datum} :
    Denotes parse value d ↔ d = Loading.ofVariable parse value := by
  constructor
  · intro denotes
    unfold Loading.ofVariable
    cases denotes with
    | bool read | int read | real read => rw [read]
    | text noBool noInt noReal =>
      split
      next read => exact absurd read (noBool _)
      next read => exact absurd read (noInt _)
      next read => exact absurd read (noReal _)
      next => rfl
  · rintro rfl
    unfold Loading.ofVariable
    split
    next read => exact .bool read
    next read => exact .int read
    next read => exact .real read
    next noBool noInt noReal => exact .text noBool noInt noReal

namespace Setting

/-- No variable has an empty name, or one with an equals sign or a null in it. -/
def valueOf (s : Setting) (name : String) : Option String :=
  if name = "" ∨ '=' ∈ name.toList ∨ '\x00' ∈ name.toList then none else s.lookup name

/-- What stands in the place of a variable. -/
inductive Stands (s : Setting) : Datum → Except LoadError Datum → Prop
  | set {text name value : String} {fallback : Option String} {d : Datum}
      (names : Naming text name fallback) (found : s.valueOf name = some value)
      (denotes : Denotes s.parse value d) : Stands s (.text text) (.ok d)
  | fallback {text name value : String} {d : Datum} (names : Naming text name (some value))
      (unset : s.valueOf name = none) (denotes : Denotes s.parse value d) :
      Stands s (.text text) (.ok d)
  | unset {text name : String} (names : Naming text name none) (unset : s.valueOf name = none) :
      Stands s (.text text) (.error (.unset name))
  | nameless {named : Datum} (other : ∀ text, named ≠ .text text) :
      Stands s named (.error .badVariable)

theorem valueOf_eq (s : Setting) (name : String) :
    s.valueOf name = if Loading.isVariableName name then s.lookup name else none := by
  have sayable : Loading.isVariableName name = true ↔
      ¬ (name = "" ∨ '=' ∈ name.toList ∨ '\x00' ∈ name.toList) := by
    have unlike (c : Char) : c ∉ name.toList ↔ ∀ other ∈ name.toList, other ≠ c :=
      ⟨fun absent other member same => absent (same ▸ member), fun each member => each c member rfl⟩
    rw [not_or, not_or, unlike, unlike, ← forall₂_and]
    simp [Loading.isVariableName]
  unfold valueOf
  by_cases reserved : name = "" ∨ '=' ∈ name.toList ∨ '\x00' ∈ name.toList
  · rw [if_pos reserved, if_neg fun able => sayable.1 able reserved]
  · rw [if_neg reserved, if_pos (sayable.2 reserved)]

theorem scalar_text {s : Setting} {text name : String} {fallback : Option String}
    (names : Naming text name fallback) : s.scalar (.text text) =
      match (s.valueOf name).or fallback with
      | some value => .ok (Loading.ofVariable s.parse value)
      | none => .error (.unset name) := by
  unfold scalar
  dsimp only
  rewrite [names.splitVariable, valueOf_eq]
  rfl

theorem stands_iff {s : Setting} {named : Datum} {outcome : Except LoadError Datum} :
    s.Stands named outcome ↔ outcome = s.scalar named := by
  constructor
  · intro stands
    cases stands with
    | set names found denotes => rw [scalar_text names, found, denotes_iff.1 denotes, Option.some_or]
    | fallback names unset denotes => rw [scalar_text names, unset, denotes_iff.1 denotes, Option.none_or]
    | unset names unset => rw [scalar_text names, unset, Option.none_or]
    | nameless other =>
      cases named with
      | text text => exact absurd rfl (other text)
      | _ => rfl
  · rintro rfl
    cases named with
    | text text =>
      rcases split : Loading.splitVariable text.toList with ⟨name, fallback⟩
      have names := naming_iff.2 split
      rw [scalar_text names]
      cases found : s.valueOf name with
      | some value => exact .set names found (denotes_iff.2 rfl)
      | none =>
        cases fallback with
        | some value => exact .fallback names found (denotes_iff.2 rfl)
        | none => exact .unset names found
    | _ => exact .nameless (by simp)

end Setting

end Autopilot
