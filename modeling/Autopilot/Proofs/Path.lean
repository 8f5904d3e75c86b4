import Autopilot.Path
import Mathlib.Data.List.Basic
import Mathlib.Data.List.TakeWhile
import Mathlib.Data.Set.Finite.List

/-!
Joined paths and parents by their parts. The parts of a path are what lies between its
slashes, so joining a relative path to another appends its parts, and the parent of a path
has the first of its parts.
-/

namespace Autopilot.Path

/-! ## Texts and their parts -/

theorem pieces_slash (rest : List Char) : pieces ('/' :: rest) = [] :: pieces rest := by
  rw [pieces, if_pos rfl]

theorem pieces_other {c : Char} (other : c ≠ '/') (rest : List Char) :
    ∃ piece more, pieces rest = piece :: more ∧ pieces (c :: rest) = (c :: piece) :: more := by
  have some : ∃ piece more, pieces rest = piece :: more := by
    cases rest with
    | nil => exact ⟨[], [], rfl⟩
    | cons d rest =>
      rw [pieces]
      split
      · exact ⟨[], _, rfl⟩
      · split
        · exact ⟨_, _, rfl⟩
        · exact ⟨[d], [], rfl⟩
  obtain ⟨piece, more, pieced⟩ := some
  refine ⟨piece, more, pieced, ?_⟩
  rw [pieces, if_neg other, pieced]

theorem pieces_append_slash (before after : List Char) :
    pieces (before ++ '/' :: after) = pieces before ++ pieces after := by
  induction before with
  | nil => exact pieces_slash after
  | cons c rest ih =>
    rw [List.cons_append]
    by_cases slash : c = '/'
    · subst slash
      rw [pieces_slash, pieces_slash, ih, List.cons_append]
    · obtain ⟨piece, more, short, shorter⟩ := pieces_other slash rest
      obtain ⟨piece', more', long, longer⟩ := pieces_other slash (rest ++ '/' :: after)
      rw [ih, short, List.cons_append] at long
      obtain ⟨rfl, rfl⟩ := List.cons.inj long
      rw [shorter, longer, List.cons_append]

/-- The parts of a text between slashes. -/
def partsOf (text : List Char) : List String :=
  ((pieces text).filter (!·.isEmpty)).map String.ofList

theorem partsOf_append_slash (before after : List Char) :
    partsOf (before ++ '/' :: after) = partsOf before ++ partsOf after := by
  unfold partsOf
  rw [pieces_append_slash, List.filter_append, List.map_append]

/-- A slash at the end makes no difference. -/
theorem partsOf_concat_slash (text : List Char) : partsOf (text ++ ['/']) = partsOf text := by
  have nothing : partsOf [] = [] := rfl
  rw [partsOf_append_slash, nothing, List.append_nil]

theorem parts_eq (p : Path) : p.parts = partsOf p.text.toList := rfl

/-! ## Joining -/

theorem parts_join (p : Path) {q : Path} (relative : q.isAbsolute = false) :
    (p.join q).parts = p.parts ++ q.parts := by
  have shut : p.text.toList.getLast? = some '/' →
      p.parts ++ q.parts = partsOf (p.text.toList ++ q.text.toList) := by
    intro last
    obtain ⟨text, same⟩ := List.getLast?_eq_some_iff.1 last
    rw [parts_eq, parts_eq, same, partsOf_concat_slash, List.append_assoc, List.singleton_append,
      partsOf_append_slash]
  unfold join
  rw [relative, if_neg Bool.false_ne_true]
  split
  next joined =>
    rw [parts_eq, String.toList_append]
    rw [Bool.or_eq_true, decide_eq_true_eq] at joined
    rcases joined with empty | slash
    · have nothing : p.text.toList = [] := by
        simpa using empty
      rw [parts_eq, parts_eq, nothing]
      rfl
    · exact (shut slash).symm
  next =>
    rw [parts_eq, String.toList_append, String.toList_append, List.append_assoc, parts_eq, parts_eq]
    exact partsOf_append_slash _ _

theorem isAbsolute_join {p q : Path} (base : p.isAbsolute = false) (relative : q.isAbsolute = false) :
    (p.join q).isAbsolute = false := by
  have start (rest : List Char) (some : p.text.toList ≠ []) :
      (p.text.toList ++ rest).head? = p.text.toList.head? := by
    obtain ⟨c, more, same⟩ := List.exists_cons_of_ne_nil some
    rw [same, List.cons_append, List.head?_cons, List.head?_cons]
  unfold join
  rw [relative, if_neg Bool.false_ne_true]
  by_cases empty : p.text.toList = []
  · have text : p.text.isEmpty = true := by simpa using empty
    rw [text, Bool.true_or, if_pos rfl]
    unfold isAbsolute at relative ⊢
    rwa [String.toList_append, empty, List.nil_append]
  · split <;> unfold isAbsolute at base ⊢
    · rwa [String.toList_append, start _ empty]
    · rwa [String.toList_append, String.toList_append, List.append_assoc, start _ empty]

/-- An absolute path is the same from everywhere. -/
theorem join_of_absolute (p : Path) {q : Path} (absolute : q.isAbsolute = true) : p.join q = q := by
  unfold join
  rw [if_pos absolute]

theorem join_of_empty {p : Path} (empty : p.text = "") (q : Path) : p.join q = q := by
  unfold join
  rw [empty]
  cases q.isAbsolute <;> simp

theorem isAbsolute_join_of_absolute {p : Path} (absolute : p.isAbsolute = true) (q : Path) :
    (p.join q).isAbsolute = true := by
  cases relative : q.isAbsolute with
  | true => rwa [join_of_absolute p relative]
  | false =>
    have start (rest : List Char) : (p.text.toList ++ rest).head? = some '/' := by
      unfold isAbsolute at absolute
      rw [decide_eq_true_eq] at absolute
      rw [List.head?_append, absolute]
      rfl
    unfold join
    rw [relative, if_neg Bool.false_ne_true]
    split <;> unfold isAbsolute <;> rw [decide_eq_true_eq]
    · rw [String.toList_append, start]
    · rw [String.toList_append, String.toList_append, List.append_assoc, start]

/-! ## Parents -/

theorem trimEnd_other {text : List Char} (slash : ∀ rest, text ≠ '/' :: rest)
    (dot : ∀ rest, text ≠ '.' :: '/' :: rest) : trimEnd text = text := by
  rw [trimEnd]
  · exact slash
  · exact dot

/-- Only slashes and whole parts are trimmed off the end. -/
theorem partsOf_trimEnd (text : List Char) :
    ∃ more, partsOf text.reverse = partsOf (trimEnd text).reverse ++ more := by
  induction text using trimEnd.induct with
  | case1 rest empty =>
    rw [List.isEmpty_iff] at empty
    subst empty
    exact ⟨[], rfl⟩
  | case2 rest some ih =>
    rw [trimEnd, if_neg some, List.reverse_cons, partsOf_concat_slash]
    exact ih
  | case3 rest ih =>
    obtain ⟨more, parts⟩ := ih
    rw [List.reverse_cons, partsOf_concat_slash] at parts
    refine ⟨more ++ partsOf ['.'], ?_⟩
    rw [trimEnd, List.reverse_cons, List.reverse_cons, List.append_assoc, List.singleton_append,
      partsOf_append_slash, parts, List.append_assoc]
  | case4 text slash dot =>
    rw [trimEnd_other slash dot]
    exact ⟨[], (List.append_nil _).symm⟩

theorem trimEnd_suffix (text : List Char) : trimEnd text <:+ text := by
  induction text using trimEnd.induct with
  | case1 rest empty =>
    rw [List.isEmpty_iff] at empty
    subst empty
    exact List.suffix_rfl
  | case2 rest some ih =>
    rw [trimEnd, if_neg some]
    exact ih.trans (List.suffix_cons _ _)
  | case3 rest ih =>
    rw [trimEnd]
    exact ih.trans (List.suffix_cons _ _)
  | case4 text slash dot =>
    exact ⟨[], trimEnd_other slash dot⟩

/-- Only a part is dropped up to a slash. -/
theorem partsOf_dropWhile (text : List Char) :
    ∃ more, partsOf text.reverse = partsOf (text.dropWhile (· ≠ '/')).reverse ++ more := by
  have whole := List.takeWhile_append_dropWhile (p := fun c : Char => decide (c ≠ '/')) (l := text)
  cases kept : text.dropWhile (· ≠ '/') with
  | nil => exact ⟨_, (List.nil_append _).symm⟩
  | cons c rest =>
    have slash : c = '/' := by
      have first := List.head?_dropWhile_not (fun c : Char => decide (c ≠ '/')) text
      rw [kept] at first
      simpa using first
    subst slash
    rw [kept] at whole
    have turned : text.reverse =
        rest.reverse ++ '/' :: (text.takeWhile fun c => decide (c ≠ '/')).reverse := calc
      text.reverse = ((text.takeWhile fun c => decide (c ≠ '/')) ++ '/' :: rest).reverse := by
        rw [whole]
      _ = _ := by rw [List.reverse_append, List.reverse_cons, List.append_assoc,
        List.singleton_append]
    rw [turned, partsOf_append_slash, List.reverse_cons, partsOf_concat_slash]
    exact ⟨_, rfl⟩

theorem parent?_eq {p parent : Path} (found : p.parent? = some parent) :
    parent.text.toList =
      (trimEnd ((trimEnd p.text.toList.reverse).dropWhile (· ≠ '/'))).reverse := by
  unfold parent? at found
  split at found
  · cases found
  · cases found
  · cases found
    exact String.toList_ofList

/-- A path begins with the parts of its parent. -/
theorem parts_of_parent {p parent : Path} (found : p.parent? = some parent) :
    ∃ more, p.parts = parent.parts ++ more := by
  rw [parts_eq, parts_eq, parent?_eq found]
  obtain ⟨last, one⟩ := partsOf_trimEnd p.text.toList.reverse
  obtain ⟨name, two⟩ := partsOf_dropWhile (trimEnd p.text.toList.reverse)
  obtain ⟨dots, three⟩ := partsOf_trimEnd ((trimEnd p.text.toList.reverse).dropWhile (· ≠ '/'))
  rw [List.reverse_reverse] at one
  refine ⟨dots ++ (name ++ last), ?_⟩
  rw [one, two, three, List.append_assoc, List.append_assoc]

theorem isAbsolute_of_parent {p parent : Path} (found : p.parent? = some parent)
    (relative : p.isAbsolute = false) : parent.isAbsolute = false := by
  have kept : trimEnd ((trimEnd p.text.toList.reverse).dropWhile (· ≠ '/')) <:+
      p.text.toList.reverse :=
    (trimEnd_suffix _).trans ((List.dropWhile_suffix _).trans (trimEnd_suffix _))
  have begins : parent.text.toList <+: p.text.toList := by
    rw [parent?_eq found]
    simpa using List.reverse_prefix.2 kept
  obtain ⟨rest, same⟩ := begins
  unfold isAbsolute at relative ⊢
  rw [← same] at relative
  cases text : parent.text.toList with
  | nil => rfl
  | cons c more =>
    rw [text] at relative
    exact relative

/-- A slash that a text ends with is not trimmed off if nothing stands before it. -/
theorem getLast?_trimEnd {text : List Char} (slash : text.getLast? = some '/') :
    (trimEnd text).getLast? = some '/' := by
  induction text using trimEnd.induct with
  | case1 rest empty =>
    rw [trimEnd, if_pos empty]
    rfl
  | case2 rest some ih =>
    rw [trimEnd, if_neg some]
    refine ih ?_
    cases rest with
    | nil => exact absurd rfl some
    | cons c rest => rwa [List.getLast?_cons_cons] at slash
  | case3 rest ih =>
    rw [trimEnd]
    exact ih (by rwa [List.getLast?_cons_cons] at slash)
  | case4 text other dot => rwa [trimEnd_other other dot]

theorem isAbsolute_parent {p parent : Path} (found : p.parent? = some parent)
    (absolute : p.isAbsolute = true) : parent.isAbsolute = true := by
  have kept {text : List Char} (slash : text.getLast? = some '/') :
      (text.dropWhile (· ≠ '/')).getLast? = some '/' := by
    have some : text.dropWhile (· ≠ '/') ≠ [] := by
      intro none
      have other := List.dropWhile_eq_nil_iff.1 none '/' (List.mem_of_getLast? slash)
      simp at other
    obtain ⟨before, same⟩ := List.dropWhile_suffix (p := fun c : Char => decide (c ≠ '/')) (l := text)
    rw [← same, List.getLast?_append_of_ne_nil _ some] at slash
    exact slash
  unfold isAbsolute at absolute ⊢
  rw [decide_eq_true_eq] at absolute ⊢
  rw [parent?_eq found, List.head?_reverse]
  refine getLast?_trimEnd (kept (getLast?_trimEnd ?_))
  rwa [List.getLast?_reverse]

/-! ## Bases -/

/-- A base that leaves all paths as they are that lead on from it. -/
def Grounded (base : Path) : Prop := base.text = "" ∨ base.isAbsolute = true

section Grounded

variable {base : Path} (grounded : base.Grounded)

include grounded

theorem Grounded.join_join (p : Path) : base.join (base.join p) = base.join p := by
  rcases grounded with empty | absolute
  · rw [join_of_empty empty]
  · exact join_of_absolute base (isAbsolute_join_of_absolute absolute p)

theorem Grounded.join_from_parent {p parent : Path} (found : p.parent? = some parent)
    (stays : base.join p = p) (q : Path) : base.join (parent.join q) = parent.join q := by
  rcases grounded with empty | absolute
  · rw [join_of_empty empty]
  · have whole := isAbsolute_join_of_absolute absolute p
    rw [stays] at whole
    exact join_of_absolute base (isAbsolute_join_of_absolute (isAbsolute_parent found whole) q)

end Grounded

/-! ## Lengths -/

/-- Only finitely many paths are not too long. -/
theorem finite_of_length (longest : Nat) : {p : Path | p.text.utf8ByteSize ≤ longest}.Finite := by
  let bytes (p : Path) : List (Fin 256) := p.text.toByteArray.data.toList.map UInt8.toFin
  have injective : Function.Injective bytes := by
    rintro ⟨p⟩ ⟨q⟩ same
    have arrays := List.map_injective_iff.2 (fun _ _ => UInt8.toFin_inj.1) same
    exact congrArg Path.mk (String.toByteArray_inj.1 (ByteArray.ext (Array.toList_inj.1 arrays)))
  refine ((List.finite_length_le (Fin 256) longest).preimage injective.injOn).subset ?_
  intro p short
  change (p.text.toByteArray.data.toList.map UInt8.toFin).length ≤ longest
  rw [List.length_map]
  exact short

end Autopilot.Path
