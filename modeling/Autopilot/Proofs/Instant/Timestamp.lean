import Autopilot.Instant.Timestamp
import Autopilot.Proofs.Instant.Calendar
import Mathlib.Data.List.TakeWhile

/-!
Timestamps read back. Numbers are padded with zeros and stand between separators, so each is
read as it was written. An instant that was read from a timestamp, with whatever offset and
however many digits, has a timestamp of its own in universal time, and that is read as the
same instant.
-/

namespace Autopilot

namespace Instant

/-! ## Digits -/

theorem toList_padded (width n : Nat) : (padded width n).toList =
    List.replicate (width - (Nat.toDigits 10 n).length) '0' ++ Nat.toDigits 10 n := by
  simp only [padded, Nat.toString_eq_ofList_toDigits, String.toList_append, String.toList_ofList,
    String.length_ofList]

theorem isDigit_of_mem_padded {width n : Nat} {c : Char} (member : c ∈ (padded width n).toList) :
    c.isDigit = true := by
  rw [toList_padded] at member
  rcases List.mem_append.1 member with zero | digit
  · rw [List.eq_of_mem_replicate zero]
    rfl
  · exact Nat.isDigit_of_mem_toDigits (by decide) (by decide) digit

theorem padded_ne_nil (width n : Nat) : (padded width n).toList ≠ [] := by
  rw [toList_padded]
  exact List.append_ne_nil_of_right_ne_nil _ Nat.toDigits_ne_nil

theorem length_padded {width n : Nat} (wide : 0 < width) (small : n < 10 ^ width) :
    (padded width n).toList.length = width := by
  have digits := (Nat.length_toDigits_le_iff (by decide : 1 < 10) wide).2 small
  rw [toList_padded, List.length_append, List.length_replicate]
  omega

end Instant

namespace Timestamp

open Text Calendar
open Instant (padded)

/-- The number that some digits stand for. -/
def valueOf (digits : List Char) : Nat := digits.foldl (fun n c => n * 10 + digitValue c) 0

theorem valueOf_padded (width n : Nat) : valueOf (padded width n).toList = n := by
  have same (digits : List Char) : valueOf digits = Nat.ofDigitChars 10 digits 0 := by
    rw [Nat.ofDigitChars_eq_foldl]
    exact congrArg (fun f => digits.foldl f 0)
      (funext fun n => funext fun c => congrArg (· + digitValue c) (Nat.mul_comm n 10))
  rw [same, Instant.toList_padded, Nat.ofDigitChars_append, Nat.ofDigitChars_replicate_zero,
    Nat.mul_zero, Nat.ofDigitChars_ten_toDigits]

/-! ## What is read -/

section Reader

variable {α β : Type}

/-- A reader takes some text away and leaves the rest. -/
def Takes (read : Reader α) (text : List Char) (value : α) (rest : List Char) : Prop :=
  read.run text = .ok (value, rest)

theorem takes_pure (value : α) (text : List Char) :
    Takes (pure value : Reader α) text value text := rfl

theorem Takes.bind {read : Reader α} {next : α → Reader β} {text middle rest : List Char} {a : α}
    {b : β} (first : Takes read text a middle) (later : Takes (next a) middle b rest) :
    Takes (read >>= next) text b rest := by
  unfold Takes at *
  rw [StateT.run_bind, first]
  exact later

theorem takes_get (text : List Char) : Takes (get : Reader (List Char)) text text text := rfl

theorem takes_set (text rest : List Char) : Takes (set rest : Reader PUnit) text ⟨⟩ rest := rfl

/-- No blank stands before a rest. -/
def Tight (text : List Char) : Prop := ∀ c ∈ text.head?, isBlank c = false

theorem takes_skipBlanks {text : List Char} (tight : Tight text) :
    Takes skipBlanks text () text := by
  have same : trimStart text = text := by
    cases text with
    | nil => rfl
    | cons c rest => exact List.dropWhile_cons_of_neg (by simp [tight c rfl])
  change Except.ok ((), trimStart text) = _
  rw [same]

theorem takes_separator (c : Char) (rest : List Char) :
    Takes (separator c) (c :: rest) () rest := by
  refine (takes_get _).bind ?_
  dsimp only
  rw [if_pos rfl]
  exact takes_set _ _

theorem toNat_of_isDigit {c : Char} (digit : c.isDigit = true) : 48 ≤ c.toNat ∧ c.toNat ≤ 57 := by
  simpa [Char.isDigit, UInt32.le_iff_toNat_le] using digit

theorem isBlank_of_isDigit {c : Char} (digit : c.isDigit = true) : isBlank c = false := by
  have bounds := toNat_of_isDigit digit
  simp only [isBlank, Bool.or_eq_false_iff, Bool.and_eq_false_iff, decide_eq_false_iff_not]
  omega

/-- A number ends where no digit stands. -/
def Ends (text : List Char) : Prop := ∀ c ∈ text.head?, c.isDigit = false

theorem takeWhile_isDigit {digits rest : List Char} (numeric : ∀ c ∈ digits, c.isDigit = true)
    (ends : Ends rest) : (digits ++ rest).takeWhile Char.isDigit = digits := by
  rw [List.takeWhile_append_of_pos numeric]
  cases rest with
  | nil => exact List.append_nil digits
  | cons c rest => rw [List.takeWhile_cons_of_neg (by simp [ends c rfl]), List.append_nil]

theorem takes_number {width : Nat} {digits rest : List Char} (some : digits ≠ [])
    (short : digits.length ≤ width) (numeric : ∀ c ∈ digits, c.isDigit = true)
    (small : valueOf digits < 2 ^ 63) (ends : Ends rest) :
    Takes (number width) (digits ++ rest) (valueOf digits) rest := by
  have taken : ((digits ++ rest).take width).takeWhile Char.isDigit = digits := by
    rw [List.take_append, List.take_of_length_le short]
    refine takeWhile_isDigit numeric fun c member => ends c ?_
    rw [List.head?_take] at member
    split at member
    · cases member
    · exact member
  obtain ⟨first, others, rfl⟩ := List.exists_cons_of_ne_nil some
  refine (takes_get _).bind ?_
  have isDigit := numeric first List.mem_cons_self
  have left : ((first :: others) ++ rest).drop (first :: others).length = rest := List.drop_left
  simp only [List.cons_append] at taken left ⊢
  simp only [taken, isDigit, left, Bool.not_true, Bool.false_eq_true, if_false]
  refine (takes_set _ _).bind ?_
  change Takes (if valueOf (first :: others) < 2 ^ 63 then pure (valueOf (first :: others))
    else throw .outOfRange) rest _ rest
  rw [if_pos small]
  exact takes_pure _ _

theorem takes_padded {width wide n : Nat} {rest : List Char} (small : n < 2 ^ 63)
    (short : (padded width n).toList.length ≤ wide) (ends : Ends rest) :
    Takes (number wide) ((padded width n).toList ++ rest) n rest := by
  have numeric : ∀ c ∈ (padded width n).toList, c.isDigit = true :=
    fun _ => Instant.isDigit_of_mem_padded
  have value := valueOf_padded width n
  rw [← value] at small
  have taken := takes_number (Instant.padded_ne_nil width n) short numeric small ends
  rwa [value] at taken

theorem isDigit_head_padded {width n : Nat} {rest : List Char} {c : Char}
    (first : c ∈ ((padded width n).toList ++ rest).head?) : c.isDigit = true := by
  have some : ((padded width n).toList.head?).isSome :=
    List.isSome_head?.2 (Instant.padded_ne_nil width n)
  rw [List.head?_append, Option.or_of_isSome some] at first
  exact Instant.isDigit_of_mem_padded (List.mem_of_mem_head? first)

theorem tight_padded (width n : Nat) (rest : List Char) :
    Tight ((padded width n).toList ++ rest) :=
  fun _ first => isBlank_of_isDigit (isDigit_head_padded first)

/-- Two digits are read as a number in its bounds. -/
theorem takes_numberIn {low high n : Nat} {rest : List Char} (above : low ≤ n) (below : n ≤ high)
    (small : n < 100) (ends : Ends rest) :
    Takes (numberIn low high) ((padded 2 n).toList ++ rest) n rest := by
  refine (takes_skipBlanks (tight_padded 2 n rest)).bind ?_
  refine (takes_padded (by omega) (Instant.length_padded (by decide) small).le ends).bind ?_
  rw [if_pos (by simp [above, below])]
  exact takes_pure _ _

theorem takes_year {year : Int} {rest : List Char} (inRange : yearInRange year = true)
    (ends : Ends rest) : Takes Timestamp.year ((Instant.yearText year).toList ++ rest) year rest := by
  simp only [yearInRange, Bool.and_eq_true, decide_eq_true_eq] at inRange
  have checked {n : Int} (same : n = year) : Takes (if -2147483648 ≤ n && n ≤ 2147483647 then pure n
      else throw TimestampFault.outOfRange : Reader Int) rest year rest := by
    subst same
    rw [if_pos]
    · exact takes_pure n rest
    · simp only [Bool.and_eq_true, decide_eq_true_eq]
      omega
  unfold Instant.yearText
  by_cases plain : (decide (0 ≤ year) && decide (year ≤ 9999)) = true
  · rw [if_pos plain]
    simp only [Bool.and_eq_true, decide_eq_true_eq] at plain
    refine (takes_skipBlanks (tight_padded 4 _ rest)).bind ((takes_get _).bind ?_)
    have taken : Takes (number 4) ((padded 4 year.toNat).toList ++ rest) year.toNat rest :=
      takes_padded (by omega) (Instant.length_padded (by decide) (by omega)).le ends
    have digit {c : Char} (first : c ∈ ((padded 4 year.toNat).toList ++ rest).head?) :
        c.isDigit = true := isDigit_head_padded first
    generalize (padded 4 year.toNat).toList ++ rest = text at taken digit
    dsimp only
    split
    · cases digit (c := '-') rfl
    · cases digit (c := '+') rfl
    · exact taken.bind (checked (n := year.toNat) (by omega))
  · rw [if_neg plain, String.toList_append]
    have taken : Takes (number ((padded 4 year.natAbs).toList ++ rest).length)
        ((padded 4 year.natAbs).toList ++ rest) year.natAbs rest :=
      takes_padded (by omega) (by simp) ends
    by_cases negative : year < 0
    · rw [if_pos negative]
      refine (takes_skipBlanks ?_).bind ((takes_get _).bind ((takes_set _ _).bind ?_))
      · exact fun c first => by cases first; rfl
      · exact taken.bind (checked (n := -(year.natAbs : Int)) (by omega))
    · rw [if_neg negative]
      refine (takes_skipBlanks ?_).bind ((takes_get _).bind ((takes_set _ _).bind ?_))
      · exact fun c first => by cases first; rfl
      · exact taken.bind (checked (n := year.natAbs) (by omega))

theorem takes_fraction {width n : Nat} {rest : List Char} (wide : 0 < width) (short : width ≤ 9)
    (small : n < 10 ^ width) (ends : Ends rest) :
    Takes nanoseconds ('.' :: ((padded width n).toList ++ rest)) (n * Nat.pow 10 (9 - width))
      rest := by
  have length := Instant.length_padded wide small
  have bound : n < 2 ^ 63 := by
    have : 10 ^ width ≤ 10 ^ 9 := Nat.pow_le_pow_right (by decide) short
    omega
  refine (takes_get _).bind ((takes_set _ _).bind ((takes_padded bound (by omega) ends).bind ?_))
  refine (takes_get _).bind ?_
  have past : rest.dropWhile Char.isDigit = rest := by
    cases rest with
    | nil => rfl
    | cons c rest => exact List.dropWhile_cons_of_neg (by simp [ends c rfl])
  have read : ((padded width n).toList ++ rest).length - rest.length = width := by
    rw [List.length_append, length]
    omega
  rw [read]
  have dropped : Takes (modify (·.dropWhile Char.isDigit) : Reader PUnit) rest ⟨⟩ rest := by
    change Except.ok ((), rest.dropWhile Char.isDigit) = _
    rw [past]
  exact dropped.bind (takes_pure _ rest)

theorem takes_nanoseconds {nano : Nat} {rest : List Char} (small : nano < 1000000000)
    (ends : Ends rest) (free : ∀ c ∈ rest.head?, c ≠ '.') :
    Takes nanoseconds ((Instant.fractionText nano).toList ++ rest) nano rest := by
  have fraction {width n : Nat} (wide : 0 < width) (short : width ≤ 9) (fits : n < 10 ^ width)
      (whole : n * Nat.pow 10 (9 - width) = nano) :
      Takes nanoseconds (("." ++ padded width n).toList ++ rest) nano rest := by
    have taken := takes_fraction wide short fits ends
    rw [whole] at taken
    rw [String.toList_append]
    exact taken
  unfold Instant.fractionText
  split
  next none =>
    subst none
    refine (takes_get _).bind ?_
    dsimp only
    split
    next dotted =>
      have first : '.' ∈ rest.head? := congrArg List.head? dotted
      exact absurd rfl (free '.' first)
    next => exact takes_pure 0 rest
  next some =>
    split
    next => exact fraction (by decide) (by decide) (by omega) (by change _ * 1000000 = _; omega)
    next =>
      split
      next => exact fraction (by decide) (by decide) (by omega) (by change _ * 1000 = _; omega)
      next => exact fraction (by decide) (by decide) (by omega) (by change _ * 1 = _; omega)

theorem takes_offset : Takes offset ['Z'] 0 [] := rfl

theorem tight_cons {c : Char} {rest : List Char} (solid : isBlank c = false) : Tight (c :: rest) :=
  fun _ first => Option.some.inj first ▸ solid

theorem ends_cons {c : Char} {rest : List Char} (other : c.isDigit = false) : Ends (c :: rest) :=
  fun _ first => Option.some.inj first ▸ other

/-- After a blank or none, a separator. -/
theorem Takes.separated {c : Char} {next : Reader β} {text rest : List Char} {b : β}
    (solid : isBlank c = false) (later : Takes next text b rest) :
    Takes (do skipBlanks; separator c; next) (c :: text) b rest :=
  (takes_skipBlanks (tight_cons solid)).bind ((takes_separator c text).bind later)

theorem ends_fraction (nano : Nat) {rest : List Char} (ends : Ends rest) :
    Ends ((Instant.fractionText nano).toList ++ rest) := by
  have point (digits : String) : Ends (("." ++ digits).toList ++ rest) := by
    rw [String.toList_append]
    exact ends_cons (by decide)
  unfold Instant.fractionText
  split
  · exact ends
  · repeat' split
    all_goals exact point _

theorem takes_fields {year : Int} {month day hour minute second nano : Nat}
    (inRange : yearInRange year = true) (monthly : 1 ≤ month ∧ month ≤ 12)
    (daily : 1 ≤ day ∧ day ≤ 31) (hourly : hour ≤ 23) (minutely : minute ≤ 59)
    (secondly : second ≤ 60) (small : nano < 1000000000) :
    Takes fields
      (Instant.yearText year ++ "-" ++ padded 2 month ++ "-" ++ padded 2 day ++ "T" ++
        padded 2 hour ++ ":" ++ padded 2 minute ++ ":" ++ padded 2 second ++
        Instant.fractionText nano ++ "Z").toList
      ⟨⟨year, month, day⟩, hour, minute, second, nano, 0⟩ [] := by
  have dash : "-".toList = ['-'] := rfl
  have tee : "T".toList = ['T'] := rfl
  have colon : ":".toList = [':'] := rfl
  have zulu : "Z".toList = ['Z'] := rfl
  simp only [String.toList_append, List.append_assoc, dash, tee, colon, zulu, List.cons_append,
    List.nil_append]
  unfold fields
  refine (takes_year inRange (ends_cons (by decide))).bind (.separated (by decide) ?_)
  refine (takes_numberIn monthly.1 monthly.2 (by omega) (ends_cons (by decide))).bind
    (.separated (by decide) ?_)
  refine (takes_numberIn daily.1 daily.2 (by omega) (ends_cons (by decide))).bind ?_
  refine (takes_get _).bind ((takes_set _ _).bind ?_)
  refine (takes_numberIn (Nat.zero_le _) hourly (by omega) (ends_cons (by decide))).bind
    (.separated (by decide) ?_)
  refine (takes_numberIn (Nat.zero_le _) minutely (by omega) (ends_cons (by decide))).bind
    (.separated (by decide) ?_)
  refine (takes_numberIn (Nat.zero_le _) secondly (by omega)
    (ends_fraction nano (ends_cons (by decide)))).bind ?_
  refine (takes_nanoseconds small (ends_cons (by decide)) ?_).bind ?_
  · rintro c first rfl
    cases first
  refine (takes_skipBlanks (tight_cons (by decide))).bind ?_
  refine takes_offset.bind ((takes_get _).bind ?_)
  exact takes_pure _ _

/-! ### What a value that was read is like -/

theorem takes_bind_iff {read : Reader α} {next : α → Reader β} {text rest : List Char} {b : β} :
    Takes (read >>= next) text b rest ↔
      ∃ a middle, Takes read text a middle ∧ Takes (next a) middle b rest := by
  constructor
  · intro whole
    unfold Takes at whole
    rw [StateT.run_bind] at whole
    cases first : read.run text with
    | error fault =>
      rw [first] at whole
      cases whole
    | ok step =>
      rw [first] at whole
      exact ⟨step.1, step.2, first, whole⟩
  · rintro ⟨a, middle, first, later⟩
    exact first.bind later

/-- All values that a reader can come to. -/
def Yields (read : Reader α) (P : α → Prop) : Prop :=
  ∀ text value rest, Takes read text value rest → P value

theorem yields_pure {P : α → Prop} {value : α} (holds : P value) :
    Yields (pure value : Reader α) P := by
  intro text other rest taken
  cases taken
  exact holds

theorem yields_throw {P : α → Prop} {fault : TimestampFault} :
    Yields (throw fault : Reader α) P := by
  intro text value rest taken
  cases taken

theorem Yields.bind {read : Reader α} {next : α → Reader β} {P : α → Prop} {Q : β → Prop}
    (first : Yields read P) (later : ∀ a, P a → Yields (next a) Q) : Yields (read >>= next) Q := by
  intro text b rest taken
  obtain ⟨a, middle, before, after⟩ := takes_bind_iff.1 taken
  exact later a (first text a middle before) middle b rest after

theorem yields_bind {read : Reader α} {next : α → Reader β} {Q : β → Prop}
    (later : ∀ a, Yields (next a) Q) : Yields (read >>= next) Q :=
  Yields.bind (fun _ _ _ _ => trivial) fun a (_ : True) => later a

theorem valueOf_lt {digits : List Char} (numeric : ∀ c ∈ digits, c.isDigit = true) :
    valueOf digits < 10 ^ digits.length := by
  have bound (init : Nat) : digits.foldl (fun n c => n * 10 + digitValue c) init <
      (init + 1) * 10 ^ digits.length := by
    induction digits generalizing init with
    | nil => simp
    | cons c digits ih =>
      have value : digitValue c < 10 := by
        have bounds := toNat_of_isDigit (numeric c List.mem_cons_self)
        change c.toNat - 48 < 10
        omega
      have later := ih (fun d member => numeric d (List.mem_cons_of_mem _ member))
        (init * 10 + digitValue c)
      calc
        _ < (init * 10 + digitValue c + 1) * 10 ^ digits.length := later
        _ ≤ ((init + 1) * 10) * 10 ^ digits.length := Nat.mul_le_mul_right _ (by omega)
        _ = (init + 1) * 10 ^ (c :: digits).length := by
          rw [List.length_cons, Nat.pow_succ, Nat.mul_assoc, Nat.mul_comm 10]
  have whole := bound 0
  rwa [Nat.zero_add, Nat.one_mul] at whole

/-- A number has as many digits as it takes away, and no more than it may have. -/
theorem number_taken {width n : Nat} {text rest : List Char}
    (taken : Takes (number width) text n rest) :
    n < 10 ^ (text.length - rest.length) ∧ text.length - rest.length ≤ width := by
  obtain ⟨_, _, got, later⟩ := takes_bind_iff.1 taken
  cases got
  cases text with
  | nil => cases later
  | cons c text =>
    dsimp only at later
    split at later
    · obtain ⟨_, _, thrown, _⟩ := takes_bind_iff.1 later
      cases thrown
    · obtain ⟨_, _, dropped, ending⟩ := takes_bind_iff.1 later
      cases dropped
      split at ending
      · cases ending
        obtain ⟨digits, same⟩ : ∃ digits, ((c :: text).take width).takeWhile Char.isDigit = digits :=
          ⟨_, rfl⟩
        have among : digits.Sublist ((c :: text).take width) := same ▸ List.takeWhile_sublist _
        have short := among.length_le
        rw [List.length_take] at short
        have count :
            (c :: text).length - ((c :: text).drop digits.length).length = digits.length := by
          rw [List.length_drop]
          omega
        rw [same, count]
        refine ⟨valueOf_lt fun d member => ?_, by omega⟩
        exact List.mem_takeWhile_imp (same.symm ▸ member)
      · cases ending

theorem yields_nanoseconds : Yields nanoseconds (· < 1000000000) := by
  intro text nano rest taken
  obtain ⟨_, _, got, later⟩ := takes_bind_iff.1 taken
  cases got
  dsimp only at later
  split at later
  next digits =>
    obtain ⟨_, _, dropped, later⟩ := takes_bind_iff.1 later
    cases dropped
    obtain ⟨n, middle, read, later⟩ := takes_bind_iff.1 later
    obtain ⟨_, _, got, later⟩ := takes_bind_iff.1 later
    cases got
    obtain ⟨_, _, dropped, ending⟩ := takes_bind_iff.1 later
    cases ending
    obtain ⟨small, short⟩ := number_taken read
    generalize digits.length - middle.length = count at small short
    change n * 10 ^ (9 - count) < 1000000000
    calc
      n * 10 ^ (9 - count) < 10 ^ count * 10 ^ (9 - count) :=
        Nat.mul_lt_mul_of_pos_right small (Nat.pow_pos (by decide))
      _ = 10 ^ 9 := by rw [← Nat.pow_add, Nat.add_sub_cancel' short]
  next =>
    cases later
    decide

/-- An offset is a number of minutes. -/
theorem yields_offset : Yields offset (· % 60 = 0) := by
  have signed {sign : Int} (unit : sign = 1 ∨ sign = -1) (hours minutes : Nat) :
      (sign * (hours * 3600 + minutes * 60 : Nat)) % 60 = 0 := by
    rcases unit with rfl | rfl <;> omega
  unfold offset
  refine yields_bind fun text => ?_
  dsimp only
  repeat' split
  all_goals first
    | exact yields_throw
    | exact yields_bind fun _ => yields_pure rfl
    | exact yields_bind fun ⟨hours, _⟩ => yields_bind fun ⟨minutes, _⟩ => yields_bind fun _ =>
        yields_pure (signed (by decide) hours minutes)

theorem yields_fields : Yields fields fun f => f.nano < 1000000000 ∧ f.offset % 60 = 0 := by
  unfold fields
  iterate 8 refine yields_bind fun _ => ?_
  dsimp only
  -- Whatever stands between the date and the time, the time follows.
  split
  case' h_2 => split
  all_goals
    iterate 8 refine yields_bind fun _ => ?_
    refine yields_nanoseconds.bind fun nano small => yields_bind fun _ => ?_
    refine yields_offset.bind fun offset whole => yields_bind fun _ => ?_
    split
    · exact yields_pure ⟨small, whole⟩
    · exact yields_throw

end Reader

/-- The instant of some fields, whether or not it is one. -/
def Fields.instant (f : Fields) : Instant :=
  ⟨f.date.toDays * 86400 +
      (f.hour * 3600 + f.minute * 60 + if f.second = 60 then 59 else f.second : Nat) - f.offset,
    f.nano + if f.second = 60 then 1000000000 else 0⟩

theorem Fields.toInstant_eq_ok_iff {f : Fields} {a : Instant} :
    f.toInstant = .ok a ↔ f.date.valid = true ∧ (-86400 < f.offset ∧ f.offset < 86400) ∧
      yearInRange (Date.ofDays (f.instant.second.fdiv 86400)).year = true ∧ f.instant = a := by
  cases valid : f.date.valid with
  | false =>
    have fails : f.toInstant = .error .outOfRange := by
      unfold toInstant
      rw [valid]
      rfl
    simp [fails]
  | true =>
    by_cases far : (f.offset ≤ -86400 || 86400 ≤ f.offset) = true
    · have fails : f.toInstant = .error .outOfRange := by
        simp only [toInstant, valid, Bool.not_true, Bool.false_eq_true, if_false, far, if_true]
        rfl
      simp only [Bool.or_eq_true, decide_eq_true_eq] at far
      simp only [fails, reduceCtorEq, false_iff]
      omega
    · have near : -86400 < f.offset ∧ f.offset < 86400 := by
        simp only [Bool.or_eq_true, decide_eq_true_eq] at far
        omega
      have steps : f.toInstant =
          if (!yearInRange (Date.ofDays (f.instant.second.fdiv 86400)).year) = true then
            throw .impossible
          else pure f.instant := by
        simp only [toInstant, valid, Bool.not_true, Bool.false_eq_true, if_false, far]
        rfl
      cases inRange : yearInRange (Date.ofDays (f.instant.second.fdiv 86400)).year with
      | false =>
        have fails : f.toInstant = .error .impossible := by
          rw [steps, inRange]
          rfl
        simp [fails]
      | true =>
        have succeeds : f.toInstant = .ok f.instant := by
          rw [steps, inRange]
          rfl
        simp [succeeds, near]

end Timestamp

namespace Instant

open Timestamp Calendar

/-- What holds of an instant that a timestamp tells: its year is one that an instant may have, and
a leap second ends its minute. -/
structure Told (a : Instant) : Prop where
  year : yearInRange (Date.ofDays (a.second.fdiv 86400)).year = true
  nano : a.nano < 2000000000
  leap : a.isLeap = true → a.second % 60 = 59

theorem monthLength_le (year : Int) (month : Nat) : monthLength year month ≤ 31 := by
  unfold monthLength
  repeat' split
  all_goals decide

theorem leap_cases (a : Instant) :
    ((if a.isLeap then 1 else 0) = 1 ∧ 1000000000 ≤ a.nano) ∨
      ((if a.isLeap then 1 else 0) = 0 ∧ a.nano < 1000000000) := by
  by_cases late : 1000000000 ≤ a.nano
  · exact .inl ⟨if_pos (decide_eq_true late), late⟩
  · exact .inr ⟨if_neg fun leap => late (of_decide_eq_true leap), by omega⟩

/-- The fields of an instant's own timestamp. -/
def ownFields (a : Instant) : Fields :=
  let second := (a.second % 86400).toNat
  let leap := if a.isLeap then 1 else 0
  ⟨Date.ofDays (a.second.fdiv 86400), second / 3600, second / 60 % 60, second % 60 + leap,
    a.nano - leap * 1000000000, 0⟩

theorem instant_ownFields {a : Instant} (told : a.Told) : a.ownFields.instant = a := by
  have ends := told.leap
  have day := toDays_ofDays (a.second.fdiv 86400)
  rw [Int.fdiv_eq_ediv_of_nonneg _ (by decide)] at day
  obtain ⟨second, nano⟩ := a
  unfold ownFields Fields.instant
  simp only [Instant.mk.injEq, Int.fdiv_eq_ediv_of_nonneg second (show (0 : Int) ≤ 86400 by decide)]
  rcases leap_cases ⟨second, nano⟩ with ⟨leaps, late⟩ | ⟨leaps, early⟩
  · have last : second % 60 = 59 := ends (decide_eq_true late)
    have full : (second % 86400).toNat % 60 + 1 = 60 := by omega
    simp only [leaps, full, if_true]
    simp only at late day
    omega
  · have short : ¬ (second % 86400).toNat % 60 + 0 = 60 := by omega
    simp only [leaps, short, if_false]
    simp only at early day
    omega

theorem toInstant_ownFields {a : Instant} (told : a.Told) : a.ownFields.toInstant = .ok a := by
  have same := instant_ownFields told
  refine Fields.toInstant_eq_ok_iff.2 ⟨ofDays_valid told.year, ?_, ?_, same⟩
  · change (-86400 : Int) < 0 ∧ (0 : Int) < 86400
    decide
  · rw [same]
    exact told.year

/-- A timestamp in universal time is read as the instant that it was written for. -/
theorem ofTimestamp_timestamp {a : Instant} (told : a.Told) : ofTimestamp a.timestamp = .ok a := by
  have valid := ofDays_valid told.year
  simp only [Date.valid, Bool.and_eq_true, decide_eq_true_eq] at valid
  have month := monthLength_le (Date.ofDays (a.second.fdiv 86400)).year
    (Date.ofDays (a.second.fdiv 86400)).month
  have inDay : (a.second % 86400).toNat < 86400 := by omega
  have nano := told.nano
  have leap := a.leap_cases
  have taken : Takes fields a.timestamp.toList a.ownFields [] :=
    takes_fields told.year ⟨by omega, by omega⟩ ⟨by omega, by omega⟩ (by omega) (by omega)
      (by omega) (by omega)
  unfold ofTimestamp
  rw [taken]
  exact toInstant_ownFields told

theorem told_of_ofTimestamp {text : String} {a : Instant} (read : ofTimestamp text = .ok a) :
    a.Told := by
  unfold ofTimestamp at read
  cases taken : fields.run text.toList with
  | error fault =>
    rw [taken] at read
    cases read
  | ok step =>
    rw [taken] at read
    obtain ⟨f, rest⟩ := step
    obtain ⟨small, whole⟩ := yields_fields _ _ _ taken
    obtain ⟨_, _, year, rfl⟩ := Fields.toInstant_eq_ok_iff.1 read
    refine ⟨year, ?_, fun leap => ?_⟩
    · change f.nano + (if f.second = 60 then 1000000000 else 0) < 2000000000
      split <;> omega
    · have late : 1000000000 ≤ f.nano + if f.second = 60 then 1000000000 else 0 :=
        of_decide_eq_true leap
      have last : f.second = 60 := by
        by_contra other
        rw [if_neg other] at late
        omega
      change (f.date.toDays * 86400 + (f.hour * 3600 + f.minute * 60 +
        if f.second = 60 then 59 else f.second : Nat) - f.offset) % 60 = 59
      rw [if_pos last]
      omega

/-- An instant that was read has a timestamp that is read as the same instant. -/
theorem ofTimestamp_timestamp_of_read {text : String} {a : Instant}
    (read : ofTimestamp text = .ok a) : ofTimestamp a.timestamp = .ok a :=
  ofTimestamp_timestamp (told_of_ofTimestamp read)

/-- An instant that there can be at all. -/
structure Representable (a : Instant) : Prop where
  year : yearInRange (Date.ofDays (a.second.fdiv 86400)).year = true
  nano : a.nano < 2000000000

theorem Told.representable {a : Instant} (told : a.Told) : a.Representable := ⟨told.year, told.nano⟩

/-- The seconds of an instant are far from the bounds of a word. -/
theorem Representable.second_bounds {a : Instant} (can : a.Representable) :
    -10000000000000 < a.second ∧ a.second < 10000000000000 := by
  have inRange := can.year
  rw [Int.fdiv_eq_ediv_of_nonneg _ (by decide)] at inRange
  obtain ⟨era, year, dayOfYear, inEra, small, _, parts, same⟩ := ofDays_eq (a.second / 86400)
  have before : daysBefore year ≤ 146097 := by
    unfold daysBefore
    omega
  have near : (year : Int) + era * 400 ≤ (marchDate (year + era * 400) dayOfYear).year ∧
      (marchDate (year + era * 400) dayOfYear).year ≤ year + era * 400 + 1 := by
    unfold marchDate
    dsimp only
    split <;> omega
  simp only [same, yearInRange, Bool.and_eq_true, decide_eq_true_eq] at inRange
  omega

end Instant

end Autopilot
