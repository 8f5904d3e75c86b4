import Autopilot.Json.Reader
import Autopilot.Proofs.Datum

/-!
What is read from JSON text has whole numbers of 64 bits: a whole number with more digits is read as
a real. The digits are gathered only while they fit; everything else passes on what it was given.
-/

namespace Autopilot.Json

namespace Reader

theorem gather_lt {significand : Nat} (digits : List Char) (small : significand < Nat.pow 2 64) :
    (gather significand digits).1 < Nat.pow 2 64 := by
  induction digits generalizing significand with
  | nil => exact small
  | cons d rest ih =>
    unfold gather
    dsimp only
    split
    next more => exact ih more
    next => exact small

theorem fits_real (x : Float) : (Number.real x).fits = true := rfl

theorem assemble_fits (negative : Bool) (whole : List Char) (point : Option (List Char))
    (power : Option Exponent) : (assemble negative whole point power).fits = true := by
  have small := @gather_lt 0 whole (by decide)
  unfold assemble
  generalize gather 0 whole = gathered at small ⊢
  obtain ⟨significand, dropped⟩ := gathered
  change significand < 18446744073709551616 at small
  dsimp only
  split
  · split
    · exact fits_real _
    · split
      · rw [Number.fits, Bool.and_eq_true, decide_eq_true_iff, decide_eq_true_iff]
        omega
      · split
        · exact fits_real _
        next shown =>
          rw [Bool.or_eq_true, not_or, decide_eq_true_iff, decide_eq_true_iff] at shown
          change ¬ significand = 0 ∧ ¬ significand > 9223372036854775808 at shown
          rw [Number.fits, Bool.and_eq_true, decide_eq_true_iff, decide_eq_true_iff]
          omega
  · exact fits_real _

theorem number_fits {text rest : List Char} {n : Number} (read : number text = some (n, rest)) :
    n.fits = true := by
  unfold number at read
  split at read
  dsimp only at read
  split at read
  · cases read
  · obtain ⟨⟨point, _⟩, _, read⟩ := Option.bind_eq_some_iff.1 read
    obtain ⟨⟨power, _⟩, _, same⟩ := Option.bind_eq_some_iff.1 read
    cases same
    exact assemble_fits _ _ _ _

theorem fits_arr {items : List Json} (every : ∀ v ∈ items, Fits v) : (arr items).Fits :=
  Datum.all_arr every

theorem fits_object {fields : List (String × Json)} (every : ∀ field ∈ fields, Fits field.2) :
    (object fields).Fits :=
  Datum.all_object every

/-- Reading keeps to numbers of 64 bits, on values, and on what comes after some items or fields
that do. -/
theorem read_fits (depth : Nat) :
    (∀ text v rest, value depth text = some (v, rest) → v.Fits) ∧
    (∀ seen text v rest, (∀ w ∈ seen, Fits w) → items depth seen text = some (v, rest) → v.Fits) ∧
    (∀ seen text v rest, (∀ field ∈ seen, Fits field.2) →
      fields depth seen text = some (v, rest) → v.Fits) := by
  induction depth with
  | zero =>
    refine ⟨fun text v rest read => ?_, fun seen text v rest _ read => ?_,
      fun seen text v rest _ read => ?_⟩
    · rw [value] at read
      cases read
    · rw [items] at read
      cases read
    · rw [fields] at read
      cases read
  | succ depth ih =>
    obtain ⟨values, arrays, objects⟩ := ih
    refine ⟨fun text v rest read => ?_, fun seen text v rest before read => ?_,
      fun seen text v rest before read => ?_⟩
    · unfold value at read
      split at read
      next => cases read
      next =>
        cases read
        rfl
      next =>
        cases read
        rfl
      next =>
        cases read
        rfl
      next =>
        obtain ⟨⟨content, _⟩, _, same⟩ := Option.map_eq_some_iff.1 read
        cases same
        rfl
      next deeper _ =>
        cases deeper
        split at read
        · cases read
          rfl
        · exact arrays [] _ v rest (List.forall_mem_nil _) read
      next deeper _ =>
        cases deeper
        split at read
        · cases read
          rfl
        · exact objects [] _ v rest (List.forall_mem_nil _) read
      next =>
        obtain ⟨⟨n, _⟩, shown, same⟩ := Option.map_eq_some_iff.1 read
        cases same
        have fits := number_fits shown
        cases n with
        | int n => exact fits
        | real x => rfl
    · rw [items] at read
      obtain ⟨⟨item, after⟩, first, read⟩ := Option.bind_eq_some_iff.1 read
      have every : ∀ w ∈ item :: seen, Fits w :=
        List.forall_mem_cons.2 ⟨values _ _ _ first, before⟩
      dsimp only at read
      split at read
      · exact arrays _ _ v rest every read
      · cases read
        exact fits_arr fun w member => every w (List.mem_reverse.1 member)
      · cases read
    · rw [fields] at read
      split at read
      next =>
        obtain ⟨⟨name, after⟩, _, read⟩ := Option.bind_eq_some_iff.1 read
        dsimp only at read
        split at read
        next =>
          obtain ⟨⟨item, later⟩, first, read⟩ := Option.bind_eq_some_iff.1 read
          have every : ∀ field ∈ (name, item) :: seen, Fits field.2 :=
            List.forall_mem_cons.2 ⟨values _ _ _ first, before⟩
          dsimp only at read
          split at read
          · exact objects _ _ v rest every read
          · cases read
            exact fits_object fun field member => every field (List.mem_reverse.1 member)
          · cases read
        next => cases read
      next => cases read

end Reader

/-- A value that a text holds has whole numbers of 64 bits. -/
theorem fits_of_parse? {text : String} {v : Json} (read : parse? text = some v) : v.Fits := by
  obtain ⟨⟨found, rest⟩, shown, read⟩ := Option.bind_eq_some_iff.1 read
  dsimp only at read
  split at read
  · cases read
    exact (Reader.read_fits _).1 _ _ _ shown
  · cases read

end Autopilot.Json
