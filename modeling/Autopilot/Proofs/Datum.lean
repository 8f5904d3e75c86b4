import Autopilot.Datum
import Autopilot.Proofs.Json

/-!
Data and the values that they are as JSON. A value is plain if it stays as it is on the way to a
datum and back; whatever came that way once is plain. On the way numbers are kept, but for reals
that are infinite.
-/

namespace Autopilot

/-! ## Outcomes without a fault -/

section Outcomes

variable {ε δ α β : Type}

theorem ok_of_bind {x : Except ε α} {f : α → Except ε β} {b : β} (done : (x >>= f) = .ok b) :
    ∃ a, x = .ok a ∧ f a = .ok b := by
  cases x with
  | error fault => cases done
  | ok a => exact ⟨a, rfl, done⟩

theorem ok_of_map {x : Except ε α} {f : α → β} {b : β} (done : x.map f = .ok b) :
    ∃ a, x = .ok a ∧ f a = b := by
  cases x with
  | error fault => cases done
  | ok a => exact ⟨a, rfl, Except.ok.inj done⟩

theorem ok_of_mapError {x : Except ε α} {f : ε → δ} {a : α} (done : x.mapError f = .ok a) :
    x = .ok a := by
  cases x with
  | error fault => cases done
  | ok b => exact congrArg Except.ok (Except.ok.inj done)

end Outcomes

/-! ## Data of values -/

/-- Whole numbers have 64 bits, with or without a sign. -/
def Number.fits : Number → Bool
  | .int n => -9223372036854775808 ≤ n && n ≤ 18446744073709551615
  | .real _ => true

/-- Whole numbers have 64 bits, and reals are finite. -/
def Number.isFinite : Number → Bool
  | .int n => Number.fits (.int n)
  | .real x => x.isFinite

theorem Number.fits_of_isFinite {n : Number} (finite : n.isFinite = true) : n.fits = true := by
  cases n with
  | int n => exact finite
  | real x => rfl

namespace Datum

theorem ofItems_eq_map (items : List Json) : ofItems items = items.map ofJson := by
  induction items with
  | nil => rfl
  | cons item rest ih => rw [ofItems, ih, List.map_cons]

theorem ofFields_eq_map (fields : List (String × Json)) :
    ofFields fields = fields.map fun field => (.text field.1, ofJson field.2) := by
  induction fields with
  | nil => rfl
  | cons field rest ih => rw [ofFields, ih, List.map_cons]

mutual

/-- Whether something holds of all numbers of a datum. -/
def all (holds : Number → Bool) : Datum → Bool
  | .int n => holds (.int n)
  | .real x => holds (.real x)
  | .list items => allItems holds items
  | .table rows => allRows holds rows
  | .tagged _ content => content.all holds
  | _ => true

def allItems (holds : Number → Bool) : List Datum → Bool
  | [] => true
  | item :: rest => item.all holds && allItems holds rest

def allRows (holds : Number → Bool) : List (Datum × Datum) → Bool
  | [] => true
  | (_, value) :: rest => value.all holds && allRows holds rest

end

section Numbers

variable {holds other : Number → Bool}

theorem allItems_eq_all (items : List Datum) : allItems holds items = items.all (all holds) := by
  induction items with
  | nil => rfl
  | cons item rest ih => rw [allItems, ih, List.all_cons]

theorem allRows_eq_all (rows : List (Datum × Datum)) :
    allRows holds rows = rows.all fun row => row.2.all holds := by
  induction rows with
  | nil => rfl
  | cons row rest ih => rw [allRows, ih, List.all_cons]

theorem all_untagged {d : Datum} (every : d.all holds = true) : d.untagged.all holds = true := by
  induction d using untagged.induct with
  | case1 tag content ih => exact ih every
  | case2 d notTagged => cases d <;> simp_all [untagged]

mutual

theorem all_mono (weaker : ∀ n, holds n = true → other n = true) :
    ∀ d : Datum, d.all holds = true → d.all other = true
  | .null, _ => rfl
  | .bool _, _ => rfl
  | .int n, every => weaker (.int n) every
  | .real x, every => weaker (.real x) every
  | .text _, _ => rfl
  | .list items, every => allItems_mono weaker items every
  | .table rows, every => allRows_mono weaker rows every
  | .tagged _ content, every => all_mono weaker content every

theorem allItems_mono (weaker : ∀ n, holds n = true → other n = true) :
    ∀ items : List Datum, allItems holds items = true → allItems other items = true
  | [], _ => rfl
  | d :: items, every => by
    rw [allItems, Bool.and_eq_true] at every ⊢
    exact ⟨all_mono weaker d every.1, allItems_mono weaker items every.2⟩

theorem allRows_mono (weaker : ∀ n, holds n = true → other n = true) :
    ∀ rows : List (Datum × Datum), allRows holds rows = true → allRows other rows = true
  | [], _ => rfl
  | (key, value) :: rows, every => by
    rw [allRows, Bool.and_eq_true] at every ⊢
    exact ⟨all_mono weaker value every.1, allRows_mono weaker rows every.2⟩

end

end Numbers

end Datum

/-- The whole numbers of a value have 64 bits, with or without a sign, as those of a text have. -/
def Json.Fits (v : Json) : Prop := (Datum.ofJson v).all Number.fits = true

instance (v : Json) : Decidable v.Fits :=
  inferInstanceAs (Decidable ((Datum.ofJson v).all Number.fits = true))

/-! ## Plain values -/

/-- A value is plain if it is read as it is written: its fields are in order and its reals are
numbers. -/
def Json.Plain (v : Json) : Prop := (Datum.ofJson v).toJson = .ok v

namespace Datum

theorem plain_ofFloat {x : Float} (finite : x.isFinite = true) : (Json.ofFloat x).Plain := by
  unfold Json.Plain
  rw [Json.ofFloat, ofJson, toJson, finite]
  rfl

theorem toItems_ofItems {items : List Json} (plain : ∀ v ∈ items, v.Plain) :
    toItems (ofItems items) = .ok items := by
  induction items with
  | nil => rfl
  | cons v items ih =>
    have first : (ofJson v).toJson = .ok v := plain v List.mem_cons_self
    have later := ih fun w member => plain w (List.mem_cons_of_mem _ member)
    rw [ofItems, toItems, first, later]
    rfl

theorem toFields_ofFields {fields : List (String × Json)}
    (plain : ∀ field ∈ fields, field.2.Plain) : toFields (ofFields fields) = .ok fields := by
  induction fields with
  | nil => rfl
  | cons field fields ih =>
    have first : (ofJson field.2).toJson = .ok field.2 := plain field List.mem_cons_self
    have later := ih fun other member => plain other (List.mem_cons_of_mem _ member)
    rw [ofFields, toFields]
    simp only [untagged, first, later]
    rfl

theorem plain_arr {items : List Json} (plain : ∀ v ∈ items, v.Plain) : (Json.arr items).Plain := by
  unfold Json.Plain
  rw [ofJson, toJson, toItems_ofItems plain]
  rfl

theorem plain_object {fields : List (String × Json)} (plain : ∀ field ∈ fields, field.2.Plain) :
    (Json.object fields).Plain := by
  have sorted : ∀ field ∈ Json.sortFields fields, field.2.Plain :=
    fun field member => plain field (Json.mem_of_mem_sortFields member)
  unfold Json.Plain Json.object
  rw [ofJson, toJson, toFields_ofFields sorted]
  change Except.ok (Json.object (Json.sortFields fields)) = _
  rw [Json.object, Json.sortFields_of_ascending (Json.sortFields_ascending fields)]

theorem plain_objectOf {entries : List (String × Option Json)}
    (plain : ∀ entry ∈ entries, ∀ v, entry.2 = some v → v.Plain) :
    (Json.objectOf entries).Plain := by
  refine plain_object fun field member => ?_
  obtain ⟨⟨name, value⟩, within, given⟩ := List.mem_filterMap.1 member
  obtain ⟨v, shown, rfl⟩ := Option.map_eq_some_iff.1 given
  exact plain (name, value) within v shown

theorem all_arr {holds : Number → Bool} {items : List Json}
    (every : ∀ v ∈ items, (ofJson v).all holds = true) :
    (ofJson (.arr items)).all holds = true := by
  rw [ofJson, Datum.all, allItems_eq_all, ofItems_eq_map, List.all_map]
  exact List.all_eq_true.2 every

theorem all_object {holds : Number → Bool} {fields : List (String × Json)}
    (every : ∀ field ∈ fields, (ofJson field.2).all holds = true) :
    (ofJson (Json.object fields)).all holds = true := by
  rw [Json.object, ofJson, Datum.all, allRows_eq_all, ofFields_eq_map, List.all_map]
  exact List.all_eq_true.2 fun field member => every field (Json.mem_of_mem_sortFields member)

mutual

/-- What is read is plain, and its numbers are those that there were, except for infinite ones. -/
theorem plain_of_toJson : ∀ {d : Datum} {v : Json}, d.toJson = .ok v →
    v.Plain ∧ (d.all Number.fits = true → (ofJson v).all Number.isFinite = true)
  | .null, _, read => by cases read; exact ⟨rfl, id⟩
  | .bool _, _, read => by cases read; exact ⟨rfl, id⟩
  | .int _, _, read => by cases read; exact ⟨rfl, id⟩
  | .real x, v, read => by
    cases finite : x.isFinite with
    | true =>
      obtain rfl : v = .num (.real x) := by
        rw [toJson, finite] at read
        exact (Except.ok.inj read).symm
      exact ⟨plain_ofFloat finite, fun _ => finite⟩
    | false =>
      obtain rfl : v = .null := by
        rw [toJson, finite] at read
        exact (Except.ok.inj read).symm
      exact ⟨rfl, fun _ => rfl⟩
  | .text _, _, read => by cases read; exact ⟨rfl, id⟩
  | .list items, v, read => by
    rw [toJson] at read
    obtain ⟨values, given, same⟩ := ok_of_bind read
    cases same
    obtain ⟨plain, finite⟩ := plain_of_toItems given
    exact ⟨plain_arr plain, fun small => all_arr (finite small)⟩
  | .table rows, v, read => by
    rw [toJson] at read
    obtain ⟨fields, given, same⟩ := ok_of_bind read
    cases same
    obtain ⟨plain, finite⟩ := plain_of_toFields given
    exact ⟨plain_object plain, fun small => all_object (finite small)⟩
  | .tagged _ _, _, read => by cases read

theorem plain_of_toItems : ∀ {data : List Datum} {items : List Json}, toItems data = .ok items →
    (∀ v ∈ items, v.Plain) ∧ (allItems Number.fits data = true →
      ∀ v ∈ items, (ofJson v).all Number.isFinite = true)
  | [], _, read => by cases read; exact ⟨List.forall_mem_nil _, fun _ => List.forall_mem_nil _⟩
  | d :: data, items, read => by
    rw [toItems] at read
    obtain ⟨v, given, read⟩ := ok_of_bind read
    obtain ⟨rest, others, same⟩ := ok_of_bind read
    cases same
    have first := plain_of_toJson given
    have later := plain_of_toItems others
    refine ⟨List.forall_mem_cons.2 ⟨first.1, later.1⟩, fun small => ?_⟩
    rw [allItems, Bool.and_eq_true] at small
    exact List.forall_mem_cons.2 ⟨first.2 small.1, later.2 small.2⟩

theorem plain_of_toFields : ∀ {rows : List (Datum × Datum)} {fields : List (String × Json)},
    toFields rows = .ok fields → (∀ field ∈ fields, field.2.Plain) ∧
      (allRows Number.fits rows = true →
        ∀ field ∈ fields, (ofJson field.2).all Number.isFinite = true)
  | [], _, read => by cases read; exact ⟨List.forall_mem_nil _, fun _ => List.forall_mem_nil _⟩
  | (key, value) :: rows, fields, read => by
    rw [toFields] at read
    split at read
    next name _ =>
      obtain ⟨v, given, read⟩ := ok_of_bind read
      obtain ⟨rest, others, same⟩ := ok_of_bind read
      cases same
      have first := plain_of_toJson given
      have later := plain_of_toFields others
      refine ⟨List.forall_mem_cons.2 ⟨first.1, later.1⟩, fun small => ?_⟩
      rw [allRows, Bool.and_eq_true] at small
      exact List.forall_mem_cons.2 ⟨first.2 small.1, later.2 small.2⟩
    next => cases read

end

end Datum

end Autopilot
