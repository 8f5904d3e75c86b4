import Autopilot.Proofs.Datum
import Autopilot.Proofs.Instant.Timestamp
import Autopilot.Record.Lemmas

/-!
Records written and read back. A record is written as an object of its fields, under one name
each; read again, it has for every field what was written for it, and nothing for a field that
was left out. So a way to read and a way to write go together field by field.
-/

namespace Autopilot

/-! ## Parts that are read -/

namespace Reading

variable {α β : Type}

theorem map_done {p : Reading α} {a : α} (f : α → β) (done : p = .done a) :
    f <$> p = .done (f a) :=
  map_eq_done_iff.2 ⟨a, done, rfl⟩

theorem seq_done {f : Reading (α → β)} {g : α → β} {p : Reading α} {a : α} (first : f = .done g)
    (done : p = .done a) : f <*> p = .done (g a) :=
  seq_eq_done_iff.2 ⟨g, first, a, done, rfl⟩

end Reading

/-! ## Fields that are found -/

/-- What fields tell under some names: nothing, or one value. -/
def Json.Tells (fields : List (String × Json)) (names : List String) (value : Option Json) : Prop :=
  (fields.filter fun field => names.contains field.1).map Prod.snd = value.toList

/-- The fields of an object in which some values are left out. -/
def Json.fieldsOf (entries : List (String × Option Json)) : List (String × Json) :=
  Json.sortFields (entries.filterMap fun (name, value) => value.map (name, ·))

section Entries

variable {entries : List (String × Option Json)}

theorem Json.names_filterMap (entries : List (String × Option Json)) :
    ((entries.filterMap fun (name, value) => value.map (name, ·)).map Prod.fst).Sublist
      (entries.map Prod.fst) := by
  induction entries with
  | nil => exact .slnil
  | cons entry rest ih =>
    obtain ⟨name, value⟩ := entry
    cases value with
    | none => exact ih.cons name
    | some v => exact ih.cons_cons name

theorem Json.values_filterMap (names : List String) (entries : List (String × Option Json)) :
    ((entries.filterMap fun (name, value) => value.map (name, ·)).filter
        fun field => names.contains field.1).map Prod.snd =
      ((entries.filter fun entry => names.contains entry.1).map Prod.snd).filterMap id := by
  induction entries with
  | nil => rfl
  | cons entry rest ih =>
    obtain ⟨name, value⟩ := entry
    cases value with
    | none => cases known : names.contains name <;> simp_all
    | some v => cases known : names.contains name <;> simp_all

/-- An object tells under some names what was given for one of them. -/
theorem Json.tells_fieldsOf (distinct : (entries.map Prod.fst).Nodup) {names : List String}
    {value : Option Json}
    (one : (entries.filter fun entry => names.contains entry.1).map Prod.snd = [value]) :
    Json.Tells (Json.fieldsOf entries) names value := by
  have different := distinct.sublist (Json.names_filterMap entries)
  have sorted :=
    ((sortFields_perm different).filter fun field => names.contains field.1).map Prod.snd
  rw [Json.values_filterMap, one] at sorted
  cases value with
  | none => exact List.Perm.eq_nil sorted
  | some v => exact List.Perm.eq_singleton sorted

end Entries

namespace Record

/-- A record opened from an object. -/
def shown (kind : String) (size : Nat) (fields : List (String × Json)) (ofTagged : Bool) : Record :=
  ⟨.json, kind, size, .named (Datum.ofFields fields), ofTagged⟩

/-- Among the fields of an object, those of some names are found. -/
theorem filter_shown (kind : String) (size : Nat) (fields : List (String × Json)) (ofTagged : Bool)
    (position : Nat) (names : List String) :
    ((Datum.ofFields fields).zipIdx.filter fun row =>
        (shown kind size fields ofTagged).isKey position names row.1.1).map (fun row => row.1.2) =
      ((fields.filter fun field => names.contains field.1).map Prod.snd).map Datum.ofJson := by
  have rows := congrArg (List.filter fun row : Datum × Datum =>
    (shown kind size fields ofTagged).isKey position names row.1)
    (List.zipIdx_map_fst 0 (Datum.ofFields fields))
  rw [List.filter_map] at rows
  have values := congrArg (List.map Prod.snd) rows
  rw [List.map_map] at values
  refine values.trans ?_
  rw [Datum.ofFields_eq_map, List.filter_map, List.map_map, List.map_map]
  rfl

theorem find_shown_none {fields : List (String × Json)} {names : List String}
    (tells : Json.Tells fields names none) (kind : String) (size : Nat) (ofTagged : Bool)
    (position : Nat) : (shown kind size fields ofTagged).find position names = .absent := by
  have rows := filter_shown kind size fields ofTagged position names
  rw [tells] at rows
  have nothing := List.map_eq_nil_iff.1 rows
  unfold find
  simp only [shown] at nothing ⊢
  rw [nothing]

theorem find_shown_some {fields : List (String × Json)} {names : List String} {v : Json}
    (tells : Json.Tells fields names (some v)) (kind : String) (size : Nat) (ofTagged : Bool)
    (position : Nat) :
    ∃ place, (shown kind size fields ofTagged).find position names = .single place (.ofJson v) := by
  have rows := filter_shown kind size fields ofTagged position names
  rw [tells] at rows
  obtain ⟨⟨⟨key, value⟩, place⟩, one, same⟩ := List.map_eq_singleton_iff.1 rows
  refine ⟨place, ?_⟩
  unfold find
  simp only [shown] at one ⊢
  rw [one]
  exact congrArg _ same

theorem only_shown (kind : String) (size : Nat) (fields : List (String × Json)) (ofTagged : Bool) :
    (shown kind size fields ofTagged).only = .done () := by
  have texts (r : Record) (place : Nat) : r.strangeKey (Datum.ofFields fields) place = .done () := by
    induction fields generalizing place with
    | nil => rfl
    | cons field rest ih => exact ih (place + 1)
  exact texts _ 0

/-- A record of JSON, of whose numbers something holds. -/
structure Sound (holds : Number → Bool) (r : Record) : Prop where
  origin : r.origin = .json
  every : ∀ value ∈ r.values, value.all holds = true

theorem sound_of_read {holds : Number → Bool} {kind : String} {size : Nat} {d : Datum} {r : Record}
    (every : d.all holds = true) (opened : Record.read kind size .json d = .ok r) :
    r.Sound holds := by
  have every := Datum.all_untagged every
  unfold Record.read at opened
  split at opened
  next rows found =>
    cases opened
    rw [found] at every
    refine ⟨rfl, fun value member => ?_⟩
    obtain ⟨row, within, rfl⟩ := List.mem_map.1 member
    rw [Datum.all, Datum.allRows_eq_all] at every
    exact List.all_eq_true.1 every row within
  next items _ found =>
    cases opened
    rw [found, Datum.all, Datum.allItems_eq_all] at every
    exact ⟨rfl, List.all_eq_true.1 every⟩
  next => contradiction
  next => cases opened

theorem parts_done {α : Type} {r : Record} {parts : Reading α} {a : α}
    (read : (parts <* r.only).toExcept = .ok a) : parts = .done a :=
  (Reading.seqLeft_eq_done_iff.1 (Reading.toExcept_eq_ok_iff.1 read)).1

/-- What the parts of a record told when it was read. -/
theorem of_read {α : Type} {holds : Number → Bool} {kind : String} {size : Nat}
    {parts : Record → Reading α} {d : Datum} {a : α} (every : d.all holds = true)
    (read : (Record.read kind size .json d >>= fun r => (parts r <* r.only).toExcept) = .ok a) :
    ∃ r : Record, r.Sound holds ∧ parts r = .done a := by
  obtain ⟨r, opened, done⟩ := ok_of_bind read
  exact ⟨r, sound_of_read every opened, parts_done done⟩

theorem toExcept_shown {α : Type} {kind : String} {size : Nat} {fields : List (String × Json)}
    {ofTagged : Bool} {parts : Reading α} {a : α} (done : parts = .done a) :
    (parts <* (shown kind size fields ofTagged).only).toExcept = .ok a :=
  Reading.toExcept_eq_ok_iff.2
    (Reading.seqLeft_eq_done_iff.2 ⟨done, (), only_shown kind size fields ofTagged⟩)

/-- A record is read from an object when its parts are. -/
theorem read_objectOf {α : Type} {kind : String} {size : Nat} {parts : Record → Reading α} {a : α}
    (entries : List (String × Option Json))
    (done : parts (shown kind size (Json.fieldsOf entries) false) = .done a) :
    (Record.read kind size .json (.ofJson (.objectOf entries)) >>= fun r =>
      (parts r <* r.only).toExcept) = .ok a :=
  toExcept_shown done

end Record

/-! ## What is read is kept -/

open Reading (map_done seq_done)

/-- What one reads, one may write: it is read again as it was. -/
def Reads.Keeps {α : Type} (read : Reads α) (write : α → Json) : Prop :=
  ∀ d a, d.all Number.fits = true → read .json d = .ok a → read .json (.ofJson (write a)) = .ok a

namespace Reads.Keeps

variable {α : Type} {read : Reads α} {write : α → Json} {r : Record} {kind : String} {size : Nat}
  {fields : List (String × Json)} {ofTagged : Bool} {position : Nat} {names : List String}

theorem of_nullable {d : Datum} {a : α} (reads : nullable read .json d = .ok (some a)) :
    read .json d = .ok a := by
  unfold nullable at reads
  split at reads
  · cases reads
  · obtain ⟨b, given, same⟩ := ok_of_map reads
    cases same
    exact given

theorem nullable_of_ok {v : Json} {a : α} (solid : v ≠ .null)
    (reads : read .json (.ofJson v) = .ok a) : nullable read .json (.ofJson v) = .ok (some a) := by
  unfold nullable
  split
  next empty =>
    cases v with
    | null => exact absurd rfl solid
    | num n => cases n <;> cases empty
    | _ => cases empty
  next =>
    rw [reads]
    rfl

/-- A field that is shown is read as its value is. -/
theorem field_shown {a : α} {v : Json} {absent : Except Fault α}
    (reads : read .json (.ofJson v) = .ok a) (tells : Json.Tells fields names (some v)) :
    (Record.shown kind size fields ofTagged).field position names absent read = .done a := by
  obtain ⟨place, found⟩ := Record.find_shown_some tells kind size ofTagged position
  have opened : read (Record.shown kind size fields ofTagged).origin (.ofJson v) = .ok a := reads
  simp only [Record.field, found, Record.present, opened]

theorem required (keeps : read.Keeps write) (sound : r.Sound Number.fits) {a : α}
    (done : r.required position names read = .done a)
    (tells : Json.Tells fields names (some (write a))) :
    (Record.shown kind size fields ofTagged).required position names read = .done a := by
  rcases Record.field_eq_done done with absent | ⟨value, member, reads⟩
  · cases absent
  · rw [sound.origin] at reads
    exact field_shown (keeps value a (sound.every value member) reads) tells

theorem withDefault (keeps : read.Keeps write) (sound : r.Sound Number.fits) {a usual : α}
    (default : read .json (.ofJson (write usual)) = .ok usual)
    (done : r.withDefault position names usual read = .done a)
    (tells : Json.Tells fields names (some (write a))) :
    (Record.shown kind size fields ofTagged).withDefault position names usual read = .done a := by
  rcases Record.field_eq_done done with absent | ⟨value, member, reads⟩
  · cases absent
    exact field_shown default tells
  · rw [sound.origin] at reads
    exact field_shown (keeps value a (sound.every value member) reads) tells

theorem optional (keeps : read.Keeps write) (sound : r.Sound Number.fits) {o : Option α}
    (solid : ∀ a, write a ≠ .null) (done : r.optional position names read = .done o)
    (tells : Json.Tells fields names (o.map write)) :
    (Record.shown kind size fields ofTagged).optional position names read = .done o := by
  cases o with
  | none =>
    unfold Record.optional Record.field
    rw [Record.find_shown_none tells kind size ofTagged position]
  | some a =>
    rcases Record.field_eq_done done with absent | ⟨value, member, reads⟩
    · cases absent
    · rw [sound.origin] at reads
      have again := keeps value a (sound.every value member) (of_nullable reads)
      exact field_shown (nullable_of_ok (solid a) again) tells

end Reads.Keeps

namespace Reads

theorem text_keeps : text.Keeps .str := fun _ _ _ _ => rfl

theorem bool_keeps : bool.Keeps .bool := fun _ _ _ _ => rfl

theorem real_keeps : real.Keeps .ofFloat := fun _ _ _ _ => rfl

theorem whole_eq_ok_iff {low high : Int} {name : String} {origin : Origin} {d : Datum} {n : Int} :
    whole low high name origin d = .ok n ↔ d.untagged = .int n ∧ low ≤ n ∧ n ≤ high := by
  unfold whole
  split
  next m same =>
    split
    next within =>
      constructor
      · intro read
        cases read
        exact ⟨same, within⟩
      · rintro ⟨other, _⟩
        cases same.symm.trans other
        rfl
    next outside =>
      constructor
      · intro read
        cases read
      · rintro ⟨other, within⟩
        cases same.symm.trans other
        exact absurd within outside
  next other =>
    constructor
    · intro read
      cases read
    · rintro ⟨same, _⟩
      exact absurd same (other n)

theorem whole_keeps (low high : Int) (name : String) : (whole low high name).Keeps .ofInt :=
  fun _ _ _ read => whole_eq_ok_iff.2 ⟨rfl, (whole_eq_ok_iff.1 read).2⟩

theorem natural_keeps (high : Int) (name : String) : (natural high name).Keeps .ofNat := by
  intro d n _ read
  obtain ⟨m, given, rfl⟩ := ok_of_map read
  obtain ⟨_, within⟩ := whole_eq_ok_iff.1 given
  have same : (m.toNat : Int) = m := Int.toNat_of_nonneg within.1
  have again : whole 0 high name .json (.ofJson (.ofNat m.toNat)) = .ok m := by
    rw [Json.ofNat, same]
    exact whole_eq_ok_iff.2 ⟨rfl, within⟩
  unfold natural
  rw [again]
  rfl

theorem instant_keeps : instant.Keeps fun time => .str time.timestamp := by
  intro d time _ read
  unfold instant at read
  split at read
  next =>
    have again := Instant.ofTimestamp_timestamp_of_read (ok_of_mapError read)
    simp only [instant, Datum.ofJson, Datum.untagged, again]
    rfl
  next => cases read

theorem named_of_variant {α : Type} {variants : Variants α} {d : Datum} {a : α}
    (read : variant variants .json d = .ok a) : ∃ name, named variants name = .ok a := by
  unfold variant at read
  split at read
  next name => exact ⟨name, read⟩
  next name content _ =>
    obtain ⟨value, found, read⟩ := ok_of_bind read
    obtain ⟨_, _, same⟩ := ok_of_bind read
    cases same
    exact ⟨name, found⟩
  next => cases read
  next => cases read
  next yaml _ _ => contradiction
  next => contradiction

theorem mem_of_named {α : Type} {variants : Variants α} {name : String} {a : α}
    (found : named variants name = .ok a) : a ∈ variants.map Prod.fst := by
  unfold named at found
  split at found
  next value names known =>
    cases found
    exact List.mem_map.2 ⟨_, List.mem_of_find?_eq_some known, rfl⟩
  next => cases found

/-- A value without data is written as one of its names. -/
theorem variant_keeps {α : Type} {variants : Variants α} {name : α → String}
    (known : ∀ a ∈ variants.map Prod.fst, named variants (name a) = .ok a) :
    (variant variants).Keeps fun a => .str (name a) := by
  intro d a _ read
  obtain ⟨other, found⟩ := named_of_variant read
  exact known a (mem_of_named found)

theorem list_keeps {α : Type} {read : Reads α} {write : α → Json} (keeps : read.Keeps write) :
    (list read).Keeps fun items => .arr (items.map write) := by
  have each (data : List Datum) (items : List α) (fits : ∀ d ∈ data, d.all Number.fits = true)
      (reads : data.mapM (read .json) = .ok items) :
      (Datum.ofItems (items.map write)).mapM (read .json) = .ok items := by
    induction data generalizing items with
    | nil =>
      cases reads
      rfl
    | cons d data ih =>
      rw [List.mapM_cons] at reads
      obtain ⟨a, given, reads⟩ := ok_of_bind reads
      obtain ⟨rest, others, same⟩ := ok_of_bind reads
      cases same
      have first := keeps d a (fits d List.mem_cons_self) given
      have later := ih rest (fun d member => fits d (List.mem_cons_of_mem _ member)) others
      rw [List.map_cons, Datum.ofItems, List.mapM_cons, first]
      change (_ >>= fun rest => _) = _
      rw [later]
      rfl
  intro d items fits reads
  have fits := Datum.all_untagged fits
  unfold list at reads
  split at reads
  next data found =>
    rw [found, Datum.all, Datum.allItems_eq_all] at fits
    exact each data items (List.all_eq_true.1 fits) reads
  next => contradiction
  next => cases reads

end Reads

theorem Reads.json_keeps : json.Keeps id :=
  fun _ _ _ read => (Datum.plain_of_toJson read).1

theorem Reads.values_keeps : (list json).Keeps .arr := by
  intro d items fits reads
  have again := list_keeps json_keeps d items fits reads
  simpa only [List.map_id] using again

end Autopilot
