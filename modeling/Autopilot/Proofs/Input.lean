import Autopilot.Input
import Autopilot.Proofs.Record

/-!
Input events and actions are kept. An event is a record tagged by its kind: the field with the kind
is taken out first, wherever it stands, and the other fields are read as the kind wants them.
-/

namespace Autopilot

open Reading (map_done seq_done)

theorem KeyMotion.named_name (motion : KeyMotion) :
    Reads.named variants motion.name = .ok motion := by
  cases motion <;> rfl

theorem KeyMotion.read_keeps : KeyMotion.read.Keeps fun motion => .str motion.name :=
  fun _ motion _ _ => motion.named_name

namespace Input

/-! ## Taking out the kind -/

mutual

/-- Values of JSON have no tags. -/
theorem tagFree_ofJson : ∀ v : Json, tagFree (.ofJson v) = true
  | .null => rfl
  | .bool _ => rfl
  | .num (.int _) => rfl
  | .num (.real _) => rfl
  | .str _ => rfl
  | .arr items => tagFreeItems_ofItems items
  | .obj fields => tagFreeRows_ofFields fields

theorem tagFreeItems_ofItems : ∀ items : List Json, tagFreeItems (Datum.ofItems items) = true
  | [] => rfl
  | v :: items => by
    rw [Datum.ofItems, tagFreeItems, tagFree_ofJson v, tagFreeItems_ofItems items]
    rfl

theorem tagFreeRows_ofFields :
    ∀ fields : List (String × Json), tagFreeRows (Datum.ofFields fields) = true
  | [] => rfl
  | (_, v) :: fields => by
    rw [Datum.ofFields, tagFreeRows, tagFree_ofJson v, tagFreeRows_ofFields fields]
    rfl

end

/-- The fields of an event besides its kind. -/
def besides (fields : List (String × Json)) : List (String × Json) :=
  fields.filter fun field => field.1 ≠ "type"

theorem tells_besides {fields : List (String × Json)} {names : List String} {value : Option Json}
    (tells : Json.Tells fields names value) (apart : "type" ∉ names) :
    Json.Tells (besides fields) names value := by
  unfold Json.Tells besides at *
  rw [List.filter_filter]
  have same : ∀ field ∈ fields,
      (names.contains field.1 && decide (field.1 ≠ "type")) = names.contains field.1 := by
    intro field _
    cases known : names.contains field.1 with
    | false => rfl
    | true =>
      have other : field.1 ≠ "type" := fun same => apart (same ▸ List.contains_iff_mem.1 known)
      rw [decide_eq_true other]
      rfl
  rw [List.filter_congr same]
  exact tells

variable {kind : Kind} {fields : List (String × Json)}

/-- After the kind was found, the other fields pass as they are. -/
theorem splitRows_rest (others : List (Datum × Datum)) (none : ∀ field ∈ fields, field.1 ≠ "type") :
    splitRows (some kind) others (Datum.ofFields fields) =
      .ok (kind, others.reverse ++ Datum.ofFields fields) := by
  induction fields generalizing others with
  | nil =>
    rw [Datum.ofFields, splitRows, List.append_nil]
  | cons field rest ih =>
    obtain ⟨different, later⟩ := List.forall_mem_cons.1 none
    have label : (Datum.text field.1).isText "type" = false := decide_eq_false different
    rw [Datum.ofFields, splitRows, label, tagFree_ofJson]
    refine (ih _ later).trans ?_
    rw [List.reverse_cons, List.append_assoc]
    rfl

theorem splitRows_ofFields {name : String} (others : List (Datum × Datum))
    (tells : Json.Tells fields ["type"] (some (.str name)))
    (known : Reads.named Kind.variants name = .ok kind) :
    splitRows none others (Datum.ofFields fields) =
      .ok (kind, others.reverse ++ Datum.ofFields (besides fields)) := by
  let isType (field : String × Json) : Bool := ["type"].contains field.1
  change (fields.filter isType).map Prod.snd = [.str name] at tells
  induction fields generalizing others with
  | nil => cases tells
  | cons field rest ih =>
    by_cases same : field.1 = "type"
    · have here : ["type"].contains field.1 = true := by simp [same]
      rw [List.filter_cons_of_pos (p := isType) here, List.map_cons] at tells
      obtain ⟨value, alone⟩ := List.cons.inj tells
      have later : ∀ other ∈ rest, other.1 ≠ "type" := by
        intro other member again
        have shown : other ∈ rest.filter isType :=
          List.mem_filter.2 ⟨member, by simp [isType, again]⟩
        rw [List.map_eq_nil_iff.1 alone] at shown
        cases shown
      have label : (Datum.text field.1).isText "type" = true := decide_eq_true same
      have found : Kind.read (.ofJson field.2) = .ok kind := by
        rw [value]
        exact known
      rw [Datum.ofFields, splitRows, label, found]
      have rest_besides : besides (field :: rest) = rest := by
        rw [besides, List.filter_cons_of_neg (by simp [same])]
        exact List.filter_eq_self.2 fun other member => decide_eq_true (later other member)
      rw [rest_besides]
      exact splitRows_rest others later
    · have past : ¬ ["type"].contains field.1 = true := by simp [same]
      rw [List.filter_cons_of_neg (p := isType) past] at tells
      have label : (Datum.text field.1).isText "type" = false := decide_eq_false same
      rw [Datum.ofFields, splitRows, label, tagFree_ofJson]
      refine (ih _ tells).trans ?_
      have kept : besides (field :: rest) = field :: besides rest :=
        List.filter_cons_of_pos (decide_eq_true same)
      rw [List.reverse_cons, List.append_assoc, kept]
      rfl

theorem mem_of_splitRows {found : Option Kind} {others rows taken : List (Datum × Datum)}
    (split : splitRows found others rows = .ok (kind, taken)) :
    ∀ row ∈ taken, row ∈ others ∨ row ∈ rows := by
  induction rows generalizing found others with
  | nil =>
    intro row member
    cases found with
    | none => cases split
    | some found =>
      cases split
      exact .inl (List.mem_reverse.1 member)
  | cons row rows ih =>
    intro other member
    rw [splitRows] at split
    by_cases type : row.1.isText "type" = true
    · rw [if_pos type] at split
      cases found with
      | some found => cases split
      | none =>
        obtain ⟨_, _, split⟩ := ok_of_bind split
        exact (ih split other member).imp_right (List.mem_cons_of_mem row)
    · rw [if_neg type] at split
      split at split
      · rcases ih split other member with before | after
        · rcases List.mem_cons.1 before with rfl | before
          · exact .inr List.mem_cons_self
          · exact .inl before
        · exact .inr (List.mem_cons_of_mem row after)
      · cases split

/-! ## Events -/

/-- The values of the fields of an event. -/
def opened (kind : String) (size : Nat) (fields : Fields) : Record :=
  ⟨.json, s!"struct variant InputEvent::{kind}", size, fields, true⟩

/-- An event is read from an object when the fields besides its kind are. -/
theorem read_objectOf {entries : List (String × Option Json)} {name : String} {input : Input}
    (tells : Json.Tells (Json.fieldsOf entries) ["type"] (some (.str name)))
    (known : Reads.named Kind.variants name = .ok kind)
    (done : readFields .json kind (.named (Datum.ofFields (besides (Json.fieldsOf entries)))) =
      .ok input) : read .json (.ofJson (.objectOf entries)) = .ok input := by
  change (splitRows none [] (Datum.ofFields (Json.fieldsOf entries)) >>= _) = .ok input
  rw [splitRows_ofFields [] tells known]
  exact done

theorem readFields_keeps {given : Fields} {input : Input}
    (every : ∀ value ∈ (opened "" 0 given).values, value.all Number.fits = true)
    (reads : readFields .json kind given = .ok input) :
    read .json (.ofJson input.toJson) = .ok input := by
  have sound (name : String) (size : Nat) : (opened name size given).Sound Number.fits :=
    ⟨rfl, every⟩
  cases kind with
  | key =>
    have parts := Record.parts_done reads
    simp only [Reading.seq_eq_done_iff, Reading.map_eq_done_iff] at parts
    obtain ⟨_, ⟨key, pressed, rfl⟩, motion, moved, rfl⟩ := parts
    let entries : List (String × Option Json) :=
      [("type", some (.str "key")), ("key", some (.str key)), ("action", some (.str motion.name))]
    have tells := @Json.tells_fieldsOf entries (by simp [entries])
    refine @read_objectOf .key entries _ _ (tells rfl) rfl
      (Record.toExcept_shown (seq_done (map_done _ ?_) ?_))
    · exact Reads.text_keeps.required (sound "Key" 2) pressed (tells_besides (tells rfl) (by decide))
    · exact KeyMotion.read_keeps.withDefault (sound "Key" 2) rfl moved
        (tells_besides (tells rfl) (by decide))
  | tap =>
    have parts := Record.parts_done reads
    simp only [Reading.seq_eq_done_iff, Reading.map_eq_done_iff] at parts
    obtain ⟨_, ⟨x, left, rfl⟩, y, top, rfl⟩ := parts
    let entries : List (String × Option Json) :=
      [("type", some (.str "tap")), ("x", some (.ofInt x)), ("y", some (.ofInt y))]
    have tells := @Json.tells_fieldsOf entries (by simp [entries])
    refine @read_objectOf .tap entries _ _ (tells rfl) rfl
      (Record.toExcept_shown (seq_done (map_done _ ?_) ?_))
    · exact (Reads.whole_keeps _ _ _).required (sound "Tap" 2) left
        (tells_besides (tells rfl) (by decide))
    · exact (Reads.whole_keeps _ _ _).required (sound "Tap" 2) top
        (tells_besides (tells rfl) (by decide))
  | swipe =>
    have parts := Record.parts_done reads
    simp only [Reading.seq_eq_done_iff, Reading.map_eq_done_iff] at parts
    obtain ⟨_, ⟨_, ⟨_, ⟨_, ⟨fromX, left, rfl⟩, fromY, top, rfl⟩, toX, right, rfl⟩, toY, bottom, rfl⟩,
      durationMs, long, rfl⟩ := parts
    let entries : List (String × Option Json) :=
      [("type", some (.str "swipe")), ("fromX", some (.ofInt fromX)), ("fromY", some (.ofInt fromY)),
        ("toX", some (.ofInt toX)), ("toY", some (.ofInt toY)),
        ("durationMs", some (.ofNat durationMs))]
    have tells := @Json.tells_fieldsOf entries (by simp [entries])
    refine @read_objectOf .swipe entries _ _ (tells rfl) rfl (Record.toExcept_shown
      (seq_done (seq_done (seq_done (seq_done (map_done _ ?_) ?_) ?_) ?_) ?_))
    · exact (Reads.whole_keeps _ _ _).required (sound "Swipe" 5) left
        (tells_besides (tells rfl) (by decide))
    · exact (Reads.whole_keeps _ _ _).required (sound "Swipe" 5) top
        (tells_besides (tells rfl) (by decide))
    · exact (Reads.whole_keeps _ _ _).required (sound "Swipe" 5) right
        (tells_besides (tells rfl) (by decide))
    · exact (Reads.whole_keeps _ _ _).required (sound "Swipe" 5) bottom
        (tells_besides (tells rfl) (by decide))
    · exact (Reads.natural_keeps _ _).withDefault (sound "Swipe" 5) rfl long
        (tells_besides (tells rfl) (by decide))
  | text =>
    have parts := Record.parts_done reads
    obtain ⟨content, typed, rfl⟩ := Reading.map_eq_done_iff.1 parts
    let entries : List (String × Option Json) :=
      [("type", some (.str "text")), ("text", some (.str content))]
    have tells := @Json.tells_fieldsOf entries (by simp [entries])
    refine @read_objectOf .text entries _ _ (tells rfl) rfl (Record.toExcept_shown (map_done _ ?_))
    exact Reads.text_keeps.required (sound "Text" 1) typed (tells_besides (tells rfl) (by decide))
  | wait =>
    have parts := Record.parts_done reads
    obtain ⟨durationMs, long, rfl⟩ := Reading.map_eq_done_iff.1 parts
    let entries : List (String × Option Json) :=
      [("type", some (.str "wait")), ("durationMs", some (.ofNat durationMs))]
    have tells := @Json.tells_fieldsOf entries (by simp [entries])
    refine @read_objectOf .wait entries _ _ (tells rfl) rfl (Record.toExcept_shown (map_done _ ?_))
    exact (Reads.natural_keeps _ _).required (sound "Wait" 1) long
      (tells_besides (tells rfl) (by decide))

theorem read_keeps : read.Keeps toJson := by
  intro d input fits reads
  unfold read at reads
  split at reads
  next rows =>
    obtain ⟨⟨kind, taken⟩, split, reads⟩ := ok_of_bind reads
    refine readFields_keeps (fun value member => ?_) reads
    obtain ⟨row, within, rfl⟩ := List.mem_map.1 member
    rw [Datum.all, Datum.allRows_eq_all] at fits
    rcases mem_of_splitRows split row within with none | given
    · cases none
    · exact List.all_eq_true.1 fits row given
  next => cases reads
  next first items =>
    obtain ⟨kind, _, reads⟩ := ok_of_bind reads
    rw [Datum.all, Datum.allItems, Bool.and_eq_true, Datum.allItems_eq_all] at fits
    split at reads
    · exact @readFields_keeps kind (.listed items) input (List.all_eq_true.1 fits.2) reads
    · cases reads
  next => cases reads

end Input

theorem Action.read_keeps : Action.read.Keeps Action.toJson := by
  intro d a fits read
  obtain ⟨r, sound, parts⟩ := Record.of_read fits read
  simp only [Reading.seq_eq_done_iff, Reading.map_eq_done_iff] at parts
  obtain ⟨_, ⟨_, ⟨ident, key, rfl⟩, name, title, rfl⟩, inputs, batch, rfl⟩ := parts
  let entries : List (String × Option Json) := [("id", some (.str ident)), ("name", name.map .str),
    ("inputs", some (.arr (inputs.map Input.toJson)))]
  have tells := @Json.tells_fieldsOf entries (by simp [entries])
  refine Record.read_objectOf entries (seq_done (seq_done (map_done _ ?_) ?_) ?_)
  · exact Reads.text_keeps.required sound key (tells rfl)
  · exact Reads.text_keeps.optional sound nofun title (tells rfl)
  · exact (Reads.list_keeps Input.read_keeps).withDefault sound rfl batch (tells rfl)

end Autopilot
