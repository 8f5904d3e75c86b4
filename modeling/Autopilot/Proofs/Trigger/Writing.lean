import Autopilot.Proofs.Condition
import Autopilot.Proofs.Finite
import Autopilot.Trigger

/-!
Triggers are kept. On the wire a trigger is a flat record with the name of its kind and parameters
of no fixed form; they are values when the record is read and a record of their own when the kind
is known. So what is written for the parameters has to come back as a value first, and a
threshold does so only if it is finite. It is, since numbers of the wire are.
-/

namespace Autopilot

open Reading (map_done seq_done)

/-- The real of a number that is finite is finite. -/
theorem Reads.real_isFinite {d : Datum} {x : Float} (finite : d.all Number.isFinite = true)
    (read : real .json d = .ok x) : x.isFinite = true := by
  have finite := Datum.all_untagged finite
  unfold real at read
  split at read
  next n found =>
    cases read
    rw [found] at finite
    have bounds : (decide (-9223372036854775808 ≤ n) && decide (n ≤ 18446744073709551615)) = true :=
      finite
    rw [Bool.and_eq_true, decide_eq_true_iff, decide_eq_true_iff] at bounds
    exact isFinite_ofInt bounds.1 bounds.2
  next y found =>
    cases read
    rw [found] at finite
    exact finite
  next => cases read

namespace Trigger

theorem Status.named_name (status : Status) : Reads.named variants status.name = .ok status := by
  cases status <;> rfl

theorem Family.named_name (family : Family) : Reads.named variants family.name = .ok family := by
  cases family <;> rfl

theorem Verdict.toJson_ne_null (v : Verdict) : v.toJson ≠ .null := nofun

theorem Verdict.read_keeps : Verdict.read.Keeps Verdict.toJson := by
  intro d a fits read
  obtain ⟨r, sound, parts⟩ := Record.of_read fits read
  simp only [Reading.seq_eq_done_iff, Reading.map_eq_done_iff] at parts
  obtain ⟨_, ⟨_, ⟨_, ⟨status, state, rfl⟩, reason, cause, rfl⟩, evaluatedAt, time, rfl⟩,
    confidence, trust, rfl⟩ := parts
  let entries : List (String × Option Json) := [("status", some (.str status.name)),
    ("reason", some (.str reason)), ("evaluatedAt", some (.str evaluatedAt.timestamp)),
    ("confidence", confidence.map .ofFloat)]
  have tells := @Json.tells_fieldsOf entries (by simp [entries])
  refine Record.read_objectOf entries (seq_done (seq_done (seq_done (map_done _ ?_) ?_) ?_) ?_)
  · exact (Reads.variant_keeps fun _ _ => Status.named_name _).required sound state (tells rfl)
  · exact Reads.text_keeps.required sound cause (tells rfl)
  · exact Reads.instant_keeps.required sound time (tells rfl)
  · exact Reads.real_keeps.optional sound nofun trust (tells rfl)

namespace Match

theorem read_keeps : read.Keeps toJson := by
  intro d a fits read
  obtain ⟨r, sound, parts⟩ := Record.of_read fits read
  simp only [Reading.seq_eq_done_iff, Reading.map_eq_done_iff] at parts
  obtain ⟨_, ⟨_, ⟨_, ⟨_, ⟨targetId, aim, rfl⟩, threshold, least, rfl⟩, mode, way, rfl⟩, region,
    part, rfl⟩, language, tongue, rfl⟩ := parts
  let entries : List (String × Option Json) := [("targetId", some (.str targetId)),
    ("confidenceThreshold", threshold.map .ofFloat), ("mode", some (.str mode.name)),
    ("region", region.map Region.toJson), ("language", language.map .str)]
  have tells := @Json.tells_fieldsOf entries (by simp [entries])
  refine Record.read_objectOf entries
    (seq_done (seq_done (seq_done (seq_done (map_done _ ?_) ?_) ?_) ?_) ?_)
  · exact Reads.text_keeps.required sound aim (tells rfl)
  · exact Reads.real_keeps.optional sound nofun least (tells rfl)
  · exact (Reads.variant_keeps fun _ _ => Mode.named_name _).withDefault sound rfl way (tells rfl)
  · exact Region.read_keeps.optional sound Region.toJson_ne_null part (tells rfl)
  · exact Reads.text_keeps.optional sound nofun tongue (tells rfl)

theorem isFinite_threshold {d : Datum} {target : Match} (finite : d.all Number.isFinite = true)
    (reads : read .json d = .ok target) {x : Float} (least : target.confidenceThreshold = some x) :
    x.isFinite = true := by
  obtain ⟨r, sound, parts⟩ := Record.of_read finite reads
  simp only [Reading.seq_eq_done_iff, Reading.map_eq_done_iff] at parts
  obtain ⟨_, ⟨_, ⟨_, ⟨_, ⟨_, _, rfl⟩, threshold, given, rfl⟩, _, _, rfl⟩, _, _, rfl⟩, _, _, rfl⟩ :=
    parts
  cases least
  rcases Record.field_eq_done given with absent | ⟨value, member, reads⟩
  · cases absent
  · rw [sound.origin] at reads
    exact Reads.real_isFinite (sound.every value member) (Reads.Keeps.of_nullable reads)

theorem plain_toJson {target : Match}
    (finite : ∀ x, target.confidenceThreshold = some x → x.isFinite = true) :
    target.toJson.Plain := by
  refine Datum.plain_objectOf ?_
  simp only [List.forall_mem_cons, Option.some.injEq, Option.map_eq_some_iff, forall_eq']
  refine ⟨rfl, ?_, rfl, ?_, ?_, List.forall_mem_nil _⟩
  · rintro _ ⟨x, given, rfl⟩
    exact Datum.plain_ofFloat (finite x given)
  · rintro _ ⟨region, _, rfl⟩
    exact region.plain_toJson
  · rintro _ ⟨language, _, rfl⟩
    rfl

end Match

namespace Kind

theorem readSeconds_keeps : readSeconds.Keeps fun seconds => params (.delay seconds) := by
  intro d seconds fits read
  obtain ⟨r, sound, given⟩ := Record.of_read fits read
  let entries : List (String × Option Json) := [("seconds", some (.ofNat seconds))]
  have tells := @Json.tells_fieldsOf entries (by simp [entries])
  refine Record.read_objectOf entries ?_
  exact (Reads.natural_keeps _ _).withDefault sound rfl given (tells rfl)

theorem readTime_keeps : readTime.Keeps fun time => params (.schedule time) := by
  intro d time fits read
  obtain ⟨r, sound, given⟩ := Record.of_read fits read
  let entries : List (String × Option Json) := [("at", some (.str time.timestamp))]
  have tells := @Json.tells_fieldsOf entries (by simp [entries])
  exact Record.read_objectOf entries (Reads.instant_keeps.required sound given (tells rfl))

theorem params_ne_null (kind : Kind) : kind.params.isNull = false := by
  cases kind <;> rfl

/-- Parameters that were read as some kind are read as that kind again. -/
theorem again_of_keeps {α : Type} {read : Reads α} {make : α → Kind}
    (keeps : read.Keeps fun a => (make a).params) {d : Datum} {kind : Kind}
    (fits : d.all Number.fits = true) (reads : (read .json d).map make = .ok kind) :
    ∃ a, kind = make a ∧ read .json d = .ok a ∧
      (read .json (.ofJson kind.params)).map make = .ok kind := by
  obtain ⟨a, given, rfl⟩ := ok_of_map reads
  have again : read .json (.ofJson (make a).params) = .ok a := keeps d a fits given
  exact ⟨a, rfl, given, congrArg (Except.map make) again⟩

/-- The parameters of a kind that was read come back as a value, and are read as they were. -/
theorem ofParams_keeps {family : Family} {given : Json} {kind : Kind}
    (finite : (Datum.ofJson given).all Number.isFinite = true)
    (reads : ofParams family given = .ok kind) :
    kind.family = family ∧ kind.params.Plain ∧ ofParams family kind.params = .ok kind := by
  have finite :
      (if given.isNull then .table [] else Datum.ofJson given).all Number.isFinite = true := by
    split
    · rfl
    · exact finite
  have fits := Datum.all_mono (fun _ => Number.fits_of_isFinite) _ finite
  unfold ofParams at reads ⊢
  rw [params_ne_null]
  cases family with
  | delay =>
    obtain ⟨seconds, rfl, _, again⟩ := again_of_keeps readSeconds_keeps fits reads
    exact ⟨rfl, Datum.plain_object (List.forall_mem_singleton.2 rfl), again⟩
  | schedule =>
    obtain ⟨time, rfl, _, again⟩ := again_of_keeps readTime_keeps fits reads
    exact ⟨rfl, Datum.plain_object (List.forall_mem_singleton.2 rfl), again⟩
  | imageMatch =>
    obtain ⟨target, rfl, given, again⟩ := again_of_keeps Match.read_keeps fits reads
    exact ⟨rfl, Match.plain_toJson fun _ => Match.isFinite_threshold finite given, again⟩
  | textMatch =>
    obtain ⟨target, rfl, given, again⟩ := again_of_keeps Match.read_keeps fits reads
    exact ⟨rfl, Match.plain_toJson fun _ => Match.isFinite_threshold finite given, again⟩

end Kind

/-! ## The flat record -/

/-- A flat record as it is written. -/
def Wire.toJson (wire : Wire) : Json :=
  .objectOf [("id", some (.str wire.id)), ("name", wire.name.map .str),
    ("type", some (.str wire.family.name)), ("enabled", some (.bool wire.enabled)),
    ("cooldownSeconds", some (.ofNat wire.cooldownSeconds)), ("params", some wire.params),
    ("enabledAt", wire.enabledAt.map fun time => .str time.timestamp),
    ("lastEvaluatedAt", wire.lastEvaluatedAt.map fun time => .str time.timestamp),
    ("lastFiredAt", wire.lastFiredAt.map fun time => .str time.timestamp),
    ("lastResult", wire.lastVerdict.map Verdict.toJson)]

/-- A trigger as a flat record. -/
def wire (t : Trigger) : Wire :=
  ⟨t.id, t.name, t.family, t.enabled, t.cooldownSeconds, t.kind.params, t.enabledAt,
    t.lastEvaluatedAt, t.lastFiredAt, t.lastVerdict⟩

theorem toJson_eq_wire (t : Trigger) : t.toJson = t.wire.toJson := rfl

namespace Wire

variable {d : Datum} {wire : Wire}

theorem isFinite_params (fits : d.all Number.fits = true) (reads : read .json d = .ok wire) :
    (Datum.ofJson wire.params).all Number.isFinite = true := by
  obtain ⟨r, sound, parts⟩ := Record.of_read fits reads
  simp only [Reading.seq_eq_done_iff, Reading.map_eq_done_iff] at parts
  obtain ⟨_, ⟨_, ⟨_, ⟨_, ⟨_, ⟨_, ⟨_, ⟨_, ⟨_, ⟨_, _, rfl⟩, _, _, rfl⟩, _, _, rfl⟩, _, _, rfl⟩, _, _,
    rfl⟩, params, raw, rfl⟩, _, _, rfl⟩, _, _, rfl⟩, _, _, rfl⟩, _, _, rfl⟩ := parts
  rcases Record.field_eq_done raw with absent | ⟨value, member, reads⟩
  · cases absent
    rfl
  · exact (Datum.plain_of_toJson reads).2 (sound.every value member)

/-- A flat record is kept, also with other parameters, if these come back as a value. -/
theorem read_keeps (fits : d.all Number.fits = true) (reads : read .json d = .ok wire)
    {params : Json} (plain : params.Plain) :
    read .json (.ofJson { wire with params }.toJson) = .ok { wire with params } := by
  obtain ⟨r, sound, parts⟩ := Record.of_read fits reads
  simp only [Reading.seq_eq_done_iff, Reading.map_eq_done_iff] at parts
  obtain ⟨_, ⟨_, ⟨_, ⟨_, ⟨_, ⟨_, ⟨_, ⟨_, ⟨_, ⟨id, key, rfl⟩, name, title, rfl⟩, family, type, rfl⟩,
    enabled, active, rfl⟩, cooldownSeconds, rest, rfl⟩, _, _, rfl⟩, enabledAt, since, rfl⟩,
    lastEvaluatedAt, judged, rfl⟩, lastFiredAt, fired, rfl⟩, lastVerdict, verdict, rfl⟩ := parts
  let entries : List (String × Option Json) := [("id", some (.str id)), ("name", name.map .str),
    ("type", some (.str family.name)), ("enabled", some (.bool enabled)),
    ("cooldownSeconds", some (.ofNat cooldownSeconds)), ("params", some params),
    ("enabledAt", enabledAt.map fun time => .str time.timestamp),
    ("lastEvaluatedAt", lastEvaluatedAt.map fun time => .str time.timestamp),
    ("lastFiredAt", lastFiredAt.map fun time => .str time.timestamp),
    ("lastResult", lastVerdict.map Verdict.toJson)]
  have tells := @Json.tells_fieldsOf entries (by simp [entries])
  refine Record.read_objectOf entries (seq_done (seq_done (seq_done (seq_done (seq_done (seq_done
    (seq_done (seq_done (seq_done (map_done _ ?_) ?_) ?_) ?_) ?_) ?_) ?_) ?_) ?_) ?_)
  · exact Reads.text_keeps.required sound key (tells rfl)
  · exact Reads.text_keeps.optional sound nofun title (tells rfl)
  · exact (Reads.variant_keeps fun _ _ => Family.named_name _).required sound type (tells rfl)
  · exact Reads.bool_keeps.withDefault sound rfl active (tells rfl)
  · exact (Reads.natural_keeps _ _).withDefault sound rfl rest (tells rfl)
  · exact Reads.Keeps.field_shown plain (tells rfl)
  · exact Reads.instant_keeps.optional sound nofun since (tells rfl)
  · exact Reads.instant_keeps.optional sound nofun judged (tells rfl)
  · exact Reads.instant_keeps.optional sound nofun fired (tells rfl)
  · exact Verdict.read_keeps.optional sound Verdict.toJson_ne_null verdict (tells rfl)

end Wire

/-- A flat record is a trigger if its id is not blank and its parameters are read. -/
theorem ofWire_eq_ok_iff {wire : Wire} {t : Trigger} :
    ofWire wire = .ok t ↔ Text.allBlank wire.id = false ∧
      Kind.ofParams wire.family wire.params = .ok t.kind ∧
      t = ⟨wire.id, wire.name, t.kind, wire.enabled, wire.cooldownSeconds, wire.enabledAt,
        wire.lastEvaluatedAt, wire.lastFiredAt, wire.lastVerdict⟩ := by
  unfold ofWire
  cases blank : Text.allBlank wire.id with
  | true =>
    constructor
    · intro made
      cases made
    · rintro ⟨solid, _⟩
      cases solid
  | false =>
    constructor
    · intro made
      obtain ⟨kind, given, same⟩ := ok_of_bind made
      cases same
      exact ⟨rfl, ok_of_mapError given, rfl⟩
    · rintro ⟨_, given, same⟩
      rw [given, same]
      rfl

theorem read_keeps : read.Keeps toJson := by
  intro d t fits reads
  obtain ⟨wire, reads, made⟩ := ok_of_bind reads
  obtain ⟨solid, given, same⟩ := ofWire_eq_ok_iff.1 (ok_of_mapError made)
  obtain ⟨family, plain, again⟩ := Kind.ofParams_keeps (Wire.isFinite_params fits reads) given
  have kept : t.wire = { wire with params := t.kind.params } := by
    rw [same]
    exact congrArg (fun family => { wire with family, params := t.kind.params }) family
  have reread : Wire.read .json (.ofJson t.toJson) = .ok { wire with params := t.kind.params } := by
    rw [toJson_eq_wire, kept]
    exact Wire.read_keeps fits reads plain
  have remade : ofWire { wire with params := t.kind.params } = .ok t :=
    ofWire_eq_ok_iff.2 ⟨solid, again, same⟩
  unfold read
  rw [reread]
  exact congrArg (Except.mapError _) remade

end Trigger

end Autopilot
