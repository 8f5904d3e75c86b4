import Autopilot.Config
import Autopilot.Proofs.Input
import Autopilot.Proofs.Sequence.Writing
import Autopilot.Proofs.Trigger.Writing

/-!
Configurations are kept: a configuration that was read, and written, is read again as it was. Each
kind of record is kept for itself, so only the fields of the configuration are left to match.
-/

namespace Autopilot

open Reading (map_done seq_done)

/-! ## Commands -/

namespace CommandStep

/-- The name of what a step refers to. -/
def typeName (type : String → Target) : String :=
  match type "" with
  | .action _ => "Action"
  | .command _ => "Command"

theorem mem_typeVariants {type : String → Target} (member : type ∈ typeVariants.map Prod.fst) :
    type = .action ∨ type = .command := by
  simpa [typeVariants] using member

theorem named_typeName (type : String → Target) (member : type ∈ typeVariants.map Prod.fst) :
    Reads.named typeVariants (typeName type) = .ok type := by
  rcases mem_typeVariants member with rfl | rfl <;> rfl

theorem read_keeps : read.Keeps toJson := by
  intro d a fits read
  obtain ⟨r, sound, parts⟩ := Record.of_read fits read
  simp only [Reading.seq_eq_done_iff, Reading.map_eq_done_iff] at parts
  obtain ⟨_, ⟨_, ⟨type, kind, rfl⟩, targetId, aim, rfl⟩, order, rank, rfl⟩ := parts
  let entries : List (String × Option Json) := [("type", some (.str (typeName type))),
    ("targetId", some (.str targetId)), ("order", some (.ofInt order))]
  have tells := @Json.tells_fieldsOf entries (by simp [entries])
  have member : type ∈ typeVariants.map Prod.fst := by
    rcases Record.field_eq_done kind with absent | ⟨value, _, reads⟩
    · cases absent
    · rw [sound.origin] at reads
      obtain ⟨name, found⟩ := Reads.named_of_variant reads
      exact Reads.mem_of_named found
  have written : toJson ⟨type targetId, order⟩ = .objectOf entries := by
    rcases mem_typeVariants member with rfl | rfl <;> rfl
  rw [written]
  refine Record.read_objectOf entries (seq_done (seq_done (map_done _ ?_) ?_) ?_)
  · exact (Reads.variant_keeps named_typeName).required sound kind (tells rfl)
  · exact Reads.text_keeps.required sound aim (tells rfl)
  · exact (Reads.whole_keeps _ _ _).withDefault sound rfl rank (tells rfl)

end CommandStep

theorem Command.read_keeps : Command.read.Keeps Command.toJson := by
  intro d a fits read
  obtain ⟨r, sound, parts⟩ := Record.of_read fits read
  simp only [Reading.seq_eq_done_iff, Reading.map_eq_done_iff] at parts
  obtain ⟨_, ⟨_, ⟨_, ⟨ident, key, rfl⟩, name, title, rfl⟩, triggerId, cue, rfl⟩, steps, ordered,
    rfl⟩ := parts
  let entries : List (String × Option Json) :=
    [("id", some (.str ident)), ("name", some (.str name)), ("triggerId", triggerId.map .str),
      ("steps", some (.arr (steps.map CommandStep.toJson)))]
  have tells := @Json.tells_fieldsOf entries (by simp [entries])
  refine Record.read_objectOf entries (seq_done (seq_done (seq_done (map_done _ ?_) ?_) ?_) ?_)
  · exact Reads.text_keeps.required sound key (tells rfl)
  · exact Reads.text_keeps.withDefault sound rfl title (tells rfl)
  · exact Reads.text_keeps.optional sound nofun cue (tells rfl)
  · exact (Reads.list_keeps CommandStep.read_keeps).withDefault sound rfl ordered (tells rfl)

/-! ## Configurations -/

theorem PollerSettings.read_keeps : PollerSettings.read.Keeps PollerSettings.toJson := by
  intro d a fits read
  obtain ⟨r, sound, parts⟩ := Record.of_read fits read
  simp only [Reading.seq_eq_done_iff, Reading.map_eq_done_iff] at parts
  obtain ⟨_, ⟨_, ⟨_, ⟨_, ⟨enabled, active, rfl⟩, intervalMs, pace, rfl⟩, maxIdleIntervalMs, ceiling,
    rfl⟩, idleBackoffFactor, stretch, rfl⟩, skipWhenNoSessions, skip, rfl⟩ := parts
  let entries : List (String × Option Json) := [("enabled", some (.bool enabled)),
    ("interval_ms", some (.ofNat intervalMs)),
    ("max_idle_interval_ms", some (.ofNat maxIdleIntervalMs)),
    ("idle_backoff_factor", some (.ofNat idleBackoffFactor)),
    ("skip_when_no_sessions", some (.bool skipWhenNoSessions))]
  have tells := @Json.tells_fieldsOf entries (by simp [entries])
  refine Record.read_objectOf entries
    (seq_done (seq_done (seq_done (seq_done (map_done _ ?_) ?_) ?_) ?_) ?_)
  · exact Reads.bool_keeps.withDefault sound rfl active (tells rfl)
  · exact (Reads.natural_keeps _ _).withDefault sound rfl pace (tells rfl)
  · exact (Reads.natural_keeps _ _).withDefault sound rfl ceiling (tells rfl)
  · exact (Reads.natural_keeps _ _).withDefault sound rfl stretch (tells rfl)
  · exact Reads.bool_keeps.withDefault sound rfl skip (tells rfl)

namespace Config

theorem read_keeps : read.Keeps toJson := by
  intro d a fits read
  obtain ⟨r, sound, parts⟩ := Record.of_read fits read
  simp only [Reading.seq_eq_done_iff, Reading.map_eq_done_iff] at parts
  obtain ⟨_, ⟨_, ⟨_, ⟨_, ⟨_, ⟨_, ⟨logLevel, level, rfl⟩, poller, polls, rfl⟩, sessions, games, rfl⟩,
    triggers, cues, rfl⟩, actions, batches, rfl⟩, commands, graph, rfl⟩, sequences, runs, rfl⟩ :=
    parts
  let entries : List (String × Option Json) := [("log_level", some (.str logLevel)),
    ("poller", some poller.toJson), ("sessions", some (.arr (sessions.map .str))),
    ("triggers", some (.arr (triggers.map Trigger.toJson))),
    ("actions", some (.arr (actions.map Action.toJson))),
    ("commands", some (.arr (commands.map Command.toJson))),
    ("sequences", some (.arr (sequences.map Sequence.toJson)))]
  have tells := @Json.tells_fieldsOf entries (by simp [entries])
  have usual : PollerSettings.read .json (.ofJson (PollerSettings.toJson {})) = .ok {} :=
    PollerSettings.read_keeps (.table []) {} rfl rfl
  refine Record.read_objectOf entries (seq_done (seq_done (seq_done (seq_done (seq_done (seq_done
    (map_done _ ?_) ?_) ?_) ?_) ?_) ?_) ?_)
  · exact Reads.text_keeps.withDefault sound rfl level (tells rfl)
  · exact PollerSettings.read_keeps.withDefault sound usual polls (tells rfl)
  · exact (Reads.list_keeps Reads.text_keeps).withDefault sound rfl games (tells rfl)
  · exact (Reads.list_keeps Trigger.read_keeps).withDefault sound rfl cues (tells rfl)
  · exact (Reads.list_keeps Action.read_keeps).withDefault sound rfl batches (tells rfl)
  · exact (Reads.list_keeps Command.read_keeps).withDefault sound rfl graph (tells rfl)
  · exact (Reads.list_keeps Sequence.read_keeps).withDefault sound rfl runs (tells rfl)

/-- A value read as a configuration, and written. -/
def rewrite (v : Json) : Except Fault Json := (read .json (.ofJson v)).map toJson

/-- A configuration that was read from a value is read as it was from what is written for it; so
rewriting a value twice is rewriting it once. The values of texts fit, by `Json.fits_of_parse?`. -/
theorem read_toJson {v : Json} {c : Config} (fits : v.Fits)
    (reads : read .json (.ofJson v) = .ok c) :
    read .json (.ofJson c.toJson) = .ok c ∧
      rewrite v = .ok c.toJson ∧ rewrite c.toJson = .ok c.toJson := by
  have again : read .json (.ofJson c.toJson) = .ok c := read_keeps (.ofJson v) c fits reads
  unfold rewrite
  rw [again, reads]
  exact ⟨rfl, rfl, rfl⟩

/-- A configuration with all kinds of triggers and events, much of it left out or written as
lists. -/
def nightShift : Json := .obj [
  ("triggers", .arr [
    .arr [.str "hourly", .null, .str "delay"],
    .obj [("id", .str "dusk"), ("type", .str "Schedule"), ("params",
      .obj [("time", .str "2024-05-01T22:30:00.25+02:00")])],
    .obj [("id", .str "door"), ("type", .str "image_match"), ("params",
      .obj [("imageId", .str "door-open"), ("threshold", .num (.int 1)),
        ("region", .arr [.num (.int 0), .num (.int 0), .num (.int 64), .num (.int 48)])]),
      ("lastResult", .obj [("status", .str "Pending"), ("reason", .str "not seen"),
        ("evaluatedAt", .str "2024-05-01t20:00:00z"), ("confidence", .num (.real 0.25))])],
    .obj [("id", .str "ready"), ("cooldownSeconds", .num (.int 7)), ("type", .str "textMatch"),
      ("params", .obj [("mode", .str "absent"), ("text", .str "loading")])]]),
  ("actions", .arr [.obj [("id", .str "open"), ("inputs", .arr [
    .obj [("type", .str "key"), ("key", .str "F1")],
    .arr [.str "tap", .num (.int 3), .num (.int 4)],
    .obj [("fromX", .num (.int 0)), ("fromY", .num (.int 0)), ("toX", .num (.int 9)),
      ("toY", .num (.int 9)), ("type", .str "swipe")],
    .obj [("text", .str "hello"), ("type", .str "text")],
    .obj [("type", .str "wait"), ("durationMs", .num (.int 50))]])]]),
  ("commands", .arr [.obj [("id", .str "enter"), ("steps", .arr [
    .obj [("type", .str "action"), ("targetId", .str "open")]])]]),
  ("sequences", .arr [.obj [("id", .str "round"), ("blocks", .arr [
    .obj [("type", .str "loop"), ("count", .num (.int 2)), ("body", .arr [.null])]])]])]

theorem read_toJson_nightShift : ∃ c, read .json (.ofJson nightShift) = .ok c ∧
    c.triggers.map Trigger.family = [.delay, .schedule, .imageMatch, .textMatch] ∧
    read .json (.ofJson c.toJson) = .ok c ∧
    rewrite nightShift = .ok c.toJson ∧ rewrite c.toJson = .ok c.toJson := by
  have shown : ((read .json (.ofJson nightShift)).toOption.map fun c =>
      c.triggers.map Trigger.family) = some [.delay, .schedule, .imageMatch, .textMatch] := by
    decide +kernel
  cases reads : read .json (.ofJson nightShift) with
  | error fault =>
    rw [reads] at shown
    cases shown
  | ok c =>
    rw [reads] at shown
    exact ⟨c, rfl, Option.some.inj shown, read_toJson (by decide +kernel) reads⟩

end Config

end Autopilot
