import Autopilot.Proofs.Condition
import Autopilot.Sequence

/-!
Sequences are kept, their steps with delays and gates, and their blocks as they are: what a block
holds is not looked at, but it is put in order when it is read.
-/

namespace Autopilot

open Reading (map_done seq_done)

theorem DelayRange.toJson_ne_null (range : DelayRange) : range.toJson ≠ .null := nofun

theorem DelayRange.read_keeps : DelayRange.read.Keeps DelayRange.toJson := by
  intro d a fits read
  obtain ⟨r, sound, parts⟩ := Record.of_read fits read
  simp only [Reading.seq_eq_done_iff, Reading.map_eq_done_iff] at parts
  obtain ⟨_, ⟨low, least, rfl⟩, high, most, rfl⟩ := parts
  let entries : List (String × Option Json) :=
    [("minMs", some (.ofNat low)), ("maxMs", some (.ofNat high))]
  have tells := @Json.tells_fieldsOf entries (by simp [entries])
  refine Record.read_objectOf entries (seq_done (map_done _ ?_) ?_)
  · exact (Reads.natural_keeps _ _).required sound least (tells rfl)
  · exact (Reads.natural_keeps _ _).required sound most (tells rfl)

theorem Step.read_keeps : Step.read.Keeps Step.toJson := by
  intro d a fits read
  obtain ⟨r, sound, parts⟩ := Record.of_read fits read
  simp only [Reading.seq_eq_done_iff, Reading.map_eq_done_iff] at parts
  obtain ⟨_, ⟨_, ⟨_, ⟨_, ⟨_, ⟨commandId, command, rfl⟩, order, rank, rfl⟩, delayMs, fixed, rfl⟩,
    delayRange, random, rfl⟩, gate, guarded, rfl⟩, timeoutMs, patience, rfl⟩ := parts
  let entries : List (String × Option Json) := [("commandId", some (.str commandId)),
    ("order", some (.ofInt order)), ("delayMs", delayMs.map .ofNat),
    ("delayRange", delayRange.map DelayRange.toJson), ("gate", gate.map Condition.toJson),
    ("timeoutMs", timeoutMs.map .ofNat)]
  have tells := @Json.tells_fieldsOf entries (by simp [entries])
  refine Record.read_objectOf entries
    (seq_done (seq_done (seq_done (seq_done (seq_done (map_done _ ?_) ?_) ?_) ?_) ?_) ?_)
  · exact Reads.text_keeps.required sound command (tells rfl)
  · exact (Reads.whole_keeps _ _ _).withDefault sound rfl rank (tells rfl)
  · exact (Reads.natural_keeps _ _).optional sound nofun fixed (tells rfl)
  · exact DelayRange.read_keeps.optional sound DelayRange.toJson_ne_null random (tells rfl)
  · exact Condition.read_keeps.optional sound Condition.toJson_ne_null guarded (tells rfl)
  · exact (Reads.natural_keeps _ _).optional sound nofun patience (tells rfl)

theorem Sequence.read_keeps : Sequence.read.Keeps Sequence.toJson := by
  intro d a fits read
  obtain ⟨r, sound, parts⟩ := Record.of_read fits read
  simp only [Reading.seq_eq_done_iff, Reading.map_eq_done_iff] at parts
  obtain ⟨_, ⟨_, ⟨_, ⟨ident, key, rfl⟩, name, title, rfl⟩, steps, ordered, rfl⟩, blocks, raw, rfl⟩ :=
    parts
  let entries : List (String × Option Json) := [("id", some (.str ident)), ("name", name.map .str),
    ("steps", some (.arr (steps.map Step.toJson))), ("blocks", some (.arr blocks))]
  have tells := @Json.tells_fieldsOf entries (by simp [entries])
  refine Record.read_objectOf entries (seq_done (seq_done (seq_done (map_done _ ?_) ?_) ?_) ?_)
  · exact Reads.text_keeps.required sound key (tells rfl)
  · exact Reads.text_keeps.optional sound nofun title (tells rfl)
  · exact (Reads.list_keeps Step.read_keeps).withDefault sound rfl ordered (tells rfl)
  · exact Reads.values_keeps.withDefault sound rfl raw (tells rfl)

end Autopilot
