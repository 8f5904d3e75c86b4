import Autopilot.Condition
import Autopilot.Proofs.Record

/-!
Conditions are kept: what is read of a region or a condition, and written, is read again as it was.
-/

namespace Autopilot

open Reading (map_done seq_done)

theorem Source.named_name (source : Source) :
    Reads.named Source.variants source.name = .ok source := by
  cases source <;> rfl

theorem Mode.named_name (mode : Mode) : Reads.named Mode.variants mode.name = .ok mode := by
  cases mode <;> rfl

theorem Region.toJson_ne_null (region : Region) : region.toJson ≠ .null := nofun

theorem Region.read_keeps : Region.read.Keeps Region.toJson := by
  intro d a fits read
  obtain ⟨r, sound, parts⟩ := Record.of_read fits read
  simp only [Reading.seq_eq_done_iff, Reading.map_eq_done_iff] at parts
  obtain ⟨_, ⟨_, ⟨_, ⟨x, left, rfl⟩, y, top, rfl⟩, width, wide, rfl⟩, height, high, rfl⟩ := parts
  let entries : List (String × Option Json) := [("x", some (.ofInt x)), ("y", some (.ofInt y)),
    ("width", some (.ofNat width)), ("height", some (.ofNat height))]
  have tells := @Json.tells_fieldsOf entries (by simp [entries])
  refine Record.read_objectOf entries (seq_done (seq_done (seq_done (map_done _ ?_) ?_) ?_) ?_)
  · exact (Reads.whole_keeps _ _ _).required sound left (tells rfl)
  · exact (Reads.whole_keeps _ _ _).required sound top (tells rfl)
  · exact (Reads.natural_keeps _ _).required sound wide (tells rfl)
  · exact (Reads.natural_keeps _ _).required sound high (tells rfl)

theorem Region.plain_toJson (region : Region) : region.toJson.Plain := by
  refine Datum.plain_object ?_
  simp only [List.forall_mem_cons]
  exact ⟨rfl, rfl, rfl, rfl, List.forall_mem_nil _⟩

theorem Condition.toJson_ne_null (c : Condition) : c.toJson ≠ .null := nofun

theorem Condition.read_keeps : Condition.read.Keeps Condition.toJson := by
  intro d a fits read
  obtain ⟨r, sound, parts⟩ := Record.of_read fits read
  simp only [Reading.seq_eq_done_iff, Reading.map_eq_done_iff] at parts
  obtain ⟨_, ⟨_, ⟨_, ⟨_, ⟨_, ⟨source, kind, rfl⟩, targetId, aim, rfl⟩, mode, way, rfl⟩, threshold,
    least, rfl⟩, region, part, rfl⟩, language, tongue, rfl⟩ := parts
  let entries : List (String × Option Json) := [("source", some (.str source.name)),
    ("targetId", some (.str targetId)), ("mode", some (.str mode.name)),
    ("confidenceThreshold", threshold.map .ofFloat), ("region", region.map Region.toJson),
    ("language", language.map .str)]
  have tells := @Json.tells_fieldsOf entries (by simp [entries])
  refine Record.read_objectOf entries
    (seq_done (seq_done (seq_done (seq_done (seq_done (map_done _ ?_) ?_) ?_) ?_) ?_) ?_)
  · exact (Reads.variant_keeps fun _ _ => Source.named_name _).required sound kind (tells rfl)
  · exact Reads.text_keeps.required sound aim (tells rfl)
  · exact (Reads.variant_keeps fun _ _ => Mode.named_name _).withDefault sound rfl way (tells rfl)
  · exact Reads.real_keeps.optional sound nofun least (tells rfl)
  · exact Region.read_keeps.optional sound Region.toJson_ne_null part (tells rfl)
  · exact Reads.text_keeps.optional sound nofun tongue (tells rfl)

end Autopilot
