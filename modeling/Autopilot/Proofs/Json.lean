import Autopilot.Json
import Mathlib.Data.List.Induction

/-!
Objects as lists of fields in order. Sorting brings every list of fields in order, leaves
those in order as they are, and loses no field as long as their names are different.
-/

namespace Autopilot.Json

/-- Fields in ascending order, each name once. -/
def Ascending (fields : List (String × Json)) : Prop := fields.Pairwise fun a b => a.1 < b.1

theorem mem_insertField {name : String} {value : Json} {fields : List (String × Json)}
    {field : String × Json} (member : field ∈ insertField name value fields) :
    field = (name, value) ∨ field ∈ fields := by
  induction fields with
  | nil => exact .inl (List.mem_singleton.1 member)
  | cons first rest ih =>
    unfold insertField at member
    split at member
    · exact (List.mem_cons.1 member).imp_right (List.mem_cons_of_mem _)
    · split at member
      · exact List.mem_cons.1 member
      · rcases List.mem_cons.1 member with same | later
        · exact .inr (same ▸ List.mem_cons_self)
        · exact (ih later).imp_right (List.mem_cons_of_mem _)

theorem insertField_ascending (name : String) (value : Json) {fields : List (String × Json)}
    (ascending : Ascending fields) : Ascending (insertField name value fields) := by
  induction fields with
  | nil => exact List.pairwise_singleton _ _
  | cons first rest ih =>
    obtain ⟨before, tail⟩ := List.pairwise_cons.1 ascending
    unfold insertField
    split
    next same => exact List.pairwise_cons.2 ⟨fun field member => same ▸ before field member, tail⟩
    next different =>
      split
      next less =>
        refine List.pairwise_cons.2 ⟨fun field member => ?_, ascending⟩
        rcases List.mem_cons.1 member with same | later
        · exact same ▸ less
        · exact String.lt_trans less (before field later)
      next notLess =>
        refine List.pairwise_cons.2 ⟨fun field member => ?_, ih tail⟩
        rcases mem_insertField member with same | later
        · have above := String.not_lt.1 notLess
          exact same ▸ Std.lt_of_le_of_ne above fun equal => different equal.symm
        · exact before field later

/-- A field of a new name joins the others. -/
theorem insertField_perm {name : String} {value : Json} {fields : List (String × Json)}
    (fresh : name ∉ fields.map Prod.fst) :
    (insertField name value fields).Perm ((name, value) :: fields) := by
  induction fields with
  | nil => exact .refl _
  | cons first rest ih =>
    rw [List.map_cons, List.mem_cons, not_or] at fresh
    unfold insertField
    rw [if_neg fresh.1]
    split
    · exact .refl _
    · exact ((ih fresh.2).cons first).trans (.swap _ _ _)

/-- A field that comes after all others is put at the end. -/
theorem insertField_last {name : String} {value : Json} {fields : List (String × Json)}
    (last : ∀ field ∈ fields, field.1 < name) :
    insertField name value fields = fields ++ [(name, value)] := by
  induction fields with
  | nil => rfl
  | cons first rest ih =>
    have less := last first List.mem_cons_self
    unfold insertField
    rw [if_neg fun same => String.lt_irrefl _ (same ▸ less),
      if_neg fun more => String.lt_irrefl _ (String.lt_trans more less),
      ih fun field member => last field (List.mem_cons_of_mem _ member)]
    rfl

/-! ## Sorting -/

theorem sortFields_append (fields : List (String × Json)) (field : String × Json) :
    sortFields (fields ++ [field]) = insertField field.1 field.2 (sortFields fields) := by
  simp only [sortFields, List.foldl_append, List.foldl_cons, List.foldl_nil]

theorem sortFields_ascending (fields : List (String × Json)) : Ascending (sortFields fields) := by
  induction fields using List.reverseRecOn with
  | nil => exact List.Pairwise.nil
  | append_singleton fields field ih =>
    rw [sortFields_append]
    exact insertField_ascending _ _ ih

theorem mem_of_mem_sortFields {fields : List (String × Json)} {field : String × Json}
    (member : field ∈ sortFields fields) : field ∈ fields := by
  induction fields using List.reverseRecOn with
  | nil => exact member
  | append_singleton fields last ih =>
    rw [sortFields_append] at member
    rcases mem_insertField member with same | earlier
    · exact List.mem_append_right _ (List.mem_singleton.2 same)
    · exact List.mem_append_left _ (ih earlier)

/-- Fields in order are not sorted anew. -/
theorem sortFields_of_ascending {fields : List (String × Json)} (ascending : Ascending fields) :
    sortFields fields = fields := by
  induction fields using List.reverseRecOn with
  | nil => rfl
  | append_singleton fields last ih =>
    obtain ⟨before, _, less⟩ := List.pairwise_append.1 ascending
    rw [sortFields_append, ih before,
      insertField_last fun field member => less field member last List.mem_cons_self]

theorem sortFields_perm {fields : List (String × Json)} (distinct : (fields.map Prod.fst).Nodup) :
    (sortFields fields).Perm fields := by
  induction fields using List.reverseRecOn with
  | nil => exact .refl _
  | append_singleton fields last ih =>
    rw [List.map_append, List.nodup_append] at distinct
    have earlier := ih distinct.1
    have fresh : last.1 ∉ (sortFields fields).map Prod.fst := fun member =>
      distinct.2.2 _ ((earlier.map Prod.fst).subset member) _ List.mem_cons_self rfl
    rw [sortFields_append]
    exact (insertField_perm fresh).trans
      ((earlier.cons last).trans (List.perm_append_singleton last fields).symm)

end Autopilot.Json
