import Autopilot.Record

/-!
What a successful reading says: every part was read, and each field either was
absent or came from a value inside the record, which is smaller than the record.
-/

namespace Autopilot

namespace Reading

variable {α β : Type}

theorem seq_eq_done_iff {f : Reading (α → β)} {a : Reading α} {b : β} :
    f <*> a = .done b ↔ ∃ g, f = .done g ∧ ∃ x, a = .done x ∧ g x = b := by
  cases f <;> cases a <;> simp only [Seq.seq, apply] <;> try split
  all_goals simp

theorem map_eq_done_iff {f : α → β} {a : Reading α} {b : β} :
    f <$> a = .done b ↔ ∃ x, a = .done x ∧ f x = b := by
  cases a <;> simp [Functor.map, map]

theorem seqLeft_eq_done_iff {a : Reading α} {other : Reading β} {x : α} :
    a <* other = .done x ↔ a = .done x ∧ ∃ y, other = .done y := by
  change (Function.const β <$> a) <*> other = .done x ↔ _
  simp only [seq_eq_done_iff, map_eq_done_iff]
  constructor
  · rintro ⟨_, ⟨z, read, rfl⟩, y, rest, rfl⟩
    exact ⟨read, y, rest⟩
  · rintro ⟨read, y, rest⟩
    exact ⟨_, ⟨x, read, rfl⟩, y, rest, rfl⟩

theorem toExcept_eq_ok_iff {a : Reading α} {x : α} : a.toExcept = .ok x ↔ a = .done x := by
  cases a <;> simp [toExcept]

end Reading

namespace Datum

theorem sizeOf_untagged_le (d : Datum) : sizeOf d.untagged ≤ sizeOf d := by
  induction d using untagged.induct with
  | case1 tag content ih => simp only [untagged, tagged.sizeOf_spec]; omega
  | case2 d notTagged => cases d <;> simp_all [untagged]

end Datum

namespace Reads

theorem mapM_ok (items : List Datum) :
    items.mapM (fun d => (Except.ok d : Except Fault Datum)) = .ok items := by
  induction items with
  | nil => rfl
  | cons first rest ih => simp [List.mapM_cons, ih, bind, Except.bind, pure, Except.pure]

theorem sizeOf_lt_of_list {origin : Origin} {d : Datum} {items : List Datum}
    (read : Reads.list (fun _ d => .ok d) origin d = .ok items) {item : Datum}
    (member : item ∈ items) : sizeOf item < sizeOf d := by
  have small := d.sizeOf_untagged_le
  unfold Reads.list at read
  split at read
  next inner found =>
    have same : items = inner := by simpa [mapM_ok] using read.symm
    have within := List.sizeOf_lt_of_mem (same ▸ member)
    rw [found, Datum.list.sizeOf_spec] at small
    omega
  next => simp_all
  next => simp at read

end Reads

namespace Record

/-- The values of a record, whatever they are called. -/
def values (r : Record) : List Datum :=
  match r.fields with
  | .named rows => rows.map (·.2)
  | .listed items => items

theorem sizeOf_lt_of_mem_values {kind : String} {size : Nat} {origin : Origin} {d : Datum}
    {r : Record} (opened : Record.read kind size origin d = .ok r) {value : Datum}
    (member : value ∈ r.values) : sizeOf value < sizeOf d := by
  have small := d.sizeOf_untagged_le
  unfold Record.read at opened
  split at opened <;> simp only [Except.ok.injEq, reduceCtorEq] at opened <;> subst opened
  next rows found =>
    simp only [values, List.mem_map] at member
    obtain ⟨row, inside, rfl⟩ := member
    have within := List.sizeOf_lt_of_mem inside
    rw [found, Datum.table.sizeOf_spec] at small
    rw [Prod.mk.sizeOf_spec] at within
    omega
  next items found =>
    have within : sizeOf value < sizeOf items := List.sizeOf_lt_of_mem member
    rw [found, Datum.list.sizeOf_spec] at small
    omega
  next found => simp [values] at member

theorem mem_values_of_find {r : Record} {position : Nat} {names : List String} {place : Nat}
    {value : Datum} (found : r.find position names = .single place value) :
    value ∈ r.values := by
  unfold find at found
  unfold values
  split at found
  next items same =>
    split at found <;> simp only [Found.single.injEq, reduceCtorEq] at found
    next inside =>
      simp only [same]
      exact found.2 ▸ List.mem_of_getElem? inside
  next rows same =>
    simp only [same]
    have inside : ∀ row ∈ rows.zipIdx.filter fun row => r.isKey position names row.1.1,
        row.1.2 ∈ rows.map (·.2) := fun row member => by
      have kept := (List.mem_filter.1 member).1
      exact List.mem_map.2 ⟨row.1, (List.mem_zipIdx' kept).2 ▸ List.getElem_mem _, rfl⟩
    split at found <;> simp only [Found.single.injEq, reduceCtorEq] at found
    next only =>
      rw [only] at inside
      exact found.2 ▸ inside _ List.mem_cons_self

theorem field_eq_done {α : Type} {r : Record} {position : Nat} {names : List String}
    {absent : Except Fault α} {read : Reads α} {a : α}
    (done : r.field position names absent read = .done a) :
    absent = .ok a ∨ ∃ value ∈ r.values, read r.origin value = .ok a := by
  unfold field at done
  split at done
  next place value found =>
    unfold present at done
    split at done <;> simp at done
    next ok _ => exact .inr ⟨value, mem_values_of_find found, done ▸ ok⟩
  next place value again found =>
    unfold present at done
    split at done <;> simp at done
    next impossible => simp at impossible
  next =>
    split at done <;> simp at done
    exact .inl (done ▸ rfl)

end Record

end Autopilot
