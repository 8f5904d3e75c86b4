import Autopilot.Store

/-!
Shelves as maps. An id finds the one record that has it, and putting a record on a
shelf changes what its own id finds and nothing else.
-/

namespace Autopilot

variable {α : Type} [Keyed α]

theorem find?_insertRecord (record : α) (records : List α) (id : String) :
    (insertRecord record records).find? (fun other => recordId other = id) =
      if recordId record = id then some record
      else records.find? fun other => recordId other = id := by
  induction records with
  | nil =>
    simp only [insertRecord, List.find?_cons, List.find?_nil]
    split <;> simp_all
  | cons first rest ih =>
    unfold insertRecord
    split
    next less =>
      rw [List.find?_cons]
      split <;> simp_all
    next notLess =>
      split
      next same =>
        rw [List.find?_cons, List.find?_cons, ← same]
        split <;> simp_all
      next different =>
        rw [List.find?_cons, List.find?_cons, ih]
        by_cases wanted : recordId first = id
        · have other : recordId record ≠ id := fun same => different (same.trans wanted.symm)
          simp only [wanted, decide_true, other, if_false]
        · simp only [wanted, decide_false]

theorem InOrder.nodup {records : List α} (sorted : InOrder records) :
    (records.map recordId).Nodup := by
  rw [List.Nodup, List.pairwise_map]
  refine sorted.imp fun {first second} less same => ?_
  rw [same] at less
  exact String.lt_irrefl _ less

/-- A record of a new id joins the others. -/
theorem insertRecord_perm {record : α} {records : List α}
    (fresh : recordId record ∉ records.map recordId) :
    (insertRecord record records).Perm (record :: records) := by
  induction records with
  | nil => exact .refl _
  | cons first rest ih =>
    rw [List.map_cons, List.mem_cons, not_or] at fresh
    unfold insertRecord
    split
    · exact .refl _
    · rw [if_neg fresh.1]
      exact ((ih fresh.2).cons first).trans (.swap _ _ _)

namespace Shelf

/-- Storing a record changes what its own id finds, and nothing else. -/
theorem get?_insert (shelf : Shelf α) (record : α) (id : String) :
    (shelf.insert record).get? id = if recordId record = id then some record else shelf.get? id :=
  find?_insertRecord record shelf.records id

theorem get?_insert_same (shelf : Shelf α) (record : α) :
    (shelf.insert record).get? (recordId record) = some record := by
  rw [get?_insert, if_pos rfl]

theorem get?_insert_other (shelf : Shelf α) {record : α} {id : String}
    (other : recordId record ≠ id) : (shelf.insert record).get? id = shelf.get? id := by
  rw [get?_insert, if_neg other]

theorem recordId_of_get? {shelf : Shelf α} {id : String} {record : α}
    (found : shelf.get? id = some record) : recordId record = id := by
  simpa using List.find?_some found

/-- Of the records on a shelf, each is the one that its id finds. -/
theorem get?_eq_some_iff (shelf : Shelf α) (id : String) (record : α) :
    shelf.get? id = some record ↔ record ∈ shelf.records ∧ recordId record = id := by
  constructor
  · intro found
    exact ⟨List.mem_of_find?_eq_some found, recordId_of_get? found⟩
  · rintro ⟨member, rfl⟩
    have sorted := shelf.inOrder
    unfold get?
    generalize shelf.records = records at member sorted
    induction records with
    | nil => cases member
    | cons first rest ih =>
      rcases List.mem_cons.1 member with rfl | later
      · rw [List.find?_cons_of_pos]
        exact decide_eq_true rfl
      · have less := (List.pairwise_cons.1 sorted).1 record later
        rw [List.find?_cons_of_neg]
        · exact ih later (List.pairwise_cons.1 sorted).2
        · intro same
          exact String.lt_irrefl _ (of_decide_eq_true same ▸ less)

/-- Records whose ids are all new and different join those on a shelf. -/
theorem foldl_insert_perm {records : List α} {shelf : Shelf α}
    (different : ((shelf.records ++ records).map recordId).Nodup) :
    (records.foldl insert shelf).records.Perm (shelf.records ++ records) := by
  induction records generalizing shelf with
  | nil => exact .of_eq (List.append_nil _).symm
  | cons record rest ih =>
    have moved : (shelf.records ++ record :: rest).Perm (record :: shelf.records ++ rest) :=
      List.perm_middle
    have fresh : recordId record ∉ shelf.records.map recordId := by
      have apart := (moved.map recordId).nodup_iff.1 different
      rw [List.cons_append, List.map_cons, List.map_append] at apart
      exact fun stored => (List.nodup_cons.1 apart).1 (List.mem_append_left _ stored)
    have joined : ((shelf.insert record).records ++ rest).Perm (shelf.records ++ record :: rest) :=
      ((insertRecord_perm fresh).append_right rest).trans moved.symm
    exact (ih ((joined.map recordId).nodup_iff.2 different)).trans joined

/-- Of records with different ids none is lost on a shelf. -/
theorem ofList_perm {records : List α} (different : (records.map recordId).Nodup) :
    (ofList records).records.Perm records :=
  foldl_insert_perm (by simpa [empty] using different)

end Shelf

namespace Store

/-- Looking up a stored record gives the record on the shelf. -/
theorem get?_of_get {store : Store α} {id : String} {found : Option α}
    (got : store.get id = .ok found) : store.shelf.get? id = found := by
  simp only [get, allow] at got
  split at got <;> simp_all [bind, Except.bind, pure, Except.pure]

/-- Whether a record is stored depends on its id alone. -/
theorem put_eq (store : Store α) (record : α) :
    store.put record =
      if store.refuses (.put (recordId record)) then .error (Access.put (recordId record)).refusal
      else .ok { store with shelf := store.shelf.insert record } := by
  unfold put allow
  split <;> rfl

/-- What an id finds after a record was stored. -/
theorem get?_put {store after : Store α} {record : α} (stored : store.put record = .ok after)
    (id : String) :
    after.shelf.get? id = if recordId record = id then some record else store.shelf.get? id := by
  rw [put_eq] at stored
  split at stored
  · cases stored
  · cases stored
    exact Shelf.get?_insert _ _ _

/-- A store that takes a record takes any other of its id. -/
theorem put_of_same {store after : Store α} {record other : α}
    (stored : store.put record = .ok after) (same : recordId other = recordId record) :
    ∃ next, store.put other = .ok next := by
  rw [put_eq] at stored ⊢
  rw [same]
  split at stored
  · cases stored
  next takes => exact ⟨_, if_neg takes⟩

end Store

end Autopilot
