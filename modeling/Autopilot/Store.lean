/-!
Stores of records under their ids. A shelf holds its records in order of id, one
for each id; a store answers from its shelf unless it refuses the access.
-/

namespace Autopilot

/-- Records with an id. -/
class Keyed (α : Type) where
  recordId : α → String

export Keyed (recordId)

inductive StoreError where
  | notFound (id : String)
  | storage (reason : String)
  deriving DecidableEq, Repr

def StoreError.message : StoreError → String
  | .notFound id => s!"Record not found: {id}"
  | .storage reason => s!"Storage error: {reason}"

def insertRecord {α : Type} [Keyed α] (record : α) : List α → List α
  | [] => [record]
  | first :: rest =>
    if recordId record < recordId first then record :: first :: rest
    else if recordId record = recordId first then record :: rest
    else first :: insertRecord record rest

def InOrder {α : Type} [Keyed α] (records : List α) : Prop :=
  records.Pairwise fun a b => recordId a < recordId b

theorem mem_insertRecord {α : Type} [Keyed α] {record a : α} {records : List α}
    (member : a ∈ insertRecord record records) : a = record ∨ a ∈ records := by
  induction records with
  | nil => simpa [insertRecord] using member
  | cons first rest ih =>
    unfold insertRecord at member
    split at member
    · simpa using member
    · split at member
      · rcases List.mem_cons.1 member with same | later
        · exact .inl same
        · exact .inr (List.mem_cons_of_mem _ later)
      · rcases List.mem_cons.1 member with same | later
        · exact .inr (same ▸ List.mem_cons_self)
        · exact (ih later).imp_right (List.mem_cons_of_mem _)

theorem insertRecord_inOrder {α : Type} [Keyed α] (record : α) {records : List α}
    (sorted : InOrder records) : InOrder (insertRecord record records) := by
  induction records with
  | nil => simp [insertRecord, InOrder]
  | cons first rest ih =>
    have before := (List.pairwise_cons.1 sorted).1
    have tail := (List.pairwise_cons.1 sorted).2
    unfold insertRecord
    split
    next less =>
      refine List.pairwise_cons.2 ⟨fun a member => ?_, sorted⟩
      rcases List.mem_cons.1 member with same | later
      · exact same ▸ less
      · exact String.lt_trans less (before a later)
    next notLess =>
      split
      next same => exact List.pairwise_cons.2 ⟨fun a later => same ▸ before a later, tail⟩
      next different =>
        refine List.pairwise_cons.2 ⟨fun a member => ?_, ih tail⟩
        rcases mem_insertRecord member with same | later
        · have above := String.not_lt.1 notLess
          exact same ▸ Std.lt_of_le_of_ne above fun equal => different equal.symm
        · exact before a later

/-- Records in order of id. -/
structure Shelf (α : Type) [Keyed α] where
  records : List α
  inOrder : InOrder records

namespace Shelf

variable {α : Type} [Keyed α]

def empty : Shelf α := ⟨[], List.Pairwise.nil⟩

def get? (shelf : Shelf α) (id : String) : Option α :=
  shelf.records.find? fun record => recordId record = id

/-- Adds a record or replaces the one of the same id. -/
def insert (shelf : Shelf α) (record : α) : Shelf α :=
  ⟨insertRecord record shelf.records, insertRecord_inOrder record shelf.inOrder⟩

def erase (shelf : Shelf α) (id : String) : Shelf α :=
  ⟨shelf.records.filter fun record => recordId record != id, shelf.inOrder.filter _⟩

def contains (shelf : Shelf α) (id : String) : Bool := (shelf.get? id).isSome

def count (shelf : Shelf α) : Nat := shelf.records.length

/-- Of records with one id the last is kept. -/
def ofList (records : List α) : Shelf α := records.foldl insert empty

end Shelf

/-- The ways to use a store. -/
inductive Access where
  | list
  | get (id : String)
  | put (id : String)
  | remove (id : String)
  deriving DecidableEq, Repr

def Access.refusal : Access → StoreError
  | .list => .storage "list rejected"
  | .get id => .storage s!"get rejected for {id}"
  | .put id => .storage s!"upsert rejected for {id}"
  | .remove id => .storage s!"delete rejected for {id}"

structure Store (α : Type) [Keyed α] where
  shelf : Shelf α
  refuses : Access → Bool := fun _ => false

namespace Store

variable {α : Type} [Keyed α]

def ofList (records : List α) : Store α := { shelf := .ofList records }

def allow (store : Store α) (access : Access) : Except StoreError Unit :=
  if store.refuses access then .error access.refusal else .ok ()

def list (store : Store α) : Except StoreError (List α) := do
  store.allow .list
  return store.shelf.records

def get (store : Store α) (id : String) : Except StoreError (Option α) := do
  store.allow (.get id)
  return store.shelf.get? id

def put (store : Store α) (record : α) : Except StoreError (Store α) := do
  store.allow (.put (recordId record))
  return { store with shelf := store.shelf.insert record }

/-- Also tells whether there was anything to remove. -/
def remove (store : Store α) (id : String) : Except StoreError (Bool × Store α) := do
  store.allow (.remove id)
  return (store.shelf.contains id, { store with shelf := store.shelf.erase id })

end Store

end Autopilot
