import Autopilot.Service
import Autopilot.Proofs.Store

/-!
What checking a configuration is for. The scan for repeated ids finds the first record whose id
occurred before, and the kinds of records are scanned one after the other. A store that starts with
the records of an accepted configuration holds each of them under its id, and nothing else.
-/

namespace Autopilot

namespace Config

/-! ## Repeated ids -/

/-- The first id of a list that occurred before: all ids before it are different, and it is one of
them. -/
def FirstRepeat (ids : List String) (id : String) : Prop :=
  ∃ earlier later, ids = earlier ++ id :: later ∧ earlier.Nodup ∧ id ∈ earlier

/-- The scan, with the ids of the records that it has seen. -/
theorem firstRepeated_cases (seen ids : List String) :
    (firstRepeated seen ids = none ∧ ids.Nodup ∧ ∀ id ∈ ids, id ∉ seen) ∨
      ∃ earlier id later, firstRepeated seen ids = some id ∧ ids = earlier ++ id :: later ∧
        earlier.Nodup ∧ (∀ other ∈ earlier, other ∉ seen) ∧ (id ∈ earlier ∨ id ∈ seen) := by
  induction ids generalizing seen with
  | nil => exact .inl ⟨rfl, List.nodup_nil, nofun⟩
  | cons id rest ih =>
    unfold firstRepeated
    by_cases known : id ∈ seen
    · rw [if_pos (List.contains_iff_mem.2 known)]
      exact .inr ⟨[], id, rest, rfl, rfl, List.nodup_nil, nofun, .inr known⟩
    · rw [if_neg (mt List.contains_iff_mem.1 known)]
      rcases ih (id :: seen) with ⟨none, different, fresh⟩ |
        ⟨earlier, twin, later, found, rfl, different, fresh, before⟩
      · refine .inl ⟨none, List.nodup_cons.2 ⟨fun again => ?_, different⟩, ?_⟩
        · exact fresh id again List.mem_cons_self
        · rintro other (_ | ⟨_, member⟩)
          · exact known
          · exact fun seen => fresh other member (List.mem_cons_of_mem _ seen)
      · refine .inr ⟨id :: earlier, twin, later, found, rfl, List.nodup_cons.2 ⟨?_, different⟩, ?_, ?_⟩
        · exact fun again => fresh id again List.mem_cons_self
        · rintro other (_ | ⟨_, member⟩)
          · exact known
          · exact fun seen => fresh other member (List.mem_cons_of_mem _ seen)
        · rcases before with inside | outside
          · exact .inl (List.mem_cons_of_mem _ inside)
          · rcases List.mem_cons.1 outside with rfl | old
            · exact .inl List.mem_cons_self
            · exact .inr old

/-- Either all ids are different, or the scan finds the first that occurred before. -/
theorem firstRepeated_spec (ids : List String) :
    (ids.Nodup ∧ firstRepeated [] ids = none) ∨
      ∃ id, FirstRepeat ids id ∧ firstRepeated [] ids = some id := by
  rcases firstRepeated_cases [] ids with ⟨none, different, _⟩ |
    ⟨earlier, id, later, found, same, different, _, before⟩
  · exact .inl ⟨different, none⟩
  · have inside : id ∈ earlier := before.resolve_right List.not_mem_nil
    exact .inr ⟨id, ⟨earlier, later, same, different, inside⟩, found⟩

theorem FirstRepeat.not_nodup {ids : List String} {id : String} (repeats : FirstRepeat ids id) :
    ¬ids.Nodup := by
  obtain ⟨earlier, later, rfl, _, inside⟩ := repeats
  exact fun different => (List.nodup_append.1 different).2.2 id inside id List.mem_cons_self rfl

/-! ## Kinds in order -/

/-- The kinds of records in the order in which they are checked. -/
def Kind.all : List Kind := [.trigger, .action, .command, .sequence]

/-- The ids of the records of a kind, in order. -/
def ids (c : Config) : Kind → List String
  | .trigger => c.triggers.map recordId
  | .action => c.actions.map recordId
  | .command => c.commands.map recordId
  | .sequence => c.sequences.map recordId

def checkKind (c : Config) : Kind → Except Defect Unit
  | .trigger => checkIds .trigger c.triggers
  | .action => checkIds .action c.actions
  | .command => checkIds .command c.commands
  | .sequence => checkIds .sequence c.sequences

theorem checkKind_eq (c : Config) (kind : Kind) :
    c.checkKind kind = match firstRepeated [] (c.ids kind) with
      | some id => .error (.duplicateId kind id)
      | none => .ok () := by
  cases kind <;> rfl

theorem checkKind_spec (c : Config) (kind : Kind) :
    ((c.ids kind).Nodup ∧ c.checkKind kind = .ok ()) ∨
      ∃ id, FirstRepeat (c.ids kind) id ∧ c.checkKind kind = .error (.duplicateId kind id) := by
  rw [checkKind_eq]
  rcases firstRepeated_spec (c.ids kind) with ⟨different, none⟩ | ⟨id, repeats, found⟩
  · rw [none]
    exact .inl ⟨different, rfl⟩
  · rw [found]
    exact .inr ⟨id, repeats, rfl⟩

/-- Of some kinds in order, the first with a repeated id: no kind before it has one, and this is its
first. -/
def FirstDouble (c : Config) (kinds : List Kind) (kind : Kind) (id : String) : Prop :=
  ∃ before after, kinds = before ++ kind :: after ∧ (∀ other ∈ before, (c.ids other).Nodup) ∧
    FirstRepeat (c.ids kind) id

/-- Kinds that are checked one after the other, by induction on those that are left. -/
theorem checkKinds_spec (c : Config) (kinds : List Kind) :
    ((∀ kind ∈ kinds, (c.ids kind).Nodup) ∧ forM kinds c.checkKind = .ok ()) ∨
      ∃ kind id, c.FirstDouble kinds kind id ∧
        forM kinds c.checkKind = .error (.duplicateId kind id) := by
  induction kinds with
  | nil => exact .inl ⟨nofun, rfl⟩
  | cons kind rest ih =>
    rw [List.forM_cons]
    rcases c.checkKind_spec kind with ⟨different, passed⟩ | ⟨id, repeats, failed⟩
    · rw [passed]
      rcases ih with ⟨others, passed⟩ | ⟨first, id, ⟨before, after, rfl, others, repeats⟩, failed⟩
      · exact .inl ⟨List.forall_mem_cons.2 ⟨different, others⟩, passed⟩
      · exact .inr ⟨first, id, ⟨kind :: before, after, rfl,
          List.forall_mem_cons.2 ⟨different, others⟩, repeats⟩, failed⟩
    · rw [failed]
      exact .inr ⟨kind, id, ⟨[], rest, rfl, nofun, repeats⟩, rfl⟩

theorem validate_eq (c : Config) :
    c.validate = if c.poller.intervalMs = 0 then .error .zeroInterval
      else forM Kind.all c.checkKind := by
  unfold validate
  split
  · rfl
  · simp only [Kind.all, List.forM_cons, List.forM_nil, checkKind, bind_pure_unit]

theorem Kind.mem_all (kind : Kind) : kind ∈ Kind.all := by
  cases kind <;> decide

end Config

/-! ## Stores -/

/-- A store that holds just these records: it lists each of them once, and an id finds the one of
them that has it. -/
structure Store.Holds {α : Type} [Keyed α] (store : Store α) (seeds : List α) : Prop where
  lists : ∃ records, store.list = .ok records ∧ records.Perm seeds
  gets : ∀ seed ∈ seeds, store.get (recordId seed) = .ok (some seed)
  others : ∀ id, id ∉ seeds.map recordId → store.get id = .ok none

theorem Store.ofList_holds {α : Type} [Keyed α] {seeds : List α}
    (different : (seeds.map recordId).Nodup) : (Store.ofList seeds).Holds seeds where
  lists := ⟨_, rfl, Shelf.ofList_perm different⟩
  gets := by
    intro seed member
    have stored := (Shelf.ofList_perm different).mem_iff.2 member
    exact congrArg Except.ok ((Shelf.get?_eq_some_iff _ _ _).2 ⟨stored, rfl⟩)
  others := by
    intro id absent
    have unknown : (Shelf.ofList seeds).get? id = none := by
      refine Option.eq_none_iff_forall_ne_some.2 fun record found => absent ?_
      obtain ⟨stored, rfl⟩ := (Shelf.get?_eq_some_iff _ _ _).1 found
      exact List.mem_map_of_mem ((Shelf.ofList_perm different).mem_iff.1 stored)
    exact congrArg Except.ok unknown

/-- The stores of a world hold just the records of a configuration. -/
structure Config.Seeds (c : Config) (w : Rehearsal.World) : Prop where
  triggers : w.triggers.Holds c.triggers
  actions : w.actions.Holds c.actions
  commands : w.commands.Holds c.commands
  sequences : w.sequences.Holds c.sequences

namespace Config

/-- A configuration is accepted if and only if its poller has an interval and the ids within each
kind are different; otherwise it is told what is wrong, of repeated ids the first of the first kind
that has any. The stores that an accepted configuration is put into hold each of its records, once and
under its id. -/
theorem validate_seeds (c : Config) :
    (c.validate = .ok () ↔ 0 < c.poller.intervalMs ∧ ∀ kind, (c.ids kind).Nodup) ∧
    (c.poller.intervalMs = 0 → c.validate = .error .zeroInterval) ∧
    (0 < c.poller.intervalMs → ∀ kind, ¬(c.ids kind).Nodup →
      ∃ first id, c.FirstDouble Kind.all first id ∧ c.validate = .error (.duplicateId first id)) ∧
    (c.validate = .ok () → ∀ time, c.Seeds (.ofConfig c time)) := by
  have accepted : c.validate = .ok () ↔ 0 < c.poller.intervalMs ∧ ∀ kind, (c.ids kind).Nodup := by
    rw [validate_eq, Nat.pos_iff_ne_zero]
    by_cases resting : c.poller.intervalMs = 0
    · rw [if_pos resting]
      exact ⟨nofun, fun fine => absurd resting fine.1⟩
    rw [if_neg resting]
    rcases c.checkKinds_spec Kind.all with ⟨different, passed⟩ |
      ⟨kind, id, ⟨_, _, _, _, repeats⟩, failed⟩
    · exact ⟨fun _ => ⟨resting, fun kind => different kind kind.mem_all⟩, fun _ => passed⟩
    · rw [failed]
      exact ⟨nofun, fun fine => absurd (fine.2 kind) repeats.not_nodup⟩
  refine ⟨accepted, ?_, ?_, ?_⟩
  · intro resting
    rw [validate_eq, if_pos resting]
  · intro positive kind doubled
    rw [validate_eq, if_neg (Nat.ne_of_gt positive)]
    rcases c.checkKinds_spec Kind.all with ⟨different, _⟩ | named
    · exact absurd (different kind kind.mem_all) doubled
    · exact named
  · intro valid time
    have different := (accepted.1 valid).2
    exact ⟨Store.ofList_holds (different .trigger), Store.ofList_holds (different .action),
      Store.ofList_holds (different .command), Store.ofList_holds (different .sequence)⟩

/-- A configuration in which two actions have the id of an earlier one, and so does a command. -/
def doubled : Config :=
  { triggers := [{ id := "knock", kind := .delay 5 }]
    actions := [{ id := "push" }, { id := "pull" }, { id := "pull" }, { id := "push" }]
    commands := [.ofSteps "open" [], .ofSteps "open" []] }

/-- The same without the later ones. -/
def tidied : Config :=
  { doubled with actions := doubled.actions.take 2, commands := doubled.commands.take 1 }

/-- Of the repeated ids that of the third action is told, and not that of the first action, or of the
command. Without them, what an id finds is what was configured. -/
theorem validate_seeds_doubled :
    (0 < doubled.poller.intervalMs ∧ ¬(doubled.ids .command).Nodup ∧
      ∃ first id, doubled.FirstDouble Kind.all first id ∧
        doubled.validate = .error (.duplicateId first id) ∧ first = .action ∧ id = "pull") ∧
    tidied.validate = .ok () ∧ tidied.Seeds (.ofConfig tidied ⟨0, 0⟩) := by
  have positive : 0 < doubled.poller.intervalMs := by decide
  have repeats : ¬(doubled.ids .command).Nodup := by decide
  have told : doubled.validate = .error (.duplicateId .action "pull") := rfl
  have valid : tidied.validate = .ok () := rfl
  obtain ⟨first, id, double, failed⟩ := (validate_seeds doubled).2.2.1 positive .command repeats
  have named := failed.symm.trans told
  simp only [Except.error.injEq, Defect.duplicateId.injEq] at named
  exact ⟨⟨positive, repeats, first, id, double, failed, named⟩, valid,
    (validate_seeds tidied).2.2.2 valid ⟨0, 0⟩⟩

end Config

end Autopilot
