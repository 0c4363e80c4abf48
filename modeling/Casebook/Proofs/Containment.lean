import Casebook.Proofs.History

namespace Casebook.Store
open Postings

variable {before after between store : Store} {id other : CaseId} {record : Case} {previous : Option Case}

def Unreadable (store : Store) (id : CaseId) : Prop :=
  ∃ bytes, store.rows.get? (Key.ofId id) = some (.unreadable bytes)

theorem get_failed : (∃ error, store.get id = .error error) ↔ store.Unreadable id := by
  unfold Store.get Unreadable
  cases found : store.rows.get? (Key.ofId id) with
  | none => simp
  | some row => cases row <;> simp [Row.read, Except.map]

-- The record that a write of an id takes the place of, whichever id it says itself.
def replaced (store : Store) (id : CaseId) : Option Case := (store.get id).toOption.join

def Carries (pairs : Case → List (String × String)) (record : Option Case) (id : CaseId) (key : Bytes) : Prop :=
  ∃ there, record = some there ∧ there.id = id ∧ key ∈ keys (pairs there)

-- What may be asked of an id is answered as before, besides what a record carried. Where the ids cannot be listed they
-- could not be before.
structure Leaves (id : CaseId) (previous : Option Case) (before after : Store) : Prop where
  row : after.rows.get? (Key.ofId id) = before.rows.get? (Key.ofId id)
  listed : after.ids.map (·.contains id) = before.ids.map (·.contains id)
  columns : ∀ name value, id ∈ after.columns.find name value ↔
    id ∈ before.columns.find name value ∧ ¬ Carries Case.columns previous id (Key.ofPair name value)
  edges : ∀ name value, id ∈ after.relationships.find name value ↔
    id ∈ before.relationships.find name value ∧ ¬ Carries Case.edgePairs previous id (Key.ofPair name value)

theorem not_carries {pairs : Case → List (String × String)} {key : Bytes}
    (elsewhere : ∀ there, previous = some there → there.id ≠ id) : ¬ Carries pairs previous id key := by
  rintro ⟨there, present, same, _⟩
  exact elsewhere there present same

theorem not_carries_none {pairs : Case → List (String × String)} {key : Bytes} : ¬ Carries pairs none id key :=
  not_carries (by simp)

theorem Leaves.refl (id : CaseId) (store : Store) : Leaves id none store store where
  row := rfl
  listed := rfl
  columns _ _ := (and_iff_left not_carries_none).symm
  edges _ _ := (and_iff_left not_carries_none).symm

theorem Leaves.andThen (first : Leaves id previous before between) (second : Leaves id none between after) :
    Leaves id previous before after where
  row := second.row.trans first.row
  listed := second.listed.trans first.listed
  columns name value := by rw [second.columns, first.columns, and_iff_left not_carries_none]
  edges name value := by rw [second.edges, first.edges, and_iff_left not_carries_none]

theorem Leaves.whole (leaves : Leaves id previous before after)
    (elsewhere : ∀ there, previous = some there → there.id ≠ id) : Leaves id none before after where
  row := leaves.row
  listed := leaves.listed
  columns name value := by
    rw [leaves.columns, and_iff_left (not_carries elsewhere), and_iff_left not_carries_none]
  edges name value := by
    rw [leaves.edges, and_iff_left (not_carries elsewhere), and_iff_left not_carries_none]

theorem listed_cons (other : CaseId) (key : Bytes) (rest : List Bytes) :
    ((key :: rest).mapM idOf).map (·.contains other) =
      (idOf key).bind fun named => ((rest.mapM idOf).map (·.contains other)).map (other == named || ·) := by
  rw [List.mapM_cons]
  cases idOf key with
  | error error => rfl
  | ok named =>
    cases rest.mapM idOf with
    | error error => rfl
    | ok ids => exact congrArg Except.ok List.contains_cons

theorem listed_besides (different : other ≠ id) (keys : List Bytes) :
    ((keys.filter (· != Key.ofId id)).mapM idOf).map (·.contains other) =
      (keys.mapM idOf).map (·.contains other) := by
  induction keys with
  | nil => rfl
  | cons key rest ih =>
    rw [listed_cons]
    by_cases own : key = Key.ofId id
    · rw [List.filter_cons_of_neg (by simpa using own), ih, own, idOf_ofId]
      have apart : (other == id) = false := beq_eq_false_iff_ne.mpr different
      cases (rest.mapM idOf).map (·.contains other) <;> simp [Except.bind, Except.map, apart]
    · rw [List.filter_cons_of_pos (by simpa using own), listed_cons, ih]

section Rows
variable (same : after.rows.erase (Key.ofId id) = before.rows.erase (Key.ofId id)) (different : other ≠ id)
include same different

theorem row_besides : after.rows.get? (Key.ofId other) = before.rows.get? (Key.ofId other) := by
  have erased := congrArg (·.get? (Key.ofId other)) same
  have apart : ¬ Key.ofId id = Key.ofId other := fun same => different (Key.ofId_inj.mp same).symm
  simpa only [OrderedMap.get_erase, if_neg apart] using erased

theorem ids_besides : after.ids.map (·.contains other) = before.ids.map (·.contains other) := by
  have erased := congrArg OrderedMap.keys same
  rw [OrderedMap.keys_erase, OrderedMap.keys_erase] at erased
  change (after.rows.keys.mapM idOf).map _ = (before.rows.keys.mapM idOf).map _
  rw [← listed_besides different, erased, listed_besides different]

end Rows

section Pairs
variable {pairs : Case → List (String × String)} {postings : Postings} (name value : String)

theorem find_addAll (different : other ≠ record.id) :
    other ∈ (addAll (pairs record) record.id postings).find name value ↔
      other ∈ postings.find name value ∧ ¬ Carries pairs none other (Key.ofPair name value) := by
  rw [mem_find, mem_addAll, mem_find, and_iff_left not_carries_none]
  simp [different]

theorem find_dropAll : other ∈ (dropAll (pairs record) record.id postings).find name value ↔
    other ∈ postings.find name value ∧ ¬ Carries pairs (some record) other (Key.ofPair name value) := by
  rw [mem_find, mem_dropAll, mem_find]
  simp [Carries, eq_comm]

end Pairs

theorem putRow_leaves (store : Store) (different : other ≠ record.id) :
    Leaves other none store (store.putRow record) where
  row := row_besides (OrderedMap.erase_insert _ _ _) different
  listed := ids_besides (OrderedMap.erase_insert _ _ _) different
  columns name value := find_addAll name value different
  edges name value := by
    change other ∈ (postEdges record store.relationships).find name value ↔ _
    rw [postEdges_exact]
    exact find_addAll name value different

theorem unpost_leaves (store : Store) (other : CaseId) : Leaves other (some record) store (store.unpost record) where
  row := rfl
  listed := rfl
  columns := find_dropAll
  edges name value := by
    change other ∈ (dropEdges record store.relationships).find name value ↔ _
    rw [dropEdges_exact]
    exact find_dropAll name value

theorem erase_leaves (store : Store) (different : other ≠ id) :
    Leaves other none store { store with rows := store.rows.erase (Key.ofId id) } where
  row := row_besides (OrderedMap.erase_erase _ _) different
  listed := ids_besides (OrderedMap.erase_erase _ _) different
  columns _ _ := (and_iff_left not_carries_none).symm
  edges _ _ := (and_iff_left not_carries_none).symm

structure Contained {α : Type} (id : CaseId) (before : Store) (ran : Except Error α × Store) : Prop where
  failing : (∃ error, ran.1 = .error error) ↔ before.Unreadable id
  failed : ∀ error, ran.1 = .error error → ran.2 = before
  left : ∀ other, other ≠ id → Leaves other (before.replaced id) before ran.2

-- What is read before the write decides; nothing fails after it.
theorem contained_failed {α : Type} {error : Error} (read : store.get id = .error error) :
    Contained id store ((.error error, store) : Except Error α × Store) where
  failing := iff_of_true ⟨error, rfl⟩ (get_failed.mp ⟨error, read⟩)
  failed _ _ := rfl
  left other _ := by
    rw [replaced, read]
    exact .refl other store

theorem contained_done {α : Type} {found : Option Case} (read : store.get id = .ok found) (answer : α)
    (left : ∀ other, other ≠ id → Leaves other found store after) : Contained id store (.ok answer, after) where
  failing := by
    rw [← get_failed, read]
    simp
  failed error raised := by cases raised
  left := by
    rw [replaced, read]
    exact left

theorem put_contained (store : Store) (record : Case) : Contained record.id store (store.put record) := by
  unfold Store.put
  cases read : store.get record.id with
  | error error => exact contained_failed read
  | ok found =>
    cases found with
    | none => exact contained_done read () fun other different => putRow_leaves store different
    | some previous =>
      refine contained_done read () fun other different => ?_
      exact (unpost_leaves store other).andThen (putRow_leaves _ different)

theorem remove_contained (store : Store) (id : CaseId) : Contained id store (store.remove id) := by
  unfold Store.remove
  cases read : store.get id with
  | error error => exact contained_failed read
  | ok found =>
    cases found with
    | none => exact contained_done read false fun other _ => .refl other store
    | some previous =>
      refine contained_done read true fun other different => ?_
      exact (unpost_leaves store other).andThen (erase_leaves _ different)

theorem writes_contained (store : Store) :
    (∀ record, Contained record.id store (store.put record)) ∧ ∀ id, Contained id store (store.remove id) :=
  ⟨put_contained store, remove_contained store⟩

-- A row of case 1 that says case 2, which is found by a column of that record.
def misfiled : Store where
  rows := OrderedMap.empty.insert (Key.ofId 1)
    (.readable { id := 2, columns := [("priority", "moderate")], edges := [⟨"followup", "case-002"⟩] })
  columns := Postings.empty.add "priority" "moderate" 2
  relationships := .empty

-- With the row of case 1 goes what case 2 was found by.
theorem misfiled_withdrawn :
    (misfiled.remove 1).1 = .ok true ∧
      ¬ ∀ other : CaseId, other ≠ 1 → ∀ name value,
        (other ∈ (misfiled.remove 1).2.columns.find name value ↔ other ∈ misfiled.columns.find name value) := by
  refine ⟨rfl, fun untouched => ?_⟩
  have found : 2 ∈ misfiled.columns.find "priority" "moderate" := by
    rw [misfiled, mem_find, mem_add]
    exact .inr ⟨rfl, rfl⟩
  have left := (untouched 2 (by decide) "priority" "moderate").mpr found
  change 2 ∈ (misfiled.columns.drop "priority" "moderate" 2).find "priority" "moderate" at left
  rw [mem_find, mem_drop] at left
  exact left.2 ⟨rfl, rfl⟩

def Aligned (store : Store) : Prop := ∀ id record, store.get id = .ok (some record) → record.id = id

theorem aligned_empty : Aligned empty := by
  intro id record read
  cases read

theorem replaced_read (there : store.replaced id = some record) : store.get id = .ok (some record) := by
  unfold replaced at there
  cases read : store.get id with
  | error error => simp [read, Except.toOption] at there
  | ok found =>
    rw [read] at there
    exact congrArg Except.ok there

theorem get_besides (same : after.rows.get? (Key.ofId id) = before.rows.get? (Key.ofId id)) :
    after.get id = before.get id := by
  unfold Store.get
  rw [same]

theorem Aligned.leaves (aligned : store.Aligned) (different : other ≠ id)
    (leaves : Leaves other (store.replaced id) store after) : Leaves other none store after := by
  apply leaves.whole
  intro there present same
  exact different (same.symm.trans (aligned id there (replaced_read present)))

theorem make_contained (store : Store) (change : Change) (different : other ≠ change.touched) :
    Leaves other (store.replaced change.touched) store (change.make store) := by
  cases change with
  | put record => exact (put_contained store record).left other different
  | remove id => exact (remove_contained store id).left other different

theorem get_putRow (store : Store) (record : Case) : (store.putRow record).get record.id = .ok (some record) := by
  unfold Store.get putRow post
  rw [OrderedMap.get_insert, if_pos rfl]
  rfl

theorem get_erased (store : Store) (id : CaseId) :
    { store with rows := store.rows.erase (Key.ofId id) }.get id = .ok none := by
  unfold Store.get
  rw [OrderedMap.get_erase, if_pos rfl]

-- A change that fails leaves what stood under its id, any other what it is meant to leave.
theorem get_touched (store : Store) (change : Change) :
    (change.make store).get change.touched = store.get change.touched ∨
      (change.make store).get change.touched = .ok change.left := by
  cases change with
  | put record =>
    change (store.put record).2.get record.id = _ ∨ (store.put record).2.get record.id = _
    unfold Store.put
    cases read : store.get record.id with
    | error error => exact .inl rfl
    | ok found => cases found <;> exact .inr (get_putRow _ record)
  | remove id =>
    change (store.remove id).2.get id = _ ∨ (store.remove id).2.get id = _
    unfold Store.remove
    cases read : store.get id with
    | error error => exact .inl rfl
    | ok found =>
      cases found with
      | none => exact .inl rfl
      | some previous => exact .inr (get_erased (store.unpost previous) id)

theorem Change.left_named {change : Change} (left : change.left = some record) : record.id = change.touched := by
  cases change with
  | put own =>
    cases left
    rfl
  | remove id => cases left

theorem Aligned.make (aligned : store.Aligned) (change : Change) : (change.make store).Aligned := by
  intro id record read
  by_cases own : id = change.touched
  · subst own
    rcases get_touched store change with kept | new
    · exact aligned _ record (kept.symm.trans read)
    · exact change.left_named (Except.ok.inj (new.symm.trans read))
  · exact aligned id record ((get_besides (make_contained store change own).row).symm.trans read)

theorem aligned_changed (aligned : store.Aligned) (changes : List Change) : (changed changes store).Aligned := by
  induction changes generalizing store with
  | nil => exact aligned
  | cons change later ih => exact ih (aligned.make change)

theorem Aligned.changed_leaves (aligned : store.Aligned) {changes : List Change}
    (untouched : ∀ change ∈ changes, other ≠ change.touched) : Leaves other none store (changed changes store) := by
  induction changes generalizing store with
  | nil => exact .refl other store
  | cons change later ih =>
    obtain ⟨here, behind⟩ := List.forall_mem_cons.mp untouched
    have step := aligned.leaves here (make_contained store change here)
    exact step.andThen (ih (aligned.make change) behind)

-- On a store that was empty at first a write is about one id only.
theorem history_leaves (earlier : List Change) {later : List Change}
    (untouched : ∀ change ∈ later, other ≠ change.touched) :
    Leaves other none (changed earlier empty) (changed later (changed earlier empty)) :=
  (aligned_changed aligned_empty earlier).changed_leaves untouched

end Casebook.Store
