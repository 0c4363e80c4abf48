import Casebook.Proofs.Coherence
import Mathlib.Data.List.Induction
import Mathlib.Data.Set.List

namespace Casebook.Store
open Postings

variable {held : CaseId → Option Case} {store : Store}

def idOf (key : Bytes) : Except Error CaseId :=
  match Key.toId? key with
  | some id => .ok id
  | none => .error .invalidKey

theorem idOf_ofId (id : CaseId) : idOf (Key.ofId id) = .ok id := by
  rw [idOf, Key.toId_ofId]

theorem toIds_ofIds (ids : List CaseId) : (ids.map Key.ofId).mapM idOf = .ok ids := by
  induction ids with
  | nil => rfl
  | cons id rest ih =>
    rw [List.map_cons, List.mapM_cons, ih, idOf_ofId]
    rfl

theorem Filed.ids {rows : ByteMap Row} (filed : Filed held rows) :
    ∃ ids : List CaseId, ids.map Key.ofId = rows.keys ∧ ids.Pairwise (· < ·) ∧
      ∀ id, id ∈ ids ↔ (held id).isSome = true := by
  obtain ⟨ids, spelled⟩ : rows.keys ∈ Set.range (List.map Key.ofId) := by
    rw [Set.range_list_map]
    exact filed.keys
  have ordered := rows.keys_ascending
  rw [← spelled, List.pairwise_map] at ordered
  refine ⟨ids, spelled, ordered.imp Key.ofId_lt.mp, ?_⟩
  intro id
  have found := filed.found id
  constructor
  · intro member
    have present : Key.ofId id ∈ rows.keys := spelled ▸ List.mem_map_of_mem member
    obtain ⟨row, read⟩ := OrderedMap.get_of_key present
    rw [read] at found
    cases there : held id with
    | none => simp [there] at found
    | some record => rfl
  · intro there
    obtain ⟨record, there⟩ := Option.isSome_iff_exists.mp there
    rw [there] at found
    obtain ⟨key, present, same⟩ := OrderedMap.key_of_get found
    rw [← spelled] at present
    obtain ⟨other, member, rfl⟩ := List.mem_map.mp present
    exact Key.ofId_inj.mp same ▸ member

structure Answers (held : CaseId → Option Case) (store : Store) : Prop where
  get : ∀ id, store.get id = .ok (held id)
  put : ∀ record, (store.put record).1 = .ok ()
  remove : ∀ id, (store.remove id).1 = .ok (held id).isSome
  ids : ∃ ids, store.ids = .ok ids ∧ ids.Pairwise (· < ·) ∧ (∀ id, id ∈ ids ↔ (held id).isSome = true) ∧
    store.size = ids.length
  withColumns : ∀ name value id, id ∈ store.withColumns [name] [value] ↔
    ∃ record, held id = some record ∧
      ∃ column ∈ record.columns, Key.ofPair column.1 column.2 = Key.ofPair name value
  withEdge : ∀ name value id, id ∈ store.withEdge name value ↔
    ∃ record, held id = some record ∧
      ∃ edge ∈ record.edges, Key.ofPair edge.name edge.target = Key.ofPair name value
  -- Among short names it is the pair itself that is asked for.
  withShortColumns : ∀ name, Key.IsShort name →
    (∀ id record, held id = some record → ∀ column ∈ record.columns, Key.IsShort column.1) →
    ∀ value id, id ∈ store.withColumns [name] [value] ↔
      ∃ record, held id = some record ∧ (name, value) ∈ record.columns
  withShortEdge : ∀ name, Key.IsShort name →
    (∀ id record, held id = some record → ∀ edge ∈ record.edges, Key.IsShort edge.name) →
    ∀ value id, id ∈ store.withEdge name value ↔
      ∃ record, held id = some record ∧ ⟨name, value⟩ ∈ record.edges
  columnEntry : ∀ key, (store.columns.tree.get? key).isSome = true ↔
    ∃ id record, held id = some record ∧ ∃ column ∈ record.columns, Key.ofPair column.1 column.2 = key
  edgeEntry : ∀ key, (store.relationships.tree.get? key).isSome = true ↔
    ∃ id record, held id = some record ∧ ∃ edge ∈ record.edges, Key.ofPair edge.name edge.target = key

theorem edgePair_iff {record : Case} {asked : Bytes} :
    (∃ pair ∈ record.edgePairs, Key.ofPair pair.1 pair.2 = asked) ↔
      ∃ edge ∈ record.edges, Key.ofPair edge.name edge.target = asked := by
  simp [Case.edgePairs]

theorem mem_edgePairs {record : Case} {name value : String} :
    (name, value) ∈ record.edgePairs ↔ (⟨name, value⟩ : Edge) ∈ record.edges := by
  constructor
  · intro member
    obtain ⟨edge, present, same⟩ := List.mem_map.mp member
    cases same
    exact present
  · exact List.mem_map_of_mem (f := fun edge : Edge => (edge.name, edge.target))

theorem Holds.answers (holds : Holds held store) : Answers held store where
  get := holds.get
  put record := (holds.put record).1
  remove id := (holds.remove id).1
  ids := by
    obtain ⟨ids, spelled, ordered, members⟩ := holds.filed.ids
    refine ⟨ids, ?_, ordered, members, ?_⟩
    · unfold Store.ids
      rw [← spelled]
      exact toIds_ofIds ids
    · have counted := congrArg List.length spelled
      rw [List.length_map, OrderedMap.keys, List.length_map] at counted
      exact counted.symm
  withColumns name value id := by
    rw [Store.withColumns, findAll_single]
    exact holds.columns.find name value id
  withEdge name value id := by
    unfold Store.withEdge
    simpa only [edgePair_iff] using holds.edges.find name value id
  withShortColumns name short allShort value id := by
    rw [Store.withColumns, findAll_single]
    exact holds.columns.find_short short allShort value id
  withShortEdge name short allShort value id := by
    have pairsShort : ∀ id record, held id = some record → ∀ pair ∈ record.edgePairs, Key.IsShort pair.1 := by
      intro id record there pair member
      obtain ⟨edge, present, rfl⟩ := List.mem_map.mp member
      exact allShort id record there edge present
    unfold Store.withEdge
    simpa only [mem_edgePairs] using holds.edges.find_short short pairsShort value id
  columnEntry key := by
    simpa only [mem_keys] using holds.columns.entry key
  edgeEntry key := by
    simpa only [mem_keys, edgePair_iff] using holds.edges.entry key

inductive Change where
  | put (record : Case)
  | remove (id : CaseId)
  deriving DecidableEq, Repr

namespace Change

def touched : Change → CaseId
  | .put record => record.id
  | .remove id => id

def left : Change → Option Case
  | .put record => some record
  | .remove _ => none

def make (store : Store) : Change → Store
  | .put record => (store.put record).2
  | .remove id => (store.remove id).2

end Change

def changed (changes : List Change) (store : Store) : Store := changes.foldl Change.make store

-- The last change of an id says what is held under it; one that was never changed holds nothing.
def lastHeld (changes : List Change) (id : CaseId) : Option Case :=
  (changes.reverse.find? fun change => change.touched == id).bind Change.left

theorem lastHeld_append (changes : List Change) (change : Change) :
    lastHeld (changes ++ [change]) = Function.update (lastHeld changes) change.touched change.left := by
  funext id
  unfold lastHeld
  by_cases same : id = change.touched
  · subst id
    simp
  · simp [same, Ne.symm same]

theorem Holds.make (holds : Holds held store) (change : Change) :
    Holds (Function.update held change.touched change.left) (change.make store) := by
  cases change with
  | put record => exact (holds.put record).2
  | remove id => exact (holds.remove id).2

theorem changed_holds (changes : List Change) : Holds (lastHeld changes) (changed changes Store.empty) := by
  induction changes using List.reverseRecOn with
  | nil => exact holds_empty
  | append_singleton changes change ih =>
    rw [lastHeld_append, changed, List.foldl_append]
    exact ih.make change

theorem history_answers (changes : List Change) :
    Answers (lastHeld changes) (changed changes Store.empty) :=
  (changed_holds changes).answers

end Casebook.Store
