import Casebook.Proofs.Postings
import Casebook.Store.Basic
import Mathlib.Logic.Function.Basic

namespace Casebook

def Case.edgePairs (record : Case) : List (String × String) := record.edges.map fun edge => (edge.name, edge.target)

namespace Store
open Postings

variable {held : CaseId → Option Case} {store : Store} {pairs : Case → List (String × String)}
  {postings : Postings} {id : CaseId} {record : Case}

-- The records are those that are held now. A key that two pairs share stands for both of them.
structure Posted (pairs : Case → List (String × String)) (held : CaseId → Option Case) (postings : Postings) :
    Prop where
  carried : ∀ key id, id ∈ postings.idsAt key ↔ ∃ record, held id = some record ∧ key ∈ keys (pairs record)
  filled : postings.Filled

theorem posted_empty (pairs : Case → List (String × String)) : Posted pairs (fun _ => none) Postings.empty :=
  ⟨by simp [idsAt_empty], filled_empty⟩

theorem Posted.drop (posted : Posted pairs held postings) (there : held id = some record) :
    Posted pairs (Function.update held id none) (dropAll (pairs record) id postings) := by
  refine ⟨?_, filled_dropAll posted.filled⟩
  intro key other
  rw [mem_dropAll, posted.carried]
  by_cases same : other = id
  · subst other
    simp [there]
  · simp [same]

theorem Posted.add (posted : Posted pairs held postings) (free : held id = none) :
    Posted pairs (Function.update held id (some record)) (addAll (pairs record) id postings) := by
  refine ⟨?_, filled_addAll posted.filled⟩
  intro key other
  rw [mem_addAll, posted.carried]
  by_cases same : other = id
  · subst other
    simp [free]
  · simp [same]

theorem Posted.replace (posted : Posted pairs held postings) {previous : Case} (there : held id = some previous) :
    Posted pairs (Function.update held id (some record))
      (addAll (pairs record) id (dropAll (pairs previous) id postings)) := by
  have dropped := posted.drop there
  rw [← Function.update_idem (a := id) none (some record) held]
  exact dropped.add (Function.update_self id none held)

theorem Posted.entry (posted : Posted pairs held postings) (key : Bytes) :
    (postings.tree.get? key).isSome = true ↔ ∃ id record, held id = some record ∧ key ∈ keys (pairs record) := by
  rw [posted.filled.get]
  constructor
  · intro present
    obtain ⟨id, member⟩ := present
    exact ⟨id, (posted.carried key id).mp member⟩
  · intro present
    obtain ⟨id, carried⟩ := present
    exact ⟨id, (posted.carried key id).mpr carried⟩

theorem Posted.find (posted : Posted pairs held postings) (name value : String) (id : CaseId) :
    id ∈ postings.find name value ↔
      ∃ record, held id = some record ∧
        ∃ pair ∈ pairs record, Key.ofPair pair.1 pair.2 = Key.ofPair name value := by
  rw [mem_find, posted.carried]
  simp only [mem_keys]

theorem Posted.find_short (posted : Posted pairs held postings) {name : String} (short : Key.IsShort name)
    (allShort : ∀ id record, held id = some record → ∀ pair ∈ pairs record, Key.IsShort pair.1)
    (value : String) (id : CaseId) :
    id ∈ postings.find name value ↔ ∃ record, held id = some record ∧ (name, value) ∈ pairs record := by
  rw [posted.find]
  constructor
  · intro carried
    obtain ⟨record, there, pair, member, same⟩ := carried
    obtain ⟨rfl, rfl⟩ := (Key.ofPair_inj (allShort id record there pair member) short).mp same
    exact ⟨record, there, member⟩
  · intro carried
    obtain ⟨record, there, member⟩ := carried
    exact ⟨record, there, (name, value), member, rfl⟩

-- Each record lies in the row of its own id, and nothing else lies in a row.
structure Filed (held : CaseId → Option Case) (rows : ByteMap Row) : Prop where
  own : ∀ id record, held id = some record → record.id = id
  found : ∀ id, rows.get? (Key.ofId id) = (held id).map Row.readable
  keys : ∀ key ∈ rows.keys, ∃ id, Key.ofId id = key

theorem filed_empty : Filed (fun _ => none) .empty where
  own := by simp
  found _ := rfl
  keys := by simp [OrderedMap.empty, OrderedMap.keys]

theorem own_update (own : ∀ id record, held id = some record → record.id = id) {after : Option Case}
    (named : ∀ record, after = some record → record.id = id) :
    ∀ other record, Function.update held id after other = some record → record.id = other := by
  intro other record there
  by_cases same : other = id
  · subst other
    rw [Function.update_self] at there
    exact named record there
  · rw [Function.update_of_ne same] at there
    exact own other record there

theorem Filed.insert {rows : ByteMap Row} (filed : Filed held rows) (record : Case) :
    Filed (Function.update held record.id (some record)) (rows.insert (Key.ofId record.id) (.readable record)) := by
  refine ⟨own_update filed.own ?_, ?_, ?_⟩
  · intro other named
    cases named
    rfl
  · intro other
    rw [OrderedMap.get_insert]
    by_cases same : other = record.id
    · simp [same]
    · simp [same, Ne.symm same, Key.ofId_inj, filed.found]
  · intro key present
    rcases OrderedMap.key_of_insert present with new | old
    · exact ⟨record.id, new.symm⟩
    · exact filed.keys key old

theorem Filed.erase {rows : ByteMap Row} (filed : Filed held rows) (id : CaseId) :
    Filed (Function.update held id none) (rows.erase (Key.ofId id)) := by
  refine ⟨own_update filed.own ?_, ?_, ?_⟩
  · intro other named
    cases named
  · intro other
    rw [OrderedMap.get_erase]
    by_cases same : other = id
    · simp [same]
    · simp [same, Ne.symm same, Key.ofId_inj, filed.found]
  · intro key present
    exact filed.keys key (OrderedMap.key_of_erase present)

structure Holds (held : CaseId → Option Case) (store : Store) : Prop where
  filed : Filed held store.rows
  columns : Posted Case.columns held store.columns
  edges : Posted Case.edgePairs held store.relationships

theorem holds_empty : Holds (fun _ => none) Store.empty := ⟨filed_empty, posted_empty _, posted_empty _⟩

theorem Holds.get (holds : Holds held store) (id : CaseId) : store.get id = .ok (held id) := by
  unfold Store.get
  rw [holds.filed.found]
  cases held id with
  | none => rfl
  | some record => rfl

theorem postEdges_exact (record : Case) (postings : Postings) :
    postEdges record postings = addAll record.edgePairs record.id postings := by
  rw [addAll, Case.edgePairs, List.foldl_map, postEdges]

theorem dropEdges_exact (record : Case) (postings : Postings) :
    dropEdges record postings = dropAll record.edgePairs record.id postings := by
  rw [dropAll, Case.edgePairs, List.foldl_map, dropEdges]

theorem Holds.putRow (holds : Holds held store) (free : held record.id = none) :
    Holds (Function.update held record.id (some record)) (store.putRow record) := by
  refine ⟨holds.filed.insert record, holds.columns.add free, ?_⟩
  change Posted _ _ (postEdges record store.relationships)
  rw [postEdges_exact]
  exact holds.edges.add free

theorem Holds.replace (holds : Holds held store) {previous : Case} (there : held record.id = some previous) :
    Holds (Function.update held record.id (some record)) ((store.unpost previous).putRow record) := by
  have same := holds.filed.own record.id previous there
  refine ⟨holds.filed.insert record, ?_, ?_⟩
  · change Posted _ _ (addAll record.columns record.id (dropAll previous.columns previous.id store.columns))
    rw [same]
    exact holds.columns.replace there
  · change Posted _ _ (postEdges record (dropEdges previous store.relationships))
    rw [postEdges_exact, dropEdges_exact, same]
    exact holds.edges.replace there

theorem Holds.put (holds : Holds held store) (record : Case) :
    (store.put record).1 = .ok () ∧ Holds (Function.update held record.id (some record)) (store.put record).2 := by
  unfold Store.put
  rw [holds.get]
  cases there : held record.id with
  | none => exact ⟨rfl, holds.putRow there⟩
  | some previous => exact ⟨rfl, holds.replace there⟩

theorem Holds.remove (holds : Holds held store) (id : CaseId) :
    (store.remove id).1 = .ok (held id).isSome ∧ Holds (Function.update held id none) (store.remove id).2 := by
  unfold Store.remove
  rw [holds.get]
  cases there : held id with
  | none =>
    have unchanged : Function.update held id none = held := by rw [← there, Function.update_eq_self]
    rw [unchanged]
    exact ⟨rfl, holds⟩
  | some record =>
    have same := holds.filed.own id record there
    subst same
    refine ⟨rfl, holds.filed.erase record.id, holds.columns.drop there, ?_⟩
    change Posted _ _ (dropEdges record store.relationships)
    rw [dropEdges_exact]
    exact holds.edges.drop there

end Store
end Casebook
