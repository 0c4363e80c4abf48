import Casebook.Proofs.Keys
import Casebook.Proofs.Maps
import Casebook.Store.Postings

namespace Casebook.Store.Postings

-- Ids in the order in which they are packed; a malformed end of an entry does not show.
def idsAt (postings : Postings) (key : Bytes) : List CaseId :=
  ((postings.tree.get? key).map Key.unpack).getD []

theorem idsAt_empty (key : Bytes) : empty.idsAt key = [] := rfl

theorem idsAt_add (postings : Postings) (name value : String) (id : CaseId) (key : Bytes) :
    (postings.add name value id).idsAt key =
      if Key.ofPair name value = key then
        if (postings.idsAt key).contains id then postings.idsAt key else postings.idsAt key ++ [id]
      else postings.idsAt key := by
  unfold idsAt add
  rw [OrderedMap.get_update]
  by_cases asked : Key.ofPair name value = key
  · subst asked
    simp [addId, Key.unpack_pack]
  · simp [asked]

theorem idsAt_drop (postings : Postings) (name value : String) (id : CaseId) (key : Bytes) :
    (postings.drop name value id).idsAt key =
      if Key.ofPair name value = key then (postings.idsAt key).filter (· != id) else postings.idsAt key := by
  unfold idsAt drop
  rw [OrderedMap.get_update]
  by_cases asked : Key.ofPair name value = key
  · subst asked
    cases found : postings.tree.get? (Key.ofPair name value) with
    | none => simp [dropId]
    | some entry =>
      by_cases left : ((Key.unpack entry).filter (· != id)).isEmpty = true
      · simp [dropId, List.isEmpty_iff.mp left]
      · simp [dropId, left, Key.unpack_pack]
  · simp [asked]

theorem mem_find {postings : Postings} {name value : String} {id : CaseId} :
    id ∈ postings.find name value ↔ id ∈ postings.idsAt (Key.ofPair name value) := by
  unfold find idsAt
  cases postings.tree.get? (Key.ofPair name value) with
  | none => simp [IdSet.not_mem_empty]
  | some entry => simp [IdSet.mem_ofList]

theorem findAll_single (postings : Postings) (name value : String) :
    postings.findAll [name] [value] = postings.find name value := by
  simp [findAll, conjunction, narrow]

theorem mem_add {postings : Postings} {name value : String} {id other : CaseId} {key : Bytes} :
    other ∈ (postings.add name value id).idsAt key ↔
      other ∈ postings.idsAt key ∨ other = id ∧ key = Key.ofPair name value := by
  rw [idsAt_add]
  by_cases asked : Key.ofPair name value = key
  · subst asked
    by_cases present : id ∈ postings.idsAt (Key.ofPair name value)
    · have kept : other = id → other ∈ postings.idsAt (Key.ofPair name value) := by
        intro same
        rw [same]
        exact present
      simpa [present] using kept
    · simp [present]
  · simp [asked, Ne.symm asked]

theorem mem_drop {postings : Postings} {name value : String} {id other : CaseId} {key : Bytes} :
    other ∈ (postings.drop name value id).idsAt key ↔
      other ∈ postings.idsAt key ∧ ¬ (other = id ∧ key = Key.ofPair name value) := by
  rw [idsAt_drop]
  by_cases asked : Key.ofPair name value = key
  · simp [asked]
  · simp [asked, Ne.symm asked]

def Filled (postings : Postings) : Prop :=
  ∀ key entry, postings.tree.get? key = some entry → Key.unpack entry ≠ []

theorem filled_empty : empty.Filled := by
  intro key entry found
  cases found

theorem filled_add {postings : Postings} (filled : postings.Filled) (name value : String) (id : CaseId) :
    (postings.add name value id).Filled := by
  intro key entry found
  unfold add at found
  rw [OrderedMap.get_update] at found
  by_cases asked : Key.ofPair name value = key
  · rw [if_pos asked] at found
    cases Option.some.inj found
    rw [Key.unpack_pack]
    split
    · rename_i present
      intro none
      simp [none] at present
    · simp
  · rw [if_neg asked] at found
    exact filled key entry found

theorem filled_drop {postings : Postings} (filled : postings.Filled) (name value : String) (id : CaseId) :
    (postings.drop name value id).Filled := by
  intro key entry found
  unfold drop at found
  rw [OrderedMap.get_update] at found
  by_cases asked : Key.ofPair name value = key
  · rw [if_pos asked] at found
    unfold dropId at found
    split at found
    · cases found
    · dsimp only at found
      split at found
      · cases found
      · rename_i left
        cases Option.some.inj found
        rw [Key.unpack_pack]
        exact fun none => left (List.isEmpty_iff.mpr none)
  · rw [if_neg asked] at found
    exact filled key entry found

theorem Filled.get {postings : Postings} (filled : postings.Filled) (key : Bytes) :
    (postings.tree.get? key).isSome = true ↔ ∃ id, id ∈ postings.idsAt key := by
  unfold idsAt
  cases found : postings.tree.get? key with
  | none => simp
  | some entry => simpa using List.exists_mem_of_ne_nil _ (filled key entry found)

-- All pairs of a record at once, under one id.
section Lists
variable (pairs : List (String × String)) (id : CaseId)

def keys : List Bytes := pairs.map fun pair => Key.ofPair pair.1 pair.2

def addAll (postings : Postings) : Postings :=
  pairs.foldl (fun postings pair => postings.add pair.1 pair.2 id) postings

def dropAll (postings : Postings) : Postings :=
  pairs.foldl (fun postings pair => postings.drop pair.1 pair.2 id) postings

variable {pairs id}

theorem mem_keys {key : Bytes} : key ∈ keys pairs ↔ ∃ pair ∈ pairs, Key.ofPair pair.1 pair.2 = key :=
  List.mem_map

theorem mem_addAll {postings : Postings} {other : CaseId} {key : Bytes} :
    other ∈ (addAll pairs id postings).idsAt key ↔ other ∈ postings.idsAt key ∨ other = id ∧ key ∈ keys pairs := by
  induction pairs generalizing postings with
  | nil => simp [addAll, keys]
  | cons pair rest ih =>
    have step : addAll (pair :: rest) id postings = addAll rest id (postings.add pair.1 pair.2 id) := rfl
    rw [step, ih, mem_add, or_assoc, ← and_or_left, keys, keys, List.map_cons, List.mem_cons]

-- A pair that comes twice is dropped twice, which is dropping it once.
theorem mem_dropAll {postings : Postings} {other : CaseId} {key : Bytes} :
    other ∈ (dropAll pairs id postings).idsAt key ↔
      other ∈ postings.idsAt key ∧ ¬ (other = id ∧ key ∈ keys pairs) := by
  induction pairs generalizing postings with
  | nil => simp [dropAll, keys]
  | cons pair rest ih =>
    have step : dropAll (pair :: rest) id postings = dropAll rest id (postings.drop pair.1 pair.2 id) := rfl
    rw [step, ih, mem_drop, and_assoc, ← not_or, ← and_or_left, keys, keys, List.map_cons, List.mem_cons]

theorem filled_addAll {postings : Postings} (filled : postings.Filled) : (addAll pairs id postings).Filled := by
  induction pairs generalizing postings with
  | nil => exact filled
  | cons pair rest ih => exact ih (filled_add filled pair.1 pair.2 id)

theorem filled_dropAll {postings : Postings} (filled : postings.Filled) : (dropAll pairs id postings).Filled := by
  induction pairs generalizing postings with
  | nil => exact filled
  | cons pair rest ih => exact ih (filled_drop filled pair.1 pair.2 id)

end Lists
end Casebook.Store.Postings
