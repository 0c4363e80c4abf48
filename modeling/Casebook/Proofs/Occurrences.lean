import Casebook.Proofs.Places
import Mathlib.Data.Finset.Card
import Mathlib.Data.List.Induction

namespace Casebook

section Occurrences
variable {α : Type} [DecidableEq α] {entries : List α}

-- What stands at those places of a list that have nothing equal in front of them.
def firstOccurrences (entries : List α) : List α :=
  (entries.zipIdx.filter fun placed => placed.1 ∉ entries.take placed.2).map Prod.fst

-- The last entry counts where it is new. Whether the others count does not depend on it.
theorem firstOccurrences_concat (entries : List α) (last : α) :
    firstOccurrences (entries ++ [last]) =
      if last ∈ entries then firstOccurrences entries else firstOccurrences entries ++ [last] := by
  have others : (entries.zipIdx.filter fun placed => placed.1 ∉ (entries ++ [last]).take placed.2) =
      entries.zipIdx.filter fun placed => placed.1 ∉ entries.take placed.2 := by
    apply List.filter_congr
    intro placed member
    have below := List.snd_lt_of_mem_zipIdx member
    rw [List.take_append_of_le_length (by omega)]
  unfold firstOccurrences
  rw [List.zipIdx_append, List.filter_append, List.map_append, others]
  by_cases known : last ∈ entries
  · simp [known]
  · simp [known]

theorem mem_firstOccurrences {entry : α} : entry ∈ firstOccurrences entries ↔ entry ∈ entries := by
  induction entries using List.reverseRecOn with
  | nil => rfl
  | append_singleton entries last ih =>
    rw [firstOccurrences_concat, List.mem_append, List.mem_singleton]
    split
    · rename_i known
      constructor
      · intro first
        exact .inl (ih.mp first)
      · intro either
        rcases either with member | rfl
        · exact ih.mpr member
        · exact ih.mpr known
    · simp [ih]

theorem firstOccurrences_distinct (distinct : entries.Nodup) : firstOccurrences entries = entries := by
  induction entries using List.reverseRecOn with
  | nil => rfl
  | append_singleton entries last ih =>
    rw [← List.concat_eq_append, List.nodup_concat] at distinct
    rw [firstOccurrences_concat, if_neg distinct.1, ih distinct.2]

end Occurrences

theorem distinctIds_concat (ids : List CaseId) (last : CaseId) :
    distinctIds (ids ++ [last]) = if last ∈ ids then distinctIds ids else distinctIds ids ++ [last] := by
  induction ids with
  | nil => rfl
  | cons first rest ih =>
    rw [List.cons_append, distinctIds, distinctIds, ih]
    by_cases same : last = first
    · subst same
      split <;> simp
    · by_cases known : last ∈ rest
      · simp [known]
      · simp [known, same]

namespace Roster
variable {roster : Roster} {other : CaseId} {position : Nat}

def enrol (roster : Roster) (id : CaseId) : Roster where
  ids := if id ∈ roster.ids then roster.ids else roster.ids ++ [id]
  distinct := by
    split
    · exact roster.distinct
    · rename_i new
      rw [← List.concat_eq_append]
      exact roster.distinct.concat new

theorem ofIds_concat (ids : List CaseId) (id : CaseId) : ofIds (ids ++ [id]) = (ofIds ids).enrol id := by
  simp [ofIds, enrol, distinctIds_concat, mem_distinctIds]

theorem ofIds_append (ids more : List CaseId) : ofIds (ids ++ more) = more.foldl enrol (ofIds ids) := by
  induction more using List.reverseRecOn with
  | nil => simp
  | append_singleton more id ih =>
    rw [← List.append_assoc, ofIds_concat, ih, List.foldl_append]
    rfl

theorem ofIds_firsts (ids : List CaseId) : (ofIds ids).ids = firstOccurrences ids := by
  induction ids using List.reverseRecOn with
  | nil => rfl
  | append_singleton ids id ih =>
    rw [ofIds_concat, firstOccurrences_concat, ← ih]
    simp [enrol, ofIds, mem_distinctIds]

theorem positionOf_enrol (roster : Roster) (id other : CaseId) :
    (roster.enrol id).positionOf other =
      (roster.positionOf other).or (if id = other then some roster.size else none) := by
  unfold positionOf enrol
  dsimp only
  split
  · rename_i known
    by_cases same : id = other
    · subst same
      obtain ⟨position, there⟩ := Option.isSome_iff_exists.mp (List.isSome_idxOf?.mpr known)
      rw [there, Option.some_or]
    · rw [if_neg same, Option.or_none]
  · rw [List.idxOf?, List.findIdx?_append]
    by_cases same : id = other
    · simp [same, size]
    · simp [same]

theorem enrol_keeps (kept : roster.positionOf other = some position) (id : CaseId) :
    (roster.enrol id).positionOf other = some position := by
  rw [positionOf_enrol, kept, Option.some_or]

theorem enrolled_keeps (kept : roster.positionOf other = some position) (more : List CaseId) :
    (more.foldl enrol roster).positionOf other = some position := by
  induction more generalizing roster with
  | nil => exact kept
  | cons id rest ih => exact ih (enrol_keeps kept id)

-- A roster in two tables, the ids by their positions and the positions by their ids.
structure Tables where
  ids : List CaseId
  positions : Std.HashMap CaseId Nat

namespace Tables

def add (tables : Tables) (id : CaseId) : Tables :=
  if tables.positions.contains id then tables
  else ⟨tables.ids ++ [id], tables.positions.insert id tables.ids.length⟩

def ofIds (ids : List CaseId) : Tables := ids.foldl add ⟨[], ∅⟩

structure Mirrors (tables : Tables) (roster : Roster) : Prop where
  size : tables.ids.length = roster.size
  idAt : ∀ position : Nat, tables.ids[position]? = roster.idAt position
  positionOf : ∀ id, tables.positions[id]? = roster.positionOf id
  contains : ∀ id, tables.positions.contains id = roster.contains id

theorem mirrors_of {tables : Tables} (ids : tables.ids = roster.ids)
    (positions : ∀ id, tables.positions[id]? = roster.positionOf id) : tables.Mirrors roster where
  size := by rw [ids, Roster.size]
  idAt position := by rw [ids, Roster.idAt]
  positionOf := positions
  contains id := by
    rw [Std.HashMap.contains_eq_isSome_getElem?, positions, Roster.positionOf, Roster.contains, Bool.eq_iff_iff]
    simp

theorem Mirrors.ids {tables : Tables} (mirrors : tables.Mirrors roster) : tables.ids = roster.ids :=
  List.ext_getElem? mirrors.idAt

theorem Mirrors.add {tables : Tables} (mirrors : tables.Mirrors roster) (id : CaseId) :
    (tables.add id).Mirrors (roster.enrol id) := by
  have known : tables.positions.contains id = true ↔ id ∈ roster.ids := by
    rw [mirrors.contains, Roster.contains, List.contains_iff_mem]
  unfold Tables.add
  split
  · rename_i there
    have same : roster.enrol id = roster := by simp [enrol, known.mp there]
    rwa [same]
  · rename_i new
    apply mirrors_of
    · simp [enrol, known.not.mp new, mirrors.ids]
    · intro other
      rw [Std.HashMap.getElem?_insert, mirrors.positionOf, mirrors.size, positionOf_enrol]
      by_cases same : id = other
      · subst same
        have unplaced : roster.positionOf id = none := List.idxOf?_eq_none_iff.mpr (known.not.mp new)
        simp [unplaced]
      · simp [same]

-- One pass over the ids, which puts down a position for each that has none, makes the roster.
theorem ofIds_mirrors (ids : List CaseId) : (ofIds ids).Mirrors (Roster.ofIds ids) := by
  induction ids using List.reverseRecOn with
  | nil => exact mirrors_of rfl (by simp [ofIds, Roster.ofIds, distinctIds, Roster.positionOf])
  | append_singleton ids id ih =>
    rw [ofIds, List.foldl_append, ofIds_concat]
    exact ih.add id

end Tables

theorem ofIds_size (ids : List CaseId) : (ofIds ids).size = ids.toFinset.card := by
  have same : (distinctIds ids).toFinset = ids.toFinset := by
    ext id
    simp [mem_distinctIds]
  rw [← same, List.toFinset_card_of_nodup (distinctIds_nodup ids)]
  rfl

-- A roster numbers the ids of a list as they come first, without a gap and without a repeat. More ids behind the list
-- change no number, and the ids alone tell the roster.
structure Numbers (roster : Roster) (ids : List CaseId) : Prop where
  firsts : roster.ids = firstOccurrences ids
  inverse : ∀ position id, roster.idAt position = some id ↔ roster.positionOf id = some position
  contains : ∀ id, roster.contains id = true ↔ id ∈ ids
  idSet : ∀ id, id ∈ roster.idSet ↔ id ∈ ids
  size : roster.size = ids.toFinset.card
  dense : ∀ position, (roster.idAt position).isSome = true ↔ position < roster.size
  again : ofIds roster.ids = roster
  kept : ∀ more id position, roster.positionOf id = some position →
    (ofIds (ids ++ more)).positionOf id = some position

theorem ofIds_numbers (ids : List CaseId) : (ofIds ids).Numbers ids where
  firsts := ofIds_firsts ids
  inverse _ _ := idAt_iff
  contains id := by
    rw [contains, List.contains_iff_mem]
    exact mem_distinctIds
  idSet id := mem_idSet.trans mem_distinctIds
  size := ofIds_size ids
  dense _ := idAt_isSome
  again := by simp [ofIds, distinctIds_distinct (distinctIds_nodup ids)]
  kept more id position there := by
    rw [ofIds_append]
    exact enrolled_keeps there more

example : (ofIds [7, 3, 7, 9, 3]).ids = [7, 3, 9] := by decide

end Roster
end Casebook
