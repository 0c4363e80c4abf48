import Casebook.Proofs.Resolution
import Mathlib.Data.List.Nodup
import Mathlib.Data.List.Perm.Subperm
import Mathlib.Data.Set.Function

namespace Casebook

theorem distinctIds_distinct {ids : List CaseId} (distinct : ids.Nodup) : distinctIds ids = ids := by
  induction ids with
  | nil => rfl
  | cons id rest ih =>
    obtain ⟨new, others⟩ := List.nodup_cons.mp distinct
    rw [distinctIds, ih others]
    congr 1
    apply List.filter_eq_self.mpr
    intro other member
    simpa using ne_of_mem_of_not_mem member new

theorem count_below {ids : List CaseId} (ascending : ids.Pairwise (· < ·)) {position : Nat} {id : CaseId}
    (there : ids[position]? = some id) : ids.countP (· < id) = position := by
  induction ids generalizing position with
  | nil => simp at there
  | cons first rest ih =>
    obtain ⟨above, tail⟩ := List.pairwise_cons.mp ascending
    cases position with
    | zero =>
      cases there
      have nobody : rest.countP (· < id) = 0 := by
        apply List.countP_eq_zero.mpr
        intro other member
        simpa using UInt64.le_of_lt (above other member)
      rw [List.countP_cons, nobody]
      simp
    | succ position =>
      rw [List.getElem?_cons_succ] at there
      have below := above id (List.mem_of_getElem? there)
      simp [below, ih tail there]

namespace Roster
variable {roster : Roster} {ids : IdSet} {id : CaseId} {position : Nat}

theorem idAt_iff : roster.idAt position = some id ↔ roster.positionOf id = some position := by
  rw [idAt, positionOf, List.idxOf?_eq_some_iff, List.getElem?_eq_some_iff]
  constructor
  · intro there
    obtain ⟨below, same⟩ := there
    refine ⟨below, same, ?_⟩
    intro earlier before again
    have equal := roster.distinct.getElem_inj_iff.mp (again.trans same.symm)
    omega
  · intro first
    obtain ⟨below, same, _⟩ := first
    exact ⟨below, same⟩

theorem idAt_isSome : (roster.idAt position).isSome = true ↔ position < roster.size := by
  simp [idAt, size]

-- There are no more ids than words, so a word can hold every position.
theorem size_le (roster : Roster) : roster.size ≤ UInt64.size := by
  have distinct : (roster.ids.map UInt64.toNat).Nodup :=
    roster.distinct.map fun _ _ same => UInt64.toNat_inj.mp same
  have within : roster.ids.map UInt64.toNat ⊆ List.range UInt64.size := by
    intro number member
    obtain ⟨id, _, rfl⟩ := List.mem_map.mp member
    exact List.mem_range.mpr id.toNat_lt
  have bounded := (distinct.subperm within).length_le
  rwa [List.length_map, List.length_range] at bounded

theorem mem_of_idAt (there : roster.idAt position = some id) : id ∈ roster.ids := List.mem_of_getElem? there

theorem exists_idAt (member : id ∈ roster.ids) : ∃ position, roster.idAt position = some id :=
  List.mem_iff_getElem?.mp member

theorem positionOf_inj {other : CaseId} (here : roster.positionOf id = some position)
    (there : roster.positionOf other = some position) : id = other := by
  have same := (idAt_iff.mpr here).symm.trans (idAt_iff.mpr there)
  exact Option.some.inj same

theorem mem_positionsOf : position ∈ roster.positionsOf ids ↔ ∃ id ∈ ids, roster.idAt position = some id := by
  rw [positionsOf, List.mem_mergeSort, List.mem_filterMap]
  simp only [idAt_iff, IdSet.mem_exact]

theorem positionsOf_ascending (roster : Roster) (ids : IdSet) : (roster.positionsOf ids).Pairwise (· < ·) := by
  have sorted : (roster.positionsOf ids).Pairwise fun a b => decide (a ≤ b) = true := by
    apply List.pairwise_mergeSort
    · simp only [decide_eq_true_eq]
      intro a b c
      exact Nat.le_trans
    · intro a b
      simpa using Nat.le_total a b
  have distinct : (roster.positionsOf ids).Nodup := by
    apply (List.mergeSort_perm _ _).nodup_iff.mpr
    refine List.Nodup.filterMap ?_ (ids.ascending.imp UInt64.ne_of_lt)
    intro id other position here there
    exact positionOf_inj here there
  apply (sorted.and distinct).imp
  intro a b both
  exact Nat.lt_of_le_of_ne (of_decide_eq_true both.1) both.2

theorem positionsOf_length (within : ∀ id ∈ ids, id ∈ roster.ids) : (roster.positionsOf ids).length = ids.size := by
  rw [positionsOf, List.length_mergeSort, List.length_filterMap_eq_countP, IdSet.size, List.countP_eq_length]
  intro id member
  obtain ⟨position, there⟩ := exists_idAt (within id member)
  rw [idAt_iff.mp there]
  rfl

theorem positionsOf_bijOn (within : ∀ id ∈ ids, id ∈ roster.ids) :
    Set.BijOn roster.idAt {position | position ∈ roster.positionsOf ids} {there | ∃ id ∈ ids, there = some id} := by
  refine ⟨?_, ?_, ?_⟩
  · intro position placed
    obtain ⟨id, member, there⟩ := mem_positionsOf.mp placed
    exact ⟨id, member, there⟩
  · intro position placed other _ same
    obtain ⟨id, _, there⟩ := mem_positionsOf.mp placed
    have again := same.symm.trans there
    exact Option.some.inj ((idAt_iff.mp there).symm.trans (idAt_iff.mp again))
  · rintro _ ⟨id, member, rfl⟩
    obtain ⟨position, there⟩ := exists_idAt (within id member)
    exact ⟨position, mem_positionsOf.mpr ⟨id, member, there⟩, there⟩

theorem idAt_below (ascending : roster.ids.Pairwise (· < ·)) {later : Nat} {other : CaseId} (before : position < later)
    (here : roster.idAt position = some id) (there : roster.idAt later = some other) : id < other := by
  obtain ⟨_, rfl⟩ := List.getElem?_eq_some_iff.mp here
  obtain ⟨_, rfl⟩ := List.getElem?_eq_some_iff.mp there
  exact List.pairwise_iff_getElem.mp ascending position later _ _ before

end Roster
end Casebook
