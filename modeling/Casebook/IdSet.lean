namespace Casebook

abbrev CaseId := UInt64

def insertAscending (id : CaseId) : List CaseId → List CaseId
  | [] => [id]
  | first :: rest =>
    if id < first then id :: first :: rest
    else if id = first then first :: rest
    else first :: insertAscending id rest

theorem mem_insertAscending {id other : CaseId} {ids : List CaseId} :
    other ∈ insertAscending id ids ↔ other = id ∨ other ∈ ids := by
  induction ids with
  | nil => simp [insertAscending]
  | cons first rest ih =>
    unfold insertAscending
    split
    · simp
    · split
      · rename_i same
        simp [same]
      · simp only [List.mem_cons, ih]
        constructor
        · rintro (head | new | old)
          · exact .inr (.inl head)
          · exact .inl new
          · exact .inr (.inr old)
        · rintro (new | head | old)
          · exact .inr (.inl new)
          · exact .inl head
          · exact .inr (.inr old)

theorem insertAscending_ascending {id : CaseId} {ids : List CaseId} (ascending : ids.Pairwise (· < ·)) :
    (insertAscending id ids).Pairwise (· < ·) := by
  induction ids with
  | nil => simp [insertAscending]
  | cons first rest ih =>
    obtain ⟨above, tail⟩ := List.pairwise_cons.mp ascending
    unfold insertAscending
    split
    · rename_i below
      refine List.pairwise_cons.mpr ⟨?_, ascending⟩
      intro other member
      rcases List.mem_cons.mp member with rfl | old
      · exact below
      · exact UInt64.lt_trans below (above other old)
    · rename_i notBelow
      split
      · exact ascending
      · rename_i different
        refine List.pairwise_cons.mpr ⟨?_, ih tail⟩
        intro other member
        rcases mem_insertAscending.mp member with rfl | old
        · rcases UInt64.lt_or_lt_of_ne different with less | more
          · exact absurd less notBelow
          · exact more
        · exact above other old

structure IdSet where
  toList : List CaseId
  ascending : toList.Pairwise (· < ·)
  deriving DecidableEq, Repr

namespace IdSet

def empty : IdSet := ⟨[], .nil⟩

def insert (id : CaseId) (ids : IdSet) : IdSet :=
  ⟨insertAscending id ids.toList, insertAscending_ascending ids.ascending⟩

def ofList (ids : List CaseId) : IdSet := ids.foldr insert empty

instance : Membership CaseId IdSet := ⟨fun ids id => id ∈ ids.toList⟩

instance (id : CaseId) (ids : IdSet) : Decidable (id ∈ ids) := inferInstanceAs (Decidable (id ∈ ids.toList))

def contains (ids : IdSet) (id : CaseId) : Bool := ids.toList.contains id

def size (ids : IdSet) : Nat := ids.toList.length

def isEmpty (ids : IdSet) : Bool := ids.toList.isEmpty

def keep (wanted : CaseId → Bool) (ids : IdSet) : IdSet :=
  ⟨ids.toList.filter wanted, ids.ascending.filter wanted⟩

def inter (left right : IdSet) : IdSet := left.keep right.contains

theorem mem_exact {id : CaseId} {ids : IdSet} : id ∈ ids ↔ id ∈ ids.toList := Iff.rfl

theorem contains_exact {id : CaseId} {ids : IdSet} : ids.contains id = true ↔ id ∈ ids := by
  simp [contains, mem_exact]

theorem not_mem_empty (id : CaseId) : ¬ id ∈ empty := by simp [mem_exact, empty]

theorem mem_insert {id other : CaseId} {ids : IdSet} : other ∈ ids.insert id ↔ other = id ∨ other ∈ ids :=
  mem_insertAscending

theorem mem_ofList {id : CaseId} {ids : List CaseId} : id ∈ ofList ids ↔ id ∈ ids := by
  induction ids with
  | nil => simp [ofList, mem_exact, empty]
  | cons first rest ih =>
    have step : id ∈ ofList (first :: rest) ↔ id = first ∨ id ∈ ofList rest := mem_insert
    rw [step, ih, List.mem_cons]

theorem mem_keep {id : CaseId} {wanted : CaseId → Bool} {ids : IdSet} :
    id ∈ ids.keep wanted ↔ id ∈ ids ∧ wanted id = true := by
  simp [mem_exact, keep]

theorem mem_inter {id : CaseId} {left right : IdSet} : id ∈ left.inter right ↔ id ∈ left ∧ id ∈ right := by
  rw [inter, mem_keep, contains_exact]

theorem isEmpty_exact {ids : IdSet} : ids.isEmpty = true ↔ ∀ id, ¬ id ∈ ids := by
  simp [isEmpty, mem_exact, List.eq_nil_iff_forall_not_mem]

theorem eq_of_members {left right : IdSet} (same : ∀ id, id ∈ left ↔ id ∈ right) : left = right := by
  have permuted : left.toList.Perm right.toList :=
    (List.perm_ext_iff_of_nodup (left.ascending.imp UInt64.ne_of_lt) (right.ascending.imp UInt64.ne_of_lt)).mpr same
  have equal : left.toList = right.toList :=
    permuted.eq_of_pairwise (fun a b _ _ below above => absurd above (UInt64.lt_asymm below))
      left.ascending right.ascending
  cases left
  cases right
  cases equal
  rfl

theorem eq_narrowed_iff {whole again : IdSet} {meets : CaseId → Prop}
    (narrowed : ∀ id, id ∈ whole ↔ id ∈ again ∧ meets id) : again = whole ↔ ∀ id ∈ again, meets id := by
  constructor
  · intro equal id member
    rw [equal] at member
    exact ((narrowed id).mp member).2
  · intro all
    refine eq_of_members fun id => ?_
    rw [narrowed]
    exact ⟨fun member => ⟨member, all id member⟩, And.left⟩

theorem exists_mem {ids : IdSet} (something : ¬ ids.isEmpty = true) : ∃ id, id ∈ ids :=
  List.exists_mem_of_ne_nil ids.toList fun nothing => something (List.isEmpty_iff.mpr nothing)

end IdSet
end Casebook
