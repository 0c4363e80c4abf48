import Casebook.Proofs.Postings

namespace Casebook.Store.Postings

theorem mem_narrow {running : IdSet} {sets : List IdSet} {id : CaseId} :
    id ∈ narrow running sets ↔ id ∈ running ∧ ∀ ids ∈ sets, id ∈ ids := by
  induction sets generalizing running with
  | nil => simp [narrow]
  | cons next rest ih =>
    unfold narrow
    split
    · rename_i nothing
      have nobody := IdSet.isEmpty_exact.mp nothing id
      simp [nobody]
    · rw [ih, IdSet.mem_inter, List.forall_mem_cons, and_assoc]

def narrowing : List IdSet → IdSet
  | [] => .empty
  | first :: rest => narrow first rest

-- The same without a stop.
def intersection : List IdSet → IdSet
  | [] => .empty
  | first :: rest => rest.foldl IdSet.inter first

def Common (sets : List IdSet) (id : CaseId) : Prop := sets ≠ [] ∧ ∀ ids ∈ sets, id ∈ ids

theorem mem_narrowing {sets : List IdSet} {id : CaseId} : id ∈ narrowing sets ↔ Common sets id := by
  cases sets with
  | nil => simp [narrowing, Common, IdSet.not_mem_empty]
  | cons first rest => simp [narrowing, Common, mem_narrow]

theorem mem_foldl_inter {running : IdSet} {sets : List IdSet} {id : CaseId} :
    id ∈ sets.foldl IdSet.inter running ↔ id ∈ running ∧ ∀ ids ∈ sets, id ∈ ids := by
  induction sets generalizing running with
  | nil => simp
  | cons next rest ih => rw [List.foldl_cons, ih, IdSet.mem_inter, List.forall_mem_cons, and_assoc]

theorem mem_intersection {sets : List IdSet} {id : CaseId} : id ∈ intersection sets ↔ Common sets id := by
  cases sets with
  | nil => simp [intersection, Common, IdSet.not_mem_empty]
  | cons first rest => simp [intersection, Common, mem_foldl_inter]

theorem Common.perm {sets others : List IdSet} (permuted : sets.Perm others) {id : CaseId} :
    Common sets id ↔ Common others id := by
  have nothing : sets = [] ↔ others = [] := by
    rw [← List.length_eq_zero_iff, ← List.length_eq_zero_iff, permuted.length_eq]
  simp only [Common, ne_eq, nothing, permuted.mem_iff]

theorem conjunction_narrowing (sets : List IdSet) :
    conjunction sets = narrowing (sets.mergeSort fun left right => left.size ≤ right.size) := by
  unfold conjunction narrowing
  split <;> simp [*]

theorem mem_conjunction {sets : List IdSet} {id : CaseId} : id ∈ conjunction sets ↔ Common sets id := by
  rw [conjunction_narrowing, mem_narrowing, Common.perm (List.mergeSort_perm _ _)]

-- Pairs beyond the shorter list are not asked for; where nothing is asked for nothing is found.
theorem mem_findAll {postings : Postings} {names values : List String} {id : CaseId} :
    id ∈ postings.findAll names values ↔
      names.zip values ≠ [] ∧ ∀ pair ∈ names.zip values, id ∈ postings.find pair.1 pair.2 := by
  rw [findAll, mem_conjunction, Common, List.forall_mem_map, Ne, List.map_eq_nil_iff]

theorem forall_zip {names values : List String} (holds : String → String → Prop) :
    (∀ pair ∈ names.zip values, holds pair.1 pair.2) ↔
      ∀ place, ∀ below : place < min names.length values.length, holds names[place] values[place] := by
  rw [List.forall_mem_iff_forall_getElem]
  simp only [List.length_zip, List.getElem_zip]

theorem zip_before_append (names more values others : List String) :
    names.zip values <+: (names ++ more).zip (values ++ others) := by
  induction names generalizing values with
  | nil => simp
  | cons name names ih =>
    cases values with
    | nil => simp
    | cons value values => simpa using ih values

variable (postings : Postings) (names values : List String)

def answers : List IdSet := (names.zip values).map fun pair => postings.find pair.1 pair.2

-- A set of ids that is found for lists of names and values, whatever is done to find it.
structure Conjunctive (found : IdSet) : Prop where
  nothing : min names.length values.length = 0 → found = .empty
  members : 0 < min names.length values.length → ∀ id, id ∈ found ↔
    ∀ place, ∀ below : place < min names.length values.length, id ∈ postings.find names[place] values[place]
  ordered : ∀ sets, sets.Perm (postings.answers names values) → narrowing sets = found ∧ intersection sets = found
  repeated : ∀ names' values', (∀ pair, pair ∈ names'.zip values' ↔ pair ∈ names.zip values) →
    postings.findAll names' values' = found
  appended : 0 < min names.length values.length → ∀ more others,
    ∀ id ∈ postings.findAll (names ++ more) (values ++ others), id ∈ found

theorem paired_iff {names values : List String} : names.zip values ≠ [] ↔ 0 < min names.length values.length := by
  rw [← List.length_zip, List.length_pos_iff]

theorem findAll_conjunctive : Conjunctive postings names values (postings.findAll names values) where
  nothing none := by
    apply IdSet.eq_of_members
    intro id
    have unpaired : names.zip values = [] := List.length_eq_zero_iff.mp (List.length_zip.trans none)
    simp [mem_findAll, unpaired, IdSet.not_mem_empty]
  members some id := by
    rw [mem_findAll, and_iff_right (paired_iff.mpr some)]
    exact forall_zip fun name value => id ∈ postings.find name value
  ordered sets permuted := by
    have common : ∀ id, id ∈ postings.findAll names values ↔ Common sets id := by
      intro id
      rw [findAll, mem_conjunction]
      exact (Common.perm permuted).symm
    refine ⟨IdSet.eq_of_members fun id => ?_, IdSet.eq_of_members fun id => ?_⟩
    · rw [mem_narrowing, common]
    · rw [mem_intersection, common]
  repeated names' values' same := by
    apply IdSet.eq_of_members
    intro id
    have none : names'.zip values' = [] ↔ names.zip values = [] := by
      simp only [List.eq_nil_iff_forall_not_mem, same]
    simp only [mem_findAll, ne_eq, none, same]
  appended some more others id member := by
    rw [mem_findAll] at member ⊢
    refine ⟨paired_iff.mpr some, fun pair asked => member.2 pair ?_⟩
    exact (zip_before_append names more values others).subset asked

-- Where nothing is asked for yet nothing is found, so there the first pair can only add.
theorem first_pair_adds :
    ¬ ∀ id ∈ (empty.add "name" "Bob" 1).findAll ([] ++ ["name"]) ([] ++ ["Bob"]),
      id ∈ (empty.add "name" "Bob" 1).findAll [] [] := by
  intro shrinks
  have found : 1 ∈ (empty.add "name" "Bob" 1).findAll ["name"] ["Bob"] := by
    rw [findAll_single, mem_find, mem_add]
    exact .inr ⟨rfl, rfl⟩
  exact (mem_findAll.mp (shrinks 1 found)).1 rfl

end Casebook.Store.Postings
