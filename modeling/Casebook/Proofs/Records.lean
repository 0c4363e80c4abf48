import Casebook.Import
import Mathlib.Data.List.Nodup

namespace Casebook

namespace Case

def Distinct (record : Case) : Prop := (record.columns.map Prod.fst).Nodup

theorem setPair_names (name value : String) (columns : List (String × String)) :
    (setPair name value columns).map Prod.fst =
      if name ∈ columns.map Prod.fst then columns.map Prod.fst else columns.map Prod.fst ++ [name] := by
  induction columns with
  | nil => rfl
  | cons column rest ih =>
    unfold setPair
    by_cases same : column.1 = name
    · simp [same]
    · rw [if_neg same, List.map_cons, ih]
      by_cases there : name ∈ rest.map Prod.fst
      · simp [there]
      · simp [there, Ne.symm same]

theorem Distinct.setColumn {record : Case} (distinct : record.Distinct) (name value : String) :
    (record.setColumn name value).Distinct := by
  unfold Distinct Case.setColumn
  rw [setPair_names]
  split
  · exact distinct
  · rename_i new
    apply List.nodup_append.mpr
    refine ⟨distinct, List.nodup_singleton name, ?_⟩
    intro other member last same
    cases List.mem_singleton.mp same
    exact ne_of_mem_of_not_mem member new

theorem Distinct.column_iff {record : Case} (distinct : record.Distinct) {name value : String} :
    record.column? name = some value ↔ (name, value) ∈ record.columns := by
  unfold Distinct at distinct
  unfold column?
  generalize record.columns = columns at distinct ⊢
  induction columns with
  | nil => simp
  | cons column rest ih =>
    obtain ⟨new, others⟩ := List.nodup_cons.mp distinct
    by_cases same : column.1 = name
    · subst same
      have alone : (column.1, value) ∉ rest := fun member => new (List.mem_map.mpr ⟨_, member, rfl⟩)
      obtain ⟨name, held⟩ := column
      simp [alone, eq_comm]
    · have passed : column ≠ (name, value) := fun equal => same (congrArg Prod.fst equal)
      simpa [same, passed.symm] using ih others

end Case

namespace ImportedCase

theorem entries_kept (set : String → String → Case → Case)
    (kept : ∀ name value record, record.Distinct →
      (set name value record).id = record.id ∧ (set name value record).Distinct)
    (entries : List (String × String)) {record : Case} (distinct : record.Distinct) :
    (entries.foldl (fun record entry => set entry.1 entry.2 record) record).id = record.id ∧
      (entries.foldl (fun record entry => set entry.1 entry.2 record) record).Distinct := by
  induction entries generalizing record with
  | nil => exact ⟨rfl, distinct⟩
  | cons entry rest ih =>
    obtain ⟨same, still⟩ := kept entry.1 entry.2 record distinct
    obtain ⟨id, further⟩ := ih still
    exact ⟨id.trans same, further⟩

theorem toCase_kept (input : ImportedCase) : input.toCase.id = input.id ∧ input.toCase.Distinct := by
  have bare : Case.Distinct { id := input.id } := List.nodup_nil
  have columned := entries_kept Case.setColumn (fun name value _ distinct => ⟨rfl, distinct.setColumn name value⟩)
    input.columns.entries bare
  have edged := entries_kept Case.addEdge (fun _ _ _ distinct => ⟨rfl, distinct⟩) input.indices.entries columned.2
  exact ⟨edged.1.trans columned.1, edged.2⟩

end ImportedCase
end Casebook
