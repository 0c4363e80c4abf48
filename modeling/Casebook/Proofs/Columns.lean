import Casebook.Proofs.History
import Casebook.Proofs.Records

namespace Casebook

namespace Case

variable {record : Case} {name value : String}

-- The record has the value under the name, but in front of it another one, which is what it gives.
def Hides (record : Case) (name value : String) : Prop :=
  (name, value) ∈ record.columns ∧ ∃ other, record.column? name = some other ∧ other ≠ value

theorem column_mem (given : record.column? name = some value) : (name, value) ∈ record.columns := by
  obtain ⟨column, first, rfl⟩ := Option.map_eq_some_iff.mp given
  have same : column.1 = name := by simpa using List.find?_some first
  have member := List.mem_of_find?_eq_some first
  rwa [← same]

theorem column_of_mem (member : (name, value) ∈ record.columns) : ∃ other, record.column? name = some other := by
  have found : (record.columns.find? fun column => column.1 == name).isSome = true :=
    List.find?_isSome.mpr ⟨_, member, by simp⟩
  obtain ⟨column, first⟩ := Option.isSome_iff_exists.mp found
  exact ⟨column.2, by rw [column?, first, Option.map_some]⟩

theorem mem_columns_iff :
    (name, value) ∈ record.columns ↔ record.column? name = some value ∨ record.Hides name value := by
  constructor
  · intro member
    obtain ⟨other, given⟩ := column_of_mem member
    by_cases same : other = value
    · exact .inl (same ▸ given)
    · exact .inr ⟨member, other, given, same⟩
  · rintro (given | hidden)
    · exact column_mem given
    · exact hidden.1

theorem Hides.not_given (hidden : record.Hides name value) : record.column? name ≠ some value := by
  obtain ⟨_, other, given, different⟩ := hidden
  rw [given]
  exact fun same => different (Option.some.inj same)

theorem Distinct.hides_nothing (distinct : record.Distinct) : ¬ record.Hides name value := by
  intro hidden
  exact hidden.not_given (distinct.column_iff.mpr hidden.1)

end Case

namespace Store

variable {changes : List Change} {id : CaseId} {record : Case} {name : String}

theorem put_of_lastHeld (there : lastHeld changes id = some record) : Change.put record ∈ changes := by
  obtain ⟨change, last, left⟩ := Option.bind_eq_some_iff.mp there
  have member := List.mem_reverse.mp (List.mem_of_find?_eq_some last)
  cases change with
  | put own =>
    cases left
    exact member
  | remove own => cases left

theorem stored_iff : (changed changes empty).get id = .ok (some record) ↔ lastHeld changes id = some record := by
  rw [(changed_holds changes).get, Except.ok.injEq]

-- By each of the columns of what was put last, whatever the others say.
theorem found_iff (short : ∀ record, .put record ∈ changes → ∀ column ∈ record.columns, Key.IsShort column.1)
    (asked : Key.IsShort name) (value : String) (id : CaseId) :
    id ∈ (changed changes empty).withColumns [name] [value] ↔
      ∃ record, (changed changes empty).get id = .ok (some record) ∧ (name, value) ∈ record.columns := by
  have stored : ∀ id record, lastHeld changes id = some record → ∀ column ∈ record.columns, Key.IsShort column.1 :=
    fun _ record there => short record (put_of_lastHeld there)
  rw [(changed_holds changes).answers.withShortColumns name asked stored]
  simp only [stored_iff]

def FoundAsGiven (store : Store) (id : CaseId) (name value : String) : Prop :=
  id ∈ store.withColumns [name] [value] ↔
    ∃ record, store.get id = .ok (some record) ∧ record.column? name = some value

theorem given_found_iff (short : ∀ record, .put record ∈ changes → ∀ column ∈ record.columns, Key.IsShort column.1)
    (asked : Key.IsShort name) (value : String) (id : CaseId) :
    (FoundAsGiven (changed changes empty) id name value ↔
        ∀ record, (changed changes empty).get id = .ok (some record) → ¬ record.Hides name value) ∧
      ((∀ record, .put record ∈ changes → record.Distinct) →
        FoundAsGiven (changed changes empty) id name value) := by
  have agreeing : FoundAsGiven (changed changes empty) id name value ↔
      ∀ record, (changed changes empty).get id = .ok (some record) → ¬ record.Hides name value := by
    unfold FoundAsGiven
    rw [found_iff short asked]
    constructor
    · intro same record there hidden
      obtain ⟨other, stored, given⟩ := same.mp ⟨record, there, hidden.1⟩
      cases there.symm.trans stored
      exact hidden.not_given given
    · intro shown
      constructor
      · rintro ⟨record, there, member⟩
        exact ⟨record, there, (Case.mem_columns_iff.mp member).resolve_right (shown record there)⟩
      · rintro ⟨record, there, given⟩
        exact ⟨record, there, Case.column_mem given⟩
  refine ⟨agreeing, fun distinct => agreeing.mpr fun record there => ?_⟩
  exact (distinct record (put_of_lastHeld (stored_iff.mp there))).hides_nothing

def restated : Case := { id := 1, columns := [("status", "open"), ("status", "closed")] }

theorem restated_stored : (changed [.put restated] empty).get 1 = .ok (some restated) := stored_iff.mpr (by decide)

theorem restated_short : ∀ record, .put record ∈ [Change.put restated] →
    ∀ column ∈ record.columns, Key.IsShort column.1 := by
  intro record member
  obtain rfl : record = restated := by simpa using member
  decide +kernel

theorem restated_found_first :
    ((∀ record, .put record ∈ [Change.put restated] → ∀ column ∈ record.columns, Key.IsShort column.1) ∧
      Key.IsShort "status") ∧
    FoundAsGiven (changed [.put restated] empty) 1 "status" "open" := by
  have asked : Key.IsShort "status" := by decide +kernel
  refine ⟨⟨restated_short, asked⟩, (given_found_iff restated_short asked "open" 1).1.mpr ?_⟩
  intro record there hidden
  obtain rfl : restated = record := by simpa [restated_stored] using there
  exact hidden.not_given (by decide)

theorem restated_found_second :
    (changed [.put restated] empty).get 1 = .ok (some restated) ∧ restated.column? "status" = some "open" ∧
      1 ∈ (changed [.put restated] empty).withColumns ["status"] ["closed"] ∧
      ¬ FoundAsGiven (changed [.put restated] empty) 1 "status" "closed" := by
  have found : 1 ∈ (changed [.put restated] empty).withColumns ["status"] ["closed"] :=
    (found_iff restated_short (by decide +kernel) "closed" 1).mpr ⟨restated, restated_stored, by decide⟩
  refine ⟨restated_stored, by decide, found, fun same => ?_⟩
  obtain ⟨record, there, given⟩ := same.mp found
  obtain rfl : restated = record := by simpa [restated_stored] using there
  exact absurd given (by decide)

end Store
end Casebook
