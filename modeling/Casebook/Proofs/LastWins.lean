import Casebook.Proofs.Conjunction
import Casebook.Proofs.Records
import Casebook.Proofs.Steps

namespace Casebook

theorem lastOf_distinct {records : List Case} (distinct : (records.map Case.id).Nodup) {id : CaseId} {record : Case} :
    lastOf records id = some record ↔ record ∈ records ∧ record.id = id := by
  refine ⟨mem_of_lastOf, ?_⟩
  intro there
  have among : record ∈ records.filter (·.id == id) := by simpa using there
  obtain ⟨last, found⟩ := List.getLast?_isSome.mpr (List.ne_nil_of_mem among) |> Option.isSome_iff_exists.mp
  obtain ⟨member, same⟩ := mem_of_lastOf found
  rw [← List.inj_on_of_nodup_map distinct member there.1 (same.trans there.2.symm)]
  exact found

namespace Store
variable {held : CaseId → Option Case} {store other : Store}

structure SameAnswers (store other : Store) : Prop where
  get : ∀ id, store.get id = other.get id
  size : store.size = other.size
  ids : store.ids = other.ids
  withColumns : ∀ names values, store.withColumns names values = other.withColumns names values
  withEdge : ∀ name value, store.withEdge name value = other.withEdge name value

theorem Posted.same_find {pairs : Case → List (String × String)} {postings others : Postings}
    (posted : Posted pairs held postings) (posted' : Posted pairs held others) (name value : String) :
    postings.find name value = others.find name value := by
  apply IdSet.eq_of_members
  intro id
  rw [posted.find, posted'.find]

theorem Holds.same (holds : Holds held store) (holds' : Holds held other) : SameAnswers store other := by
  obtain ⟨ids, listed, ascending, members, size⟩ := holds.answers.ids
  obtain ⟨ids', listed', ascending', members', size'⟩ := holds'.answers.ids
  have equal : (⟨ids, ascending⟩ : IdSet) = ⟨ids', ascending'⟩ := by
    apply IdSet.eq_of_members
    intro id
    exact (members id).trans (members' id).symm
  cases equal
  refine ⟨?_, size.trans size'.symm, listed.trans listed'.symm, ?_, ?_⟩
  · intro id
    rw [holds.get, holds'.get]
  · intro names values
    unfold Store.withColumns Postings.findAll
    simp only [holds.columns.same_find holds'.columns]
  · intro name value
    exact holds.edges.same_find holds'.edges name value

def filled (records : List Case) : Store := records.foldl (fun store record => (store.put record).2) .empty

theorem filled_concat (records : List Case) (record : Case) :
    filled (records ++ [record]) = ((filled records).put record).2 := by
  simp [filled]

theorem holds_filled (records : List Case) : Holds (lastOf records) (filled records) := by
  induction records using List.reverseRecOn with
  | nil => exact holds_empty
  | append_singleton records record ih =>
    have further := (ih.put record).2
    rw [← overlaid_single, ← overlaid_nothing records, ← overlaid_append, overlaid_nothing] at further
    rwa [filled_concat]

end Store

namespace Command
open Store

variable {held : CaseId → Option Case} {store : Store} {inputs : List ImportedCase}

def importing (inputs : List ImportedCase) (store : Store) : Store := (putAll (inputs.map ImportedCase.toCase) store).2

def lastInput (inputs : List ImportedCase) (id : CaseId) : Option ImportedCase := (inputs.filter (·.id == id)).getLast?

-- The last input of each id, and under the other ids what was held before.
structure Survivors (store : Store) (inputs : List ImportedCase) (records : List Case) : Prop where
  distinct : (records.map Case.id).Nodup
  members : ∀ record, record ∈ records ↔
    (∃ input, lastInput inputs record.id = some input ∧ record = input.toCase) ∨
      lastInput inputs record.id = none ∧ store.get record.id = .ok (some record)

structure LastWins (store : Store) (inputs : List ImportedCase) : Prop where
  done : ∀ content format, said content = some inputs → runImport content format store =
    (.ok (Report.message ("Imported " ++ toString inputs.length ++ " case(s)") format), importing inputs store)
  imported : ∀ id input, lastInput inputs id = some input →
    (importing inputs store).get id = .ok (some input.toCase)
  others : ∀ id, lastInput inputs id = none → (importing inputs store).get id = store.get id
  survivors : ∃ records, Survivors store inputs records
  -- In whatever order the survivors are put. None of the puts fails.
  fresh : ∀ records, Survivors store inputs records →
    (∀ before record, before ++ [record] <+: records → ((filled before).put record).1 = .ok ()) ∧
      SameAnswers (importing inputs store) (filled records)
  again : SameAnswers (importing inputs (importing inputs store)) (importing inputs store)
  joined : ∀ more, SameAnswers (importing more (importing inputs store)) (importing (inputs ++ more) store)
  -- Rearranged so that inputs of one id stay in their order.
  reordered : ∀ others : List ImportedCase, (∀ id, others.filter (·.id == id) = inputs.filter (·.id == id)) →
    SameAnswers (importing others store) (importing inputs store)

theorem lastOf_inputs (inputs : List ImportedCase) (id : CaseId) :
    lastOf (inputs.map ImportedCase.toCase) id = (lastInput inputs id).map ImportedCase.toCase := by
  have kept : (fun input : ImportedCase => input.toCase.id == id) = fun input => input.id == id := by
    funext input
    rw [input.toCase_kept.1]
  rw [lastOf, List.filter_map, List.getLast?_map, lastInput, ← kept]
  rfl

theorem importing_holds (holds : Holds held store) (inputs : List ImportedCase) :
    Holds (overlaid held (inputs.map ImportedCase.toCase)) (importing inputs store) := (holds.putAll _).2

theorem overlaid_same {records others : List Case} (same : lastOf records = lastOf others) :
    overlaid held records = overlaid held others := by
  funext id
  rw [overlaid, overlaid, same]

theorem overlaid_again (records : List Case) : overlaid (overlaid held records) records = overlaid held records := by
  funext id
  simp only [overlaid]
  cases lastOf records id <;> rfl

theorem overlaid_iff (holds : Holds held store) {record : Case} :
    overlaid held (inputs.map ImportedCase.toCase) record.id = some record ↔
      (∃ input, lastInput inputs record.id = some input ∧ record = input.toCase) ∨
        lastInput inputs record.id = none ∧ store.get record.id = .ok (some record) := by
  rw [overlaid, lastOf_inputs, holds.get]
  cases lastInput inputs record.id with
  | none => simp
  | some input => simp [eq_comm]

theorem survivors_exist (holds : Holds held store) (inputs : List ImportedCase) :
    ∃ records, Survivors store inputs records := by
  have after := importing_holds holds inputs
  obtain ⟨ids, _, ascending, members, _⟩ := after.answers.ids
  refine ⟨ids.filterMap (overlaid held (inputs.map ImportedCase.toCase)), ?_, ?_⟩
  · have named : (ids.filterMap (overlaid held (inputs.map ImportedCase.toCase))).map Case.id = ids := by
      rw [List.map_filterMap]
      conv_rhs => rw [← List.filterMap_some (l := ids)]
      apply List.filterMap_congr
      intro id member
      obtain ⟨record, there⟩ := Option.isSome_iff_exists.mp ((members id).mp member)
      rw [there, Option.map_some, after.filed.own id record there]
    rw [named]
    exact ascending.imp UInt64.ne_of_lt
  · intro record
    rw [← overlaid_iff holds, List.mem_filterMap]
    constructor
    · intro listed
      obtain ⟨id, _, there⟩ := listed
      rw [after.filed.own id record there]
      exact there
    · intro there
      exact ⟨record.id, (members record.id).mpr (by rw [there]; rfl), there⟩

theorem survivors_held (holds : Holds held store) {records : List Case} (survivors : Survivors store inputs records) :
    lastOf records = overlaid held (inputs.map ImportedCase.toCase) := by
  have after := importing_holds holds inputs
  funext id
  apply Option.ext
  intro record
  rw [lastOf_distinct survivors.distinct, survivors.members, ← overlaid_iff holds]
  constructor
  · intro there
    exact there.2 ▸ there.1
  · intro there
    have same := after.filed.own id record there
    exact ⟨same.symm ▸ there, same⟩

theorem holds_lastWins (holds : Holds held store) (inputs : List ImportedCase) : LastWins store inputs where
  done _ format told := import_said holds told format
  imported id input last := by
    rw [(importing_holds holds inputs).get, overlaid, lastOf_inputs, last]
    rfl
  others id none := by
    rw [(importing_holds holds inputs).get, overlaid, lastOf_inputs, none, holds.get]
    rfl
  survivors := survivors_exist holds inputs
  fresh records survivors := by
    have fresh := holds_filled records
    rw [survivors_held holds survivors] at fresh
    refine ⟨?_, (importing_holds holds inputs).same fresh⟩
    intro before record _
    exact ((holds_filled before).put record).1
  again := by
    have twice := importing_holds (importing_holds holds inputs) inputs
    rw [overlaid_again] at twice
    exact twice.same (importing_holds holds inputs)
  joined more := by
    have apart := importing_holds (importing_holds holds inputs) more
    rw [← overlaid_append, ← List.map_append] at apart
    exact apart.same (importing_holds holds (inputs ++ more))
  reordered others same := by
    have lasts : lastOf (others.map ImportedCase.toCase) = lastOf (inputs.map ImportedCase.toCase) := by
      funext id
      rw [lastOf_inputs, lastOf_inputs, lastInput, lastInput, same]
    have rearranged := importing_holds holds others
    rw [overlaid_same lasts] at rearranged
    exact rearranged.same (importing_holds holds inputs)

-- After any commands, whatever has been imported before.
theorem imports_last_win (config : Config) (steps : List Step) (inputs : List ImportedCase) :
    LastWins (afterwards config steps .empty) inputs :=
  holds_lastWins (imports_held config steps) inputs

end Command
end Casebook
