import Casebook.Proofs.Postings
import Mathlib.Data.List.Nodup

namespace Casebook.Store.Postings

inductive Write where
  | add (name value : String) (id : CaseId)
  | drop (name value : String) (id : CaseId)
  deriving DecidableEq, Repr

namespace Write

def key : Write → Bytes
  | .add name value _ => Key.ofPair name value
  | .drop name value _ => Key.ofPair name value

def make (postings : Postings) : Write → Postings
  | .add name value id => postings.add name value id
  | .drop name value id => postings.drop name value id

def apply (ids : IdSet) : Write → IdSet
  | .add _ _ id => ids.insert id
  | .drop _ _ id => ids.keep (· != id)

def change : Write → Option Bytes → Option Bytes
  | .add _ _ id => addId id
  | .drop _ _ id => dropId id

end Write

def written (writes : List Write) (postings : Postings) : Postings := writes.foldl Write.make postings

def told (postings : Postings) (key : Bytes) : IdSet := IdSet.ofList (postings.idsAt key)

variable {postings : Postings} {write : Write} {writes : List Write} {key : Bytes}

theorem find_told (name value : String) : postings.find name value = postings.told (Key.ofPair name value) := by
  apply IdSet.eq_of_members
  intro id
  rw [mem_find, told, IdSet.mem_ofList]

theorem make_update (write : Write) (postings : Postings) :
    write.make postings = ⟨postings.tree.update write.key write.change⟩ := by
  cases write <;> rfl

theorem make_other (other : write.key ≠ key) : (write.make postings).tree.get? key = postings.tree.get? key := by
  rw [make_update, OrderedMap.get_update, if_neg other]

theorem told_own : (write.make postings).told write.key = write.apply (postings.told write.key) := by
  apply IdSet.eq_of_members
  intro id
  unfold told
  cases write with
  | add name value own =>
    change id ∈ IdSet.ofList ((postings.add name value own).idsAt (Key.ofPair name value)) ↔ id ∈ IdSet.insert own _
    rw [IdSet.mem_insert, IdSet.mem_ofList, IdSet.mem_ofList, mem_add, or_comm]
    simp [Write.key]
  | drop name value own =>
    change id ∈ IdSet.ofList ((postings.drop name value own).idsAt (Key.ofPair name value)) ↔ id ∈ IdSet.keep _ _
    rw [IdSet.mem_keep, IdSet.mem_ofList, IdSet.mem_ofList, mem_drop]
    simp [Write.key]

theorem told_other (other : write.key ≠ key) : (write.make postings).told key = postings.told key := by
  rw [told, idsAt, make_other other, told, idsAt]

theorem told_written (writes : List Write) (postings : Postings) (key : Bytes) :
    (written writes postings).told key = (writes.filter (·.key == key)).foldl Write.apply (postings.told key) := by
  induction writes generalizing postings with
  | nil => rfl
  | cons write later ih =>
    have step : written (write :: later) postings = written later (write.make postings) := rfl
    rw [step, ih]
    by_cases own : write.key = key
    · subst own
      rw [told_own, List.filter_cons_of_pos (by simp), List.foldl_cons]
    · rw [told_other own, List.filter_cons_of_neg (by simpa using own)]

theorem written_other (others : ∀ write ∈ writes, write.key ≠ key) :
    (written writes postings).tree.get? key = postings.tree.get? key := by
  induction writes generalizing postings with
  | nil => rfl
  | cons write later ih =>
    obtain ⟨here, behind⟩ := List.forall_mem_cons.mp others
    exact (ih behind).trans (make_other here)

structure Tidy (postings : Postings) : Prop where
  keyed : ∀ key ∈ postings.tree.keys, ∃ name value, Key.ofPair name value = key
  distinct : ∀ key, (postings.idsAt key).Nodup
  filled : postings.Filled

theorem tidy_empty : Tidy empty := ⟨by simp [empty, OrderedMap.empty, OrderedMap.keys], fun _ => .nil, filled_empty⟩

theorem Write.key_ofPair (write : Write) : ∃ name value, Key.ofPair name value = write.key := by
  cases write <;> exact ⟨_, _, rfl⟩

theorem Tidy.make (tidy : postings.Tidy) (write : Write) : (write.make postings).Tidy where
  keyed key present := by
    rw [make_update] at present
    rcases OrderedMap.key_of_update present with rfl | old
    · exact write.key_ofPair
    · exact tidy.keyed key old
  distinct key := by
    have before := tidy.distinct key
    cases write with
    | add name value id =>
      change ((postings.add name value id).idsAt key).Nodup
      rw [idsAt_add]
      split
      · split
        · exact before
        · rename_i new
          rw [← List.concat_eq_append]
          exact List.Nodup.concat (by simpa using new) before
      · exact before
    | drop name value id =>
      change ((postings.drop name value id).idsAt key).Nodup
      rw [idsAt_drop]
      split
      · exact List.Pairwise.filter _ before
      · exact before
  filled := by
    cases write with
    | add name value id => exact filled_add tidy.filled name value id
    | drop name value id => exact filled_drop tidy.filled name value id

theorem Tidy.written (tidy : postings.Tidy) (writes : List Write) : (written writes postings).Tidy := by
  induction writes generalizing postings with
  | nil => exact tidy
  | cons write later ih => exact ih (tidy.make write)

theorem Tidy.mem_keys (tidy : postings.Tidy) :
    key ∈ postings.tree.keys ↔ ∃ name value, Key.ofPair name value = key ∧ ∃ id, id ∈ postings.find name value := by
  constructor
  · intro present
    obtain ⟨name, value, rfl⟩ := tidy.keyed key present
    obtain ⟨bytes, found⟩ := OrderedMap.get_of_key present
    obtain ⟨id, member⟩ := (tidy.filled.get _).mp (Option.isSome_iff_exists.mpr ⟨bytes, found⟩)
    exact ⟨name, value, rfl, id, mem_find.mpr member⟩
  · rintro ⟨name, value, rfl, id, member⟩
    have there := (tidy.filled.get _).mpr ⟨id, mem_find.mp member⟩
    obtain ⟨bytes, found⟩ := Option.isSome_iff_exists.mp there
    obtain ⟨other, present, rfl⟩ := OrderedMap.key_of_get found
    exact present

-- The first two parts are about any entries at all, malformed ones among them; the others begin without an entry.
theorem written_exact (writes : List Write) (postings : Postings) :
    (∀ name value, (written writes postings).find name value =
        (writes.filter (·.key == Key.ofPair name value)).foldl Write.apply
          (postings.told (Key.ofPair name value))) ∧
      (∀ key, (∀ write ∈ writes, write.key ≠ key) →
        (written writes postings).tree.get? key = postings.tree.get? key) ∧
      (∀ key bytes, (written writes empty).tree.get? key = some bytes → (Key.unpack bytes).Nodup) ∧
      ∃ keys : List Bytes, keys.Nodup ∧ keys.length = (written writes empty).size ∧
        ∀ key, key ∈ keys ↔
          ∃ name value, Key.ofPair name value = key ∧ ∃ id, id ∈ (written writes empty).find name value := by
  have tidy := tidy_empty.written writes
  refine ⟨?_, ?_, ?_, (written writes empty).tree.keys, ?_, ?_, ?_⟩
  · intro name value
    rw [find_told, told_written]
  · intro key others
    exact written_other others
  · intro key bytes found
    have distinct := tidy.distinct key
    rwa [idsAt, found] at distinct
  · exact (OrderedMap.keys_ascending _).imp fun before same => by
      rw [same] at before
      exact List.lt_irrefl _ before
  · exact List.length_map _
  · intro key
    exact tidy.mem_keys

end Casebook.Store.Postings
