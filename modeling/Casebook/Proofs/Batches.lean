import Casebook.Predicate.Queue

namespace Casebook

namespace Batch

def isColumns : Batch → Bool
  | .columns .. => true
  | .relationship .. => false

-- A run asks for something, and each of its names comes with a value.
def Sound : Batch → Prop
  | .relationship .. => True
  | .columns names values => names ≠ [] ∧ names.length = values.length

-- A run ends where the next batch begins, so two runs never stand side by side.
def Before : Batch → List Batch → Prop
  | .columns .., .columns .. :: _ => False
  | _, _ => True

end Batch

namespace Queue

def Cut : List Batch → Prop
  | [] => True
  | batch :: later => batch.Sound ∧ batch.Before later ∧ Cut later

theorem cut_push (routed : Routed) {batches : List Batch} (cut : Cut batches) : Cut (Batch.push routed batches) := by
  cases routed with
  | relationship name value => exact ⟨trivial, trivial, cut⟩
  | column name value =>
    cases batches with
    | nil => exact ⟨⟨by simp, rfl⟩, trivial, trivial⟩
    | cons batch later =>
      cases batch with
      | relationship other target => exact ⟨⟨by simp, rfl⟩, trivial, cut⟩
      | columns names values =>
        obtain ⟨⟨_, lengths⟩, before, rest⟩ := cut
        have joined : (Batch.columns (name :: names) (value :: values)).Before later := by
          cases later with
          | nil => trivial
          | cons next _ =>
            cases next with
            | relationship => trivial
            | columns => exact before
        exact ⟨⟨by simp, by simp [lengths]⟩, joined, rest⟩

theorem cut_batches (queue : Queue) : Cut queue.batches := by
  induction queue with
  | nil => trivial
  | cons routed rest ih => exact cut_push routed ih

theorem cut_append {done left : List Batch} (cut : Cut (done ++ left)) : Cut left := by
  induction done with
  | nil => exact cut
  | cons batch later ih => exact ih cut.2.2

theorem sound_of_cut {batches : List Batch} (cut : Cut batches) {batch : Batch} (member : batch ∈ batches) :
    batch.Sound := by
  induction batches with
  | nil => cases member
  | cons first later ih =>
    rcases List.mem_cons.mp member with rfl | old
    · exact cut.1
    · exact ih cut.2.2 old

theorem ofBatches_cons (batch : Batch) (later : List Batch) :
    ofBatches (batch :: later) = batch.predicates ++ ofBatches later := rfl

theorem ofBatches_append (done left : List Batch) : ofBatches (done ++ left) = ofBatches done ++ ofBatches left :=
  List.flatMap_append

theorem ofBatches_push (routed : Routed) (batches : List Batch) :
    ofBatches (Batch.push routed batches) = routed :: ofBatches batches := by
  cases routed with
  | relationship name value => rfl
  | column name value =>
    cases batches with
    | nil => rfl
    | cons batch later => cases batch <;> rfl

theorem ofBatches_batches (queue : Queue) : ofBatches queue.batches = queue := by
  induction queue with
  | nil => rfl
  | cons routed rest ih =>
    have step : batches (routed :: rest) = Batch.push routed (batches rest) := rfl
    rw [step, ofBatches_push, ih]

-- The predicates of a run in front of batches that do not begin with a run make up the run again.
theorem push_run (name value : String) (names values : List String) (lengths : names.length = values.length)
    {later : List Batch} (before : (Batch.columns (name :: names) (value :: values)).Before later) :
    (List.zipWith Routed.column (name :: names) (value :: values)).foldr Batch.push later =
      .columns (name :: names) (value :: values) :: later := by
  induction names generalizing name value values with
  | nil =>
    cases values with
    | cons => cases lengths
    | nil =>
      cases later with
      | nil => rfl
      | cons next _ =>
        cases next with
        | relationship => rfl
        | columns => exact before.elim
  | cons second names ih =>
    cases values with
    | nil => cases lengths
    | cons target values =>
      have run := ih second target values (Nat.succ.inj lengths) (by cases later with
        | nil => trivial
        | cons next _ => cases next <;> exact before)
      rw [List.zipWith_cons_cons, List.foldr_cons, run]
      rfl

theorem push_predicates {batch : Batch} {later : List Batch} (sound : batch.Sound) (before : batch.Before later) :
    batch.predicates.foldr Batch.push later = batch :: later := by
  cases batch with
  | relationship name value => rfl
  | columns names values =>
    obtain ⟨asks, lengths⟩ := sound
    cases names with
    | nil => exact absurd rfl asks
    | cons name names =>
      cases values with
      | nil => cases lengths
      | cons value values => exact push_run name value names values (Nat.succ.inj lengths) before

theorem batches_ofBatches {batches : List Batch} (cut : Cut batches) : (ofBatches batches).batches = batches := by
  induction batches with
  | nil => rfl
  | cons batch later ih =>
    obtain ⟨sound, before, rest⟩ := cut
    have step : (ofBatches (batch :: later)).batches =
        batch.predicates.foldr Batch.push (ofBatches later).batches := by
      rw [ofBatches_cons, Queue.batches, List.foldr_append, Queue.batches]
    rw [step, ih rest, push_predicates sound before]

theorem batches_left {queue : Queue} {done left : List Batch} (parts : queue.batches = done ++ left) :
    (ofBatches left).batches = left :=
  batches_ofBatches (cut_append (parts ▸ cut_batches queue))

theorem mem_ofBatches {routed : Routed} {batches : List Batch} :
    routed ∈ ofBatches batches ↔ ∃ batch ∈ batches, routed ∈ batch.predicates :=
  List.mem_flatMap

theorem predicates_length {batch : Batch} (sound : batch.Sound) : 0 < batch.predicates.length := by
  cases batch with
  | relationship => exact Nat.one_pos
  | columns names values =>
    obtain ⟨asks, lengths⟩ := sound
    have positive := List.length_pos_iff.mpr asks
    rw [Batch.predicates, List.length_zipWith]
    omega

theorem ofBatches_cons_length {batch : Batch} (sound : batch.Sound) (later : List Batch) :
    (ofBatches later).length < (ofBatches (batch :: later)).length := by
  have positive := predicates_length sound
  rw [ofBatches_cons, List.length_append]
  omega

end Queue
end Casebook
