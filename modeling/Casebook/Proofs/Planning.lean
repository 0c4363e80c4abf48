import Casebook.Proofs.Batches
import Mathlib.Data.List.Chain

namespace Casebook

namespace Routed

def raw (marker : String) : Routed → Predicate
  | .column name value => ⟨name, value⟩
  | .relationship name value => ⟨marker ++ name, value⟩

theorem raw_ofPredicate (marker : String) (predicate : Predicate) : (ofPredicate marker predicate).raw marker = predicate := by
  unfold ofPredicate
  split
  · rename_i name starts
    have spelled : marker ++ String.ofList name = predicate.key := by
      rw [← String.toList_inj, String.toList_append, String.toList_ofList]
      exact (without_exact.mp starts).symm
    split
    · rfl
    · rw [raw, spelled]
  · rfl

end Routed

namespace Batch

theorem predicates_size {batch : Batch} (sound : batch.Sound) : batch.predicates.length = batch.size := by
  cases batch with
  | relationship => rfl
  | columns names values =>
    have lengths := sound.2
    rw [predicates, size, List.length_zipWith]
    omega

end Batch

namespace Queue
variable {queue : Queue} {batch : Batch} {later : List Batch}

theorem nextBatch?_iff : queue.nextBatch? = some batch ↔ ∃ later, queue.batches = batch :: later :=
  List.head?_eq_some_iff

theorem dropFront_next (parts : queue.batches = batch :: later) : queue.dropFront batch.size = ofBatches later := by
  have cut := cut_batches queue
  rw [parts] at cut
  rw [← ofBatches_batches queue, parts, ofBatches_cons, dropFront, ← Batch.predicates_size cut.1, List.drop_left]

theorem dropFront_shorter (next : queue.nextBatch? = some batch) : (queue.dropFront batch.size).length < queue.length := by
  obtain ⟨later, parts⟩ := nextBatch?_iff.mp next
  have cut := cut_batches queue
  rw [parts] at cut
  have shorter := ofBatches_cons_length cut.1 later
  rwa [← parts, ofBatches_batches, ← dropFront_next parts] at shorter

-- Batches are taken until there is no next one. Each is put down with the queue from which it was taken, and behind them
-- stands what is left.
def drain (queue : Queue) : List (Queue × Batch) × Queue :=
  match _ : queue.nextBatch? with
  | none => ([], queue)
  | some batch => ((queue, batch) :: (drain (queue.dropFront batch.size)).1, (drain (queue.dropFront batch.size)).2)
termination_by queue.length
decreasing_by
  all_goals
    rename_i next
    exact dropFront_shorter next

theorem drain_nil : drain [] = ([], []) := by
  unfold drain
  rfl

theorem drain_next (parts : queue.batches = batch :: later) :
    drain queue = ((queue, batch) :: (drain (ofBatches later)).1, (drain (ofBatches later)).2) := by
  have next := nextBatch?_iff.mpr ⟨later, parts⟩
  rw [drain]
  split
  · rename_i none
    rw [next] at none
    cases none
  · rename_i other told
    rw [next] at told
    cases told
    rw [dropFront_next parts]

theorem leadingColumns_behind {names values : List String} (before : (Batch.columns names values).Before later) :
    (ofBatches later).leadingColumns = [] := by
  cases later with
  | nil => rfl
  | cons next _ =>
    cases next with
    | relationship => rfl
    | columns => exact before.elim

theorem leadingColumns_run {names values : List String} (before : (Batch.columns names values).Before later) :
    (ofBatches (.columns names values :: later)).leadingColumns = List.zipWith .column names values := by
  have columns : ∀ routed ∈ List.zipWith Routed.column names values, (!routed.isRelationship) = true := by
    rw [← List.map_uncurry_zip_eq_zipWith, List.forall_mem_map]
    exact fun _ _ => rfl
  rw [ofBatches_cons, Batch.predicates, leadingColumns, List.takeWhile_append_of_pos columns]
  have behind := leadingColumns_behind before
  rw [leadingColumns] at behind
  rw [behind, List.append_nil]

structure Foremost (queue : Queue) (batch : Batch) : Prop where
  asks : 1 ≤ batch.size
  front : batch.predicates = queue.take batch.size
  single : ∀ name value, batch = .relationship name value → batch.size = 1
  run : ∀ names values, batch = .columns names values →
    names = queue.leadingNames ∧ values = queue.leadingValues ∧
      names.length = values.length ∧ names.length = queue.leadingColumns.length

theorem foremost_run {names values : List String} (sound : (Batch.columns names values).Sound)
    (before : (Batch.columns names values).Before later) :
    names = (ofBatches (.columns names values :: later)).leadingNames ∧
      values = (ofBatches (.columns names values :: later)).leadingValues ∧ names.length = values.length ∧
      names.length = (ofBatches (.columns names values :: later)).leadingColumns.length := by
  have lengths := sound.2
  rw [leadingNames, leadingValues, leadingColumns_run before, List.length_zipWith,
    ← List.map_uncurry_zip_eq_zipWith, List.filterMap_map, List.filterMap_map]
  refine ⟨?_, ?_, lengths, by omega⟩
  · change names = (names.zip values).filterMap (some ∘ Prod.fst)
    rw [List.filterMap_eq_map, List.map_fst_zip (by omega)]
  · change values = (names.zip values).filterMap (some ∘ Prod.snd)
    rw [List.filterMap_eq_map, List.map_snd_zip (by omega)]

theorem foremost (parts : queue.batches = batch :: later) : Foremost queue batch := by
  have cut := cut_batches queue
  rw [← ofBatches_batches queue]
  rw [parts] at cut ⊢
  obtain ⟨sound, before, _⟩ := cut
  have sized := Batch.predicates_size sound
  refine ⟨?_, ?_, ?_, ?_⟩
  · rw [← sized]
    exact predicates_length sound
  · rw [ofBatches_cons, ← sized, List.take_left]
  · rintro name value rfl
    rfl
  · rintro names values rfl
    exact foremost_run sound before

theorem drain_batches {batches : List Batch} (cut : Cut batches) :
    (drain (ofBatches batches)).2 = [] ∧ (drain (ofBatches batches)).1.map Prod.snd = batches ∧
      ∀ taken ∈ (drain (ofBatches batches)).1, Foremost taken.1 taken.2 := by
  induction batches with
  | nil =>
    have nothing : drain (ofBatches []) = ([], []) := drain_nil
    simp [nothing]
  | cons batch later ih =>
    have parts := batches_ofBatches cut
    obtain ⟨empty, behind, each⟩ := ih cut.2.2
    rw [drain_next parts, List.map_cons, List.forall_mem_cons, behind]
    exact ⟨empty, rfl, foremost parts, each⟩

theorem cut_alternates {batches : List Batch} (cut : Cut batches) :
    batches.IsChain fun batch next => ¬ (batch.isColumns = true ∧ next.isColumns = true) := by
  induction batches with
  | nil => exact .nil
  | cons batch later ih =>
    obtain ⟨_, before, rest⟩ := cut
    cases later with
    | nil => exact .singleton batch
    | cons next behind =>
      refine .cons_cons ?_ (ih rest)
      cases batch with
      | relationship => simp [Batch.isColumns]
      | columns =>
        cases next with
        | relationship => simp [Batch.isColumns]
        | columns => exact before.elim

theorem drain_whole (marker : String) (predicates : List Predicate) :
    let drained := drain (ofPredicates marker predicates)
    drained.2 = [] ∧ (∀ taken ∈ drained.1, Foremost taken.1 taken.2) ∧
      (drained.1.map Prod.snd).IsChain (fun batch next => ¬ (batch.isColumns = true ∧ next.isColumns = true)) ∧
      ((drained.1.map Prod.snd).flatMap fun batch => batch.predicates.map (Routed.raw marker)) = predicates := by
  have cut := cut_batches (ofPredicates marker predicates)
  obtain ⟨empty, taken, each⟩ := drain_batches cut
  rw [ofBatches_batches] at empty taken each
  intro drained
  refine ⟨empty, each, ?_, ?_⟩
  · rw [taken]
    exact cut_alternates cut
  · have whole := ofBatches_batches (ofPredicates marker predicates)
    rw [taken, ← List.map_flatMap, ← ofBatches, whole, ofPredicates, List.map_map]
    have back : Routed.raw marker ∘ Routed.ofPredicate marker = id := funext (Routed.raw_ofPredicate marker)
    rw [back, List.map_id]

end Queue
end Casebook
