import Casebook.Proofs.Content
import Casebook.Proofs.Lookup
import Casebook.Source.Stored

namespace Casebook

namespace Store

def meeting (store : Store) : Routed → IdSet
  | .column name value => store.columns.find name value
  | .relationship name value => store.relationships.find name value

def content (store : Store) : Content where
  ids := store.ids.toOption.getD []
  answer
    | .relationship name value => store.withEdge name value
    | .columns names values => store.withColumns names values

theorem stored_truthful (store : Store) : Source.stored.Truthful store.content (· = store) where
  scan := by
    intro state same
    subst same
    refine ⟨rfl, ?_⟩
    intro ids scanned
    change _ = (Except.toOption _).getD []
    change Store.ids _ = _ at scanned
    rw [scanned]
    rfl
  lookup := by
    intro batch state same
    subst same
    cases batch with
    | relationship name value => exact ⟨rfl, fun _ told => (Except.ok.inj told).symm⟩
    | columns names values => exact ⟨rfl, fun _ told => (Except.ok.inj told).symm⟩

theorem stored_lookups (store : Store) : Source.stored.AnswersLookups (· = store) := by
  intro batch state _
  cases batch with
  | relationship name value => exact ⟨_, rfl⟩
  | columns names values => exact ⟨_, rfl⟩

theorem mem_answer {store : Store} {batch : Batch} (sound : batch.Sound) {id : CaseId} :
    id ∈ store.content.answer batch ↔ ∀ routed ∈ batch.predicates, id ∈ store.meeting routed := by
  cases batch with
  | relationship name value => simp [Batch.predicates, content, meeting, withEdge]
  | columns names values =>
    obtain ⟨asks, lengths⟩ := sound
    have paired : names.zip values ≠ [] := by
      rw [Ne, List.zip_eq_nil_iff, ← List.length_eq_zero_iff (l := values), ← lengths, List.length_eq_zero_iff]
      simpa using asks
    change id ∈ store.columns.findAll names values ↔ _
    rw [Postings.mem_findAll, Batch.predicates, ← List.map_uncurry_zip_eq_zipWith, List.forall_mem_map]
    exact and_iff_right paired

-- The cut into batches does not matter to what meets all of them.
theorem mem_answers {store : Store} {queue : Queue} {id : CaseId} :
    (∀ batch ∈ queue.batches, id ∈ store.content.answer batch) ↔ ∀ routed ∈ queue, id ∈ store.meeting routed := by
  constructor
  · intro meets routed member
    rw [← Queue.ofBatches_batches queue] at member
    obtain ⟨batch, present, inBatch⟩ := Queue.mem_ofBatches.mp member
    have sound := Queue.sound_of_cut (Queue.cut_batches queue) present
    exact (mem_answer sound).mp (meets batch present) routed inBatch
  · intro meets batch present
    have sound := Queue.sound_of_cut (Queue.cut_batches queue) present
    refine (mem_answer sound).mpr fun routed inBatch => meets routed ?_
    rw [← Queue.ofBatches_batches queue]
    exact Queue.mem_ofBatches.mpr ⟨batch, present, inBatch⟩

end Store

namespace Session

theorem stored_children {session after : Session Store} {roster : Roster} {store : Store}
    (known : Session.roster .stored session = (.ok roster, after)) (here : after.source = store) (queue : Queue) :
    ∃ ids, (children .stored queue session).1 = .ok ids ∧
      ∀ id, id ∈ ids ↔ id ∈ roster.ids ∧ ∀ routed ∈ queue, id ∈ store.meeting routed := by
  obtain ⟨ids, answered, members⟩ :=
    children_told (Store.stored_truthful store) (Store.stored_lookups store) known here queue
  refine ⟨ids, answered, ?_⟩
  intro id
  rw [members, Store.mem_answers]

variable (store : Store) (collection : Collection) (roster : Roster)

def resting : Session Store := ⟨store, { collection with roster := some roster }⟩

theorem resting_children (queue : Queue) :
    ∃ ids, (children .stored queue (resting store collection roster)).1 = .ok ids ∧
      ∀ id, id ∈ ids ↔ id ∈ roster.ids ∧ ∀ routed ∈ queue, id ∈ store.meeting routed := by
  have known : Session.roster .stored (resting store collection roster) =
      (.ok roster, resting store collection roster) := roster_loaded rfl
  exact stored_children known rfl queue

theorem resting_store (queue : Queue) :
    (children .stored queue (resting store collection roster)).2.2.source = store := by
  rcases ran : children .stored queue (resting store collection roster) with ⟨answer, left, after⟩
  exact children_among (Store.stored_truthful store) rfl ran

-- The store may be in any state, its postings out of step with its rows included.
theorem children_conjunction :
    (∀ queue, (children .stored queue (resting store collection roster)).2.2.source = store ∧
      ∃ ids, (children .stored queue (resting store collection roster)).1 = .ok ids ∧
        ∀ id, id ∈ ids ↔ id ∈ roster.ids ∧ ∀ routed ∈ queue, id ∈ store.meeting routed) ∧
    (∀ first second, ∃ ids others,
      (children .stored first (resting store collection roster)).1 = .ok ids ∧
        (children .stored second (resting store collection roster)).1 = .ok others ∧
        (children .stored (first ++ second) (resting store collection roster)).1 = .ok (ids.inter others)) ∧
    ∀ queue other : Queue, (∀ routed, routed ∈ queue ↔ routed ∈ other) →
      (children .stored queue (resting store collection roster)).1 =
        (children .stored other (resting store collection roster)).1 := by
  refine ⟨?_, ?_, ?_⟩
  · intro queue
    exact ⟨resting_store store collection roster queue, resting_children store collection roster queue⟩
  · intro first second
    obtain ⟨ids, answered, members⟩ := resting_children store collection roster first
    obtain ⟨others, answered', members'⟩ := resting_children store collection roster second
    obtain ⟨both, joined, membersBoth⟩ := resting_children store collection roster (first ++ second)
    refine ⟨ids, others, answered, answered', ?_⟩
    have same : both = ids.inter others := by
      refine IdSet.eq_of_members fun id => ?_
      rw [membersBoth, IdSet.mem_inter, members, members', List.forall_mem_append]
      exact ⟨fun ⟨child, one, two⟩ => ⟨⟨child, one⟩, child, two⟩, fun ⟨⟨child, one⟩, _, two⟩ => ⟨child, one, two⟩⟩
    rw [joined, same]
  · intro queue other same
    obtain ⟨ids, answered, members⟩ := resting_children store collection roster queue
    obtain ⟨others, answered', members'⟩ := resting_children store collection roster other
    have equal : ids = others := by
      refine IdSet.eq_of_members fun id => ?_
      rw [members, members']
      simp only [same]
    rw [answered, answered', equal]

end Session
end Casebook
