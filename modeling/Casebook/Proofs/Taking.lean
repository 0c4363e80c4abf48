import Casebook.Proofs.Planning
import Casebook.Proofs.Resolution

namespace Casebook.Session
variable {σ : Type} (source : Source σ) {session after : Session σ} {queue left : Queue} {batch : Batch}
  {later : List Batch}

-- The next batch is found in the queue as it stands. As many predicates as it has are dropped once it is answered.
def takeNext (queue : Queue) (session : Session σ) : Resolved IdSet σ :=
  match queue.nextBatch? with
  | none => (.error .emptyPredicateQueue, queue, session)
  | some batch =>
    match perform source batch session with
    | (.error error, session) => (.error error, queue, session)
    | (.ok ids, session) => (.ok ids, queue.dropFront batch.size, session)

variable {source}

theorem takeNext_shorter {ids : IdSet} (ran : takeNext source queue session = (.ok ids, left, after)) :
    left.length < queue.length := by
  unfold takeNext at ran
  split at ran
  · cases ran
  · rename_i next
    split at ran
    · cases ran
    · cases ran
      exact Queue.dropFront_shorter next

variable (source)

def takeAll (running : Option IdSet) (queue : Queue) (session : Session σ) :
    Except Error (Option IdSet) × Queue × Session σ :=
  if queue.isEmpty then (.ok running, queue, session)
  else
    match _ : takeNext source queue session with
    | (.error error, left, session) => (.error error, left, session)
    | (.ok ids, left, session) =>
      if (narrowed running ids).isEmpty then (.ok (some (narrowed running ids)), left, session)
      else takeAll (some (narrowed running ids)) left session
termination_by queue.length
decreasing_by
  rename_i ran _
  exact takeNext_shorter ran

def takeChildren (queue : Queue) (session : Session σ) : Resolved IdSet σ :=
  match roster source session with
  | (.error error, session) => (.error error, queue, session)
  | (.ok roster, session) =>
    if roster.isEmpty then (.ok .empty, queue, session)
    else
      match takeAll source none queue session with
      | (.error error, left, session) => (.error error, left, session)
      | (.ok running, left, session) => (.ok (chosen roster running), left, session)

variable {source}

theorem takeNext_cons (parts : queue.batches = batch :: later) :
    takeNext source queue session =
      match perform source batch session with
      | (.error error, session) => (.error error, queue, session)
      | (.ok ids, session) => (.ok ids, Queue.ofBatches later, session) := by
  have next : queue.nextBatch? = some batch := Queue.nextBatch?_iff.mpr ⟨later, parts⟩
  unfold takeNext
  rw [next]
  dsimp only
  rw [Queue.dropFront_next parts]

theorem answerNext_takes (source : Source σ) (queue : Queue) (session : Session σ) :
    answerNext source queue session = takeNext source queue session := by
  unfold answerNext
  split
  · rename_i nothing
    have none : queue.nextBatch? = none := by simp [Queue.nextBatch?, nothing]
    simp [takeNext, none]
  · rename_i parts
    exact (takeNext_cons parts).symm

theorem exists_batch (asks : ¬ queue.isEmpty = true) : ∃ batch later, queue.batches = batch :: later := by
  apply List.exists_cons_of_ne_nil
  intro nothing
  have whole := Queue.ofBatches_batches queue
  rw [nothing] at whole
  exact asks (whole ▸ rfl)

theorem takeNext_failed {error : Error} (asks : ¬ queue.isEmpty = true)
    (ran : takeNext source queue session = (.error error, left, after)) :
    left = queue ∧ ∃ batch later, queue.batches = batch :: later ∧
      perform source batch session = (.error error, after) := by
  obtain ⟨batch, later, parts⟩ := exists_batch asks
  rw [takeNext_cons parts] at ran
  split at ran
  · rename_i failed
    cases ran
    exact ⟨rfl, batch, later, parts, failed⟩
  · cases ran

theorem takeNext_ok {ids : IdSet} (asks : ¬ queue.isEmpty = true)
    (ran : takeNext source queue session = (.ok ids, left, after)) :
    ∃ batch later, queue.batches = batch :: later ∧ left = Queue.ofBatches later ∧
      perform source batch session = (.ok ids, after) := by
  obtain ⟨batch, later, parts⟩ := exists_batch asks
  rw [takeNext_cons parts] at ran
  split at ran
  · cases ran
  · rename_i answered
    cases ran
    exact ⟨batch, later, parts, rfl, answered⟩

-- The queue is cut only once, yet nothing else is asked and nothing else is left than where it is looked at again for
-- each batch.
theorem takeAll_narrows (running : Option IdSet) (queue : Queue) (session : Session σ) :
    takeAll source running queue session =
      ((narrow source running session queue.batches).1,
        Queue.ofBatches (narrow source running session queue.batches).2.1,
        (narrow source running session queue.batches).2.2) := by
  fun_induction takeAll source running queue session with
  | case1 running queue session empty =>
    cases List.isEmpty_iff.mp empty
    rfl
  | case2 running queue session asks error left after ran =>
    obtain ⟨rfl, batch, later, parts, failed⟩ := takeNext_failed asks ran
    have whole : Queue.ofBatches (batch :: later) = left := by rw [← parts, Queue.ofBatches_batches]
    simp [parts, narrow, failed, whole]
  | case3 running queue session asks ids left after ran nobody =>
    obtain ⟨batch, later, parts, rfl, answered⟩ := takeNext_ok asks ran
    simp [parts, narrow, answered, nobody]
  | case4 running queue session asks ids left after ran somebody ih =>
    obtain ⟨batch, later, parts, rfl, answered⟩ := takeNext_ok asks ran
    have behind : queue.batches = [batch] ++ later := parts
    have cut := Queue.batches_left behind
    rw [ih, cut]
    simp [parts, narrow, answered, somebody]

theorem children_takes (source : Source σ) (queue : Queue) (session : Session σ) :
    children source queue session = takeChildren source queue session := by
  unfold children takeChildren
  rcases roster source session with ⟨answer, loaded⟩
  cases answer with
  | error error => rfl
  | ok roster =>
    dsimp only
    rw [takeAll_narrows]
    rcases narrow source none loaded queue.batches with ⟨answer, rest, last⟩
    cases answer <;> rfl

end Casebook.Session
