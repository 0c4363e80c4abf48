import Casebook.Collection.Resolution
import Casebook.Proofs.Batches

namespace Casebook

theorem Roster.mem_idSet {roster : Roster} {id : CaseId} : id ∈ roster.idSet ↔ id ∈ roster.ids := IdSet.mem_ofList

theorem Roster.mem_restrict {roster : Roster} {ids : IdSet} {id : CaseId} :
    id ∈ roster.restrict ids ↔ id ∈ roster.ids ∧ id ∈ ids := by
  rw [restrict, IdSet.mem_keep, Roster.contains, List.contains_iff_mem, and_comm]

namespace Session
variable {σ : Type} {source : Source σ} {session after : Session σ} {queue left : Queue}
  {running result : Option IdSet} {batches rest : List Batch} {error : Error}

-- Before the first answer every id may still be meant.
def Passes : Option IdSet → CaseId → Prop
  | none, _ => True
  | some ids, id => id ∈ ids

theorem passes_narrowed {ids : IdSet} {id : CaseId} :
    Passes (some (narrowed running ids)) id ↔ Passes running id ∧ id ∈ ids := by
  cases running with
  | none => simp [narrowed, Passes]
  | some current => exact IdSet.mem_inter

theorem mem_chosen {roster : Roster} {id : CaseId} :
    id ∈ chosen roster running ↔ id ∈ roster.ids ∧ Passes running id := by
  cases running with
  | none => simp [chosen, Passes, Roster.mem_idSet]
  | some ids => exact Roster.mem_restrict

theorem roster_loaded {roster : Roster} (loaded : session.collection.roster = some roster) :
    Session.roster source session = (.ok roster, session) := by
  unfold Session.roster
  rw [loaded]

theorem roster_ok {roster : Roster} (ran : Session.roster source session = (.ok roster, after)) :
    after.collection.roster = some roster := by
  unfold Session.roster at ran
  split at ran
  · rename_i there
    cases ran
    exact there
  · split at ran
    · cases ran
    · cases ran
      rfl

theorem roster_failed (ran : Session.roster source session = (.error error, after)) :
    session.collection.roster = none ∧ after.collection = session.collection := by
  unfold Session.roster at ran
  split at ran
  · cases ran
  · rename_i missing
    split at ran
    · cases ran
      exact ⟨missing, rfl⟩
    · cases ran

theorem perform_ok {batch : Batch} {ids : IdSet} (ran : perform source batch session = (.ok ids, after)) :
    ask source batch session.source = (.ok ids, after.source) ∧
      after.collection = session.collection.answered batch := by
  unfold perform at ran
  split at ran
  · cases ran
  · rename_i told
    cases ran
    exact ⟨told, rfl⟩

theorem perform_failed {batch : Batch} (ran : perform source batch session = (.error error, after)) :
    ask source batch session.source = (.error error, after.source) ∧ after.collection = session.collection := by
  unfold perform at ran
  split at ran
  · rename_i told
    cases ran
    exact ⟨told, rfl⟩
  · cases ran

theorem answered_roster (batch : Batch) (collection : Collection) :
    (collection.answered batch).roster = collection.roster := by
  cases batch <;> rfl

inductive Answered (source : Source σ) : Session σ → List Batch → List IdSet → Session σ → Prop where
  | nil {session : Session σ} : Answered source session [] [] session
  | cons {session middle after : Session σ} {batch : Batch} {later : List Batch} {ids : IdSet} {sets : List IdSet} :
      perform source batch session = (.ok ids, middle) → Answered source middle later sets after →
      Answered source session (batch :: later) (ids :: sets) after

theorem Answered.roster {done : List Batch} {sets : List IdSet} (ran : Answered source session done sets after) :
    after.collection.roster = session.collection.roster := by
  induction ran with
  | nil => rfl
  | cons step _ ih => rw [ih, (perform_ok step).2, answered_roster]

-- A resolution stops before the end only where nothing can be left of the running set.
theorem narrow_ok (ran : narrow source running session batches = (.ok result, rest, after)) :
    ∃ done sets, batches = done ++ rest ∧ Answered source session done sets after ∧
      (∀ id, Passes result id ↔ Passes running id ∧ ∀ ids ∈ sets, id ∈ ids) ∧
      (rest ≠ [] → ∀ id, ¬ Passes result id) := by
  induction batches generalizing running session with
  | nil =>
    cases ran
    exact ⟨[], [], rfl, .nil, by simp, fun more => absurd rfl more⟩
  | cons batch later ih =>
    unfold narrow at ran
    split at ran
    · cases ran
    · rename_i ids middle step
      dsimp only at ran
      split at ran
      · rename_i nothing
        cases ran
        refine ⟨[batch], [ids], rfl, .cons step .nil, ?_, ?_⟩
        · intro id
          simpa using passes_narrowed
        · intro _ id passes
          exact IdSet.isEmpty_exact.mp nothing id passes
      · obtain ⟨done, sets, parts, answered, passes, stopped⟩ := ih ran
        refine ⟨batch :: done, ids :: sets, by rw [parts, List.cons_append], .cons step answered, ?_, stopped⟩
        intro id
        rw [passes, passes_narrowed, List.forall_mem_cons, and_assoc]

theorem narrow_failed (ran : narrow source running session batches = (.error error, rest, after)) :
    ∃ done sets middle batch later, batches = done ++ rest ∧ rest = batch :: later ∧
      Answered source session done sets middle ∧ perform source batch middle = (.error error, after) := by
  induction batches generalizing running session with
  | nil => cases ran
  | cons batch later ih =>
    unfold narrow at ran
    split at ran
    · rename_i step
      cases ran
      exact ⟨[], [], session, batch, later, rfl, rfl, .nil, step⟩
    · rename_i ids middle step
      dsimp only at ran
      split at ran
      · cases ran
      · obtain ⟨done, sets, stop, failing, behind, parts, front, answered, failed⟩ := ih ran
        exact ⟨batch :: done, ids :: sets, stop, failing, behind, by rw [parts, List.cons_append], front,
          .cons step answered, failed⟩

-- A scan fails before anything is answered; a lookup fails behind the batches answered so far.
inductive FailedAfter (source : Source σ) (queue : Queue) (session : Session σ) :
    List Batch → Error → Queue → Session σ → Prop where
  | scan {error : Error} {after : Session σ} : Session.roster source session = (.error error, after) →
      FailedAfter source queue session [] error queue after
  | lookup {roster : Roster} {loaded middle after : Session σ} {done later : List Batch} {sets : List IdSet}
      {batch : Batch} {error : Error} : Session.roster source session = (.ok roster, loaded) →
      queue.batches = done ++ batch :: later → Answered source loaded done sets middle →
      perform source batch middle = (.error error, after) →
      FailedAfter source queue session done error (Queue.ofBatches (batch :: later)) after

inductive Outcome (source : Source σ) (queue : Queue) (session : Session σ) :
    Except Error IdSet → Queue → Session σ → Prop where
  | failed {done : List Batch} {error : Error} {left : Queue} {after : Session σ} :
      FailedAfter source queue session done error left after → Outcome source queue session (.error error) left after
  | noChildren {roster : Roster} {after : Session σ} : Session.roster source session = (.ok roster, after) →
      roster.ids = [] → Outcome source queue session (.ok .empty) queue after
  | chosen {roster : Roster} {loaded after : Session σ} {done rest : List Batch} {sets : List IdSet} {ids : IdSet} :
      Session.roster source session = (.ok roster, loaded) → queue.batches = done ++ rest →
      Answered source loaded done sets after →
      (∀ id, id ∈ ids ↔ id ∈ roster.ids ∧ ∀ set ∈ sets, id ∈ set) →
      (rest ≠ [] → ∀ id, ¬ ∀ set ∈ sets, id ∈ set) →
      Outcome source queue session (.ok ids) (Queue.ofBatches rest) after

theorem children_outcome {answer : Except Error IdSet}
    (ran : children source queue session = (answer, left, after)) : Outcome source queue session answer left after := by
  unfold children at ran
  split at ran
  · rename_i known
    cases ran
    exact .failed (.scan known)
  · rename_i roster loaded known
    split at ran
    · rename_i empty
      cases ran
      exact .noChildren known (List.isEmpty_iff.mp empty)
    · split at ran
      · rename_i narrowing
        cases ran
        obtain ⟨done, sets, middle, batch, later, parts, rfl, answered, failing⟩ := narrow_failed narrowing
        exact .failed (.lookup known parts answered failing)
      · rename_i result rest last narrowing
        cases ran
        obtain ⟨done, sets, parts, answered, passes, stopped⟩ := narrow_ok narrowing
        have all : ∀ id, Passes result id ↔ ∀ set ∈ sets, id ∈ set := by
          intro id
          rw [passes]
          exact and_iff_right trivial
        refine .chosen known parts answered ?_ ?_
        · intro id
          rw [mem_chosen, all]
        · intro more id
          rw [← all]
          exact stopped more id

theorem children_failed (ran : children source queue session = (.error error, left, after)) :
    ∃ done, FailedAfter source queue session done error left after := by
  cases children_outcome ran with
  | failed broken => exact ⟨_, broken⟩

theorem children_roster {ids : IdSet} (ran : children source queue session = (.ok ids, left, after)) :
    ∃ roster loaded, Session.roster source session = (.ok roster, loaded) ∧ after.collection.roster = some roster := by
  cases children_outcome ran with
  | noChildren known _ => exact ⟨_, _, known, roster_ok known⟩
  | chosen known _ answered _ _ => exact ⟨_, _, known, answered.roster.trans (roster_ok known)⟩

-- Once children are chosen there is a roster, so their positions follow without another scan.
theorem positions_told {roster : Roster} {ids : IdSet} (there : after.collection.roster = some roster)
    (ran : children source queue session = (.ok ids, left, after)) :
    positions source queue session = (.ok (roster.positionsOf ids), left, after) := by
  unfold positions
  rw [ran]
  dsimp only
  rw [roster_loaded there]

theorem positions_ok {ids : IdSet} (ran : children source queue session = (.ok ids, left, after)) :
    ∃ roster loaded, Session.roster source session = (.ok roster, loaded) ∧
      positions source queue session = (.ok (roster.positionsOf ids), left, after) := by
  obtain ⟨roster, loaded, known, there⟩ := children_roster ran
  exact ⟨roster, loaded, known, positions_told there ran⟩

theorem positions_failed_iff :
    positions source queue session = (.error error, left, after) ↔
      children source queue session = (.error error, left, after) := by
  cases ran : children source queue session with
  | mk answer rest =>
    obtain ⟨queue', session'⟩ := rest
    cases answer with
    | error other =>
      unfold positions
      rw [ran]
      simp
    | ok ids =>
      obtain ⟨roster, loaded, known, found⟩ := positions_ok ran
      rw [found]
      simp

end Session
end Casebook
