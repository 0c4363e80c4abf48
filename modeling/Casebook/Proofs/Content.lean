import Casebook.Collection.Children
import Casebook.Proofs.Resolution

namespace Casebook

structure Content where
  ids : List CaseId
  answer : Batch → IdSet

namespace Source
variable {σ : Type}

-- The states are those among which the source moves while it is asked. Any call may fail in any of them.
structure Truthful (source : Source σ) (content : Content) (states : σ → Prop) : Prop where
  scan : ∀ state, states state →
    states (source.scan state).2 ∧ ∀ ids, (source.scan state).1 = .ok ids → ids = content.ids
  lookup : ∀ batch state, states state →
    states (Session.ask source batch state).2 ∧
      ∀ ids, (Session.ask source batch state).1 = .ok ids → ids = content.answer batch

def AnswersScans (source : Source σ) (states : σ → Prop) : Prop :=
  ∀ state, states state → ∃ ids, (source.scan state).1 = .ok ids

def AnswersLookups (source : Source σ) (states : σ → Prop) : Prop :=
  ∀ batch state, states state → ∃ ids, (Session.ask source batch state).1 = .ok ids

end Source

def Collection.rosterOver (ids : List CaseId) (collection : Collection) : Roster :=
  collection.roster.getD (.ofIds ids)

namespace Session
variable {σ : Type} {source : Source σ} {content : Content} {states : σ → Prop} {session after : Session σ}
  {queue left : Queue}

theorem roster_among (truthful : source.Truthful content states) (here : states session.source)
    {answer : Except Error Roster} (ran : Session.roster source session = (answer, after)) : states after.source := by
  unfold Session.roster at ran
  have stays := (truthful.scan session.source here).1
  split at ran
  · cases ran
    exact here
  · split at ran
    · rename_i scanned
      rw [scanned] at stays
      cases ran
      exact stays
    · rename_i scanned
      rw [scanned] at stays
      cases ran
      exact stays

theorem roster_told (truthful : source.Truthful content states) (here : states session.source) {roster : Roster}
    (ran : Session.roster source session = (.ok roster, after)) :
    roster = session.collection.rosterOver content.ids := by
  unfold Session.roster at ran
  unfold Collection.rosterOver
  split at ran
  · rename_i there
    cases ran
    rw [there]
    rfl
  · rename_i missing
    split at ran
    · cases ran
    · rename_i ids state scanned
      cases ran
      rw [missing, (truthful.scan session.source here).2 ids (congrArg Prod.fst scanned)]
      rfl

theorem roster_answered (truthful : source.Truthful content states) (scans : source.AnswersScans states)
    (here : states session.source) :
    ∃ after, Session.roster source session = (.ok (session.collection.rosterOver content.ids), after) := by
  cases ran : Session.roster source session with
  | mk result after =>
    cases result with
    | ok roster => exact ⟨after, by rw [roster_told truthful here ran]⟩
    | error error =>
      unfold Session.roster at ran
      obtain ⟨ids, told⟩ := scans session.source here
      split at ran
      · cases ran
      · split at ran
        · rename_i failed
          rw [failed] at told
          cases told
        · cases ran

theorem Answered.told (truthful : source.Truthful content states) {done : List Batch} {sets : List IdSet}
    (ran : Answered source session done sets after) (here : states session.source) :
    sets = done.map content.answer ∧ states after.source := by
  induction ran with
  | nil => exact ⟨rfl, here⟩
  | @cons session middle after batch later ids sets step _ ih =>
    obtain ⟨stays, told⟩ := truthful.lookup batch session.source here
    rw [(perform_ok step).1] at stays told
    obtain ⟨same, reached⟩ := ih stays
    exact ⟨by rw [same, told ids rfl, List.map_cons], reached⟩

theorem perform_among (truthful : source.Truthful content states) (here : states session.source) {batch : Batch}
    {error : Error} (ran : perform source batch session = (.error error, after)) : states after.source := by
  have stays := (truthful.lookup batch session.source here).1
  rwa [(perform_failed ran).1] at stays

theorem children_among (truthful : source.Truthful content states) (here : states session.source)
    {answer : Except Error IdSet} (ran : children source queue session = (answer, left, after)) :
    states after.source := by
  cases children_outcome ran with
  | failed broken =>
    cases broken with
    | scan known => exact roster_among truthful here known
    | lookup known _ answered failing =>
      exact perform_among truthful (answered.told truthful (roster_among truthful here known)).2 failing
  | noChildren known _ => exact roster_among truthful here known
  | chosen known _ answered _ _ => exact (answered.told truthful (roster_among truthful here known)).2

theorem positions_among (truthful : source.Truthful content states) (here : states session.source)
    {answer : Except Error (List Nat)} (ran : positions source queue session = (answer, left, after)) :
    states after.source := by
  unfold positions at ran
  split at ran
  · rename_i failed
    cases ran
    exact children_among truthful here failed
  · rename_i found
    have stays := children_among truthful here found
    split at ran
    · rename_i lost
      cases ran
      exact roster_among truthful stays lost
    · rename_i known
      cases ran
      exact roster_among truthful stays known

theorem cacheKey_among (truthful : source.Truthful content states) (here : states session.source)
    {reference : Reference} {answer : Except Error (Option CaseId)}
    (ran : cacheKey source reference session = (answer, after)) : states after.source := by
  unfold cacheKey at ran
  split at ran
  · rename_i lost
    cases ran
    exact roster_among truthful here lost
  · rename_i known
    have stays := roster_among truthful here known
    cases ran
    exact stays

-- A stop before the end leaves batches out, but then no id is in all of the answers anyway.
theorem children_members (truthful : source.Truthful content states) {roster : Roster}
    (known : Session.roster source session = (.ok roster, after)) (here : states after.source) {ids : IdSet}
    (told : (children source queue session).1 = .ok ids) (id : CaseId) :
    id ∈ ids ↔ id ∈ roster.ids ∧ ∀ batch ∈ queue.batches, id ∈ content.answer batch := by
  rcases answered : children source queue session with ⟨result, left, last⟩
  rw [answered] at told
  cases told
  cases children_outcome answered with
  | noChildren ran none =>
    rw [known] at ran
    cases ran
    simp [IdSet.not_mem_empty, none]
  | @chosen roster _ _ done rest sets _ ran parts answered members stopped =>
    rw [known] at ran
    cases ran
    rw [members, (answered.told truthful here).1, List.forall_mem_map, parts, List.forall_mem_append]
    refine and_congr_right fun _ => ⟨fun inDone => ⟨inDone, ?_⟩, And.left⟩
    intro batch member
    have more : rest ≠ [] := List.ne_nil_of_mem member
    have nobody := stopped more id
    rw [(answered.told truthful here).1, List.forall_mem_map] at nobody
    exact absurd inDone nobody

theorem children_told (truthful : source.Truthful content states) (lookups : source.AnswersLookups states)
    {roster : Roster} (known : Session.roster source session = (.ok roster, after)) (here : states after.source)
    (queue : Queue) :
    ∃ ids, (children source queue session).1 = .ok ids ∧
      ∀ id, id ∈ ids ↔ id ∈ roster.ids ∧ ∀ batch ∈ queue.batches, id ∈ content.answer batch := by
  rcases answered : children source queue session with ⟨result, left, last⟩
  cases result with
  | ok ids =>
    have told : (children source queue session).1 = .ok ids := by rw [answered]
    exact ⟨ids, rfl, children_members truthful known here told⟩
  | error error =>
    obtain ⟨done, broken⟩ := children_failed answered
    cases broken with
    | scan ran =>
      rw [known] at ran
      cases ran
    | lookup ran _ answered failing =>
      rw [known] at ran
      cases ran
      obtain ⟨ids, told⟩ := lookups _ _ (answered.told truthful here).2
      rw [(perform_failed failing).1] at told
      cases told

end Session
end Casebook
