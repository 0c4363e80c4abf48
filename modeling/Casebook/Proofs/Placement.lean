import Casebook.Proofs.Enrolment
import Casebook.Proofs.Places

namespace Casebook

section Course
variable {before : Collection} {operation : Operation} {answer : Except Error Answer} {left : Queue} {calls : List Call}

theorem countP_unscanned (unscanned : ∀ call ∈ calls, call.isScan = false) : calls.countP Call.isScan = 0 := by
  apply List.countP_eq_zero.mpr
  intro call member scan
  rw [unscanned call member] at scan
  cases scan

theorem Course.scans (course : Course before operation answer left calls) (asks : operation.asksRoster = true) :
    calls.countP Call.isScan = if before.roster.isSome then 0 else 1 := by
  cases there : before.roster with
  | some roster => exact countP_unscanned (course.serves asks there).1
  | none =>
    rcases course.enrols asks there with ⟨error, rfl, _⟩ | ⟨ids, lookups, rfl, unscanned, _⟩
    · rfl
    · rw [List.countP_cons, countP_unscanned unscanned]
      rfl

end Course

namespace Session
variable {σ : Type} {source : Source σ} {session after : Session σ} {queue left : Queue} {ids : IdSet}

-- What a collection says of the positions of a set of ids, without asking its source anything.
structure Places (source : Source σ) (after : Session σ) (ids : IdSet) (positions : List Nat) : Prop where
  ascending : positions.Pairwise (· < ·)
  below : ∃ total, count source after = (.ok total, after) ∧ ∀ position ∈ positions, position < total
  onto : Set.BijOn (fun position => idAt source position after) {position | position ∈ positions}
    {told | ∃ id ∈ ids, told = (.ok (some id), after)}
  length : positions.length = ids.size

theorem fromRoster_loaded {α : Type} {roster : Roster} (loaded : session.collection.roster = some roster)
    (answer : Roster → α) : fromRoster source answer session = (.ok (answer roster), session) := by
  rw [fromRoster, roster_loaded loaded]

theorem positionsOf_places {roster : Roster} (loaded : after.collection.roster = some roster)
    (within : ∀ id ∈ ids, id ∈ roster.ids) : Places source after ids (roster.positionsOf ids) := by
  have told : ∀ position, idAt source position after = (.ok (roster.idAt position), after) := by
    intro position
    exact fromRoster_loaded loaded _
  refine ⟨roster.positionsOf_ascending ids, ⟨roster.size, fromRoster_loaded loaded _, ?_⟩, ?_,
    Roster.positionsOf_length within⟩
  · intro position placed
    obtain ⟨id, _, there⟩ := Roster.mem_positionsOf.mp placed
    rw [← Roster.idAt_isSome, there]
    rfl
  · have answers : Set.BijOn (fun there : Option CaseId => ((.ok there, after) : Except Error (Option CaseId) × Session σ))
        {there | ∃ id ∈ ids, there = some id} {told | ∃ id ∈ ids, told = (.ok (some id), after)} := by
      refine ⟨?_, ?_, ?_⟩
      · rintro _ ⟨id, member, rfl⟩
        exact ⟨id, member, rfl⟩
      · intro there _ other _ same
        cases same
        rfl
      · rintro _ ⟨id, member, rfl⟩
        exact ⟨some id, ⟨id, member, rfl⟩, rfl⟩
    simp only [told]
    exact answers.comp (Roster.positionsOf_bijOn within)

theorem children_within (ran : children source queue session = (.ok ids, left, after)) :
    ∃ roster, after.collection.roster = some roster ∧ ∀ id ∈ ids, id ∈ roster.ids := by
  cases children_outcome ran with
  | noChildren known _ => exact ⟨_, roster_ok known, fun id member => absurd member (IdSet.not_mem_empty id)⟩
  | chosen known _ answered members _ =>
    exact ⟨_, answered.roster.trans (roster_ok known), fun id member => ((members id).mp member).1⟩

theorem positions_after (source : Source σ) (queue : Queue) (session : Session σ) :
    (positions source queue session).2 = (children source queue session).2 := by
  rcases ran : children source queue session with ⟨answer, left, after⟩
  cases answer with
  | error error => rw [positions_failed_iff.mpr ran]
  | ok ids =>
    obtain ⟨_, _, _, found⟩ := positions_ok ran
    rw [found]

theorem positions_placed (ran : children source queue session = (.ok ids, left, after)) :
    ∃ places, positions source queue session = (.ok places, left, after) ∧ Places source after ids places := by
  obtain ⟨roster, there, within⟩ := children_within ran
  exact ⟨roster.positionsOf ids, positions_told there ran, positionsOf_places there within⟩

-- The hint, the counters and the state of the source are in the session that is left, the calls to it in its entry.
theorem positions_see_children (source : Source σ) (queue : Queue) (session : Session σ) :
    (positions source queue session).2 = (children source queue session).2 ∧
      (entry source (.positions queue) session).calls = (entry source (.children queue) session).calls ∧
      (entry source (.positions queue) session).calls.countP Call.isScan =
        (if session.collection.roster.isSome then 0 else 1) ∧
      match (children source queue session).1 with
      | .error error => (positions source queue session).1 = .error error
      | .ok ids => ∃ places, (positions source queue session).1 = .ok places ∧
          Places source (positions source queue session).2.2 ids places := by
  refine ⟨positions_after source queue session, ?_, ?_, ?_⟩
  · exact congrArg (fun ran => ran.2.source.2) (positions_after source.watched queue session.watch)
  · exact (entry_course source (.positions queue) session).2.scans rfl
  · rcases ran : children source queue session with ⟨answer, left, after⟩
    cases answer with
    | error error => rw [positions_failed_iff.mpr ran]
    | ok ids =>
      obtain ⟨places, found, placed⟩ := positions_placed ran
      rw [found]
      exact ⟨places, rfl, placed⟩

end Session
end Casebook
