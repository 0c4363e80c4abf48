import Casebook.Proofs.Course

namespace Casebook

namespace Collection

structure Unserved (collection : Collection) : Prop where
  missing : collection.roster = none
  scans : collection.counters.scans = 0
  enrolled : collection.counters.enrolled = 0

structure Serves (collection : Collection) (roster : Roster) : Prop where
  known : collection.roster = some roster
  scans : collection.counters.scans = 1
  enrolled : collection.counters.enrolled = UInt64.ofNat roster.size

end Collection

-- Only a lookup can fail, so where no queue is asked there is an answer.
structure Roster.Answers (roster : Roster) (operation : Operation) (answer : Except Error Answer) : Prop where
  told : ∀ told, answer = .ok told → roster.Tells operation told
  sure : operation.queue = [] → ∃ told, answer = .ok told

namespace Entry

def Unscanned (entry : Entry) : Prop := ∀ call ∈ entry.calls, call.isScan = false

structure Waits (entry : Entry) : Prop where
  unserved : entry.after.Unserved
  failed : entry.operation.asksRoster = true → ∃ error, entry.calls = [.scan (.error error)] ∧
    entry.answer = .error error ∧ entry.left = entry.operation.queue ∧ entry.after = entry.before
  unscanned : entry.operation.asksRoster = false → entry.Unscanned

structure Served (entry : Entry) (roster : Roster) : Prop where
  serves : entry.after.Serves roster
  answers : entry.operation.asksRoster = true → roster.Answers entry.operation entry.answer

end Entry

inductive Enrolment : List Entry → Collection → Prop where
  | waiting {history : List Entry} {collection : Collection} : (∀ entry ∈ history, entry.Waits) →
      collection.Unserved → Enrolment history collection
  | enrolled {early late : List Entry} {first : Entry} {ids : List CaseId} {lookups : List Call}
      {collection : Collection} : (∀ entry ∈ early, entry.Waits) → first.calls = .scan (.ok ids) :: lookups →
      (∀ call ∈ lookups, call.isScan = false) → (∀ entry ∈ late, entry.Unscanned) →
      (∀ entry ∈ first :: late, entry.Served (.ofIds ids)) → collection.Serves (.ofIds ids) →
      Enrolment (early ++ first :: late) collection

section Calls
variable {collection : Collection} {calls : List Call} {roster : Roster}

theorem heard_unscanned (unscanned : ∀ call ∈ calls, call.isScan = false) (collection : Collection) :
    (calls.foldl Collection.heard collection).roster = collection.roster ∧
      (calls.foldl Collection.heard collection).counters.scans = collection.counters.scans ∧
      (calls.foldl Collection.heard collection).counters.enrolled = collection.counters.enrolled := by
  induction calls generalizing collection with
  | nil => exact ⟨rfl, rfl, rfl⟩
  | cons call later ih =>
    obtain ⟨here, behind⟩ := List.forall_mem_cons.mp unscanned
    obtain ⟨roster, scans, enrolled⟩ := ih behind (collection.heard call)
    rw [List.foldl_cons, roster, scans, enrolled]
    cases call with
    | scan => cases here
    | lookup batch answer =>
      cases answer with
      | error => exact ⟨rfl, rfl, rfl⟩
      | ok ids => cases batch <;> exact ⟨rfl, rfl, rfl⟩

theorem settled_unscanned (unscanned : ∀ call ∈ calls, call.isScan = false) (answer : Except Error Answer)
    (collection : Collection) :
    ((calls.foldl Collection.heard collection).settled answer).roster = collection.roster ∧
      ((calls.foldl Collection.heard collection).settled answer).counters.scans = collection.counters.scans ∧
      ((calls.foldl Collection.heard collection).settled answer).counters.enrolled = collection.counters.enrolled := by
  have heard := heard_unscanned unscanned collection
  unfold Collection.settled
  split <;> exact heard

theorem Collection.Unserved.kept (unserved : collection.Unserved)
    (unscanned : ∀ call ∈ calls, call.isScan = false) (answer : Except Error Answer) :
    ((calls.foldl Collection.heard collection).settled answer).Unserved := by
  obtain ⟨roster, scans, enrolled⟩ := settled_unscanned unscanned answer collection
  exact ⟨roster.trans unserved.missing, scans.trans unserved.scans, enrolled.trans unserved.enrolled⟩

theorem Collection.Serves.kept (serves : collection.Serves roster)
    (unscanned : ∀ call ∈ calls, call.isScan = false) (answer : Except Error Answer) :
    ((calls.foldl Collection.heard collection).settled answer).Serves roster := by
  obtain ⟨known, scans, enrolled⟩ := settled_unscanned unscanned answer collection
  exact ⟨known.trans serves.known, scans.trans serves.scans, enrolled.trans serves.enrolled⟩

theorem Collection.Unserved.serves (unserved : collection.Unserved) (roster : Roster) :
    (collection.enrolled roster).Serves roster where
  known := rfl
  scans := by simp [Collection.enrolled, Counters.scan, unserved.scans]
  enrolled := by simp [Collection.enrolled, Counters.scan, unserved.enrolled]

theorem lookups_unscanned {done : List Batch} {sets : List IdSet} :
    ∀ call ∈ Call.lookups done sets, call.isScan = false := by
  intro call member
  obtain ⟨batch, ids, rfl⟩ := Call.mem_lookups member
  rfl

end Calls

section Course
variable {before : Collection} {operation : Operation} {answer : Except Error Answer} {left : Queue}
  {calls : List Call} {roster : Roster}

theorem Loads.unasked_nil {loading : List Call} {known : Option Roster} {asks : Bool}
    (loads : Loads before asks loading known) (unasked : asks = false) : loading = [] := by
  cases loads with
  | unasked => rfl
  | there | scanned => cases unasked

theorem Course.unscanned (course : Course before operation answer left calls)
    (unasked : operation.asksRoster = false) : ∀ call ∈ calls, call.isScan = false := by
  cases course with
  | unserved asks => rw [asks] at unasked; cases unasked
  | idle => simp
  | served loads _ _ _ _ =>
    rw [loads.unasked_nil unasked]
    exact lookups_unscanned
  | broken loads _ _ =>
    rw [loads.unasked_nil unasked, List.nil_append, List.forall_mem_append]
    exact ⟨lookups_unscanned, by simp [Call.isScan]⟩

theorem Course.asked (course : Course before operation answer left calls) (asks : operation.asksRoster = true) :
    (before.roster = none ∧ ∃ error, calls = [.scan (.error error)] ∧ answer = .error error ∧
        left = operation.queue) ∨
      ∃ loading roster lookups, Loads before true loading (some roster) ∧ calls = loading ++ lookups ∧
        (∀ call ∈ lookups, call.isScan = false) ∧ roster.Answers operation answer := by
  cases course with
  | @unserved error _ missing => exact .inl ⟨missing, error, rfl, rfl, rfl⟩
  | idle next => rw [next] at asks; cases asks
  | @served loading known _ _ _ told loads _ _ tells _ =>
    have there := loads.known
    rw [asks] at there loads
    obtain ⟨roster, rfl⟩ := Option.isSome_iff_exists.mp there
    refine .inr ⟨loading, roster, _, loads, rfl, lookups_unscanned, ?_, fun _ => ⟨told, rfl⟩⟩
    rintro _ ⟨⟩
    exact tells roster rfl
  | @broken loading known done later sets batch error loads parts _ =>
    have there := loads.known
    rw [asks] at there loads
    obtain ⟨roster, rfl⟩ := Option.isSome_iff_exists.mp there
    refine .inr ⟨loading, roster, _, loads, List.append_assoc _ _ _, ?_, nofun, ?_⟩
    · rw [List.forall_mem_append]
      exact ⟨lookups_unscanned, by simp [Call.isScan]⟩
    · intro nothing
      rw [nothing] at parts
      simp [Queue.batches] at parts

theorem Course.serves (course : Course before operation answer left calls) (asks : operation.asksRoster = true)
    (there : before.roster = some roster) :
    (∀ call ∈ calls, call.isScan = false) ∧ roster.Answers operation answer := by
  rcases course.asked asks with ⟨missing, _⟩ | ⟨loading, other, lookups, loads, rfl, unscanned, answers⟩
  · rw [there] at missing
    cases missing
  · cases loads with
    | there known =>
      rw [there] at known
      cases known
      exact ⟨unscanned, answers⟩
    | scanned missing =>
      rw [there] at missing
      cases missing

theorem Course.enrols (course : Course before operation answer left calls) (asks : operation.asksRoster = true)
    (missing : before.roster = none) :
    (∃ error, calls = [.scan (.error error)] ∧ answer = .error error ∧ left = operation.queue) ∨
      ∃ ids lookups, calls = .scan (.ok ids) :: lookups ∧ (∀ call ∈ lookups, call.isScan = false) ∧
        (Roster.ofIds ids).Answers operation answer := by
  rcases course.asked asks with ⟨_, failed⟩ | ⟨loading, roster, lookups, loads, rfl, unscanned, answers⟩
  · exact .inl failed
  · cases loads with
    | there known =>
      rw [missing] at known
      cases known
    | @scanned ids _ => exact .inr ⟨ids, lookups, rfl, unscanned, answers⟩

end Course

namespace Session
variable {σ : Type} (source : Source σ) (operation : Operation) (session : Session σ)

theorem entry_served {roster : Roster} (serves : session.collection.Serves roster) :
    (entry source operation session).Unscanned ∧ (entry source operation session).Served roster := by
  obtain ⟨collection, course⟩ := entry_course source operation session
  have unscanned : (entry source operation session).Unscanned := by
    cases asks : operation.asksRoster with
    | false => exact course.unscanned asks
    | true => exact (course.serves asks serves.known).1
  refine ⟨unscanned, ?_, fun asks => (course.serves asks serves.known).2⟩
  rw [collection]
  exact serves.kept unscanned _

theorem entry_enrols (unserved : session.collection.Unserved) :
    (entry source operation session).Waits ∨
      ∃ ids lookups, (entry source operation session).calls = .scan (.ok ids) :: lookups ∧
        (∀ call ∈ lookups, call.isScan = false) ∧ (entry source operation session).Served (.ofIds ids) := by
  obtain ⟨collection, course⟩ := entry_course source operation session
  cases asks : operation.asksRoster with
  | false =>
    have unscanned := course.unscanned asks
    refine .inl ⟨?_, fun asks' => absurd (asks.symm.trans asks') Bool.false_ne_true, fun _ => unscanned⟩
    rw [collection]
    exact unserved.kept unscanned _
  | true =>
    rcases course.enrols asks unserved.missing with ⟨error, calls, answer, left⟩ | ⟨ids, lookups, calls, quiet, answers⟩
    · rw [calls, answer] at collection
      have same : (entry source operation session).after = session.collection := collection
      refine .inl ⟨by rw [same]; exact unserved, fun _ => ⟨error, calls, answer, left, same⟩, ?_⟩
      exact fun unasked => absurd (asks.symm.trans unasked) nofun
    · refine .inr ⟨ids, lookups, calls, quiet, ?_, fun _ => answers⟩
      rw [collection, calls]
      exact (unserved.serves _).kept quiet _

theorem entry_enrolment (past : List Entry) (sofar : Enrolment past session.collection) :
    Enrolment (past ++ [entry source operation session]) (entry source operation session).after := by
  cases sofar with
  | waiting waits unserved =>
    rcases entry_enrols source operation session unserved with waiting | ⟨ids, lookups, calls, quiet, served⟩
    · exact .waiting (List.forall_mem_append.mpr ⟨waits, List.forall_mem_singleton.mpr waiting⟩) waiting.unserved
    · refine .enrolled waits calls quiet (by simp) ?_ served.serves
      rw [List.forall_mem_singleton]
      exact served
  | @enrolled early late first ids lookups _ waits calls quiet unscanned served serves =>
    obtain ⟨silent, told⟩ := entry_served source operation session serves
    rw [List.append_assoc, List.cons_append]
    refine .enrolled waits calls quiet ?_ ?_ told.serves
    · exact List.forall_mem_append.mpr ⟨unscanned, List.forall_mem_singleton.mpr silent⟩
    · rw [← List.cons_append]
      exact List.forall_mem_append.mpr ⟨served, List.forall_mem_singleton.mpr told⟩

-- In particular for every operation that a run goes on with at any point.
theorem history_enrols (config : Config) (state : σ) (events : List (Event σ)) :
    Enrolment (history source events (fresh config state)) (afterwards source events (fresh config state)).collection := by
  have opened : Enrolment [] (fresh config state).collection := .waiting (by simp) ⟨rfl, rfl, rfl⟩
  exact history_keeps Enrolment (fun past operation session => entry_enrolment source operation session past) events
    [] (fresh config state) opened

end Session
end Casebook
