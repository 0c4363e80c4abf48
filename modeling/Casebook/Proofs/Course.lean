import Casebook.Proofs.Transcript

namespace Casebook

namespace Collection

def heard (collection : Collection) : Call → Collection
  | .scan (.ok ids) => collection.enrolled (.ofIds ids)
  | .lookup batch (.ok _) => collection.answered batch
  | _ => collection

-- A key is counted when it is told, after all calls.
def settled (collection : Collection) : Except Error Answer → Collection
  | .ok (.key id) => { collection with counters := collection.counters.keyRequest id.isSome }
  | _ => collection

end Collection

def Call.isScan : Call → Bool
  | .scan _ => true
  | .lookup .. => false

def Call.lookups (done : List Batch) (sets : List IdSet) : List Call :=
  List.zipWith (fun batch ids => .lookup batch (.ok ids)) done sets

theorem Call.mem_lookups {done : List Batch} {sets : List IdSet} {call : Call} (member : call ∈ lookups done sets) :
    ∃ batch ids, call = .lookup batch (.ok ids) := by
  rw [lookups, ← List.map_uncurry_zip_eq_zipWith] at member
  obtain ⟨pair, _, rfl⟩ := List.mem_map.mp member
  exact ⟨pair.1, pair.2, rfl⟩

def Roster.Offers (roster : Roster) (queue : Queue) (ids : IdSet) : Prop :=
  (∀ id ∈ ids, id ∈ roster.ids) ∧ (queue = [] → ids = roster.idSet)

-- What an operation answers from a roster. A single batch is answered without one.
def Roster.Tells (roster : Roster) : Operation → Answer → Prop
  | .load, answer => answer = .roster roster
  | .next _, _ => False
  | .children queue, answer => ∃ ids, answer = .ids ids ∧ roster.Offers queue ids
  | .positions queue, answer => ∃ ids, answer = .positions (roster.positionsOf ids) ∧ roster.Offers queue ids
  | .count, answer => answer = .count roster.size
  | .idAt position, answer => answer = .id (roster.idAt position)
  | .positionOf id, answer => answer = .position (roster.positionOf id)
  | .cacheKey reference, answer => answer = .key (Session.keyOf roster reference)

inductive Loads (before : Collection) : Bool → List Call → Option Roster → Prop where
  | unasked : Loads before false [] none
  | there {roster : Roster} : before.roster = some roster → Loads before true [] (some roster)
  | scanned {ids : List CaseId} : before.roster = none → Loads before true [.scan (.ok ids)] (some (.ofIds ids))

theorem Loads.known {before : Collection} {asks : Bool} {loading : List Call} {known : Option Roster}
    (loads : Loads before asks loading known) : known.isSome = asks := by
  cases loads <;> rfl

inductive Course (before : Collection) (operation : Operation) : Except Error Answer → Queue → List Call → Prop where
  | unserved {error : Error} : operation.asksRoster = true → before.roster = none →
      Course before operation (.error error) operation.queue [.scan (.error error)]
  | idle : operation = .next [] → Course before operation (.error .emptyPredicateQueue) [] []
  | served {loading : List Call} {known : Option Roster} {done rest : List Batch} {sets : List IdSet}
      {answer : Answer} : Loads before operation.asksRoster loading known →
      operation.queue.batches = done ++ rest → done.length = sets.length →
      (∀ roster ∈ known, roster.Tells operation answer) → (known = none → ∃ ids, answer = .ids ids) →
      Course before operation (.ok answer) (Queue.ofBatches rest) (loading ++ Call.lookups done sets)
  | broken {loading : List Call} {known : Option Roster} {done later : List Batch} {sets : List IdSet}
      {batch : Batch} {error : Error} : Loads before operation.asksRoster loading known →
      operation.queue.batches = done ++ batch :: later → done.length = sets.length →
      Course before operation (.error error) (Queue.ofBatches (batch :: later))
        (loading ++ Call.lookups done sets ++ [.lookup batch (.error error)])

namespace Session
variable {σ α : Type} {source : Source σ} {session middle after : Session (σ × List Call)} {queue left : Queue}
  {calls more : List Call}

structure Writes (session : Session (σ × List Call)) (calls : List Call) (after : Session (σ × List Call)) :
    Prop where
  written : after.source.2 = session.source.2 ++ calls
  collection : after.collection = calls.foldl Collection.heard session.collection

theorem Writes.nil : Writes session [] session := ⟨(List.append_nil _).symm, rfl⟩

theorem Writes.append (first : Writes session calls middle) (second : Writes middle more after) :
    Writes session (calls ++ more) after where
  written := by rw [second.written, first.written, List.append_assoc]
  collection := by rw [second.collection, first.collection, List.foldl_append]

theorem roster_loads {roster : Roster} (ran : Session.roster source.watched session = (.ok roster, after)) :
    ∃ loading, Writes session loading after ∧ Loads session.collection true loading (some roster) := by
  unfold Session.roster at ran
  split at ran
  · rename_i there
    cases ran
    exact ⟨[], .nil, .there there⟩
  · rename_i missing
    split at ran
    · cases ran
    · rename_i ids state scanned
      cases ran
      have told : (source.scan session.source.1).1 = .ok ids := congrArg Prod.fst scanned
      have written : session.source.2 ++ [.scan (source.scan session.source.1).1] = state.2 :=
        congrArg (fun ran => ran.2.2) scanned
      rw [told] at written
      exact ⟨[.scan (.ok ids)], ⟨written.symm, rfl⟩, .scanned missing⟩

theorem roster_lost {error : Error} (ran : Session.roster source.watched session = (.error error, after)) :
    session.collection.roster = none ∧ Writes session [.scan (.error error)] after := by
  obtain ⟨missing, same⟩ := roster_failed ran
  refine ⟨missing, ?_, same⟩
  unfold Session.roster at ran
  rw [missing] at ran
  dsimp only at ran
  split at ran
  · rename_i other state scanned
    cases ran
    have told : (source.scan session.source.1).1 = .error error := congrArg Prod.fst scanned
    have written : session.source.2 ++ [.scan (source.scan session.source.1).1] = state.2 :=
      congrArg (fun ran => ran.2.2) scanned
    rw [told] at written
    exact written.symm
  · cases ran

theorem ask_written (source : Source σ) (batch : Batch) (state : σ × List Call) :
    (ask source.watched batch state).2.2 = state.2 ++ [.lookup batch (ask source.watched batch state).1] := by
  cases batch <;> rfl

theorem perform_writes {batch : Batch} {answer : Except Error IdSet}
    (ran : perform source.watched batch session = (answer, after)) :
    Writes session [.lookup batch answer] after := by
  have written := ask_written source batch session.source
  cases answer with
  | error error =>
    obtain ⟨told, same⟩ := perform_failed ran
    rw [told] at written
    exact ⟨written, same⟩
  | ok ids =>
    obtain ⟨told, same⟩ := perform_ok ran
    rw [told] at written
    exact ⟨written, same⟩

theorem Answered.writes {done : List Batch} {sets : List IdSet}
    (ran : Answered source.watched session done sets after) :
    done.length = sets.length ∧ Writes session (Call.lookups done sets) after := by
  induction ran with
  | nil => exact ⟨rfl, .nil⟩
  | cons step _ ih => exact ⟨congrArg Nat.succ ih.1, (perform_writes step).append ih.2⟩

theorem answerNext_course {answer : Except Error IdSet}
    (ran : answerNext source.watched queue session = (answer, left, after)) :
    ∃ calls, Writes session calls after ∧ Course session.collection (.next queue) (answer.map .ids) left calls := by
  unfold answerNext at ran
  split at ran
  · rename_i none
    have nothing : queue = [] := by rw [← Queue.ofBatches_batches queue, none]; rfl
    cases ran
    subst nothing
    exact ⟨[], .nil, .idle rfl⟩
  · rename_i batch later parts
    split at ran
    · rename_i error failed step
      cases ran
      have whole : queue = Queue.ofBatches (batch :: later) := by rw [← parts, Queue.ofBatches_batches]
      refine ⟨_, perform_writes step, ?_⟩
      have broken : Course session.collection (.next queue) (.error error) (Queue.ofBatches (batch :: later))
          ([] ++ Call.lookups [] [] ++ [.lookup batch (.error error)]) := .broken .unasked parts rfl
      rwa [← whole] at broken
    · rename_i ids middle step
      cases ran
      have served : Course session.collection (.next queue) (.ok (.ids ids)) (Queue.ofBatches later)
          ([] ++ Call.lookups [batch] [ids]) := .served .unasked parts rfl (by simp) fun _ => ⟨ids, rfl⟩
      exact ⟨_, perform_writes step, served⟩

theorem children_course (operation : Operation) (said : IdSet → Answer) {answer : Except Error IdSet}
    (asks : operation.asksRoster = true) (asked : operation.queue = queue)
    (ran : children source.watched queue session = (answer, left, after))
    (tells : ∀ roster loaded, Session.roster source.watched session = (.ok roster, loaded) →
      ∀ ids, answer = .ok ids → roster.Offers queue ids → roster.Tells operation (said ids)) :
    ∃ calls, Writes session calls after ∧ Course session.collection operation (answer.map said) left calls := by
  cases children_outcome ran with
  | failed failed =>
    cases failed with
    | scan known =>
      obtain ⟨missing, writes⟩ := roster_lost known
      rw [← asked]
      exact ⟨_, writes, .unserved asks missing⟩
    | lookup known parts answered failed =>
      obtain ⟨loading, loads, brought⟩ := roster_loads known
      obtain ⟨paired, writes⟩ := answered.writes
      rw [← asks] at brought
      rw [← asked] at parts
      exact ⟨_, (loads.append writes).append (perform_writes failed), .broken brought parts paired⟩
  | noChildren known nobody =>
    obtain ⟨loading, loads, brought⟩ := roster_loads known
    have offers : Roster.Offers _ queue .empty :=
      ⟨fun id member => absurd member (IdSet.not_mem_empty id), fun _ => by rw [Roster.idSet, nobody]; rfl⟩
    have told := tells _ _ known .empty rfl offers
    rw [← asks] at brought
    refine ⟨loading ++ Call.lookups [] [], loads.append .nil, ?_⟩
    rw [← Queue.ofBatches_batches queue, ← asked]
    refine .served brought (List.nil_append _).symm rfl ?_ nofun
    rintro _ ⟨⟩
    exact told
  | chosen known parts answered members stopped =>
    obtain ⟨loading, loads, brought⟩ := roster_loads known
    obtain ⟨paired, writes⟩ := answered.writes
    refine ⟨_, loads.append writes, ?_⟩
    rw [← asks] at brought
    have whole := parts
    rw [← asked] at whole
    refine .served brought whole paired ?_ nofun
    rintro _ ⟨⟩
    refine tells _ _ known _ rfl ⟨fun id member => ((members id).mp member).1, ?_⟩
    rintro rfl
    obtain ⟨rfl, rfl⟩ := List.append_eq_nil_iff.mp parts.symm
    have none := List.length_eq_zero_iff.mp paired.symm
    refine IdSet.eq_of_members fun id => ?_
    rw [members, none, Roster.mem_idSet]
    simp

theorem plain_course (source : Source σ) (session : Session (σ × List Call)) (operation : Operation)
    (answer : Roster → α) (said : α → Answer) (asks : operation.asksRoster = true) (asked : operation.queue = [])
    (tells : ∀ roster : Roster, roster.Tells operation (said (answer roster))) :
    ∃ calls, Writes session calls (fromRoster source.watched answer session).2 ∧
      Course session.collection operation ((fromRoster source.watched answer session).1.map said) [] calls := by
  unfold fromRoster
  rcases ran : Session.roster source.watched session with ⟨told, after⟩
  cases told with
  | error error =>
    obtain ⟨missing, writes⟩ := roster_lost ran
    rw [← asked]
    exact ⟨_, writes, .unserved asks missing⟩
  | ok roster =>
    obtain ⟨loading, writes, brought⟩ := roster_loads ran
    rw [← asks] at brought
    refine ⟨loading ++ Call.lookups [] [], writes.append .nil, ?_⟩
    have none : operation.queue.batches = [] ++ [] := by rw [asked]; rfl
    refine .served brought none rfl ?_ nofun
    rintro _ ⟨⟩
    exact tells roster

theorem positions_course {answer : Except Error (List Nat)}
    (ran : positions source.watched queue session = (answer, left, after)) :
    ∃ calls, Writes session calls after ∧
      Course session.collection (.positions queue) (answer.map .positions) left calls := by
  rcases resolved : children source.watched queue session with ⟨result, rest, last⟩
  cases result with
  | error error =>
    rw [positions_failed_iff.mpr resolved] at ran
    cases ran
    refine children_course (.positions queue) .ids rfl rfl resolved ?_
    intro _ _ _ ids impossible
    cases impossible
  | ok ids =>
    obtain ⟨roster, loaded, known, found⟩ := positions_ok resolved
    rw [found] at ran
    cases ran
    refine children_course (.positions queue) (fun ids => .positions (roster.positionsOf ids)) rfl rfl resolved ?_
    intro other _ known' ids _ offers
    rw [known] at known'
    cases known'
    exact ⟨ids, rfl, offers⟩

def TakesCourse (session : Session (σ × List Call)) (operation : Operation) (ran : Resolved Answer (σ × List Call)) :
    Prop :=
  ∃ calls, ran.2.2.source.2 = session.source.2 ++ calls ∧
    ran.2.2.collection = (calls.foldl Collection.heard session.collection).settled ran.1 ∧
    Course session.collection operation ran.1 ran.2.1 calls

theorem takes_unkeyed {operation : Operation} {said : α → Answer} {told : Except Error α}
    (unkeyed : ∀ collection told, Collection.settled collection (.ok (said told)) = collection)
    (course : ∃ calls, Writes session calls after ∧ Course session.collection operation (told.map said) left calls) :
    TakesCourse session operation (told.map said, left, after) := by
  obtain ⟨calls, writes, course⟩ := course
  refine ⟨calls, writes.written, writes.collection.trans ?_, course⟩
  cases told with
  | error => rfl
  | ok told => exact (unkeyed _ told).symm

theorem operate_course (source : Source σ) (operation : Operation) (session : Session (σ × List Call)) :
    TakesCourse session operation (operate source.watched operation session) := by
  cases operation with
  | load =>
    have same : fromRoster source.watched id session = Session.roster source.watched session := by
      unfold fromRoster
      rcases Session.roster source.watched session with ⟨told, after⟩
      cases told <;> rfl
    have course := plain_course source session .load id .roster rfl rfl fun _ => rfl
    rw [same] at course
    exact takes_unkeyed (fun _ _ => rfl) course
  | next queue => exact takes_unkeyed (fun _ _ => rfl) (answerNext_course rfl)
  | children queue =>
    refine takes_unkeyed (fun _ _ => rfl) (children_course (.children queue) .ids rfl rfl rfl ?_)
    intro _ _ _ ids _ offers
    exact ⟨ids, rfl, offers⟩
  | positions queue => exact takes_unkeyed (fun _ _ => rfl) (positions_course rfl)
  | count => exact takes_unkeyed (fun _ _ => rfl) (plain_course _ _ _ _ _ rfl rfl fun _ => rfl)
  | idAt position => exact takes_unkeyed (fun _ _ => rfl) (plain_course _ _ _ _ _ rfl rfl fun _ => rfl)
  | positionOf id => exact takes_unkeyed (fun _ _ => rfl) (plain_course _ _ _ _ _ rfl rfl fun _ => rfl)
  | cacheKey reference =>
    obtain ⟨calls, writes, course⟩ :=
      plain_course source session (.cacheKey reference) (keyOf · reference) .key rfl rfl fun _ => rfl
    have same : operate source.watched (.cacheKey reference) session =
        let told := fromRoster source.watched (keyOf · reference) session
        (told.1.map .key, [], ⟨told.2.source, told.2.collection.settled (told.1.map .key)⟩) := by
      unfold operate cacheKey fromRoster
      rcases Session.roster source.watched session with ⟨told, after⟩
      cases told <;> rfl
    rw [same]
    exact ⟨calls, writes.written, congrArg (Collection.settled · _) writes.collection, course⟩

theorem entry_course (source : Source σ) (operation : Operation) (session : Session σ) :
    let made := entry source operation session
    made.after = (made.calls.foldl Collection.heard made.before).settled made.answer ∧
      Course made.before operation made.answer made.left made.calls := by
  obtain ⟨calls, written, collection, course⟩ := operate_course source operation session.watch
  have same := operate_watched source operation session
  rw [show session.watch.source.2 ++ calls = calls from rfl] at written
  simp only [entry]
  rw [same, written]
  exact ⟨collection, course⟩

end Session
end Casebook
