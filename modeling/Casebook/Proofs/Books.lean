import Casebook.Proofs.Course
import Mathlib.Algebra.Ring.Nat

namespace Casebook

def Call.answered? : Call → Option Batch
  | .lookup batch (.ok _) => some batch
  | _ => none

def Hint.after (batches : List Batch) : Option Hint :=
  match batches.getLast? with
  | some (.columns names values) => some ⟨names, values⟩
  | _ => none

def Operation.tellsKey : Operation → Except Error Answer → Bool
  | .cacheKey _, .ok _ => true
  | _, _ => false

def Operation.missesKey : Operation → Except Error Answer → Bool
  | .cacheKey _, .ok (.key none) => true
  | _, _ => false

namespace Entry

def answered (entry : Entry) : List Batch := entry.calls.filterMap Call.answered?

def taken (entry : Entry) : Nat := entry.operation.queue.length - entry.left.length

def tellsKey (entry : Entry) : Bool := entry.operation.tellsKey entry.answer

def missesKey (entry : Entry) : Bool := entry.operation.missesKey entry.answer

-- The operation ends with the batch that failed. The collection is what the calls before it made of it.
structure Fails (entry : Entry) (batch : Batch) (error : Error) : Prop where
  answer : entry.answer = .error error
  whole : entry.left.nextBatch? = some batch ∧ batch.predicates <+: entry.left
  last : ∃ made, entry.calls = made ++ [.lookup batch (.error error)] ∧
    entry.after = made.foldl Collection.heard entry.before

end Entry

structure Books (history : List Entry) (collection : Collection) : Prop where
  hint : collection.hint = Hint.after (history.flatMap Entry.answered)
  paired : ∀ hint, collection.hint = some hint →
    hint.names ≠ [] ∧ hint.values ≠ [] ∧ hint.names.length = hint.values.length
  columnBatches : collection.counters.columnBatches =
    UInt64.ofNat ((history.flatMap Entry.answered).countP Batch.isColumns)
  relationshipLookups : collection.counters.relationshipLookups =
    UInt64.ofNat ((history.flatMap Entry.answered).countP fun batch => !batch.isColumns)
  taken : UInt64.ofNat (history.map Entry.taken).sum =
    collection.counters.columnPredicates + collection.counters.relationshipLookups
  parts : ∀ entry ∈ history, entry.operation.queue = Queue.ofBatches entry.answered ++ entry.left
  failing : ∀ entry ∈ history, ∀ batch error, .lookup batch (.error error) ∈ entry.calls → entry.Fails batch error
  keyRequests : collection.counters.keyRequests = UInt64.ofNat (history.countP Entry.tellsKey)
  keyMisses : collection.counters.keyMisses = UInt64.ofNat (history.countP Entry.missesKey)

-- The part of the books that the answered batches alone decide.
structure Tally (batches : List Batch) (collection : Collection) : Prop where
  sound : ∀ batch ∈ batches, batch.Sound
  hint : collection.hint = Hint.after batches
  columnBatches : collection.counters.columnBatches = UInt64.ofNat (batches.countP Batch.isColumns)
  relationshipLookups : collection.counters.relationshipLookups =
    UInt64.ofNat (batches.countP fun batch => !batch.isColumns)
  taken : UInt64.ofNat (Queue.ofBatches batches).length =
    collection.counters.columnPredicates + collection.counters.relationshipLookups

section Tally
variable {batches : List Batch} {collection : Collection}

theorem Tally.answered (tally : Tally batches collection) {batch : Batch} (sound : batch.Sound) :
    Tally (batches ++ [batch]) (collection.answered batch) := by
  have sounds : ∀ other ∈ batches ++ [batch], other.Sound := by
    simp only [List.forall_mem_append, List.forall_mem_singleton]
    exact ⟨tally.sound, sound⟩
  have length : (Queue.ofBatches (batches ++ [batch])).length =
      (Queue.ofBatches batches).length + batch.predicates.length := by
    simp [Queue.ofBatches]
  cases batch with
  | relationship name value =>
    refine ⟨sounds, by simp [Hint.after, Collection.answered], ?_, ?_, ?_⟩
    · simpa [Batch.isColumns, Collection.answered, Counters.relationshipLookup] using tally.columnBatches
    · simp [Batch.isColumns, Collection.answered, Counters.relationshipLookup, tally.relationshipLookups]
    · rw [length, UInt64.ofNat_add, tally.taken, UInt64.add_assoc]
      rfl
  | columns names values =>
    have size : (Batch.columns names values).predicates.length = names.length := by
      simp [Batch.predicates, ← sound.2]
    refine ⟨sounds, by simp [Hint.after, Collection.answered], ?_, ?_, ?_⟩
    · simp [Batch.isColumns, Collection.answered, Counters.columnBatch, tally.columnBatches]
    · simpa [Batch.isColumns, Collection.answered, Counters.columnBatch] using tally.relationshipLookups
    · rw [length, size, UInt64.ofNat_add, tally.taken]
      simp only [Collection.answered, Counters.columnBatch]
      ac_rfl

theorem Tally.heard (tally : Tally batches collection) {call : Call} (sound : ∀ batch ∈ call.answered?, batch.Sound) :
    Tally (batches ++ call.answered?.toList) (collection.heard call) := by
  cases call with
  | scan answer =>
    have same : Tally batches (collection.heard (.scan answer)) := by
      cases answer with
      | error => exact tally
      | ok ids => exact ⟨tally.sound, tally.hint, tally.columnBatches, tally.relationshipLookups, tally.taken⟩
    simpa [Call.answered?] using same
  | lookup batch answer =>
    cases answer with
    | error => simpa [Call.answered?, Collection.heard] using tally
    | ok ids => exact tally.answered (sound batch rfl)

theorem Tally.calls (tally : Tally batches collection) {calls : List Call}
    (sound : ∀ batch ∈ calls.filterMap Call.answered?, batch.Sound) :
    Tally (batches ++ calls.filterMap Call.answered?) (calls.foldl Collection.heard collection) := by
  induction calls generalizing batches collection with
  | nil => simpa using tally
  | cons call later ih =>
    have split : (call :: later).filterMap Call.answered? =
        call.answered?.toList ++ later.filterMap Call.answered? := by
      rw [List.filterMap_cons]
      cases call.answered? <;> rfl
    rw [split, List.forall_mem_append] at sound
    rw [split, ← List.append_assoc]
    exact ih (tally.heard (by simpa using sound.1)) sound.2

theorem Tally.settled (tally : Tally batches collection) (answer : Except Error Answer) :
    Tally batches (collection.settled answer) := by
  unfold Collection.settled
  split
  · exact ⟨tally.sound, tally.hint, tally.columnBatches, tally.relationshipLookups, tally.taken⟩
  · exact tally

theorem Tally.paired (tally : Tally batches collection) {hint : Hint} (told : collection.hint = some hint) :
    hint.names ≠ [] ∧ hint.values ≠ [] ∧ hint.names.length = hint.values.length := by
  rw [tally.hint] at told
  unfold Hint.after at told
  split at told
  · rename_i names values last
    cases told
    obtain ⟨asks, paired⟩ := tally.sound _ (List.mem_of_getLast? last)
    refine ⟨asks, ?_, paired⟩
    rintro rfl
    exact asks (List.length_eq_zero_iff.mp paired)
  · cases told

end Tally

section Course
variable {before : Collection} {operation : Operation} {answer : Except Error Answer} {left : Queue}
  {calls : List Call}

theorem lookups_told {α : Type} (tells : Call → Option α) (view : Batch × IdSet → α)
    (each : ∀ batch ids, tells (.lookup batch (.ok ids)) = some (view (batch, ids))) (done : List Batch)
    (sets : List IdSet) : (Call.lookups done sets).filterMap tells = (done.zip sets).map view := by
  rw [Call.lookups, ← List.map_uncurry_zip_eq_zipWith, List.filterMap_map, ← List.filterMap_eq_map]
  congr 1
  exact funext fun pair => each pair.1 pair.2

theorem lookups_answered {done : List Batch} {sets : List IdSet} (paired : done.length = sets.length) :
    (Call.lookups done sets).filterMap Call.answered? = done := by
  rw [lookups_told Call.answered? Prod.fst fun _ _ => rfl, List.map_fst_zip (Nat.le_of_eq paired)]

theorem Loads.answered {asks : Bool} {known : Option Roster} (loads : Loads before asks calls known) :
    calls.filterMap Call.answered? = [] := by
  cases loads <;> rfl

-- What was taken from the queue are the batches that were answered, whole and in order.
theorem Course.parts (course : Course before operation answer left calls) :
    operation.queue.batches = calls.filterMap Call.answered? ++ left.batches := by
  cases course with
  | unserved _ _ => rfl
  | idle next => rw [next]; rfl
  | served loads parts paired _ _ =>
    rw [List.filterMap_append, loads.answered, lookups_answered paired, Queue.batches_left parts]
    exact parts
  | @broken _ _ _ _ _ batch error loads parts paired =>
    have unheard : [Call.lookup batch (.error error)].filterMap Call.answered? = [] := rfl
    rw [List.filterMap_append, List.filterMap_append, loads.answered, lookups_answered paired, unheard,
      Queue.batches_left parts, List.append_nil]
    exact parts

-- Keys are told by one kind of operation only, so the collection counts them by what was answered.
theorem Course.settled_counters (course : Course before operation answer left calls) (collection : Collection) :
    (collection.settled answer).counters.keyRequests =
        collection.counters.keyRequests + UInt64.ofNat (if operation.tellsKey answer then 1 else 0) ∧
      (collection.settled answer).counters.keyMisses =
        collection.counters.keyMisses + UInt64.ofNat (if operation.missesKey answer then 1 else 0) := by
  have failed (error : Error) : operation.tellsKey (.error error) = false ∧
      operation.missesKey (.error error) = false := by cases operation <;> exact ⟨rfl, rfl⟩
  cases course with
  | unserved => simp [Collection.settled, failed]
  | idle => simp [Collection.settled, failed]
  | broken => simp [Collection.settled, failed]
  | @served _ known _ _ _ answer loads _ _ tells unknown =>
    have asked := loads.known
    cases known with
    | none =>
      obtain ⟨ids, rfl⟩ := unknown rfl
      cases operation with
      | cacheKey => cases asked
      | _ => simp [Collection.settled, Operation.tellsKey, Operation.missesKey]
    | some roster =>
      have told := tells roster rfl
      cases operation with
      | next => exact told.elim
      | cacheKey reference =>
        rw [show answer = .key _ from told]
        cases Session.keyOf roster reference <;>
          simp [Collection.settled, Operation.tellsKey, Operation.missesKey, Counters.keyRequest]
      | children | positions =>
        obtain ⟨ids, rfl, _⟩ := told
        simp [Collection.settled, Operation.tellsKey, Operation.missesKey]
      | load | count | idAt | positionOf =>
        cases told
        simp [Collection.settled, Operation.tellsKey, Operation.missesKey]

section Failing
variable {batch : Batch} {error : Error}

theorem Loads.no_failure {asks : Bool} {known : Option Roster} (loads : Loads before asks calls known) :
    .lookup batch (.error error) ∉ calls := by
  cases loads <;> simp

theorem lookups_no_failure {done : List Batch} {sets : List IdSet} :
    .lookup batch (.error error) ∉ Call.lookups done sets := by
  intro member
  obtain ⟨_, _, answered⟩ := Call.mem_lookups member
  cases answered

theorem Course.fails (course : Course before operation answer left calls)
    (failed : .lookup batch (.error error) ∈ calls) :
    answer = .error error ∧ left.batches.head? = some batch ∧ ∃ made, calls = made ++ [.lookup batch (.error error)] := by
  cases course with
  | unserved => simp at failed
  | idle => cases failed
  | served loads =>
    rcases List.mem_append.mp failed with early | late
    · exact absurd early loads.no_failure
    · exact absurd late lookups_no_failure
  | broken loads parts paired =>
    rcases List.mem_append.mp failed with earlier | last
    · rcases List.mem_append.mp earlier with early | late
      · exact absurd early loads.no_failure
      · exact absurd late lookups_no_failure
    · cases List.mem_singleton.mp last
      exact ⟨rfl, by rw [Queue.batches_left parts]; rfl, _, rfl⟩

end Failing
end Course

theorem taken_sum {history : List Entry}
    (parts : ∀ entry ∈ history, entry.operation.queue = Queue.ofBatches entry.answered ++ entry.left) :
    (history.map Entry.taken).sum = (Queue.ofBatches (history.flatMap Entry.answered)).length := by
  induction history with
  | nil => rfl
  | cons entry later ih =>
    obtain ⟨here, behind⟩ := List.forall_mem_cons.mp parts
    have taken : entry.taken = (Queue.ofBatches entry.answered).length := by
      rw [Entry.taken, here, List.length_append, Nat.add_sub_cancel]
    rw [List.map_cons, List.sum_cons, ih behind, taken, List.flatMap_cons, Queue.ofBatches_append, List.length_append]

theorem Tally.books {history : List Entry} {collection : Collection}
    (tally : Tally (history.flatMap Entry.answered) collection)
    (parts : ∀ entry ∈ history, entry.operation.queue = Queue.ofBatches entry.answered ++ entry.left)
    (failing : ∀ entry ∈ history, ∀ batch error, .lookup batch (.error error) ∈ entry.calls → entry.Fails batch error)
    (keyRequests : collection.counters.keyRequests = UInt64.ofNat (history.countP Entry.tellsKey))
    (keyMisses : collection.counters.keyMisses = UInt64.ofNat (history.countP Entry.missesKey)) :
    Books history collection where
  hint := tally.hint
  paired _ told := tally.paired told
  columnBatches := tally.columnBatches
  relationshipLookups := tally.relationshipLookups
  taken := by rw [taken_sum parts, tally.taken]
  parts := parts
  failing := failing
  keyRequests := keyRequests
  keyMisses := keyMisses

namespace Session
variable {σ : Type} (source : Source σ) (operation : Operation) (session : Session σ)

theorem entry_parts :
    (entry source operation session).operation.queue =
      Queue.ofBatches (entry source operation session).answered ++ (entry source operation session).left := by
  have parts := congrArg Queue.ofBatches (entry_course source operation session).2.parts
  rwa [Queue.ofBatches_append, Queue.ofBatches_batches, Queue.ofBatches_batches] at parts

theorem entry_sound : ∀ batch ∈ (entry source operation session).answered, batch.Sound := by
  intro batch member
  have parts := (entry_course source operation session).2.parts
  have inQueue : batch ∈ operation.queue.batches := by
    rw [show operation.queue.batches = _ from parts]
    exact List.mem_append_left _ member
  exact Queue.sound_of_cut (Queue.cut_batches operation.queue) inQueue

theorem entry_fails {batch : Batch} {error : Error}
    (failed : .lookup batch (.error error) ∈ (entry source operation session).calls) :
    (entry source operation session).Fails batch error := by
  obtain ⟨collection, course⟩ := entry_course source operation session
  obtain ⟨answer, front, made, calls⟩ := course.fails failed
  refine ⟨answer, ⟨front, ?_⟩, made, calls, ?_⟩
  · obtain ⟨later, left⟩ := List.head?_eq_some_iff.mp front
    rw [← Queue.ofBatches_batches (entry source operation session).left, left, Queue.ofBatches_cons]
    exact List.prefix_append _ _
  · rw [collection, answer, calls, List.foldl_append]
    rfl

theorem entry_tally {batches : List Batch} (tally : Tally batches session.collection) :
    Tally (batches ++ (entry source operation session).answered) (entry source operation session).after := by
  rw [(entry_course source operation session).1]
  exact (tally.calls (entry_sound source operation session)).settled _

theorem heard_keys (calls : List Call) (collection : Collection) :
    (calls.foldl Collection.heard collection).counters.keyRequests = collection.counters.keyRequests ∧
      (calls.foldl Collection.heard collection).counters.keyMisses = collection.counters.keyMisses := by
  induction calls generalizing collection with
  | nil => exact ⟨rfl, rfl⟩
  | cons call later ih =>
    rw [List.foldl_cons, (ih _).1, (ih _).2]
    cases call with
    | scan answer => cases answer <;> exact ⟨rfl, rfl⟩
    | lookup batch answer =>
      cases answer with
      | error => exact ⟨rfl, rfl⟩
      | ok ids => cases batch <;> exact ⟨rfl, rfl⟩

theorem entry_keys :
    (entry source operation session).after.counters.keyRequests = session.collection.counters.keyRequests +
        UInt64.ofNat (if (entry source operation session).tellsKey then 1 else 0) ∧
      (entry source operation session).after.counters.keyMisses = session.collection.counters.keyMisses +
        UInt64.ofNat (if (entry source operation session).missesKey then 1 else 0) := by
  obtain ⟨collection, course⟩ := entry_course source operation session
  have settled := course.settled_counters
    ((entry source operation session).calls.foldl Collection.heard (entry source operation session).before)
  rwa [← collection, (heard_keys _ _).1, (heard_keys _ _).2] at settled

theorem entry_books (past : List Entry)
    (kept : Tally (past.flatMap Entry.answered) session.collection ∧ Books past session.collection) :
    Tally ((past ++ [entry source operation session]).flatMap Entry.answered)
        (entry source operation session).after ∧
      Books (past ++ [entry source operation session]) (entry source operation session).after := by
  obtain ⟨tally, books⟩ := kept
  have further := entry_tally source operation session tally
  obtain ⟨requests, misses⟩ := entry_keys source operation session
  rw [← List.flatMap_singleton Entry.answered, ← List.flatMap_append] at further
  refine ⟨further, further.books ?_ ?_ ?_ ?_⟩
  · rw [List.forall_mem_append, List.forall_mem_singleton]
    exact ⟨books.parts, entry_parts source operation session⟩
  · rw [List.forall_mem_append, List.forall_mem_singleton]
    exact ⟨books.failing, fun _ _ => entry_fails source operation session⟩
  · rw [requests, books.keyRequests, List.countP_append, List.countP_singleton, UInt64.ofNat_add]
  · rw [misses, books.keyMisses, List.countP_append, List.countP_singleton, UInt64.ofNat_add]

-- At every point of a run, for what comes up to there is a run too.
theorem history_balances (config : Config) (state : σ) (events : List (Event σ)) :
    Books (history source events (fresh config state)) (afterwards source events (fresh config state)).collection := by
  have start : Tally (List.flatMap Entry.answered []) (fresh config state).collection :=
    ⟨by simp, rfl, rfl, rfl, rfl⟩
  have kept := history_keeps
    (fun past collection => Tally (past.flatMap Entry.answered) collection ∧ Books past collection)
    (fun past operation session => entry_books source operation session past) events [] (fresh config state)
    ⟨start, start.books (by simp) (by simp) rfl rfl⟩
  exact kept.2

end Session
end Casebook
