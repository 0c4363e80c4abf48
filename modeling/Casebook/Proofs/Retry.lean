import Casebook.Proofs.Content
import Casebook.Source.Memory

namespace Casebook

-- While calls fail and after they have stopped failing, the source tells the same content.
structure Source.Recovers {σ : Type} (source : Source σ) (content : Content) (failing recovered : σ → Prop) :
    Prop where
  before : source.Truthful content failing
  after : source.Truthful content recovered
  scans : source.AnswersScans recovered
  lookups : source.AnswersLookups recovered

namespace Memory
variable {memory : Memory}

def content (memory : Memory) : Content where
  ids := memory.ids
  answer
    | .relationship name value => memory.pointing name value
    | .columns names values => memory.matching (names.zip values)

def healthy (memory : Memory) : Memory := { memory with failScan := 0, failColumns := 0, failIndex := 0 }

theorem content_healthy {other : Memory} (same : other.healthy = memory.healthy) : other.content = memory.content := by
  have told : other.healthy.content = memory.healthy.content := congrArg content same
  exact told

theorem scan_healthy : (Source.memory.scan memory).2.healthy = memory.healthy := by
  change memory.scan.2.healthy = _
  unfold scan
  split <;> rfl

theorem scan_told {ids : List CaseId} (told : (Source.memory.scan memory).1 = .ok ids) : ids = memory.content.ids := by
  change memory.scan.1 = _ at told
  unfold scan at told
  split at told
  · exact (Except.ok.inj told).symm
  · cases told

theorem ask_healthy (batch : Batch) : (Session.ask .memory batch memory).2.healthy = memory.healthy := by
  cases batch with
  | relationship name value =>
    change (memory.withEdge name value).2.healthy = _
    unfold withEdge
    split <;> rfl
  | columns names values =>
    change (memory.withColumns names values).2.healthy = _
    unfold withColumns
    split <;> rfl

theorem ask_told {batch : Batch} {ids : IdSet} (told : (Session.ask .memory batch memory).1 = .ok ids) :
    ids = memory.content.answer batch := by
  cases batch with
  | relationship name value =>
    change (memory.withEdge name value).1 = _ at told
    unfold withEdge at told
    split at told
    · exact (Except.ok.inj told).symm
    · cases told
  | columns names values =>
    change (memory.withColumns names values).1 = _ at told
    unfold withColumns at told
    split at told
    · exact (Except.ok.inj told).symm
    · cases told

theorem truthful (memory : Memory) : Source.memory.Truthful memory.content (·.healthy = memory.healthy) where
  scan := by
    intro state same
    refine ⟨scan_healthy.trans same, ?_⟩
    intro ids told
    rw [← content_healthy same]
    exact scan_told told
  lookup := by
    intro batch state same
    refine ⟨(ask_healthy batch).trans same, ?_⟩
    intro ids told
    rw [← content_healthy same]
    exact ask_told told

theorem recovers (memory : Memory) :
    Source.memory.Recovers memory.content (·.healthy = memory.healthy) (· = memory.healthy) where
  before := memory.truthful
  after := by
    constructor
    · intro state healthy
      cases healthy
      exact ⟨rfl, fun _ => @scan_told memory.healthy _⟩
    · intro batch state healthy
      cases healthy
      refine ⟨?_, fun _ => @ask_told memory.healthy _ _⟩
      cases batch <;> rfl
  scans := by
    intro state healthy
    cases healthy
    exact ⟨_, rfl⟩
  lookups := by
    intro batch state healthy
    cases healthy
    cases batch <;> exact ⟨_, rfl⟩

end Memory

namespace Session
variable {σ : Type} {source : Source σ} {content : Content} {failing recovered : σ → Prop}
  {session after : Session σ} {queue left : Queue} {done : List Batch} {error : Error}

theorem FailedAfter.parts (failed : FailedAfter source queue session done error left after) :
    queue.batches = done ++ left.batches := by
  cases failed with
  | scan => rfl
  | lookup _ parts _ _ => rw [Queue.batches_left parts, parts]

theorem FailedAfter.roster (failed : FailedAfter source queue session done error left after)
    (truthful : source.Truthful content failing) (here : failing session.source) :
    after.collection.rosterOver content.ids = session.collection.rosterOver content.ids := by
  cases failed with
  | scan known => rw [(roster_failed known).2]
  | lookup known _ answered lost =>
    have kept := answered.roster.trans (roster_ok known)
    rw [(perform_failed lost).2, Collection.rosterOver, kept]
    exact roster_told truthful here known

def Yields (source : Source σ) (queue : Queue) (session : Session σ) (roster : Roster) (ids : IdSet) : Prop :=
  (children source queue session).1 = .ok ids ∧ (positions source queue session).1 = .ok (roster.positionsOf ids)

theorem yields_content (recovers : source.Recovers content failing recovered) (queue : Queue)
    (session : Session σ) (here : recovered session.source) :
    ∃ ids, Yields source queue session (session.collection.rosterOver content.ids) ids ∧
      ∀ id, id ∈ ids ↔
        id ∈ (session.collection.rosterOver content.ids).ids ∧ ∀ batch ∈ queue.batches, id ∈ content.answer batch := by
  obtain ⟨loaded, known⟩ := roster_answered recovers.after recovers.scans here
  have loadedHere := roster_among recovers.after here known
  obtain ⟨ids, answered, members⟩ := children_told recovers.after recovers.lookups known loadedHere queue
  refine ⟨ids, ⟨answered, ?_⟩, members⟩
  rcases ran : children source queue session with ⟨answer, left, after⟩
  rw [ran] at answered
  cases answered
  obtain ⟨roster, other, known', found⟩ := positions_ok ran
  rw [known] at known'
  cases known'
  rw [found]

-- What a second try chooses is too much exactly where an answer that was thrown away would have narrowed it.
theorem failed_retry {state : σ} (recovers : source.Recovers content failing recovered)
    (here : failing session.source)
    (failed : children source queue session = (.error error, left, after) ∨
      positions source queue session = (.error error, left, after))
    (normal : recovered state) :
    ∃ done whole again, FailedAfter source queue session done error left after ∧
      queue = Queue.ofBatches done ++ left ∧
      Yields source queue ⟨state, session.collection⟩ (session.collection.rosterOver content.ids) whole ∧
      Yields source queue ⟨state, after.collection⟩ (session.collection.rosterOver content.ids) whole ∧
      Yields source left ⟨state, after.collection⟩ (session.collection.rosterOver content.ids) again ∧
      (∀ id, id ∈ whole ↔ id ∈ again ∧ ∀ batch ∈ done, id ∈ content.answer batch) ∧
      (again = whole ↔ ∀ id ∈ again, ∀ batch ∈ done, id ∈ content.answer batch) := by
  have ran : children source queue session = (.error error, left, after) := by
    rcases failed with failed | failed
    · exact failed
    · exact positions_failed_iff.mp failed
  obtain ⟨done, broken⟩ := children_failed ran
  have parts := broken.parts
  have same := broken.roster recovers.before here
  obtain ⟨whole, first, members⟩ := yields_content recovers queue ⟨state, session.collection⟩ normal
  obtain ⟨whole', second, members'⟩ := yields_content recovers queue ⟨state, after.collection⟩ normal
  obtain ⟨again, third, membersAgain⟩ := yields_content recovers left ⟨state, after.collection⟩ normal
  dsimp only at first second third members members' membersAgain
  rw [same] at second third members' membersAgain
  have equal : whole' = whole := IdSet.eq_of_members fun id => (members' id).trans (members id).symm
  subst equal
  have narrowed : ∀ id, id ∈ whole' ↔ id ∈ again ∧ ∀ batch ∈ done, id ∈ content.answer batch := by
    intro id
    rw [members, membersAgain, parts, List.forall_mem_append, and_assoc]
    exact and_congr_right fun _ => and_comm
  have joined := congrArg Queue.ofBatches parts
  rw [Queue.ofBatches_append, Queue.ofBatches_batches, Queue.ofBatches_batches] at joined
  exact ⟨done, whole', again, broken, joined, first, second, third, narrowed, IdSet.eq_narrowed_iff narrowed⟩

-- The first batch finds Bob and is lost with the failure of the second.
def outage : Memory where
  ids := [1, 2]
  rows := [⟨1, [("name", "Bob")]⟩, ⟨2, [("name", "Ann")]⟩]
  edges := [⟨"parent", "P1", 1⟩, ⟨"parent", "P1", 2⟩]
  failIndex := 1

def askedInOutage : Queue := [.column "name" "Bob", .relationship "parent" "P1"]

theorem outage_retry :
    let after := (children .memory askedInOutage ⟨outage, {}⟩).2.2
    ∃ done whole again,
      FailedAfter .memory askedInOutage ⟨outage, {}⟩ done (.backend "index offline")
        [.relationship "parent" "P1"] after ∧
      askedInOutage = Queue.ofBatches done ++ [.relationship "parent" "P1"] ∧
      Yields .memory askedInOutage ⟨outage.healthy, {}⟩ (Collection.rosterOver [1, 2] {}) whole ∧
      Yields .memory askedInOutage ⟨outage.healthy, after.collection⟩ (Collection.rosterOver [1, 2] {}) whole ∧
      Yields .memory [.relationship "parent" "P1"] ⟨outage.healthy, after.collection⟩
        (Collection.rosterOver [1, 2] {}) again ∧
      (∀ id, id ∈ whole ↔ id ∈ again ∧ ∀ batch ∈ done, id ∈ outage.content.answer batch) ∧
      (again = whole ↔ ∀ id ∈ again, ∀ batch ∈ done, id ∈ outage.content.answer batch) :=
  failed_retry outage.recovers rfl (.inl rfl) rfl

-- With the backend back, the rest of the queue leads to Ann too.
theorem outage_widens :
    let failed := children .memory askedInOutage ⟨outage, {}⟩
    failed.1 = .error (.backend "index offline") ∧ failed.2.2.source = outage.healthy ∧
      (children .memory failed.2.1 failed.2.2).1 = .ok (.ofList [1, 2]) ∧
      (children .memory askedInOutage failed.2.2).1 = .ok (.ofList [1]) := by
  refine ⟨rfl, rfl, rfl, rfl⟩

end Session
end Casebook
