import Casebook.Collection.Children
import Casebook.Proofs.Resolution

namespace Casebook

inductive Call where
  | scan (answer : Except Error (List CaseId))
  | lookup (batch : Batch) (answer : Except Error IdSet)

namespace Source
variable {σ τ : Type}

-- Every call is written behind the earlier ones, failed calls too.
def watched (source : Source σ) : Source (σ × List Call) where
  scan state :=
    let told := source.scan state.1
    (told.1, told.2, state.2 ++ [.scan told.1])
  withColumns names values state :=
    let told := source.withColumns names values state.1
    (told.1, told.2, state.2 ++ [.lookup (.columns names values) told.1])
  withEdge name value state :=
    let told := source.withEdge name value state.1
    (told.1, told.2, state.2 ++ [.lookup (.relationship name value) told.1])

-- A source that keeps more in its states answers as the other one does.
structure Over (upper : Source τ) (lower : Source σ) (view : τ → σ) : Prop where
  scan : ∀ state, lower.scan (view state) = ((upper.scan state).1, view (upper.scan state).2)
  ask : ∀ batch state, Session.ask lower batch (view state) =
    ((Session.ask upper batch state).1, view (Session.ask upper batch state).2)

theorem watched_over (source : Source σ) : source.watched.Over source Prod.fst where
  scan _ := rfl
  ask batch state := by cases batch <;> rfl

end Source

inductive Operation where
  | load
  | next (queue : Queue)
  | children (queue : Queue)
  | positions (queue : Queue)
  | count
  | idAt (position : Nat)
  | positionOf (id : CaseId)
  | cacheKey (reference : Reference)

inductive Answer where
  | roster (roster : Roster)
  | ids (ids : IdSet)
  | positions (positions : List Nat)
  | count (count : Nat)
  | id (id : Option CaseId)
  | position (position : Option Nat)
  | key (id : Option CaseId)

namespace Operation

def queue : Operation → Queue
  | .next queue | .children queue | .positions queue => queue
  | _ => []

def asksRoster : Operation → Bool
  | .next _ => false
  | _ => true

end Operation

structure Entry where
  operation : Operation
  answer : Except Error Answer
  left : Queue
  calls : List Call
  before : Collection
  after : Collection

-- The source may change under a collection at any time between operations.
inductive Event (σ : Type) where
  | operate (operation : Operation)
  | turn (change : σ → σ)

namespace Session
variable {σ τ α : Type}

def queued (answer : α → Answer) (ran : Resolved α σ) : Resolved Answer σ := (ran.1.map answer, ran.2.1, ran.2.2)

def unqueued (answer : α → Answer) (ran : Except Error α × Session σ) : Resolved Answer σ :=
  (ran.1.map answer, [], ran.2)

def operate (source : Source σ) (operation : Operation) (session : Session σ) : Resolved Answer σ :=
  match operation with
  | .load => unqueued .roster (roster source session)
  | .next queue => queued .ids (answerNext source queue session)
  | .children queue => queued .ids (children source queue session)
  | .positions queue => queued .positions (positions source queue session)
  | .count => unqueued .count (count source session)
  | .idAt position => unqueued .id (idAt source position session)
  | .positionOf id => unqueued .position (positionOf source id session)
  | .cacheKey reference => unqueued .key (cacheKey source reference session)

def fresh (config : Config) (state : σ) : Session σ := ⟨state, { config }⟩

def watch (session : Session σ) : Session (σ × List Call) := ⟨(session.source, []), session.collection⟩

def entry (source : Source σ) (operation : Operation) (session : Session σ) : Entry :=
  let ran := operate source operation session
  ⟨operation, ran.1, ran.2.1, (operate source.watched operation session.watch).2.2.source.2,
    session.collection, ran.2.2.collection⟩

def history (source : Source σ) : List (Event σ) → Session σ → List Entry
  | [], _ => []
  | .operate operation :: later, session =>
    entry source operation session :: history source later (operate source operation session).2.2
  | .turn change :: later, session => history source later ⟨change session.source, session.collection⟩

def afterwards (source : Source σ) : List (Event σ) → Session σ → Session σ
  | [], session => session
  | .operate operation :: later, session => afterwards source later (operate source operation session).2.2
  | .turn change :: later, session => afterwards source later ⟨change session.source, session.collection⟩

-- What every operation keeps of the entries so far and the collection, every run keeps.
theorem history_keeps {source : Source σ} (holds : List Entry → Collection → Prop)
    (step : ∀ past operation (session : Session σ), holds past session.collection →
      holds (past ++ [entry source operation session]) (entry source operation session).after)
    (events : List (Event σ)) (past : List Entry) (session : Session σ) (start : holds past session.collection) :
    holds (past ++ history source events session) (afterwards source events session).collection := by
  induction events generalizing past session with
  | nil => simpa [history, afterwards] using start
  | cons event later ih =>
    cases event with
    | operate operation =>
      have further := ih _ _ (step past operation session start)
      rwa [List.append_assoc] at further
    | turn change => exact ih past ⟨change session.source, session.collection⟩ start

section Over
variable {upper : Source τ} {lower : Source σ} {view : τ → σ}

def through (view : τ → σ) (session : Session τ) : Session σ := ⟨view session.source, session.collection⟩

theorem roster_over (lies : upper.Over lower view) (session : Session τ) :
    roster lower (session.through view) =
      ((roster upper session).1, (roster upper session).2.through view) := by
  unfold roster
  rw [show (session.through view).collection = session.collection from rfl]
  cases session.collection.roster with
  | some roster => rfl
  | none =>
    rw [show (session.through view).source = view session.source from rfl, lies.scan]
    rcases upper.scan session.source with ⟨answer, state⟩
    cases answer <;> rfl

theorem perform_over (lies : upper.Over lower view) (batch : Batch) (session : Session τ) :
    perform lower batch (session.through view) =
      ((perform upper batch session).1, (perform upper batch session).2.through view) := by
  unfold perform
  rw [show (session.through view).source = view session.source from rfl, lies.ask]
  rcases ask upper batch session.source with ⟨answer, state⟩
  cases answer <;> rfl

theorem answerNext_over (lies : upper.Over lower view) (queue : Queue) (session : Session τ) :
    answerNext lower queue (session.through view) =
      ((answerNext upper queue session).1, (answerNext upper queue session).2.1,
        (answerNext upper queue session).2.2.through view) := by
  unfold answerNext
  cases queue.batches with
  | nil => rfl
  | cons batch later =>
    dsimp only
    rw [perform_over lies]
    rcases perform upper batch session with ⟨answer, after⟩
    cases answer <;> rfl

theorem narrow_over (lies : upper.Over lower view) (running : Option IdSet) (session : Session τ)
    (batches : List Batch) :
    narrow lower running (session.through view) batches =
      ((narrow upper running session batches).1, (narrow upper running session batches).2.1,
        (narrow upper running session batches).2.2.through view) := by
  induction batches generalizing running session with
  | nil => rfl
  | cons batch later ih =>
    unfold narrow
    rw [perform_over lies]
    rcases perform upper batch session with ⟨answer, after⟩
    cases answer with
    | error error => rfl
    | ok ids =>
      dsimp only
      split
      · rfl
      · exact ih _ _

theorem children_over (lies : upper.Over lower view) (queue : Queue) (session : Session τ) :
    children lower queue (session.through view) =
      ((children upper queue session).1, (children upper queue session).2.1,
        (children upper queue session).2.2.through view) := by
  unfold children
  rw [roster_over lies]
  rcases roster upper session with ⟨answer, loaded⟩
  cases answer with
  | error error => rfl
  | ok roster =>
    dsimp only
    split
    · rfl
    · rw [narrow_over lies]
      rcases narrow upper none loaded queue.batches with ⟨result, rest, after⟩
      cases result <;> rfl

theorem positions_over (lies : upper.Over lower view) (queue : Queue) (session : Session τ) :
    positions lower queue (session.through view) =
      ((positions upper queue session).1, (positions upper queue session).2.1,
        (positions upper queue session).2.2.through view) := by
  unfold positions
  rw [children_over lies]
  rcases children upper queue session with ⟨answer, left, after⟩
  cases answer with
  | error error => rfl
  | ok ids =>
    dsimp only
    rw [roster_over lies]
    rcases roster upper after with ⟨answer, last⟩
    cases answer <;> rfl

theorem fromRoster_over (lies : upper.Over lower view) (answer : Roster → α) (session : Session τ) :
    fromRoster lower answer (session.through view) =
      ((fromRoster upper answer session).1, (fromRoster upper answer session).2.through view) := by
  unfold fromRoster
  rw [roster_over lies]
  rcases roster upper session with ⟨told, loaded⟩
  cases told <;> rfl

theorem cacheKey_over (lies : upper.Over lower view) (reference : Reference) (session : Session τ) :
    cacheKey lower reference (session.through view) =
      ((cacheKey upper reference session).1, (cacheKey upper reference session).2.through view) := by
  unfold cacheKey
  rw [roster_over lies]
  rcases roster upper session with ⟨told, loaded⟩
  cases told <;> rfl

theorem operate_over (lies : upper.Over lower view) (operation : Operation) (session : Session τ) :
    operate lower operation (session.through view) =
      ((operate upper operation session).1, (operate upper operation session).2.1,
        (operate upper operation session).2.2.through view) := by
  cases operation with
  | load => simp only [operate, unqueued, roster_over lies]
  | next queue => simp only [operate, queued, answerNext_over lies]
  | children queue => simp only [operate, queued, children_over lies]
  | positions queue => simp only [operate, queued, positions_over lies]
  | count => simp only [operate, unqueued, count, fromRoster_over lies]
  | idAt position => simp only [operate, unqueued, idAt, fromRoster_over lies]
  | positionOf id => simp only [operate, unqueued, positionOf, fromRoster_over lies]
  | cacheKey reference => simp only [operate, unqueued, cacheKey_over lies]

end Over

theorem operate_watched (source : Source σ) (operation : Operation) (session : Session σ) :
    operate source operation session =
      ((operate source.watched operation session.watch).1, (operate source.watched operation session.watch).2.1,
        (operate source.watched operation session.watch).2.2.through Prod.fst) :=
  operate_over source.watched_over operation session.watch

end Session
end Casebook
