import Casebook.Collection.Basic

namespace Casebook.Session
variable {σ : Type} (source : Source σ)

-- The roster, made now if there is none yet. A failed scan leaves none, so it can be tried again.
def roster (session : Session σ) : Except Error Roster × Session σ :=
  match session.collection.roster with
  | some roster => (.ok roster, session)
  | none =>
    match source.scan session.source with
    | (.error error, state) => (.error error, { session with source := state })
    | (.ok ids, state) => (.ok (.ofIds ids), ⟨state, session.collection.enrolled (.ofIds ids)⟩)

def ask (batch : Batch) (state : σ) : Except Error IdSet × σ :=
  match batch with
  | .relationship name value => source.withEdge name value state
  | .columns names values => source.withColumns names values state

def perform (batch : Batch) (session : Session σ) : Except Error IdSet × Session σ :=
  match ask source batch session.source with
  | (.error error, state) => (.error error, { session with source := state })
  | (.ok ids, state) => (.ok ids, ⟨state, session.collection.answered batch⟩)

abbrev Resolved (α σ : Type) := Except Error α × Queue × Session σ

def answerNext (queue : Queue) (session : Session σ) : Resolved IdSet σ :=
  match queue.batches with
  | [] => (.error .emptyPredicateQueue, queue, session)
  | batch :: later =>
    match perform source batch session with
    | (.error error, session) => (.error error, queue, session)
    | (.ok ids, session) => (.ok ids, Queue.ofBatches later, session)

def narrowed (running : Option IdSet) (ids : IdSet) : IdSet :=
  match running with
  | some current => current.inter ids
  | none => ids

-- The batches that are left were not answered. No running set means that none has been answered yet.
def narrow (running : Option IdSet) (session : Session σ) :
    List Batch → Except Error (Option IdSet) × List Batch × Session σ
  | [] => (.ok running, [], session)
  | batch :: later =>
    match perform source batch session with
    | (.error error, session) => (.error error, batch :: later, session)
    | (.ok ids, session) =>
      let next := narrowed running ids
      if next.isEmpty then (.ok (some next), later, session) else narrow (some next) session later

-- Where nothing was asked, every child is meant.
def chosen (roster : Roster) : Option IdSet → IdSet
  | some ids => roster.restrict ids
  | none => roster.idSet

def children (queue : Queue) (session : Session σ) : Resolved IdSet σ :=
  match roster source session with
  | (.error error, session) => (.error error, queue, session)
  | (.ok roster, session) =>
    if roster.isEmpty then (.ok .empty, queue, session)
    else
      match narrow source none session queue.batches with
      | (.error error, left, session) => (.error error, Queue.ofBatches left, session)
      | (.ok running, left, session) => (.ok (chosen roster running), Queue.ofBatches left, session)

def positions (queue : Queue) (session : Session σ) : Resolved (List Nat) σ :=
  match children source queue session with
  | (.error error, left, session) => (.error error, left, session)
  | (.ok ids, left, session) =>
    match roster source session with
    | (.error error, session) => (.error error, left, session)
    | (.ok roster, session) => (.ok (roster.positionsOf ids), left, session)

end Casebook.Session
