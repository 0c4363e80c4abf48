import Casebook.Error
import Casebook.Case
import Casebook.Store.Postings

namespace Casebook

inductive Store.Row where
  -- A case, under whatever key it lies: a write puts it under the key of its own id.
  | readable (record : Case)
  | unreadable (bytes : Bytes)

def Store.Row.read : Store.Row → Except Error Case
  | .readable record => .ok record
  | .unreadable _ => .error (.deserialization "the row is no case")

structure Store where
  rows : ByteMap Store.Row
  columns : Store.Postings
  relationships : Store.Postings

namespace Store

def empty : Store := ⟨.empty, .empty, .empty⟩

def postColumns (record : Case) (postings : Postings) : Postings :=
  record.columns.foldl (fun postings column => postings.add column.1 column.2 record.id) postings

def dropColumns (record : Case) (postings : Postings) : Postings :=
  record.columns.foldl (fun postings column => postings.drop column.1 column.2 record.id) postings

def postEdges (record : Case) (postings : Postings) : Postings :=
  record.edges.foldl (fun postings edge => postings.add edge.name edge.target record.id) postings

def dropEdges (record : Case) (postings : Postings) : Postings :=
  record.edges.foldl (fun postings edge => postings.drop edge.name edge.target record.id) postings

def post (record : Case) (store : Store) : Store :=
  { store with
    columns := postColumns record store.columns
    relationships := postEdges record store.relationships }

def unpost (record : Case) (store : Store) : Store :=
  { store with
    columns := dropColumns record store.columns
    relationships := dropEdges record store.relationships }

def get (store : Store) (id : CaseId) : Except Error (Option Case) :=
  match store.rows.get? (Key.ofId id) with
  | some row => row.read.map some
  | none => .ok none

def putRow (record : Case) (store : Store) : Store :=
  post record { store with rows := store.rows.insert (Key.ofId record.id) (.readable record) }

-- What a replaced record was found by goes before the new record comes.
def put (record : Case) (store : Store) : Except Error Unit × Store :=
  match store.get record.id with
  | .error error => (.error error, store)
  | .ok none => (.ok (), store.putRow record)
  | .ok (some previous) => (.ok (), (store.unpost previous).putRow record)

def remove (id : CaseId) (store : Store) : Except Error Bool × Store :=
  match store.get id with
  | .error error => (.error error, store)
  | .ok none => (.ok false, store)
  | .ok (some previous) =>
    let unposted := store.unpost previous
    (.ok true, { unposted with rows := unposted.rows.erase (Key.ofId id) })

def size (store : Store) : Nat := store.rows.size

def isEmpty (store : Store) : Bool := store.rows.isEmpty

-- Ids in the order of their keys. A key that is no id spoils the whole list.
def ids (store : Store) : Except Error (List CaseId) :=
  store.rows.keys.mapM fun key =>
    match Key.toId? key with
    | some id => .ok id
    | none => .error .invalidKey

def withColumns (store : Store) (names values : List String) : IdSet := store.columns.findAll names values

def withEdge (store : Store) (name value : String) : IdSet := store.relationships.find name value

end Store
end Casebook
