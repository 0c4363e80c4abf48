import Casebook.OrderedMap
import Casebook.Store.Key

namespace Casebook.Store

structure Postings where
  tree : ByteMap Bytes

namespace Postings

def empty : Postings := ⟨.empty⟩

def addId (id : CaseId) (entry : Option Bytes) : Option Bytes :=
  let ids := (entry.map Key.unpack).getD []
  some (Key.pack (if ids.contains id then ids else ids ++ [id]))

def dropId (id : CaseId) : Option Bytes → Option Bytes
  | none => none
  | some entry =>
    let ids := (Key.unpack entry).filter (· != id)
    if ids.isEmpty then none else some (Key.pack ids)

def add (name value : String) (id : CaseId) (postings : Postings) : Postings :=
  ⟨postings.tree.update (Key.ofPair name value) (addId id)⟩

def drop (name value : String) (id : CaseId) (postings : Postings) : Postings :=
  ⟨postings.tree.update (Key.ofPair name value) (dropId id)⟩

def find (postings : Postings) (name value : String) : IdSet :=
  match postings.tree.get? (Key.ofPair name value) with
  | some entry => IdSet.ofList (Key.unpack entry)
  | none => .empty

-- Stops as soon as nothing is left that a further set could keep.
def narrow (running : IdSet) : List IdSet → IdSet
  | [] => running
  | next :: rest => if running.isEmpty then running else narrow (running.inter next) rest

def conjunction (sets : List IdSet) : IdSet :=
  match sets.mergeSort fun left right => left.size ≤ right.size with
  | [] => .empty
  | smallest :: rest => narrow smallest rest

-- The smallest answers come first, which makes the running set small soon; the result is the same
-- in every order. Without any pair nothing is found.
def findAll (postings : Postings) (names values : List String) : IdSet :=
  conjunction ((names.zip values).map fun pair => postings.find pair.1 pair.2)

def size (postings : Postings) : Nat := postings.tree.size

end Postings
end Casebook.Store
