import Casebook.Collection.Resolution

namespace Casebook.Session
variable {σ : Type} (source : Source σ)

def fromRoster {α : Type} (answer : Roster → α) (session : Session σ) : Except Error α × Session σ :=
  match roster source session with
  | (.error error, session) => (.error error, session)
  | (.ok roster, session) => (.ok (answer roster), session)

def count (session : Session σ) : Except Error Nat × Session σ :=
  fromRoster source Roster.size session

def idAt (position : Nat) (session : Session σ) : Except Error (Option CaseId) × Session σ :=
  fromRoster source (fun roster => roster.idAt position) session

def positionOf (id : CaseId) (session : Session σ) : Except Error (Option Nat) × Session σ :=
  fromRoster source (fun roster => roster.positionOf id) session

-- The id of the child that the item segment addresses. The rest of the reference is not looked at:
-- whoever asks has made sure that it pinpoints a child.
def keyOf (roster : Roster) (reference : Reference) : Option CaseId :=
  reference.pinnedPosition.bind fun position => roster.idAt position.toNat

def cacheKey (reference : Reference) (session : Session σ) : Except Error (Option CaseId) × Session σ :=
  match roster source session with
  | (.error error, session) => (.error error, session)
  | (.ok roster, session) =>
    let key := keyOf roster reference
    let collection := session.collection
    (.ok key, { session with
      collection := { collection with counters := collection.counters.keyRequest key.isSome } })

end Casebook.Session
