import Casebook.Pinpoint
import Casebook.Counters
import Casebook.Hint
import Casebook.Predicate.Queue
import Casebook.Roster
import Casebook.Source.Basic

namespace Casebook

structure Collection where
  config : Config := {}
  roster : Option Roster := none
  hint : Option Hint := none
  counters : Counters := {}
  deriving DecidableEq, Repr

namespace Collection

def enrolled (roster : Roster) (collection : Collection) : Collection :=
  { collection with
    roster := some roster
    counters := collection.counters.scan (UInt64.ofNat roster.size) }

-- A relationship lookup is no use for priming, so it leaves no hint.
def answered (batch : Batch) (collection : Collection) : Collection :=
  match batch with
  | .relationship .. => { collection with hint := none, counters := collection.counters.relationshipLookup }
  | .columns names values =>
    { collection with
      hint := some ⟨names, values⟩
      counters := collection.counters.columnBatch (UInt64.ofNat names.length) }

def queue (collection : Collection) (predicates : List Predicate) : Queue :=
  Queue.ofPredicates collection.config.relationshipMarker predicates

end Collection

structure Session (σ : Type) where
  source : σ
  collection : Collection

end Casebook
