import Casebook.Predicate.Basic

namespace Casebook

abbrev Queue := List Routed

inductive Batch where
  | relationship (name value : String)
  | columns (names values : List String)
  deriving DecidableEq, Repr

namespace Batch

-- A predicate in front of batches joins the run it touches.
def push : Routed → List Batch → List Batch
  | .relationship name value, batches => .relationship name value :: batches
  | .column name value, .columns names values :: batches => .columns (name :: names) (value :: values) :: batches
  | .column name value, batches => .columns [name] [value] :: batches

def size : Batch → Nat
  | .relationship .. => 1
  | .columns names _ => names.length

def predicates : Batch → Queue
  | .relationship name value => [.relationship name value]
  | .columns names values => List.zipWith .column names values

end Batch

namespace Queue

def ofPredicates (marker : String) (predicates : List Predicate) : Queue := predicates.map (Routed.ofPredicate marker)

def batches (queue : Queue) : List Batch := queue.foldr Batch.push []

def ofBatches (batches : List Batch) : Queue := batches.flatMap Batch.predicates

def nextBatch? (queue : Queue) : Option Batch := queue.batches.head?

def leadingColumns (queue : Queue) : Queue := queue.takeWhile fun routed => !routed.isRelationship

def leadingNames (queue : Queue) : List String :=
  queue.leadingColumns.filterMap fun
    | .column name _ => some name
    | .relationship .. => none

def leadingValues (queue : Queue) : List String :=
  queue.leadingColumns.filterMap fun
    | .column _ value => some value
    | .relationship .. => none

-- No more is dropped than is there.
def dropFront (count : Nat) (queue : Queue) : Queue := queue.drop count

end Queue
end Casebook
