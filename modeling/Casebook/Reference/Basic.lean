import Casebook.Predicate.Basic

namespace Casebook

-- A position is a word: the text form holds no larger number.
abbrev Position := UInt64

structure Segment where
  name : String
  position : Option Position := none
  predicates : List Predicate := []
  deriving DecidableEq, Repr

structure Reference where
  absolute : Bool
  segments : List Segment
  deriving DecidableEq, Repr

namespace Reference

def size (reference : Reference) : Nat := reference.segments.length

def hasPredicates (reference : Reference) : Bool :=
  reference.segments.any fun segment => !segment.predicates.isEmpty

-- A reference without segments asks for nothing.
def finalPredicates (reference : Reference) : List Predicate :=
  match reference.segments.getLast? with
  | some segment => segment.predicates
  | none => []

-- The item of a collection is addressed by the second segment, whatever the others say.
def pinnedPosition (reference : Reference) : Option Position :=
  reference.segments[1]?.bind Segment.position

end Reference
end Casebook
