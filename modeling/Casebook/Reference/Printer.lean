import Casebook.Reference.Basic

namespace Casebook.Reference

def printPosition : Option Position → List Char
  | some position => '[' :: Nat.toDigits 10 position.toNat ++ [']']
  | none => []

def printPredicate (predicate : Predicate) : List Char :=
  '[' :: '@' :: predicate.key.toList ++ '=' :: '\'' :: predicate.value.toList ++ ['\'', ']']

def printSegment (segment : Segment) : List Char :=
  segment.name.toList ++ printPosition segment.position ++ segment.predicates.flatMap printPredicate

def printRest (segments : List Segment) : List Char :=
  segments.flatMap fun segment => '/' :: printSegment segment

-- A slash stands before every segment but the first of a relative reference.
def print (reference : Reference) : List Char :=
  match reference.absolute, reference.segments with
  | false, first :: rest => printSegment first ++ printRest rest
  | _, segments => printRest segments

def text (reference : Reference) : String := String.ofList (print reference)

end Casebook.Reference
