namespace Casebook

structure Predicate where
  key : String
  value : String
  deriving DecidableEq, Repr

inductive Routed where
  | column (name value : String)
  | relationship (name value : String)
  deriving DecidableEq, Repr

namespace Routed

def without (beginning : List Char) (text : List Char) : Option (List Char) :=
  if beginning.isPrefixOf text then some (text.drop beginning.length) else none

-- The marker is looked for here and nowhere else; an empty marker marks nothing.
def ofPredicate (marker : String) (predicate : Predicate) : Routed :=
  match without marker.toList predicate.key.toList with
  | some name =>
    if marker.isEmpty then .column predicate.key predicate.value
    else .relationship (String.ofList name) predicate.value
  | none => .column predicate.key predicate.value

def isRelationship : Routed → Bool
  | .relationship .. => true
  | .column .. => false

theorem without_exact {beginning text rest : List Char} :
    without beginning text = some rest ↔ text = beginning ++ rest := by
  unfold without
  constructor
  · intro found
    split at found
    · rename_i starts
      obtain ⟨tail, rfl⟩ := List.isPrefixOf_iff_prefix.mp starts
      simpa using found
    · cases found
  · rintro rfl
    simp

end Routed
end Casebook
