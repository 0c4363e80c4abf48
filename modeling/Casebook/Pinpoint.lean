import Casebook.Config
import Casebook.Reference.Basic

namespace Casebook

-- Letters outside ASCII differ from their other case.
def sameIgnoringCase (left right : String) : Bool :=
  left.toList.map Char.toLower == right.toList.map Char.toLower

def Config.pinpoints (config : Config) (reference : Reference) : Bool :=
  match reference.absolute, reference.segments with
  | true, [collection, item] =>
    !reference.hasPredicates &&
      sameIgnoringCase collection.name config.collectionName &&
      sameIgnoringCase item.name config.itemName &&
      item.position.isSome
  | _, _ => false

namespace Config
variable {config : Config} {reference : Reference}

theorem pinpoints_pair (pinpoints : config.pinpoints reference = true) :
    ∃ collection item, reference = ⟨true, [collection, item]⟩ := by
  obtain ⟨absolute, segments⟩ := reference
  unfold Config.pinpoints at pinpoints
  split at pinpoints
  · rename_i collection item rooted pair
    cases rooted
    cases pair
    exact ⟨collection, item, rfl⟩
  · cases pinpoints

theorem pinpoints_iff {collection item : Segment} : config.pinpoints ⟨true, [collection, item]⟩ = true ↔
    (collection.predicates = [] ∧ item.predicates = []) ∧
      sameIgnoringCase collection.name config.collectionName = true ∧
      sameIgnoringCase item.name config.itemName = true ∧ ∃ position, item.position = some position := by
  simp [pinpoints, Reference.hasPredicates, Option.isSome_iff_exists, and_assoc]

theorem pinpoints_bare (pinpoints : config.pinpoints reference = true) :
    reference.absolute = true ∧ reference.size = 2 ∧ reference.hasPredicates = false ∧
      ∃ position, reference.pinnedPosition = some position := by
  obtain ⟨collection, item, rfl⟩ := pinpoints_pair pinpoints
  obtain ⟨⟨silent, silent'⟩, _, _, position, placed⟩ := pinpoints_iff.mp pinpoints
  refine ⟨rfl, rfl, ?_, position, placed⟩
  simp [Reference.hasPredicates, silent, silent']

end Config
end Casebook
