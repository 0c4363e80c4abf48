import Casebook.IdSet

namespace Casebook

-- A repeated id stays where it came first.
def distinctIds : List CaseId → List CaseId
  | [] => []
  | id :: rest => id :: (distinctIds rest).filter (· != id)

theorem distinctIds_nodup (ids : List CaseId) : (distinctIds ids).Nodup := by
  induction ids with
  | nil => exact .nil
  | cons id rest ih =>
    refine List.nodup_cons.mpr ⟨?_, List.Pairwise.filter _ ih⟩
    simp

theorem mem_distinctIds {id : CaseId} {ids : List CaseId} : id ∈ distinctIds ids ↔ id ∈ ids := by
  induction ids with
  | nil => rfl
  | cons first rest ih =>
    by_cases same : id = first
    · simp [distinctIds, same]
    · simp [distinctIds, same, ih]

structure Roster where
  ids : List CaseId
  distinct : ids.Nodup
  deriving DecidableEq, Repr

namespace Roster

def ofIds (ids : List CaseId) : Roster := ⟨distinctIds ids, distinctIds_nodup ids⟩

def size (roster : Roster) : Nat := roster.ids.length

def isEmpty (roster : Roster) : Bool := roster.ids.isEmpty

def idAt (roster : Roster) (position : Nat) : Option CaseId := roster.ids[position]?

def positionOf (roster : Roster) (id : CaseId) : Option Nat := roster.ids.idxOf? id

def contains (roster : Roster) (id : CaseId) : Bool := roster.ids.contains id

def idSet (roster : Roster) : IdSet := IdSet.ofList roster.ids

-- What a lookup found among the ids of the roster. It may know others, which came or went since.
def restrict (roster : Roster) (ids : IdSet) : IdSet := ids.keep roster.contains

-- Ascending; an id without a position is passed over.
def positionsOf (roster : Roster) (ids : IdSet) : List Nat :=
  (ids.toList.filterMap roster.positionOf).mergeSort

end Roster
end Casebook
