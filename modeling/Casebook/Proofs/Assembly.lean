import Casebook.Proofs.Maps
import Casebook.Proofs.Occurrences
import Casebook.Proofs.Records

namespace Casebook

namespace Case
variable {id : CaseId} {record : Case}

theorem find_setPair (name other value : String) (columns : List (String × String)) :
    ((setPair name value columns).find? fun column => column.1 == other).map Prod.snd =
      if name = other then some value else (columns.find? fun column => column.1 == other).map Prod.snd := by
  induction columns with
  | nil => by_cases asked : name = other <;> simp [setPair, asked]
  | cons column rest ih =>
    unfold setPair
    split
    · rename_i own
      by_cases asked : name = other <;> simp [own, asked]
    · rename_i different
      by_cases found : column.1 = other
      · have unasked : name ≠ other := fun same => different (found.trans same.symm)
        simp [found, unasked]
      · simpa [found] using ih

theorem column_setColumn (record : Case) (name other value : String) :
    (record.setColumn name value).column? other = if name = other then some value else record.column? other :=
  find_setPair name other value record.columns

inductive Part where
  | column (name value : String)
  | edge (name target : String)
  deriving DecidableEq, Repr

namespace Part

def add (record : Case) : Part → Case
  | .column name value => record.setColumn name value
  | .edge name target => record.addEdge name target

def column? : Part → Option (String × String)
  | .column name value => some (name, value)
  | .edge _ _ => none

def edge? : Part → Option Edge
  | .column _ _ => none
  | .edge name target => some ⟨name, target⟩

end Part

def assembled (id : CaseId) (parts : List Part) : Case := parts.foldl Part.add { id }

def columnsSet (parts : List Part) : List (String × String) := parts.filterMap Part.column?

def edgesAdded (parts : List Part) : List Edge := parts.filterMap Part.edge?

def lastSet (parts : List Part) (name : String) : Option String :=
  (((columnsSet parts).filter fun column => column.1 == name).getLast?).map Prod.snd

variable {parts : List Part}

theorem columnsSet_concat (parts : List Part) (part : Part) :
    columnsSet (parts ++ [part]) = columnsSet parts ++ part.column?.toList := by
  rw [columnsSet, List.filterMap_append]
  cases part <;> rfl

theorem edgesAdded_concat (parts : List Part) (part : Part) :
    edgesAdded (parts ++ [part]) = edgesAdded parts ++ part.edge?.toList := by
  rw [edgesAdded, List.filterMap_append]
  cases part <;> rfl

theorem lastSet_column (parts : List Part) (name value other : String) :
    lastSet (parts ++ [.column name value]) other = if name = other then some value else lastSet parts other := by
  rw [lastSet, columnsSet_concat, Part.column?, Option.toList_some, List.filter_append]
  by_cases asked : name = other
  · simp [asked]
  · simp [asked, lastSet]

structure Assembled (id : CaseId) (parts : List Part) (record : Case) : Prop where
  id : record.id = id
  distinct : record.Distinct
  names : record.columns.map Prod.fst = firstOccurrences ((columnsSet parts).map Prod.fst)
  values : ∀ name, record.column? name = lastSet parts name
  edges : record.edges = edgesAdded parts

theorem Assembled.setColumn (known : Assembled id parts record) (name value : String) :
    Assembled id (parts ++ [.column name value]) (record.setColumn name value) where
  id := known.id
  distinct := known.distinct.setColumn name value
  names := by
    change (setPair name value record.columns).map Prod.fst = _
    rw [setPair_names, known.names, columnsSet_concat, Part.column?, Option.toList_some, List.map_append]
    simp only [List.map_cons, List.map_nil, firstOccurrences_concat, mem_firstOccurrences]
  values other := by
    rw [column_setColumn, lastSet_column, known.values]
  edges := by
    rw [edgesAdded_concat, Part.edge?, Option.toList_none, List.append_nil]
    exact known.edges

theorem Assembled.addEdge (known : Assembled id parts record) (name target : String) :
    Assembled id (parts ++ [.edge name target]) (record.addEdge name target) := by
  have columns : columnsSet (parts ++ [.edge name target]) = columnsSet parts := by
    rw [columnsSet_concat, Part.column?, Option.toList_none, List.append_nil]
  refine ⟨known.id, known.distinct, ?_, ?_, ?_⟩
  · rw [columns]
    exact known.names
  · intro other
    rw [lastSet, columns]
    exact known.values other
  · rw [edgesAdded_concat, ← known.edges]
    rfl

theorem assembled_known (id : CaseId) (parts : List Part) : Assembled id parts (assembled id parts) := by
  induction parts using List.reverseRecOn with
  | nil => exact ⟨rfl, List.nodup_nil, rfl, fun _ => rfl, rfl⟩
  | append_singleton parts part ih =>
    have step : assembled id (parts ++ [part]) = part.add (assembled id parts) := List.foldl_append
    rw [step]
    cases part with
    | column name value => exact ih.setColumn name value
    | edge name target => exact ih.addEdge name target

example : assembled 1 [.column "a" "1", .edge "e" "x", .column "b" "2", .column "a" "3", .edge "e" "x"] =
    { id := 1, columns := [("a", "3"), ("b", "2")], edges := [⟨"e", "x"⟩, ⟨"e", "x"⟩] } := by decide

end Case

namespace ImportedCase
open Case

def parts (input : ImportedCase) : List Part :=
  input.columns.entries.map (fun entry => .column entry.1 entry.2) ++
    input.indices.entries.map fun entry => .edge entry.1 entry.2

theorem toCase_assembled (input : ImportedCase) : input.toCase = assembled input.id input.parts := by
  rw [assembled, parts, List.foldl_append, List.foldl_map, List.foldl_map]
  rfl

theorem columnsSet_parts (input : ImportedCase) : columnsSet input.parts = input.columns.entries := by
  simp [columnsSet, parts, List.filterMap_map, Function.comp_def, Part.column?]

theorem edgesAdded_parts (input : ImportedCase) :
    edgesAdded input.parts = input.indices.entries.map fun entry => ⟨entry.1, entry.2⟩ := by
  simp [edgesAdded, parts, List.filterMap_map, Function.comp_def, Part.edge?]

theorem lastSet_parts (input : ImportedCase) (name : String) : lastSet input.parts name = input.columns.get? name := by
  rw [lastSet, columnsSet_parts, ← OrderedMap.lastUnder_entries, OrderedMap.lastUnder]
  simp only [Text.utf8_beq]

-- The record has the pairs of both maps and no others, in the order of the bytes of their names.
structure Arranged (input : ImportedCase) (record : Case) : Prop where
  id : record.id = input.id
  columns : record.columns.Pairwise fun first second => Text.utf8 first.1 < Text.utf8 second.1
  pairs : ∀ name value, (name, value) ∈ record.columns ↔ input.columns.get? name = some value
  edges : record.edges.Pairwise fun first second => Text.utf8 first.name < Text.utf8 second.name
  targets : ∀ name target, ⟨name, target⟩ ∈ record.edges ↔ input.indices.get? name = some target

theorem toCase_arranged (input : ImportedCase) : Arranged input input.toCase := by
  have known := assembled_known input.id input.parts
  rw [← toCase_assembled] at known
  have names : input.toCase.columns.map Prod.fst = input.columns.keys := by
    rw [known.names, columnsSet_parts]
    exact firstOccurrences_distinct input.columns.keys_distinct
  have edges := known.edges.trans (edgesAdded_parts input)
  refine ⟨known.id, ?_, ?_, ?_, ?_⟩
  · have ordered := input.columns.keys_ascending
    rwa [← names, List.pairwise_map] at ordered
  · intro name value
    rw [← known.distinct.column_iff, known.values, lastSet_parts]
  · rw [edges]
    exact List.pairwise_map.mpr input.indices.ascending
  · intro name target
    rw [edges, ← OrderedMap.mem_entries_iff Text.utf8_exact.mp]
    simp

end ImportedCase

theorem records_assembled (id : CaseId) (parts : List Case.Part) (input : ImportedCase) :
    Case.Assembled id parts (Case.assembled id parts) ∧ ImportedCase.Arranged input input.toCase := by
  constructor
  · exact Case.assembled_known id parts
  · exact ImportedCase.toCase_arranged input

end Casebook
