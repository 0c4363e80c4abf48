import Casebook.Source.Basic

namespace Casebook

structure MemoryRow where
  id : CaseId
  columns : List (String × String)
  deriving DecidableEq, Repr

structure MemoryEdge where
  name : String
  target : String
  id : CaseId
  deriving DecidableEq, Repr

structure Memory where
  ids : List CaseId := []
  rows : List MemoryRow := []
  edges : List MemoryEdge := []
  -- How many of the next calls of each kind fail.
  failScan : Nat := 0
  failColumns : Nat := 0
  failIndex : Nat := 0
  deriving DecidableEq, Repr

namespace Memory

def matching (memory : Memory) (pairs : List (String × String)) : IdSet :=
  IdSet.ofList ((memory.rows.filter fun row => pairs.all row.columns.contains).map MemoryRow.id)

def pointing (memory : Memory) (name target : String) : IdSet :=
  IdSet.ofList ((memory.edges.filter fun edge => edge.name == name && edge.target == target).map MemoryEdge.id)

def scan (memory : Memory) : Except Error (List CaseId) × Memory :=
  match memory.failScan with
  | 0 => (.ok memory.ids, memory)
  | left + 1 => (.error (.backend "scan offline"), { memory with failScan := left })

def withColumns (names values : List String) (memory : Memory) : Except Error IdSet × Memory :=
  match memory.failColumns with
  | 0 => (.ok (memory.matching (names.zip values)), memory)
  | left + 1 => (.error (.backend "columns offline"), { memory with failColumns := left })

def withEdge (name target : String) (memory : Memory) : Except Error IdSet × Memory :=
  match memory.failIndex with
  | 0 => (.ok (memory.pointing name target), memory)
  | left + 1 => (.error (.backend "index offline"), { memory with failIndex := left })

end Memory

def Source.memory : Source Memory where
  scan := Memory.scan
  withColumns := Memory.withColumns
  withEdge := Memory.withEdge

end Casebook
