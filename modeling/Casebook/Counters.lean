namespace Casebook

structure Counters where
  scans : UInt64 := 0
  enrolled : UInt64 := 0
  columnBatches : UInt64 := 0
  columnPredicates : UInt64 := 0
  relationshipLookups : UInt64 := 0
  keyRequests : UInt64 := 0
  keyMisses : UInt64 := 0
  deriving DecidableEq, Repr

namespace Counters

def scan (ids : UInt64) (counters : Counters) : Counters :=
  { counters with scans := counters.scans + 1, enrolled := counters.enrolled + ids }

def columnBatch (predicates : UInt64) (counters : Counters) : Counters :=
  { counters with
    columnBatches := counters.columnBatches + 1
    columnPredicates := counters.columnPredicates + predicates }

def relationshipLookup (counters : Counters) : Counters :=
  { counters with relationshipLookups := counters.relationshipLookups + 1 }

def keyRequest (hit : Bool) (counters : Counters) : Counters :=
  { counters with
    keyRequests := counters.keyRequests + 1
    keyMisses := if hit then counters.keyMisses else counters.keyMisses + 1 }

def toList (counters : Counters) : List UInt64 :=
  [counters.scans, counters.enrolled, counters.columnBatches, counters.columnPredicates,
    counters.relationshipLookups, counters.keyRequests, counters.keyMisses]

def described : List (String × String) :=
  [("casedb_projection_scans_total", "Backing store scans"),
    ("casedb_projected_records_total", "Records given a position"),
    ("casedb_column_batches_total", "Bulk column lookups"),
    ("casedb_column_predicates_total", "Column predicates consumed"),
    ("casedb_relationship_lookups_total", "Relationship index lookups"),
    ("casedb_cache_key_lookups_total", "Cache key requests"),
    ("casedb_cache_key_misses_total", "Cache key requests without a mapping")]

def expose (name help : String) (value : UInt64) : String :=
  "# HELP " ++ name ++ " " ++ help ++ "\n# TYPE " ++ name ++ " counter\n" ++ name ++ " " ++
    toString value.toNat ++ "\n"

def exposition (counters : Counters) : String :=
  String.join ((described.zip counters.toList).map fun row => expose row.1.1 row.1.2 row.2)

end Counters
end Casebook
