import Casebook.Counters
import Casebook.Hint
import Casebook.Json.Writer
import Casebook.OrderedMap
import Casebook.Case
import Casebook.Report.Table

namespace Casebook.Report

inductive Format where
  | table
  | json
  deriving DecidableEq, Repr

def Format.name : Format → String
  | .table => "table"
  | .json => "json"

def Format.ofName? (name : String) : Option Format :=
  [Format.table, Format.json].find? fun format => format.name == name

structure Row where
  position : Nat
  record : Case
  deriving DecidableEq, Repr

def columnNames (rows : List Row) : List String :=
  (OrderedMap.ofList (rows.flatMap fun row => row.record.columns) : TextMap).keys

def cells (names : List String) (row : Row) : List String :=
  toString row.position :: toString row.record.id.toNat ::
    names.map fun name => (row.record.column? name).getD ""

def caseTable (rows : List Row) : Table :=
  let names := columnNames rows
  ⟨"position" :: "id" :: names, rows.map (cells names)⟩

-- Of columns of the same name the last is shown.
def columnFields (record : Case) : TextMap := OrderedMap.ofList record.columns

def caseOutput (row : Row) : Json.Output :=
  .fields
    [("columns", .fields ((columnFields row.record).entries.map fun entry => (entry.1, .text entry.2))),
      ("id", .number row.record.id.toNat), ("position", .number row.position)]

def cases (rows : List Row) : Format → String
  | .table =>
    if rows.isEmpty then "No results"
    else (caseTable rows).draw ++ "\n" ++ toString rows.length ++ " row(s)"
  | .json => Json.pretty 0 (.list (rows.map caseOutput))

def hintText (hint : Hint) : String :=
  ", ".intercalate (hint.pairs.map fun pair => pair.1 ++ "='" ++ pair.2 ++ "'")

def hintOutput : Option Hint → Json.Output
  | some hint => .fields [("names", .list (hint.names.map .text)), ("values", .list (hint.values.map .text))]
  | none => .null

def hint (hint : Option Hint) : Format → String
  | .table => "Priming hint: " ++ (hint.map hintText).getD "none"
  | .json => Json.compact (hintOutput hint)

def cacheKey (reference : String) (cacheable : Bool) (id : Option CaseId) : Format → String
  | .table =>
    reference ++ ": cacheable=" ++ (if cacheable then "true" else "false") ++ ", id=" ++
      (id.map fun id => toString id.toNat).getD "none"
  | .json =>
    Json.compact (.fields
      [("cacheable", .bool cacheable), ("id", (id.map fun id => Json.Output.number id.toNat).getD .null),
        ("reference", .text reference)])

def message (message : String) : Format → String
  | .table => message
  | .json => Json.compact (.fields [("message", .text message)])

end Casebook.Report
