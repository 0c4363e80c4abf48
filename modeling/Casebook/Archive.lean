import Casebook.Command
import Casebook.Import
import Casebook.Json.Writer

namespace Casebook.Archive

def caseOutput (record : Case) : Json.Output :=
  .fields
    [("id", .number record.id.toNat),
      ("columns", .fields (record.columns.map fun column => (column.1, .text column.2))),
      ("indices", .fields (record.edges.map fun edge => (edge.name, .text edge.target)))]

-- Rows that are no cases are left out.
def cases (store : Store) : List Case :=
  store.rows.entries.filterMap fun entry => entry.2.read.toOption

def write (store : Store) : String := Json.compact (.list ((cases store).map caseOutput))

def read (text : String) : Option Store :=
  (ImportedCase.listOfText text).map fun inputs =>
    (Command.putAll (inputs.map ImportedCase.toCase) Store.empty).2

end Casebook.Archive
