import Casebook.Json.Fields
import Casebook.Json.Reader
import Casebook.OrderedMap
import Casebook.Case

namespace Casebook

structure ImportedCase where
  id : CaseId
  columns : TextMap := .empty
  indices : TextMap := .empty

namespace ImportedCase

-- Both maps are gone through in the order of the bytes of their names.
def toCase (input : ImportedCase) : Case :=
  let columned := input.columns.entries.foldl (fun record entry => record.setColumn entry.1 entry.2)
    { id := input.id }
  input.indices.entries.foldl (fun record entry => record.addEdge entry.1 entry.2) columned

def fieldNames : List String := ["id", "columns", "indices"]

def readId (value : Json.Value) : Option CaseId := do
  let natural ← value.natural?
  if natural < UInt64.size then some (UInt64.ofNat natural) else none

def readMember (member : Option String × Json.Value) : Option (String × String) := do
  let name ← member.1
  let text ← member.2.text?
  some (name, text)

-- Of a repeated name the last text counts.
def readMap : Json.Value → Option TextMap
  | .object members => (members.mapM readMember).map OrderedMap.ofList
  | _ => none

def ofFields : List (Option Json.Value) → Option ImportedCase
  | [some id, columns, indices] => do
    let id ← readId id
    let columns ← Json.orElse .empty readMap columns
    let indices ← Json.orElse .empty readMap indices
    some { id, columns, indices }
  | _ => none

def ofValue (value : Json.Value) : Option ImportedCase := do
  let fields ← Json.fields fieldNames value
  ofFields fields

def listOfText (text : String) : Option (List ImportedCase) := do
  match ← Json.read text with
  | .array items => items.mapM ofValue
  | _ => none

end ImportedCase
end Casebook
