import Casebook.Config
import Casebook.Json.Fields
import Casebook.Json.Reader
import Casebook.Json.Writer

namespace Casebook.Config

def fieldNames : List String := ["collection_name", "item_name", "relationship_marker", "report_mode"]

def ofFields : List (Option Json.Value) → Option Config
  | [collectionName, itemName, relationshipMarker, reportMode] => do
    let defaults : Config := {}
    let collectionName ← Json.orElse defaults.collectionName Json.Value.text? collectionName
    let itemName ← Json.orElse defaults.itemName Json.Value.text? itemName
    let relationshipMarker ← Json.orElse defaults.relationshipMarker Json.Value.text? relationshipMarker
    let reportMode ← Json.orElse defaults.reportMode Json.Value.bool? reportMode
    some { collectionName, itemName, relationshipMarker, reportMode }
  | _ => none

def ofText (text : String) : Option Config := do
  let value ← Json.read text
  let fields ← Json.fields fieldNames value
  ofFields fields

def output (config : Config) : Json.Output :=
  .fields
    [("collection_name", .text config.collectionName), ("item_name", .text config.itemName),
      ("relationship_marker", .text config.relationshipMarker), ("report_mode", .bool config.reportMode)]

def text (config : Config) : String := Json.compact config.output

end Casebook.Config
