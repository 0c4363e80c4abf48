namespace Casebook

structure Config where
  -- The names of the collection and of each item under it; case is ignored where they are compared.
  collectionName : String := "casedb"
  itemName : String := "case"
  relationshipMarker : String := "case-in-"
  -- A report only reads and has no form around it.
  reportMode : Bool := false
  deriving DecidableEq, Repr

end Casebook
