import Casebook.IdSet

namespace Casebook

structure Edge where
  name : String
  target : String
  deriving DecidableEq, Repr

structure Case where
  id : CaseId
  -- In the order in which they were first set. Set as a whole, the list may repeat a name.
  columns : List (String × String) := []
  edges : List Edge := []
  deriving DecidableEq, Repr

namespace Case

-- The first column of a name takes the value; a name that is not there yet goes to the end.
def setPair (name value : String) : List (String × String) → List (String × String)
  | [] => [(name, value)]
  | column :: rest =>
    if column.1 = name then (name, value) :: rest else column :: setPair name value rest

def setColumn (name value : String) (record : Case) : Case :=
  { record with columns := setPair name value record.columns }

-- An edge may be added more than once.
def addEdge (name target : String) (record : Case) : Case :=
  { record with edges := record.edges ++ [⟨name, target⟩] }

def column? (record : Case) (name : String) : Option String :=
  (record.columns.find? fun column => column.1 == name).map Prod.snd

end Case
end Casebook
