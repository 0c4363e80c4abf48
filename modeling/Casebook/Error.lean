namespace Casebook

inductive Error where
  | storage (detail : String)
  | backend (detail : String)
  | serialization (detail : String)
  | deserialization (detail : String)
  -- A row stands under a key that is no id.
  | invalidKey
  | invalidReference (detail : String)
  | emptyPredicateQueue
  deriving DecidableEq, Repr

def Error.message : Error → String
  | .storage detail => "storage error: " ++ detail
  | .backend detail => "backend error: " ++ detail
  | .serialization detail => "serialization error: " ++ detail
  | .deserialization detail => "deserialization error: " ++ detail
  | .invalidKey => "invalid key format"
  | .invalidReference detail => "invalid reference: " ++ detail
  | .emptyPredicateQueue => "predicate queue is empty"

end Casebook
