namespace Casebook

structure Hint where
  names : List String
  values : List String
  deriving DecidableEq, Repr

-- Where the lists differ in length, only what has a partner is paired.
def Hint.pairs (hint : Hint) : List (String × String) := hint.names.zip hint.values

end Casebook
