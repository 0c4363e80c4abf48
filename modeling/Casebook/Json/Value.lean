namespace Casebook.Json

-- A number is kept only where it is a plain natural number, without sign, fraction or exponent; a string only where its
-- escapes spell whole characters.
inductive Value where
  | null
  | bool (value : Bool)
  | number (natural : Option Nat)
  | string (text : Option String)
  | array (items : List Value)
  | object (members : List (Option String × Value))

end Casebook.Json
