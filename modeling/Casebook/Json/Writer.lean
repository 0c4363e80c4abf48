namespace Casebook.Json

inductive Output where
  | null
  | bool (value : Bool)
  | number (value : Nat)
  | text (text : String)
  | list (items : List Output)
  | fields (members : List (String × Output))

def hexDigit (value : Nat) : Char := (Nat.toDigits 16 value).headD '0'

def escape (c : Char) : List Char :=
  if c = '"' then ['\\', '"']
  else if c = '\\' then ['\\', '\\']
  else if c = '\x08' then ['\\', 'b']
  else if c = '\x0c' then ['\\', 'f']
  else if c = '\n' then ['\\', 'n']
  else if c = '\r' then ['\\', 'r']
  else if c = '\t' then ['\\', 't']
  else if c.toNat < 0x20 then ['\\', 'u', '0', '0', hexDigit (c.toNat / 16), hexDigit (c.toNat % 16)]
  else [c]

def quote (text : String) : String := String.ofList ('"' :: text.toList.flatMap escape ++ ['"'])

mutual

def compact : Output → String
  | .null => "null"
  | .bool value => if value then "true" else "false"
  | .number value => toString value
  | .text text => quote text
  | .list items => "[" ++ ",".intercalate (compactItems items) ++ "]"
  | .fields members => "\x7b" ++ ",".intercalate (compactMembers members) ++ "\x7d"

def compactItems : List Output → List String
  | [] => []
  | item :: rest => compact item :: compactItems rest

def compactMembers : List (String × Output) → List String
  | [] => []
  | (name, value) :: rest => (quote name ++ ":" ++ compact value) :: compactMembers rest

end

def indent (depth : Nat) : String := String.ofList (List.replicate (2 * depth) ' ')

def block (depth : Nat) (left right : String) (parts : List String) : String :=
  if parts.isEmpty then left ++ right
  else
    left ++ "\n" ++ ",\n".intercalate (parts.map fun part => indent (depth + 1) ++ part) ++ "\n" ++
      indent depth ++ right

mutual

def pretty (depth : Nat) : Output → String
  | .null => "null"
  | .bool value => if value then "true" else "false"
  | .number value => toString value
  | .text text => quote text
  | .list items => block depth "[" "]" (prettyItems (depth + 1) items)
  | .fields members => block depth "\x7b" "\x7d" (prettyMembers (depth + 1) members)

def prettyItems (depth : Nat) : List Output → List String
  | [] => []
  | item :: rest => pretty depth item :: prettyItems depth rest

def prettyMembers (depth : Nat) : List (String × Output) → List String
  | [] => []
  | (name, value) :: rest => (quote name ++ ": " ++ pretty depth value) :: prettyMembers depth rest

end

end Casebook.Json
