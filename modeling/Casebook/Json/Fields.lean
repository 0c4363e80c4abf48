import Casebook.Json.Value

namespace Casebook.Json

abbrev Members := List (Option String × Value)

-- Every key has to be a text, also where its member is passed over.
def keysAreTexts (members : Members) : Bool := members.all fun member => member.1.isSome

-- A field may be missing; it may not be given twice.
def field (members : Members) (name : String) : Option (Option Value) :=
  match members.filter fun member => member.1 == some name with
  | [] => some none
  | [member] => some (some member.2)
  | _ => none

def fields (names : List String) : Value → Option (List (Option Value))
  | .object members => if keysAreTexts members then names.mapM (field members) else none
  | .array items =>
    if items.length ≤ names.length then
      some (items.map some ++ List.replicate (names.length - items.length) none)
    else none
  | _ => none

def Value.text? : Value → Option String
  | .string text => text
  | _ => none

def Value.bool? : Value → Option Bool
  | .bool value => some value
  | _ => none

def Value.natural? : Value → Option Nat
  | .number natural => natural
  | _ => none

def orElse {α : Type} (default : α) (read : Value → Option α) : Option Value → Option α
  | some value => read value
  | none => some default

end Casebook.Json
