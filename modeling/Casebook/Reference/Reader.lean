import Casebook.Error
import Casebook.Reference.Basic
import Casebook.Text.Alphanumeric
import Casebook.Text.Blank
import Casebook.Text.Utf8

namespace Casebook.Reference
open Text

def isNameChar (c : Char) : Bool := isAlphanumeric c || c == '_' || c == '-' || c == '.' || c == ':'

inductive Fault where
  | emptyReference
  | missingName
  | duplicatePosition
  | positionOutOfRange
  | missingKey
  | missingQuote
  | expected (c : Char)
  deriving DecidableEq, Repr

def Fault.message : Fault → String
  | .emptyReference => "empty reference"
  | .missingName => "expected segment name"
  | .duplicatePosition => "duplicate position"
  | .positionOutOfRange => "position out of range"
  | .missingKey => "expected predicate key"
  | .missingQuote => "expected quoted value"
  | .expected c => "expected '" ++ c.toString ++ "'"

-- What is finished: the segments before the present one, the last of them first.
structure Path where
  absolute : Bool
  before : List Segment

-- A segment between its brackets. Its predicates stand in reverse; it is bound once a bracket has
-- spoken about its position, be it only to say that every position is meant.
structure Draft where
  path : Path
  name : String
  bound : Bool
  position : Option Position
  predicates : List Predicate

def Draft.segment (draft : Draft) : Segment :=
  ⟨draft.name, draft.position, draft.predicates.reverse⟩

def Draft.finish (draft : Draft) : Path := ⟨draft.path.absolute, draft.segment :: draft.path.before⟩

def Path.reference (path : Path) : Reference := ⟨path.absolute, path.before.reverse⟩

-- Characters read so far stand in reverse.
inductive Stage where
  | opening
  | segment (path : Path)
  | name (path : Path) (read : List Char)
  | bracket (draft : Draft)
  | digits (draft : Draft) (value : Nat)
  | sign (draft : Draft)
  | key (draft : Draft) (read : List Char)
  | equals (draft : Draft) (key : String)
  | value (draft : Draft) (key : String) (quote : Char) (read : List Char)
  | closing (draft : Draft)
  | closed (draft : Draft)

-- A refusal points before the offending character, or past it where that character was taken in.
structure Refusal where
  fault : Fault
  past : Bool

def refuse (fault : Fault) : Except Refusal Stage := .error ⟨fault, false⟩

def refusePast (fault : Fault) : Except Refusal Stage := .error ⟨fault, true⟩

def word (read : List Char) : String := String.ofList read.reverse

def digitValue (c : Char) : Nat := c.toNat - '0'.toNat

def Draft.bind (draft : Draft) (position : Option Position) : Draft :=
  { draft with bound := true, position := position }

def Draft.ask (draft : Draft) (key value : String) : Draft :=
  { draft with predicates := ⟨key, value⟩ :: draft.predicates }

def stepSegment (path : Path) (c : Char) : Except Refusal Stage :=
  if isNameChar c then .ok (.name path [c]) else refuse .missingName

def stepClosed (draft : Draft) (c : Char) : Except Refusal Stage :=
  if c = '[' then .ok (.bracket draft)
  else if c = '/' then .ok (.segment draft.finish)
  else refuse (.expected '/')

def stepClosing (draft : Draft) (c : Char) : Except Refusal Stage :=
  if c = ']' then .ok (.closed draft) else refuse (.expected ']')

def stepKey (draft : Draft) (c : Char) : Except Refusal Stage :=
  if isNameChar c then .ok (.key draft [c]) else refuse .missingKey

def Path.named (path : Path) (read : List Char) : Draft := ⟨path, word read, false, none, []⟩

-- Nothing further ahead than the character itself is looked at.
def step : Stage → Char → Except Refusal Stage
  | .opening, c =>
    if c = '/' then .ok (.segment ⟨true, []⟩) else stepSegment ⟨false, []⟩ c
  | .segment path, c => stepSegment path c
  | .name path read, c =>
    if isNameChar c then .ok (.name path (c :: read)) else stepClosed (path.named read) c
  | .bracket draft, c =>
    if c = '*' then
      if draft.bound then refusePast .duplicatePosition else .ok (.closing (draft.bind none))
    else if c.isDigit then
      if draft.bound then refuse .duplicatePosition else .ok (.digits draft (digitValue c))
    else if c = '@' then .ok (.sign draft)
    else stepKey draft c
  | .digits draft value, c =>
    if c.isDigit then .ok (.digits draft (10 * value + digitValue c))
    else if value < UInt64.size then stepClosing (draft.bind (some (UInt64.ofNat value))) c
    else refuse .positionOutOfRange
  | .sign draft, c => stepKey draft c
  | .key draft read, c =>
    if isNameChar c then .ok (.key draft (c :: read))
    else if c = '=' then .ok (.equals draft (word read))
    else refuse (.expected '=')
  | .equals draft key, c =>
    if c = '\'' ∨ c = '"' then .ok (.value draft key c []) else refusePast .missingQuote
  | .value draft key quote read, c =>
    if c = quote then .ok (.closing (draft.ask key (word read))) else .ok (.value draft key quote (c :: read))
  | .closing draft, c => stepClosing draft c
  | .closed draft, c => stepClosed draft c

def finish : Stage → Except Fault Reference
  | .opening => .error .emptyReference
  | .segment _ => .error .missingName
  | .name path read => .ok (path.named read).finish.reference
  | .bracket _ => .error .missingKey
  | .digits _ value => .error (if value < UInt64.size then .expected ']' else .positionOutOfRange)
  | .sign _ => .error .missingKey
  | .key _ _ => .error (.expected '=')
  | .equals _ _ => .error .missingQuote
  | .value _ _ quote _ => .error (.expected quote)
  | .closing _ => .error (.expected ']')
  | .closed draft => .ok draft.finish.reference

-- Where a text is refused, in bytes from its start.
structure Failure where
  fault : Fault
  offset : Nat
  deriving DecidableEq, Repr

def run (stage : Stage) (offset : Nat) : List Char → Except Failure Reference
  | [] =>
    match finish stage with
    | .ok reference => .ok reference
    | .error fault => .error ⟨fault, offset⟩
  | c :: rest =>
    match step stage c with
    | .ok next => run next (offset + c.utf8Size) rest
    | .error refusal => .error ⟨refusal.fault, if refusal.past then offset + c.utf8Size else offset⟩

def read (text : List Char) : Except Failure Reference := run .opening 0 text

def Failure.describe (failure : Failure) (text : List Char) : String :=
  failure.fault.message ++ " at offset " ++ toString failure.offset ++ " in '" ++ String.ofList text ++ "'"

-- Blanks around a reference are no part of it; offsets and messages are about the text without them.
def parse (text : String) : Except Error Reference :=
  match read (trim text.toList) with
  | .ok reference => .ok reference
  | .error failure => .error (.invalidReference (failure.describe (trim text.toList)))

end Casebook.Reference
