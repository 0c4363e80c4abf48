import Casebook.Json.Value

namespace Casebook.Json

-- Items and members read so far stand in reverse.
inductive Frame where
  | array (items : List Value)
  | object (members : List (Option String × Value))
  | member (members : List (Option String × Value)) (key : Option String)

-- A string so far: its characters in reverse, the first half of a pair that waits for its second, and
-- whether every half so far has found its other half.
structure Scan where
  read : List Char := []
  half : Option Nat := none
  sound : Bool := true

inductive Digits where
  | sign
  | zero
  | whole
  | point
  | fraction
  | exponent
  | exponentSign
  | exponentDigits

inductive Mode where
  -- A value comes; an array that has just been opened may also close.
  | value (mayClose : Bool)
  | key (mayClose : Bool)
  | colon
  | after
  | literal (left : List Char) (value : Value)
  | number (digits : Digits) (natural : Option Nat)
  | text (isKey : Bool) (scan : Scan)
  | escape (isKey : Bool) (scan : Scan)
  | hex (isKey : Bool) (scan : Scan) (left : Nat) (unit : Nat)
  | done (value : Value)

structure State where
  frames : List Frame
  mode : Mode

def isSpace (c : Char) : Bool := c == ' ' || c == '\t' || c == '\n' || c == '\r'

namespace Scan

def char (c : Char) (scan : Scan) : Scan :=
  { read := c :: scan.read, half := none, sound := scan.sound && scan.half.isNone }

def isHigh (unit : Nat) : Bool := 0xD800 ≤ unit && unit ≤ 0xDBFF

def isLow (unit : Nat) : Bool := 0xDC00 ≤ unit && unit ≤ 0xDFFF

-- Two halves of sixteen bits make one character; no half is a character of its own.
def unit (unit : Nat) (scan : Scan) : Scan :=
  if isHigh unit then
    { scan with half := some unit, sound := scan.sound && scan.half.isNone }
  else if isLow unit then
    match scan.half with
    | some high =>
      { scan with
        read := Char.ofNat (0x10000 + (high - 0xD800) * 0x400 + (unit - 0xDC00)) :: scan.read
        half := none }
    | none => { scan with sound := false }
  else scan.char (Char.ofNat unit)

def text (scan : Scan) : Option String :=
  if scan.sound && scan.half.isNone then some (String.ofList scan.read.reverse) else none

end Scan

def deliver (frames : List Frame) (value : Value) : Option State :=
  match frames with
  | [] => some ⟨[], .done value⟩
  | .array items :: outer => some ⟨.array (value :: items) :: outer, .after⟩
  | .member members key :: outer => some ⟨.object ((key, value) :: members) :: outer, .after⟩
  | .object _ :: _ => none

def closeArray : List Frame → Option State
  | .array items :: outer => deliver outer (.array items.reverse)
  | _ => none

def closeObject : List Frame → Option State
  | .object members :: outer => deliver outer (.object members.reverse)
  | _ => none

def stepValue (frames : List Frame) (mayClose : Bool) (c : Char) : Option State :=
  if isSpace c then some ⟨frames, .value mayClose⟩
  else if c = '[' then some ⟨.array [] :: frames, .value true⟩
  else if c = '{' then some ⟨.object [] :: frames, .key true⟩
  else if c = ']' then if mayClose then closeArray frames else none
  else if c = '"' then some ⟨frames, .text false {}⟩
  else if c = 'n' then some ⟨frames, .literal ['u', 'l', 'l'] .null⟩
  else if c = 't' then some ⟨frames, .literal ['r', 'u', 'e'] (.bool true)⟩
  else if c = 'f' then some ⟨frames, .literal ['a', 'l', 's', 'e'] (.bool false)⟩
  else if c = '-' then some ⟨frames, .number .sign none⟩
  else if c = '0' then some ⟨frames, .number .zero (some 0)⟩
  else if c.isDigit then some ⟨frames, .number .whole (some (c.toNat - '0'.toNat))⟩
  else none

def stepKey (frames : List Frame) (mayClose : Bool) (c : Char) : Option State :=
  if isSpace c then some ⟨frames, .key mayClose⟩
  else if c = '}' then if mayClose then closeObject frames else none
  else if c = '"' then some ⟨frames, .text true {}⟩
  else none

def stepColon (frames : List Frame) (c : Char) : Option State :=
  if isSpace c then some ⟨frames, .colon⟩
  else if c = ':' then some ⟨frames, .value false⟩
  else none

def stepAfter (frames : List Frame) (c : Char) : Option State :=
  if isSpace c then some ⟨frames, .after⟩
  else if c = ']' then closeArray frames
  else if c = '}' then closeObject frames
  else if c = ',' then
    match frames with
    | .array _ :: _ => some ⟨frames, .value false⟩
    | .object _ :: _ => some ⟨frames, .key false⟩
    | _ => none
  else none

def stepDone (value : Value) (c : Char) : Option State :=
  if isSpace c then some ⟨[], .done value⟩ else none

def Digits.complete : Digits → Bool
  | .zero | .whole | .fraction | .exponentDigits => true
  | .sign | .point | .exponent | .exponentSign => false

def Digits.next (digits : Digits) (natural : Option Nat) (c : Char) : Option (Digits × Option Nat) :=
  match digits with
  | .sign => if c = '0' then some (.zero, none) else if c.isDigit then some (.whole, none) else none
  | .zero =>
    if c = '.' then some (.point, none) else if c = 'e' ∨ c = 'E' then some (.exponent, none) else none
  | .whole =>
    if c.isDigit then some (.whole, natural.map fun value => 10 * value + (c.toNat - '0'.toNat))
    else if c = '.' then some (.point, none)
    else if c = 'e' ∨ c = 'E' then some (.exponent, none)
    else none
  | .point => if c.isDigit then some (.fraction, none) else none
  | .fraction =>
    if c.isDigit then some (.fraction, none) else if c = 'e' ∨ c = 'E' then some (.exponent, none) else none
  | .exponent =>
    if c = '+' ∨ c = '-' then some (.exponentSign, none)
    else if c.isDigit then some (.exponentDigits, none)
    else none
  | .exponentSign | .exponentDigits => if c.isDigit then some (.exponentDigits, none) else none

def endText (frames : List Frame) (isKey : Bool) (scan : Scan) : Option State :=
  if isKey then
    match frames with
    | .object members :: outer => some ⟨.member members scan.text :: outer, .colon⟩
    | _ => none
  else deliver frames (.string scan.text)

def stepText (frames : List Frame) (isKey : Bool) (scan : Scan) (c : Char) : Option State :=
  if c = '"' then endText frames isKey scan
  else if c = '\\' then some ⟨frames, .escape isKey scan⟩
  else if c.toNat < 0x20 then none
  else some ⟨frames, .text isKey (scan.char c)⟩

def escaped : Char → Option Char
  | '"' => some '"'
  | '\\' => some '\\'
  | '/' => some '/'
  | 'b' => some '\x08'
  | 'f' => some '\x0c'
  | 'n' => some '\n'
  | 'r' => some '\r'
  | 't' => some '\t'
  | _ => none

def stepEscape (frames : List Frame) (isKey : Bool) (scan : Scan) (c : Char) : Option State :=
  if c = 'u' then some ⟨frames, .hex isKey scan 4 0⟩
  else (escaped c).map fun plain => ⟨frames, .text isKey (scan.char plain)⟩

def hexValue (c : Char) : Option Nat :=
  if c.isDigit then some (c.toNat - '0'.toNat)
  else if 'a' ≤ c ∧ c ≤ 'f' then some (c.toNat - 'a'.toNat + 10)
  else if 'A' ≤ c ∧ c ≤ 'F' then some (c.toNat - 'A'.toNat + 10)
  else none

def stepHex (frames : List Frame) (isKey : Bool) (scan : Scan) (left unit : Nat) (c : Char) : Option State :=
  (hexValue c).map fun digit =>
    if left ≤ 1 then ⟨frames, .text isKey (scan.unit (16 * unit + digit))⟩
    else ⟨frames, .hex isKey scan (left - 1) (16 * unit + digit)⟩

def stepLiteral (frames : List Frame) (left : List Char) (value : Value) (c : Char) : Option State :=
  match left with
  | [] => none
  | [last] => if c = last then deliver frames value else none
  | next :: later => if c = next then some ⟨frames, .literal later value⟩ else none

-- A number has no end of its own, so the character after it is read as following a value.
def stepNumber (frames : List Frame) (digits : Digits) (natural : Option Nat) (c : Char) : Option State :=
  match digits.next natural c with
  | some (digits, natural) => some ⟨frames, .number digits natural⟩
  | none =>
    if digits.complete then
      match deliver frames (.number natural) with
      | some ⟨_, .done value⟩ => stepDone value c
      | some ⟨frames, _⟩ => stepAfter frames c
      | none => none
    else none

def step (state : State) (c : Char) : Option State :=
  match state.mode with
  | .value mayClose => stepValue state.frames mayClose c
  | .key mayClose => stepKey state.frames mayClose c
  | .colon => stepColon state.frames c
  | .after => stepAfter state.frames c
  | .literal left value => stepLiteral state.frames left value c
  | .number digits natural => stepNumber state.frames digits natural c
  | .text isKey scan => stepText state.frames isKey scan c
  | .escape isKey scan => stepEscape state.frames isKey scan c
  | .hex isKey scan left unit => stepHex state.frames isKey scan left unit c
  | .done value => stepDone value c

def finish (state : State) : Option Value :=
  match state.mode, state.frames with
  | .done value, _ => some value
  | .number digits natural, [] => if digits.complete then some (.number natural) else none
  | _, _ => none

def run (state : State) : List Char → Option Value
  | [] => finish state
  | c :: rest =>
    match step state c with
    | some next => run next rest
    | none => none

-- Blanks may stand around every token; anything else after the document spoils it.
def read (text : String) : Option Value := run ⟨[], .value false⟩ text.toList

end Casebook.Json
