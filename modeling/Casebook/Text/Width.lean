import Casebook.Text.Ligature

namespace Casebook.Text

def isTone (c : Char) : Bool := 0x1F3FB ≤ c.toNat && c.toNat ≤ 0x1F3FF

def isFlagLetter (c : Char) : Bool := 0x1F1E6 ≤ c.toNat && c.toNat ≤ 0x1F1FF

def isTagLetter (c : Char) : Bool := 0xE0061 ≤ c.toNat && c.toNat ≤ 0xE007A

def isTagDigit (c : Char) : Bool := 0xE0030 ≤ c.toNat && c.toNat ≤ 0xE0039

def isTagEnd (c : Char) : Bool := c.toNat = 0xE007F

def isFlag (c : Char) : Bool := c.toNat = 0x1F3F4

def isPicture (c : Char) : Bool := pictureRanges.contains c

-- What follows a character, as far as it matters to it.
inductive Ending where
  | plain
  | tone
  | flagLetter
  | flagLetters
  | picture
  -- A joiner before a picture, and what may stand between the joiner and the picture before it.
  | joinedPicture
  | joinedKeycap
  | joinedFlag (letters : Nat)
  | joinedTag (letters : Nat)
  | joinedDigits (digits : Nat)
  | vowelE
  | vowelAi
  | ligature (part : Ligature) (joined : Bool)
  deriving DecidableEq, Repr

namespace Ending

def isLigature : Ending → Bool
  | .ligature .. => true
  | _ => false

def isJoined : Ending → Bool
  | .joinedPicture | .joinedKeycap => true
  | _ => false

def joined (c : Char) : Option (Int × Ending) := if c = Ligature.joiner then some (0, .joinedPicture) else none

def beforeJoined (c : Char) : Option (Int × Ending) :=
  if c = '\u20e3' then some (0, .joinedKeycap)
  else if isFlagLetter c then some (1, .joinedFlag 1)
  else if isTone c then some (0, .tone)
  else if isTagEnd c then some (0, .joinedTag 0)
  else if isPicture c then some (0, .picture)
  else none

-- A flag is spelled by pairs of letters, counted from its end; a letter without partner stands alone.
def beforeJoinedFlag (letters : Nat) (c : Char) : Option (Int × Ending) :=
  if isFlagLetter c then some (if letters % 2 = 1 then -1 else 3, .joinedFlag (letters + 1))
  else if 2 ≤ letters then joined c
  else none

-- A region has three to six letters, or three digits after at most four more tags.
def beforeJoinedTag (letters : Nat) (c : Char) : Option (Int × Ending) :=
  if isTagLetter c && letters < 6 then some (0, .joinedTag (letters + 1))
  else if isTagDigit c && letters ≤ 4 then some (0, .joinedDigits 1)
  else if isFlag c && 3 ≤ letters then some (0, .picture)
  else none

def beforeJoinedDigits (digits : Nat) (c : Char) : Option (Int × Ending) :=
  if isTagDigit c && digits < 3 then some (0, .joinedDigits (digits + 1))
  else if isFlag c && digits = 3 then some (0, .picture)
  else none

def beforeVowelE (c : Char) : Option (Int × Ending) :=
  if c.toNat = 0x16D63 ∨ c.toNat = 0x16D69 then some (0, .plain)
  else if c.toNat = 0x16D67 then some (0, .vowelAi)
  else if c.toNat = 0x16D68 then some (1, .vowelE)
  else none

def ofPart : Option Ligature → Ending
  | some part => .ligature part false
  | none => .plain

def beforeLigature (part : Ligature) (joined : Bool) (c : Char) : Option (Int × Ending) :=
  if part.isOpen && c = Ligature.joiner then some (0, .ligature part true)
  else if part.isOpen && ignorableMarkRanges.contains c then some (0, .ligature part joined)
  else (part.take joined c).map fun taken => (taken.1, ofPart taken.2)

-- The columns that a character adds together with what follows it, and what it makes of that. Nothing if
-- it stands by itself.
def before (c : Char) : Ending → Option (Int × Ending)
  | .plain => none
  | .tone => if toneBaseRanges.contains c then some (0, .picture) else joined c
  | .flagLetter => if isFlagLetter c then some (1, .flagLetters) else none
  | .flagLetters => if isFlagLetter c then some (1, .flagLetters) else joined c
  | .picture => joined c
  | .joinedPicture => beforeJoined c
  | .joinedKeycap => none
  | .joinedFlag letters => beforeJoinedFlag letters c
  | .joinedTag letters => beforeJoinedTag letters c
  | .joinedDigits digits => beforeJoinedDigits digits c
  | .vowelE => beforeVowelE c
  | .vowelAi => if c.toNat = 0x16D63 then some (0, .plain) else none
  | .ligature part joined => beforeLigature part joined c

end Ending

-- Below the soft hyphen every character takes one column, controls too.
def charWidth (c : Char) : Nat :=
  if c.toNat ≤ 0xA0 then 1
  else if zeroWidthRanges.contains c then 0
  else if wideRanges.contains c then 2
  else if c = '\u17d8' then 3
  else 1

def alone (c : Char) : Int × Ending :=
  if isTone c then (2, .tone)
  else if isFlagLetter c then (1, .flagLetter)
  else if isPicture c then (2, .picture)
  else if c.toNat = 0x16D67 then (1, .vowelE)
  else if c.toNat = 0x16D68 then (1, .vowelAi)
  else (charWidth c, Ending.ofPart (Ligature.endingIn c))

inductive Selector where
  | picture
  | text
  | wideQuote
  deriving DecidableEq, Repr

namespace Selector

def ofChar? (c : Char) : Option Selector :=
  if c = '\ufe0f' then some .picture
  else if c = '\ufe0e' then some .text
  else if c = '\ufe01' then some .wideQuote
  else none

-- Ideographs in a square or a circle stay wide as text.
def isEnclosed (c : Char) : Bool := 0x1F200 ≤ c.toNat && c.toNat ≤ 0x1F2FF

def isQuote (c : Char) : Bool := c = '\u2018' || c = '\u2019' || c = '\u201c' || c = '\u201d'

def suits (c : Char) : Selector → Bool
  | .picture => selectableRanges.contains c
  | .text => selectableRanges.contains c && isPicture c && !isEnclosed c
  | .wideQuote => isQuote c

-- What is left of the ending behind a selector: it parts everything but a ligature and, if it asks for a
-- picture, a joined one.
def behind (ending : Ending) : Selector → Ending
  | .picture => if ending.isLigature || ending.isJoined then ending else .plain
  | .text | .wideQuote => if ending.isLigature then ending else .plain

def selected (ending : Ending) : Selector → Int × Ending
  | .picture => (if ending.isJoined then 0 else 2, .picture)
  | .text => (1, .plain)
  | .wideQuote => (2, .plain)

end Selector

-- What follows a character: selectors, the nearest first, and what comes behind them. Only before a ligature
-- there may be more than one.
structure Following where
  selectors : List Selector := []
  ending : Ending := .plain
  deriving DecidableEq, Repr

namespace Following

def remains (following : Following) : Ending :=
  if following.selectors.isEmpty || following.ending.isLigature then following.ending else .plain

-- The selectors that stay when another one stands before them. One that asks for a picture does not.
def kept (following : Following) : List Selector :=
  if following.ending.isLigature then following.selectors.filter (· != .picture) else []

-- A character takes the nearest selector that suits it; without one all of them are lost.
def step (c : Char) (following : Following) : Int × Following :=
  match following.selectors.find? (·.suits c) with
  | some selector =>
    let (columns, ending) := selector.selected following.ending
    (columns, { ending })
  | none =>
    match Selector.ofChar? c with
    | some selector => (0, ⟨selector :: following.kept, selector.behind following.remains⟩)
    | none =>
      let (columns, ending) := (following.remains.before c).getD (alone c)
      (columns, { ending })

end Following

def measure : List Char → Int × Following
  | [] => (0, {})
  | c :: rest =>
    let (total, following) := measure rest
    let (columns, next) := following.step c
    (columns + total, next)

def width (line : List Char) : Nat := (measure line).1.toNat

end Casebook.Text
