import Casebook.Text.WidthClass

namespace Casebook.Text

inductive Ligature where
  | alef
  | lamed
  | ya
  | signYa
  | tifinagh
  | joinerTifinagh
  | toneLetter
  | orkhonI
  | subscript
  deriving DecidableEq, Repr

namespace Ligature

def joiner : Char := '\u200d'

def endingIn (c : Char) : Option Ligature :=
  if alefRanges.contains c then some .alef
  else if c = '\u05dc' then some .lamed
  else if c = '\u1a10' then some .ya
  else if tifinaghRanges.contains c then some .tifinagh
  else if c = '\ua4fc' ∨ c = '\ua4fd' then some .toneLetter
  else if c.toNat = 0x10C03 then some .orkhonI
  else if subscriptRanges.contains c then some .subscript
  else none

def isFirstTone (c : Char) : Bool := '\ua4f8' ≤ c && c ≤ '\ua4fb'

-- The columns that a character before the read part adds, and the part that it makes. A ligature that is
-- complete leaves no part; where a joiner has to stand between, it has to have been read.
def take (joined : Bool) (c : Char) : Ligature → Option (Int × Option Ligature)
  | .alef =>
    if lamRanges.contains c then some (0, none)
    else if joinTransparentRanges.contains c then some (0, some .alef)
    else none
  | .lamed => if joined && c = '\u05d0' then some (0, none) else none
  | .ya => if joined && c = '\u1a17' then some (0, some .signYa) else none
  | .signYa => if c = '\u1a15' then some (0, none) else none
  | .tifinagh =>
    if c = '\u2d7f' then some (1, some .joinerTifinagh)
    else if joined && tifinaghRanges.contains c then some (0, none)
    else none
  | .joinerTifinagh => if tifinaghRanges.contains c then some (-1, none) else none
  | .toneLetter => if isFirstTone c then some (0, none) else none
  | .orkhonI => if joined && c.toNat = 0x10C32 then some (0, none) else none
  | .subscript => if c = '\u17d2' then some (-1, none) else none

-- Marks that nothing shows and joiners do not part a ligature, the Arabic one apart: there a joiner does.
def isOpen (part : Ligature) : Bool := part != .alef

end Ligature
end Casebook.Text
