import Casebook.Proofs.Reading

namespace Casebook

-- A segment means every position until it is given one, so a bracket that says as much changes nothing.
def Segment.take (segment : Segment) : Bracket → Segment
  | .everywhere => segment
  | .place position => { segment with position := some position }
  | .asks predicate => { segment with predicates := segment.predicates ++ [predicate] }

namespace Reference
open Text

-- Reading by recursive descent. A cursor stands between what is read and what is not; offsets count bytes.
structure Cursor where
  offset : Nat
  rest : List Char

namespace Cursor

def fail {α : Type} (fault : Fault) (cursor : Cursor) : Except Failure α := .error ⟨fault, cursor.offset⟩

def eat (expected : Char) (cursor : Cursor) : Option Cursor :=
  match cursor.rest with
  | [] => none
  | c :: rest => if c = expected then some ⟨cursor.offset + c.utf8Size, rest⟩ else none

def expect (expected : Char) (cursor : Cursor) : Except Failure Cursor :=
  match cursor.eat expected with
  | some next => .ok next
  | none => cursor.fail (.expected expected)

def span (among : Char → Bool) (cursor : Cursor) : List Char × Cursor :=
  (cursor.rest.takeWhile among,
    ⟨cursor.offset + utf8Length (cursor.rest.takeWhile among), cursor.rest.dropWhile among⟩)

def name (missing : Fault) (cursor : Cursor) : Except Failure (String × Cursor) :=
  let (name, next) := cursor.span isNameChar
  if name.isEmpty then next.fail missing else .ok (String.ofList name, next)

-- The quote is taken in before it is looked at.
def quoted (cursor : Cursor) : Except Failure (String × Cursor) :=
  match cursor.rest with
  | [] => cursor.fail .missingQuote
  | quote :: rest =>
    let inside : Cursor := ⟨cursor.offset + quote.utf8Size, rest⟩
    if quote = '\'' ∨ quote = '"' then do
      let (value, last) := inside.span (· ≠ quote)
      let next ← last.expect quote
      return (String.ofList value, next)
    else inside.fail .missingQuote

def predicate (cursor : Cursor) : Except Failure (Predicate × Cursor) := do
  let (key, next) ← ((cursor.eat '@').getD cursor).name .missingKey
  let opened ← next.expect '='
  let (value, next) ← opened.quoted
  return (⟨key, value⟩, next)

def place (cursor : Cursor) : Except Failure (Position × Cursor) :=
  let (digits, next) := cursor.span Char.isDigit
  let value := Nat.ofDigitChars 10 digits 0
  if value < UInt64.size then .ok (UInt64.ofNat value, next) else next.fail .positionOutOfRange

def bracket (bound : Bool) (cursor : Cursor) : Except Failure (Bracket × Cursor) :=
  match cursor.eat '*' with
  | some next => if bound then next.fail .duplicatePosition else .ok (.everywhere, next)
  | none =>
    if cursor.rest.head?.any Char.isDigit then
      if bound then cursor.fail .duplicatePosition
      else do
        let (position, next) ← cursor.place
        return (.place position, next)
    else do
      let (predicate, next) ← cursor.predicate
      return (.asks predicate, next)

end Cursor

theorem ok_of_bind {α β : Type} {first : Except Failure α} {later : α → Except Failure β} {result : β}
    (done : first >>= later = .ok result) : ∃ value, first = .ok value ∧ later value = .ok result := by
  cases first with
  | error failure => cases done
  | ok value => exact ⟨value, rfl, done⟩

section Onward

variable {cursor next : Cursor}

theorem eat_onward {c : Char} (ate : cursor.eat c = some next) : next.rest.length < cursor.rest.length := by
  unfold Cursor.eat at ate
  split at ate
  · cases ate
  · rename_i spelled
    rw [spelled]
    split at ate
    · cases ate
      simp
    · cases ate

theorem expect_onward {c : Char} (found : cursor.expect c = .ok next) : next.rest.length < cursor.rest.length := by
  unfold Cursor.expect at found
  split at found
  · rename_i ate
    cases found
    exact eat_onward ate
  · cases found

theorem span_onward (among : Char → Bool) (cursor : Cursor) :
    (cursor.span among).2.rest.length ≤ cursor.rest.length :=
  (List.dropWhile_suffix among).length_le

theorem name_onward {missing : Fault} {name : String} (found : cursor.name missing = .ok (name, next)) :
    next.rest.length ≤ cursor.rest.length := by
  unfold Cursor.name at found
  dsimp only at found
  split at found
  · cases found
  · cases found
    exact span_onward isNameChar cursor

theorem quoted_onward {value : String} (found : cursor.quoted = .ok (value, next)) :
    next.rest.length ≤ cursor.rest.length := by
  unfold Cursor.quoted at found
  split at found
  · cases found
  · rename_i quote rest spelled
    dsimp only at found
    split at found
    · obtain ⟨closed, closes, told⟩ := ok_of_bind found
      cases told
      have behind := expect_onward closes
      have run := span_onward (· ≠ quote) ⟨cursor.offset + quote.utf8Size, rest⟩
      rw [spelled, List.length_cons]
      dsimp only at run
      omega
    · cases found

theorem predicate_onward {predicate : Predicate} (found : cursor.predicate = .ok (predicate, next)) :
    next.rest.length ≤ cursor.rest.length := by
  have signed : ((cursor.eat '@').getD cursor).rest.length ≤ cursor.rest.length := by
    cases ate : cursor.eat '@' with
    | none => exact Nat.le_refl _
    | some behind => exact Nat.le_of_lt (eat_onward ate)
  obtain ⟨⟨key, behind⟩, named, found⟩ := ok_of_bind found
  obtain ⟨opened, asks, found⟩ := ok_of_bind found
  obtain ⟨⟨value, last⟩, quoted, told⟩ := ok_of_bind found
  cases told
  have one := name_onward named
  have two := expect_onward asks
  have three := quoted_onward quoted
  omega

theorem place_onward {position : Position} (found : cursor.place = .ok (position, next)) :
    next.rest.length ≤ cursor.rest.length := by
  unfold Cursor.place at found
  dsimp only at found
  split at found
  · cases found
    exact span_onward Char.isDigit cursor
  · cases found

theorem bracket_onward {bound : Bool} {bracket : Bracket} (found : cursor.bracket bound = .ok (bracket, next)) :
    next.rest.length ≤ cursor.rest.length := by
  unfold Cursor.bracket at found
  split at found
  · rename_i ate
    split at found
    · cases found
    · cases found
      exact Nat.le_of_lt (eat_onward ate)
  · split at found
    · split at found
      · cases found
      · obtain ⟨⟨position, last⟩, placed, told⟩ := ok_of_bind found
        cases told
        exact place_onward placed
    · obtain ⟨⟨predicate, last⟩, asked, told⟩ := ok_of_bind found
      cases told
      exact predicate_onward asked

end Onward

namespace Cursor

def brackets (segment : Segment) (bound : Bool) (cursor : Cursor) : Except Failure (Segment × Cursor) :=
  match _ : cursor.eat '[' with
  | none => .ok (segment, cursor)
  | some inside =>
    match _ : inside.bracket bound with
    | .error failure => .error failure
    | .ok (bracket, last) =>
      match _ : last.expect ']' with
      | .error failure => .error failure
      | .ok next => brackets (segment.take bracket) (bound || bracket.places) next
termination_by cursor.rest.length
decreasing_by
  rename_i ate found closed
  have one := eat_onward ate
  have two := bracket_onward found
  have three := expect_onward closed
  omega

def segment (cursor : Cursor) : Except Failure (Segment × Cursor) := do
  let (name, next) ← cursor.name .missingName
  next.brackets { name } false

end Cursor

section Onward

variable {cursor next : Cursor}

theorem brackets_onward (held : Segment) (bound : Bool) (cursor : Cursor) {segment : Segment} :
    cursor.brackets held bound = .ok (segment, next) → next.rest.length ≤ cursor.rest.length := by
  fun_induction Cursor.brackets held bound cursor with
  | case1 held bound cursor ended =>
    intro found
    cases found
    exact Nat.le_refl _
  | case2 => nofun
  | case3 => nofun
  | case4 held bound cursor inside ate bracket last read behind closed ih =>
    intro found
    have one := eat_onward ate
    have two := bracket_onward read
    have three := expect_onward closed
    have rest := ih found
    omega

theorem segment_onward {segment : Segment} (found : cursor.segment = .ok (segment, next)) :
    next.rest.length ≤ cursor.rest.length := by
  obtain ⟨⟨name, behind⟩, named, found⟩ := ok_of_bind found
  have one := name_onward named
  have two := brackets_onward { name } false behind found
  omega

end Onward

namespace Cursor

def segments (before : List Segment) (cursor : Cursor) : Except Failure (List Segment) :=
  match _ : cursor.segment with
  | .error failure => .error failure
  | .ok (segment, last) =>
    if last.rest.isEmpty then .ok (before ++ [segment])
    else
      match _ : last.expect '/' with
      | .error failure => .error failure
      | .ok next => segments (before ++ [segment]) next
termination_by cursor.rest.length
decreasing_by
  rename_i found _ slashed
  have one := segment_onward found
  have two := expect_onward slashed
  omega

end Cursor

def descend (text : List Char) : Except Failure Reference :=
  if text.isEmpty then .error ⟨.emptyReference, 0⟩
  else
    match Cursor.eat '/' ⟨0, text⟩ with
    | some next => (next.segments []).map (⟨true, ·⟩)
    | none => (Cursor.segments [] ⟨0, text⟩).map (⟨false, ·⟩)

end Reference
end Casebook
