import Casebook.Pinpoint
import Casebook.Proofs.Reading

namespace Casebook
open Reference Text

inductive SameLetter : Char → Char → Prop where
  | same {c : Char} : SameLetter c c
  | lowered {c other : Char} : c.isUpper = true → other.toNat = c.toNat + 32 → SameLetter c other
  | raised {c other : Char} : other.isUpper = true → c.toNat = other.toNat + 32 → SameLetter c other

-- Digits that tell a position. They may begin with zeros, and the number has to be one.
structure Numeral (digits : List Char) : Prop where
  filled : digits ≠ []
  each : ∀ c ∈ digits, c.isDigit = true
  small : Nat.ofDigitChars 10 digits 0 < UInt64.size

def spelled (digits : List Char) : Position := UInt64.ofNat (Nat.ofDigitChars 10 digits 0)

inductive Placing : Option Position → List Char → Prop where
  | nothing : Placing none []
  | everywhere : Placing none ['[', '*', ']']
  | place {digits : List Char} : Numeral digits → Placing (some (spelled digits)) ('[' :: digits ++ [']'])

inductive Config.Pins (config : Config) : Position → List Char → Prop where
  | mk {collection middle item digits : List Char} {anywhere : Option Position} :
      Word collection → List.Forall₂ SameLetter collection config.collectionName.toList → Placing anywhere middle →
      Word item → List.Forall₂ SameLetter item config.itemName.toList → Numeral digits →
      Pins config (spelled digits) ('/' :: collection ++ middle ++ '/' :: item ++ '[' :: digits ++ [']'])

section Letters

theorem isUpper_iff {c : Char} : c.isUpper = true ↔ 65 ≤ c.toNat ∧ c.toNat ≤ 90 := by
  have capital : c.isUpper = true ↔ 'A'.val ≤ c.val ∧ c.val ≤ 'Z'.val := decide_eq_true_iff
  rw [capital, UInt32.le_iff_toNat_le, UInt32.le_iff_toNat_le]
  rfl

theorem toNat_toLower (c : Char) : c.toLower.toNat = if c.isUpper then c.toNat + 32 else c.toNat := by
  unfold Char.toLower
  split
  · rename_i capital
    have upper : c.isUpper = true := decide_eq_true capital
    have small : c.val.toNat ≤ 90 := (isUpper_iff.1 upper).2
    rw [if_pos upper]
    change (c.val + 32).toNat = c.val.toNat + 32
    rw [UInt32.toNat_add]
    change (c.val.toNat + 32) % 4294967296 = _
    omega
  · rename_i other
    have notUpper : ¬ c.isUpper = true := fun upper => other (of_decide_eq_true upper)
    rw [if_neg notUpper]

theorem toLower_counterpart {c other : Char} (capital : c.isUpper = true) (small : other.toNat = c.toNat + 32) :
    c.toLower = other.toLower := by
  have low := isUpper_iff.1 capital
  have notUpper : ¬ other.isUpper = true := by
    rw [isUpper_iff]
    omega
  rw [← Char.toNat_inj, toNat_toLower, toNat_toLower, if_pos capital, if_neg notUpper, small]

theorem sameLetter_iff {c other : Char} : c.toLower = other.toLower ↔ SameLetter c other := by
  constructor
  · intro equal
    rw [← Char.toNat_inj, toNat_toLower, toNat_toLower] at equal
    by_cases capital : c.isUpper = true
    · by_cases otherCapital : other.isUpper = true
      · rw [if_pos capital, if_pos otherCapital, Nat.add_right_cancel_iff, Char.toNat_inj] at equal
        exact equal ▸ .same
      · rw [if_pos capital, if_neg otherCapital] at equal
        exact .lowered capital equal.symm
    · by_cases otherCapital : other.isUpper = true
      · rw [if_neg capital, if_pos otherCapital] at equal
        exact .raised otherCapital equal
      · rw [if_neg capital, if_neg otherCapital, Char.toNat_inj] at equal
        exact equal ▸ .same
  · intro letters
    cases letters with
    | same => rfl
    | lowered capital small => exact toLower_counterpart capital small
    | raised capital small => exact (toLower_counterpart capital small).symm

theorem sameIgnoringCase_iff {left right : String} :
    sameIgnoringCase left right = true ↔ List.Forall₂ SameLetter left.toList right.toList := by
  rw [sameIgnoringCase, beq_iff_eq, ← List.forall₂_eq_eq_eq, List.forall₂_map_left_iff, List.forall₂_map_right_iff]
  simp only [sameLetter_iff]

end Letters

section Segments

variable {segment : Segment} {bracket : Bracket} {position : Option Position} {name text : List Char}

theorem Bracket.Written.placing (written : bracket.Written text) (places : bracket.places = true) :
    Placing bracket.position? text := by
  cases written with
  | everywhere => exact .everywhere
  | place filled each small => exact .place ⟨filled, each, small⟩
  | asks => cases places

theorem findSome?_alone (bracket : Bracket) : [bracket].findSome? Bracket.position? = bracket.position? := by
  cases bracket <;> rfl

theorem Bracket.Written.behind (written : bracket.Written text) (places : bracket.places = true) (named : Word name) :
    Segment.Written ⟨String.ofList name, bracket.position?, []⟩ (name ++ text) := by
  have once : [bracket].countP Bracket.places ≤ 1 := List.countP_le_length
  have silent : [bracket].filterMap Bracket.predicate? = [] := by
    cases bracket with
    | asks => cases places
    | everywhere | place => rfl
  have whole := Segment.Written.mk named (.cons written .nil) once
  rwa [findSome?_alone, silent, List.flatten_singleton] at whole

theorem Placing.written (placing : Placing position text) (named : Word name) :
    Segment.Written ⟨String.ofList name, position, []⟩ (name ++ text) := by
  cases placing with
  | nothing => exact .mk named .nil (Nat.zero_le 1)
  | everywhere => exact Bracket.Written.everywhere.behind rfl named
  | place numeral => exact (Bracket.Written.place numeral.filled numeral.each numeral.small).behind rfl named

-- A segment that asks nothing has one bracket at most, since every bracket of it speaks of its position.
theorem Segment.Written.placing (written : segment.Written text) (silent : segment.predicates = []) :
    ∃ name rest, Word name ∧ segment.name = String.ofList name ∧ Placing segment.position rest ∧ text = name ++ rest := by
  obtain @⟨name, brackets, texts, named, each, once⟩ := written
  have placing : ∀ bracket ∈ brackets, bracket.places = true := by
    intro bracket member
    have unasked := List.filterMap_eq_nil_iff.1 silent bracket member
    cases bracket with
    | asks => cases unasked
    | everywhere | place => rfl
  rw [List.countP_eq_length.2 placing] at once
  refine ⟨name, texts.flatten, named, rfl, ?_, rfl⟩
  cases each with
  | nil => exact .nothing
  | @cons bracket text brackets texts first later =>
    cases later with
    | nil =>
      rw [findSome?_alone, List.flatten_singleton]
      exact first.placing (placing bracket List.mem_cons_self)
    | cons => simp at once

theorem written_pair_iff {collection item : Segment} : Reference.Written ⟨true, [collection, item]⟩ text ↔
    ∃ first second, collection.Written first ∧ item.Written second ∧ text = '/' :: first ++ '/' :: second := by
  constructor
  · intro written
    obtain @⟨_, _, texts, _, each⟩ := written
    obtain ⟨first, later, one, behind, rfl⟩ := List.forall₂_cons_left_iff.1 each
    obtain ⟨second, last, two, nothing, rfl⟩ := List.forall₂_cons_left_iff.1 behind
    cases nothing
    refine ⟨first, second, one, two, ?_⟩
    simp [slash, intercalate_cons]
  · rintro ⟨first, second, one, two, rfl⟩
    have written := Reference.Written.mk true (by simp) (.cons one (.cons two .nil))
    simpa [slash, intercalate_cons] using written

end Segments

section Shapes

variable {config : Config} {reference : Reference} {position : Position} {text : List Char}

theorem pins_iff : config.Pins position text ↔ ∃ reference : Reference, reference.Written text ∧
    config.pinpoints reference = true ∧ reference.pinnedPosition = some position := by
  constructor
  · intro pins
    cases pins with
    | @mk collection middle item digits anywhere word letters placing word' letters' numeral =>
      refine ⟨⟨true, [⟨String.ofList collection, anywhere, []⟩, ⟨String.ofList item, some (spelled digits), []⟩]⟩,
        ?_, ?_, rfl⟩
      · refine written_pair_iff.2 ⟨_, _, placing.written word, (Placing.place numeral).written word', ?_⟩
        simp
      · rw [Config.pinpoints_iff, sameIgnoringCase_iff, sameIgnoringCase_iff, String.toList_ofList,
          String.toList_ofList]
        exact ⟨⟨rfl, rfl⟩, letters, letters', _, rfl⟩
  · rintro ⟨reference, written, pinpoints, pinned⟩
    obtain ⟨collection, item, rfl⟩ := Config.pinpoints_pair pinpoints
    obtain ⟨⟨silent, silent'⟩, letters, letters', _⟩ := Config.pinpoints_iff.1 pinpoints
    obtain ⟨first, second, one, two, rfl⟩ := written_pair_iff.1 written
    obtain ⟨name, middle, word, spelling, placing, rfl⟩ := one.placing silent
    obtain ⟨name', rest, word', spelling', placing', rfl⟩ := two.placing silent'
    change item.position = some position at pinned
    rw [sameIgnoringCase_iff, spelling, String.toList_ofList] at letters
    rw [sameIgnoringCase_iff, spelling', String.toList_ofList] at letters'
    rw [pinned] at placing'
    cases placing' with
    | place numeral =>
      have pins := Config.Pins.mk word letters placing word' letters' numeral
      simpa using pins

-- Whatever the configured names are, a text with a predicate, without a position of the item, relative or of another
-- length is none of these.
theorem pinpoint_texts (config : Config) (text : String) :
    ((∃ reference, parse text = .ok reference ∧ config.pinpoints reference = true) ↔
        ∃ position, config.Pins position (trim text.toList)) ∧
      (∀ reference position, parse text = .ok reference → config.pinpoints reference = true →
        (reference.pinnedPosition = some position ↔ config.Pins position (trim text.toList))) ∧
      ∀ reference : Reference, config.pinpoints reference = true →
        reference.absolute = true ∧ reference.size = 2 ∧ reference.hasPredicates = false ∧
          ∃ position, reference.pinnedPosition = some position := by
  refine ⟨⟨?_, ?_⟩, ?_, ?_⟩
  · rintro ⟨reference, parsed, pinpoints⟩
    obtain ⟨_, _, _, position, pinned⟩ := Config.pinpoints_bare pinpoints
    exact ⟨position, pins_iff.2 ⟨reference, parse_ok_iff.1 parsed, pinpoints, pinned⟩⟩
  · rintro ⟨position, pins⟩
    obtain ⟨reference, written, pinpoints, _⟩ := pins_iff.1 pins
    exact ⟨reference, parse_ok_iff.2 written, pinpoints⟩
  · intro reference position parsed pinpoints
    rw [parse_ok_iff] at parsed
    constructor
    · intro pinned
      exact pins_iff.2 ⟨reference, parsed, pinpoints, pinned⟩
    · intro pins
      obtain ⟨other, written, _, pinned⟩ := pins_iff.1 pins
      rwa [parsed.unique written]
  · intro reference pinpoints
    exact Config.pinpoints_bare pinpoints

end Shapes
end Casebook
