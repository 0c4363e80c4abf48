import Casebook.Reference.Reader
import Mathlib.Data.List.Forall2

namespace Casebook
open Reference (isNameChar)

inductive Bracket where
  | everywhere
  | place (position : Position)
  | asks (predicate : Predicate)

namespace Bracket

def places : Bracket → Bool
  | .asks _ => false
  | _ => true

def position? : Bracket → Option Position
  | .place position => some position
  | _ => none

def predicate? : Bracket → Option Predicate
  | .asks predicate => some predicate
  | _ => none

end Bracket

def Word (text : List Char) : Prop := text ≠ [] ∧ ∀ c ∈ text, isNameChar c = true

-- Without its sign a key may not begin as a position does.
def Signs (sign key : List Char) : Prop := sign = ['@'] ∨ sign = [] ∧ ∀ c ∈ key.head?, c.isDigit = false

inductive Bracket.Written : Bracket → List Char → Prop where
  | everywhere : Written .everywhere ['[', '*', ']']
  | place {digits : List Char} : digits ≠ [] → (∀ c ∈ digits, c.isDigit = true) →
      Nat.ofDigitChars 10 digits 0 < UInt64.size →
      Written (.place (UInt64.ofNat (Nat.ofDigitChars 10 digits 0))) ('[' :: digits ++ [']'])
  | asks {sign key value : List Char} {quote : Char} : Word key → Signs sign key → quote = '\'' ∨ quote = '"' →
      quote ∉ value →
      Written (.asks ⟨String.ofList key, String.ofList value⟩)
        ('[' :: sign ++ key ++ '=' :: quote :: value ++ [quote, ']'])

-- At most one bracket of a segment speaks of its position.
inductive Segment.Written : Segment → List Char → Prop where
  | mk {name : List Char} {brackets : List Bracket} {texts : List (List Char)} : Word name →
      List.Forall₂ Bracket.Written brackets texts → brackets.countP Bracket.places ≤ 1 →
      Written ⟨String.ofList name, brackets.findSome? Bracket.position?, brackets.filterMap Bracket.predicate?⟩
        (name ++ texts.flatten)

def slash (absolute : Bool) : List Char := if absolute then ['/'] else []

inductive Reference.Written : Reference → List Char → Prop where
  | mk (absolute : Bool) {segments : List Segment} {texts : List (List Char)} : segments ≠ [] →
      List.Forall₂ Segment.Written segments texts →
      Written ⟨absolute, segments⟩ (slash absolute ++ ['/'].intercalate texts)

theorem intercalate_snoc {α : Type} (separator : List α) (texts : List (List α)) (last : List α) :
    separator.intercalate (texts ++ [last]) = texts.flatMap (· ++ separator) ++ last := by
  induction texts with
  | nil => simp [List.intercalate]
  | cons text later ih =>
    cases later with
    | nil => simp [List.intercalate]
    | cons next behind =>
      rw [List.cons_append, List.cons_append, List.intercalate_cons_cons, ← List.cons_append, ih]
      simp

theorem intercalate_cons {α : Type} (separator first : List α) (texts : List (List α)) :
    separator.intercalate (first :: texts) = first ++ texts.flatMap (separator ++ ·) := by
  induction texts generalizing first with
  | nil => simp [List.intercalate]
  | cons next later ih => simp [List.intercalate_cons_cons, ih]

theorem Word.snoc {text : List Char} {c : Char} (word : Word text) (nameChar : isNameChar c = true) :
    Word (text ++ [c]) := by
  refine ⟨by simp, ?_⟩
  rw [List.forall_mem_append, List.forall_mem_singleton]
  exact ⟨word.2, nameChar⟩

theorem Signs.append {sign key more : List Char} (signs : Signs sign key) (word : Word key) :
    Signs sign (key ++ more) := by
  rcases signs with signed | ⟨bare, head⟩
  · exact .inl signed
  · refine .inr ⟨bare, ?_⟩
    rwa [List.head?_append_of_ne_nil _ word.1]

theorem Segment.Written.head {segment : Segment} {text : List Char} (written : segment.Written text) :
    ∃ c rest, text = c :: rest ∧ isNameChar c = true := by
  obtain @⟨name, brackets, texts, ⟨named, nameChars⟩, _, _⟩ := written
  cases name with
  | nil => exact absurd rfl named
  | cons c rest => exact ⟨c, rest ++ texts.flatten, rfl, nameChars c List.mem_cons_self⟩

end Casebook
