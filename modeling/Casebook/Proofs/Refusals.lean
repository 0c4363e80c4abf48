import Casebook.Proofs.Reading

namespace Casebook

namespace Text

theorem utf8Encode_size (text : List Char) : text.utf8Encode.size = utf8Length text := by
  induction text with
  | nil => rfl
  | cons c rest ih =>
    have size : [c].utf8Encode.size = c.utf8Size := by simp [List.utf8Encode_singleton]
    rw [List.utf8Encode_cons, ByteArray.size_append, size, ih, utf8Length]

theorem utf8_length (text : String) : (utf8 text).length = utf8Length text.toList := by
  rw [← utf8Encode_size, String.utf8Encode_toList]
  exact Array.length_toList

-- No character begins with the bytes of another one, so bytes in front are characters in front.
theorem begins_of_utf8 {first whole : String} (front : utf8 first <+: utf8 whole) :
    ∃ rest, whole.toList = first.toList ++ rest := by
  obtain ⟨more, joined⟩ := front
  have bytes : first.toList.utf8Encode ++ more.toByteArray = whole.toList.utf8Encode := by
    rw [String.utf8Encode_toList, String.utf8Encode_toList]
    apply ByteArray.ext
    apply Array.toList_inj.1
    simpa [utf8] using joined
  obtain ⟨rest, spelled⟩ := List.isPrefix_of_utf8Encode_append_eq_utf8Encode _ bytes
  exact ⟨rest, spelled.symm⟩

def next? : Nat → List Char → Option Char
  | _, [] => none
  | 0, c :: _ => some c
  | offset + 1, c :: rest => next? (offset + 1 - c.utf8Size) rest

theorem next_behind (before after : List Char) : next? (utf8Length before) (before ++ after) = after.head? := by
  induction before with
  | nil => cases after <;> rfl
  | cons c rest ih =>
    obtain ⟨size, positive⟩ := Nat.exists_eq_succ_of_ne_zero (Nat.pos_iff_ne_zero.1 c.utf8Size_pos)
    rw [List.cons_append, utf8Length, positive, Nat.succ_add, next?, positive, ← ih]
    congr 1
    omega

-- Up to an offset two texts have the same bytes, and then the same character or both of them none.
structure Alike (offset : Nat) (text other : String) : Prop where
  bytes : (utf8 other).take offset = (utf8 text).take offset
  next : next? offset other.toList = next? offset text.toList

theorem Alike.parts {before after : List Char} {other : String}
    (alike : Alike (utf8Length before) (String.ofList (before ++ after)) other) :
    ∃ rest, other.toList = before ++ rest ∧ rest.head? = after.head? := by
  obtain ⟨bytes, next⟩ := alike
  have front : utf8 (String.ofList before) <+: utf8 other := by
    have size := utf8_length (String.ofList before)
    rw [String.toList_ofList] at size
    rw [String.ofList_append, utf8_append, ← size, List.take_left] at bytes
    exact bytes ▸ List.take_prefix _ _
  obtain ⟨rest, spelled⟩ := begins_of_utf8 front
  rw [String.toList_ofList] at spelled next
  rw [spelled, next_behind, next_behind] at next
  exact ⟨rest, spelled, next⟩

end Text

namespace Reference
open Text

theorem run_refused {stage : Stage} {offset : Nat} {text : List Char} {failure : Failure}
    (refused : run stage offset text = .error failure) :
    ∃ before after, text = before ++ after ∧ failure.offset = offset + utf8Length before ∧
      ∀ other, other.head? = after.head? → run stage offset (before ++ other) = .error failure := by
  induction text generalizing stage offset with
  | nil =>
    have here : failure.offset = offset := by
      cases ended : finish stage <;> simp [run, ended] at refused
      rw [← refused]
    refine ⟨[], [], rfl, here, fun other same => ?_⟩
    rw [List.head?_eq_none_iff.1 same]
    exact refused
  | cons c rest ih =>
    cases moved : step stage c with
    | ok next =>
      simp only [run, moved] at refused
      obtain ⟨before, after, rfl, place, stands⟩ := ih refused
      refine ⟨c :: before, after, rfl, by rw [place, utf8Length, Nat.add_assoc], fun other same => ?_⟩
      simp only [List.cons_append, run, moved]
      exact stands other same
    | error refusal =>
      obtain ⟨fault, past⟩ := refusal
      simp only [run, moved, Except.error.injEq] at refused
      subst refused
      cases past with
      | true =>
        -- The character was taken in, so nothing behind it counts.
        refine ⟨[c], rest, rfl, by simp [utf8Length], fun other _ => ?_⟩
        simp [run, moved]
      | false =>
        refine ⟨[], c :: rest, rfl, by simp [utf8Length], fun other same => ?_⟩
        obtain ⟨more, rfl⟩ := List.head?_eq_some_iff.1 same
        simp [run, moved]

structure Refused (text : String) (failure : Failure) : Prop where
  read : read (trim text.toList) = .error failure
  told : parse text = .error (.invalidReference (failure.describe (trim text.toList)))

theorem refused_iff {text : String} {failure : Failure} :
    Refused text failure ↔ read (trim text.toList) = .error failure :=
  ⟨Refused.read, fun failed => ⟨failed, by simp [parse, failed]⟩⟩

theorem refused_of_parse {text : String} {error : Error} (failed : parse text = .error error) :
    ∃ failure, Refused text failure := by
  cases told : read (trim text.toList) with
  | ok reference => simp [parse, told] at failed
  | error failure => exact ⟨failure, refused_iff.2 told⟩

theorem refusal_stands {text : String} {error : Error} (bare : trim text.toList = text.toList)
    (failed : parse text = .error error) :
    ∃ failure, Refused text failure ∧
      (∃ before after, text = before ++ after ∧ failure.offset = (utf8 before).length) ∧
      ∀ other : String, trim other.toList = other.toList → Alike failure.offset text other →
        Refused other failure := by
  obtain ⟨failure, refused⟩ := refused_of_parse failed
  have readFailed := refused.read
  rw [bare] at readFailed
  obtain ⟨before, after, spelled, place, stands⟩ := run_refused readFailed
  rw [Nat.zero_add] at place
  have whole : text = String.ofList (before ++ after) := by rw [← spelled, String.ofList_toList]
  refine ⟨failure, refused, ⟨String.ofList before, String.ofList after, ?_, ?_⟩, fun other bareToo alike => ?_⟩
  · rw [whole, String.ofList_append]
  · rw [place, utf8_length, String.toList_ofList]
  · rw [place, whole] at alike
    obtain ⟨rest, otherwise, same⟩ := alike.parts
    rw [refused_iff, bareToo, otherwise]
    exact stands rest same

theorem tilde_refusal_stands :
    (trim "/é[k~]".toList = "/é[k~]".toList ∧
      parse "/é[k~]" = .error (.invalidReference "expected '=' at offset 5 in '/é[k~]'")) ∧
    Refused "/é[k~]" ⟨.expected '=', 5⟩ ∧ Refused "/é[k~='v']" ⟨.expected '=', 5⟩ := by
  have bare : trim "/é[k~]".toList = "/é[k~]".toList := by decide
  have failed : parse "/é[k~]" = .error (.invalidReference "expected '=' at offset 5 in '/é[k~]'") := rfl
  obtain ⟨failure, refused, _, stands⟩ := refusal_stands bare failed
  obtain rfl : (⟨.expected '=', 5⟩ : Failure) = failure := Except.error.inj refused.read
  exact ⟨⟨bare, failed⟩, refused, stands "/é[k~='v']" (by decide) ⟨rfl, rfl⟩⟩

end Reference
end Casebook
