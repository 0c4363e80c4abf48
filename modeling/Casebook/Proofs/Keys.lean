import Casebook.Store.Key
import Mathlib.Data.Nat.ModEq
import Mathlib.Tactic.Ring

namespace Casebook.Store

theorem bigEndian_succ (width number : Nat) :
    bigEndian (width + 1) number = UInt8.ofNat (number / 256 ^ width) :: bigEndian width number := rfl

theorem bigEndian_length (width number : Nat) : (bigEndian width number).length = width := by
  induction width with
  | zero => rfl
  | succ width ih => rw [bigEndian_succ, List.length_cons, ih]

theorem digit_toNat (width number : Nat) :
    (UInt8.ofNat (number / 256 ^ width)).toNat = number / 256 ^ width % 256 := by
  simp

theorem read_bigEndian (width number start : Nat) :
    (bigEndian width number).foldl (fun read byte => 256 * read + byte.toNat) start =
      start * 256 ^ width + number % 256 ^ width := by
  induction width generalizing start with
  | zero =>
    change start = _
    simp [Nat.mod_one]
  | succ width ih =>
    rw [bigEndian_succ, List.foldl_cons, ih, digit_toNat, Nat.mod_pow_succ, Nat.pow_succ]
    ring

theorem ofBigEndian_bigEndian (width number : Nat) :
    ofBigEndian (bigEndian width number) = number % 256 ^ width := by
  simpa [ofBigEndian] using read_bigEndian width number 0

theorem foldl_div (bytes : Bytes) (start : Nat) :
    bytes.foldl (fun read byte => 256 * read + byte.toNat) start / 256 ^ bytes.length = start := by
  induction bytes generalizing start with
  | nil => simp
  | cons byte rest ih =>
    have small := byte.toNat_lt
    rw [List.foldl_cons, List.length_cons, Nat.pow_succ, ← Nat.div_div_eq_div_mul, ih]
    omega

theorem bigEndian_foldl (bytes : Bytes) (start : Nat) :
    bigEndian bytes.length (bytes.foldl (fun read byte => 256 * read + byte.toNat) start) = bytes := by
  induction bytes generalizing start with
  | nil => rfl
  | cons byte rest ih =>
    rw [List.length_cons, bigEndian_succ, List.foldl_cons, foldl_div, ih]
    congr 1
    apply UInt8.toNat_inj.mp
    simp

theorem bigEndian_ofBigEndian (bytes : Bytes) : bigEndian bytes.length (ofBigEndian bytes) = bytes :=
  bigEndian_foldl bytes 0

theorem ofBigEndian_lt (bytes : Bytes) : ofBigEndian bytes < 256 ^ bytes.length := by
  have below := foldl_div bytes 0
  rwa [Nat.div_eq_zero_iff_lt (Nat.pow_pos (by decide))] at below

-- Two digits before two rests: the higher digit decides, and the rests only where the digits are equal.
theorem digits_lt {base high low high' low' : Nat} (small : low < base) (small' : low' < base) :
    low + base * high < low' + base * high' ↔ high < high' ∨ high = high' ∧ low < low' := by
  rcases Nat.lt_trichotomy high high' with less | rfl | more
  · have step : base * high + base ≤ base * high' := by
      rw [← Nat.mul_succ]
      exact Nat.mul_le_mul_left base less
    constructor
    · intro _
      exact .inl less
    · intro _
      omega
  · simp
  · have step : base * high' + base ≤ base * high := by
      rw [← Nat.mul_succ]
      exact Nat.mul_le_mul_left base more
    constructor
    · intro below
      omega
    · intro either
      rcases either with less | ⟨same, _⟩
      · omega
      · omega

theorem bigEndian_lt {width left right : Nat} :
    bigEndian width left < bigEndian width right ↔ left % 256 ^ width < right % 256 ^ width := by
  induction width with
  | zero =>
    change [] < [] ↔ _
    simp [Nat.mod_one]
  | succ width ih =>
    have positive : 0 < 256 ^ width := Nat.pow_pos (by decide)
    rw [bigEndian_succ, bigEndian_succ, List.cons_lt_cons_iff, ih, Nat.mod_pow_succ, Nat.mod_pow_succ,
      digits_lt (Nat.mod_lt _ positive) (Nat.mod_lt _ positive), UInt8.lt_iff_toNat_lt, ← UInt8.toNat_inj,
      digit_toNat, digit_toNat]

namespace Key

theorem ofId_length (id : CaseId) : (ofId id).length = 8 := bigEndian_length 8 _

theorem id_mod (id : CaseId) : id.toNat % 256 ^ 8 = id.toNat := Nat.mod_eq_of_lt id.toNat_lt

theorem ofBigEndian_ofId (id : CaseId) : ofBigEndian (ofId id) = id.toNat := by
  rw [ofId, ofBigEndian_bigEndian, id_mod]

theorem ofNat_ofBigEndian_ofId (id : CaseId) : UInt64.ofNat (ofBigEndian (ofId id)) = id := by
  rw [ofBigEndian_ofId, UInt64.ofNat_toNat]

theorem toId_ofId (id : CaseId) : toId? (ofId id) = some id := by
  rw [toId?, if_pos (ofId_length id), ofNat_ofBigEndian_ofId]

theorem toId_iff {bytes : Bytes} {id : CaseId} : toId? bytes = some id ↔ bytes = ofId id := by
  constructor
  · intro read
    unfold toId? at read
    split at read
    · rename_i length
      have small := ofBigEndian_lt bytes
      have digits := bigEndian_ofBigEndian bytes
      rw [length] at small digits
      rw [← Option.some.inj read, ofId, UInt64.toNat_ofNat_of_lt' small, digits]
    · cases read
  · rintro rfl
    exact toId_ofId id

theorem ofId_inj {left right : CaseId} : ofId left = ofId right ↔ left = right := by
  constructor
  · intro same
    have read := congrArg toId? same
    rw [toId_ofId, toId_ofId] at read
    exact Option.some.inj read
  · intro same
    rw [same]

theorem ofId_lt {left right : CaseId} : ofId left < ofId right ↔ left < right := by
  rw [ofId, ofId, bigEndian_lt, id_mod, id_mod, UInt64.lt_iff_toNat_lt]

theorem unpack_ofId_append (id : CaseId) (rest : Bytes) : unpack (ofId id ++ rest) = id :: unpack rest := by
  have word := ofNat_ofBigEndian_ofId id
  obtain ⟨a, b, c, d, e, f, g, h, spelled⟩ :
      ∃ a b c d e f g h, ofId id = [a, b, c, d, e, f, g, h] := ⟨_, _, _, _, _, _, _, _, rfl⟩
  rw [spelled] at word ⊢
  simp only [List.cons_append, List.nil_append, unpack, word]

theorem unpack_pack (ids : List CaseId) : unpack (pack ids) = ids := by
  induction ids with
  | nil => rfl
  | cons id rest ih =>
    have step : pack (id :: rest) = ofId id ++ pack rest := rfl
    rw [step, unpack_ofId_append, ih]

-- Names whose length fits the two bytes that hold it.
def IsShort (name : String) : Prop := (Text.utf8 name).length < 65536

instance (name : String) : Decidable (IsShort name) := inferInstanceAs (Decidable (_ < _))

theorem ofPair_inj {name value name' value' : String} (short : IsShort name) (short' : IsShort name') :
    ofPair name value = ofPair name' value' ↔ name = name' ∧ value = value' := by
  unfold IsShort at short short'
  constructor
  · intro same
    simp only [ofPair, List.append_assoc] at same
    obtain ⟨lengths, texts⟩ := List.append_inj same (by rw [bigEndian_length, bigEndian_length])
    have read := congrArg ofBigEndian lengths
    rw [ofBigEndian_bigEndian, ofBigEndian_bigEndian] at read
    obtain ⟨names, values⟩ := List.append_inj texts (by omega)
    rw [List.cons.injEq] at values
    exact ⟨Text.utf8_exact.mp names, Text.utf8_exact.mp values.2⟩
  · intro same
    rw [same.1, same.2]

end Key
end Casebook.Store
