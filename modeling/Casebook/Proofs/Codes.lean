import Casebook.Proofs.Keys

namespace Casebook.Store

theorem bigEndian_mod (width number : Nat) : bigEndian width (number % 256 ^ width) = bigEndian width number := by
  have digits := bigEndian_ofBigEndian (bigEndian width number)
  rwa [bigEndian_length, ofBigEndian_bigEndian] at digits

theorem bigEndian_eq_iff {width left right : Nat} :
    bigEndian width left = bigEndian width right ↔ left % 256 ^ width = right % 256 ^ width := by
  constructor
  · intro same
    have read := congrArg ofBigEndian same
    rwa [ofBigEndian_bigEndian, ofBigEndian_bigEndian] at read
  · intro same
    rw [← bigEndian_mod, same, bigEndian_mod]

namespace Key
variable {name value name' value' : String}

-- A key holds the length of the name without its whole rounds, and both texts, but not the place where they part.
theorem ofPair_eq_iff :
    ofPair name value = ofPair name' value' ↔
      (Text.utf8 name).length % 65536 = (Text.utf8 name').length % 65536 ∧
        Text.utf8 name ++ 0 :: Text.utf8 value = Text.utf8 name' ++ 0 :: Text.utf8 value' := by
  simp only [ofPair, List.append_assoc]
  constructor
  · intro same
    obtain ⟨lengths, texts⟩ := List.append_inj same (by simp [bigEndian_length])
    exact ⟨bigEndian_eq_iff.mp lengths, texts⟩
  · intro same
    obtain ⟨lengths, texts⟩ := same
    rw [bigEndian_eq_iff.mpr lengths, texts]

theorem parted_later {front back front' back' : Bytes} (longer : front.length < front'.length)
    (same : front ++ 0 :: back = front' ++ 0 :: back') :
    ∃ between, front' = front ++ 0 :: between ∧ back = between ++ 0 :: back' := by
  rcases List.append_eq_append_iff.mp same with ⟨more, rfl, rest⟩ | ⟨more, rfl, _⟩
  · cases more with
    | nil => simp at longer
    | cons byte between =>
      rw [List.cons_append, List.cons.injEq] at rest
      obtain ⟨rfl, rfl⟩ := rest
      exact ⟨between, rfl, rfl⟩
  · rw [List.length_append] at longer
    omega

-- The second name is the first with a zero byte and more behind it, longer by whole rounds. The first value begins with
-- what is more there, and behind another zero byte it goes on with the second value.
def Overruns (name value name' value' : String) : Prop :=
  (∃ rounds, 0 < rounds ∧ (Text.utf8 name').length = (Text.utf8 name).length + 65536 * rounds) ∧
    ∃ between : Bytes, Text.utf8 name' = Text.utf8 name ++ 0 :: between ∧
      Text.utf8 value = between ++ 0 :: Text.utf8 value'

theorem Overruns.shared (overruns : Overruns name value name' value') : ofPair name value = ofPair name' value' := by
  obtain ⟨⟨rounds, _, longer⟩, between, names, values⟩ := overruns
  apply ofPair_eq_iff.mpr
  refine ⟨by omega, ?_⟩
  rw [names, values]
  simp

theorem overruns_of_longer (shared : ofPair name value = ofPair name' value')
    (longer : (Text.utf8 name).length < (Text.utf8 name').length) : Overruns name value name' value' := by
  obtain ⟨lengths, texts⟩ := ofPair_eq_iff.mp shared
  refine ⟨⟨((Text.utf8 name').length - (Text.utf8 name).length) / 65536, ?_, ?_⟩, parted_later longer texts⟩
  · omega
  · omega

theorem ofPair_shared_iff (name value name' value' : String) :
    (ofPair name value = ofPair name' value' ↔
        name = name' ∧ value = value' ∨ Overruns name value name' value' ∨ Overruns name' value' name value) ∧
      (IsShort name → IsShort name' → ofPair name value = ofPair name' value' → name = name' ∧ value = value') := by
  refine ⟨⟨?_, ?_⟩, fun short short' => (ofPair_inj short short').mp⟩
  · intro shared
    rcases Nat.lt_trichotomy (Text.utf8 name).length (Text.utf8 name').length with longer | same | shorter
    · exact .inr (.inl (overruns_of_longer shared longer))
    · obtain ⟨names, values⟩ := List.append_inj (ofPair_eq_iff.mp shared).2 same
      rw [List.cons.injEq] at values
      exact .inl ⟨Text.utf8_exact.mp names, Text.utf8_exact.mp values.2⟩
    · exact .inr (.inr (overruns_of_longer shared.symm shorter))
  · intro either
    rcases either with same | overruns | overruns
    · rw [same.1, same.2]
    · exact overruns.shared
    · exact overruns.shared.symm

theorem exists_text (length : Nat) : ∃ text, (Text.utf8 text).length = length := by
  induction length with
  | zero => exact ⟨"", rfl⟩
  | succ length ih =>
    obtain ⟨text, exact⟩ := ih
    refine ⟨text ++ "0", ?_⟩
    rw [Text.utf8_append, List.length_append, exact]
    rfl

-- There are such pairs: every name has a value by which it shares its key with a longer name, whatever the value of that.
theorem exists_overruns (name value : String) : ∃ wide name', Overruns name wide name' value := by
  obtain ⟨between, full⟩ := exists_text 65535
  have zero : Text.utf8 "\x00" = [0] := by decide
  refine ⟨between ++ "\x00" ++ value, name ++ "\x00" ++ between, ⟨1, by decide, ?_⟩, Text.utf8 between, ?_, ?_⟩
  · simp only [Text.utf8_append, zero, List.length_append, List.length_singleton]
    omega
  · simp [Text.utf8_append, zero]
  · simp [Text.utf8_append, zero]

variable {bytes : Bytes}

theorem exists_word (eight : bytes.length = 8) : ∃ id, ofId id = bytes := by
  have read : toId? bytes = some (UInt64.ofNat (ofBigEndian bytes)) := if_pos eight
  exact ⟨_, (toId_iff.mp read).symm⟩

theorem unpack_partial (short : bytes.length < 8) : unpack bytes = [] := by
  unfold unpack
  split
  · simp only [List.length_cons] at short
    omega
  · rfl

theorem pack_cons (id : CaseId) (ids : List CaseId) : pack (id :: ids) = ofId id ++ pack ids := rfl

theorem pack_length (ids : List CaseId) : (pack ids).length = 8 * ids.length := by
  induction ids with
  | nil => rfl
  | cons id rest ih =>
    rw [pack_cons, List.length_append, ofId_length, ih, List.length_cons]
    omega

-- The induction is on the number of whole words, of which reading takes one at a time. What it leaves is less than one.
theorem unpack_rest (bytes : Bytes) : ∃ rest : Bytes, rest.length < 8 ∧ bytes = pack (unpack bytes) ++ rest := by
  induction counted : bytes.length / 8 generalizing bytes with
  | zero =>
    have short : bytes.length < 8 := by omega
    refine ⟨bytes, short, ?_⟩
    rw [unpack_partial short]
    rfl
  | succ words ih =>
    have eight : (bytes.take 8).length = 8 := by
      rw [List.length_take]
      omega
    obtain ⟨id, written⟩ := exists_word eight
    have whole : bytes = ofId id ++ bytes.drop 8 := by rw [written, List.take_append_drop]
    obtain ⟨rest, short, spelled⟩ := ih (bytes.drop 8) (by rw [List.length_drop]; omega)
    refine ⟨rest, short, ?_⟩
    rw [whole, unpack_ofId_append, pack_cons, List.append_assoc, ← spelled]

structure WholeWords (bytes whole : Bytes) : Prop where
  front : whole <+: bytes
  words : 8 ∣ whole.length
  longest : ∀ other : Bytes, other <+: bytes → 8 ∣ other.length → other.length ≤ whole.length

theorem pack_unpack (bytes : Bytes) : WholeWords bytes (pack (unpack bytes)) := by
  obtain ⟨rest, short, spelled⟩ := unpack_rest bytes
  have size := pack_length (unpack bytes)
  have total := congrArg List.length spelled
  rw [List.length_append] at total
  refine ⟨⟨rest, spelled.symm⟩, Dvd.intro _ size.symm, ?_⟩
  intro other front words
  have within := front.length_le
  omega

theorem ids_coded (id other : CaseId) (ids : List CaseId) (bytes : Bytes) :
    toId? (ofId id) = some id ∧ (ofId id < ofId other ↔ id < other) ∧ (toId? bytes = some id ↔ bytes = ofId id) ∧
      unpack (pack ids) = ids ∧ WholeWords bytes (pack (unpack bytes)) := by
  refine ⟨toId_ofId id, ofId_lt, toId_iff, ?_, ?_⟩
  · exact unpack_pack ids
  · exact pack_unpack bytes

end Key
end Casebook.Store
