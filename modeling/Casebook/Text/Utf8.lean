namespace Casebook

abbrev Bytes := List UInt8

namespace Text

def utf8 (text : String) : Bytes := text.toByteArray.data.toList

def utf8Length : List Char → Nat
  | [] => 0
  | c :: rest => c.utf8Size + utf8Length rest

-- Texts are told apart by their bytes, so bytes may stand for texts as keys.
theorem utf8_exact {left right : String} : utf8 left = utf8 right ↔ left = right := by
  simp [utf8, ← String.toByteArray_inj, ByteArray.ext_iff]

theorem utf8_beq (left right : String) : (utf8 left == utf8 right) = (left == right) := by
  rw [Bool.eq_iff_iff, beq_iff_eq, beq_iff_eq, utf8_exact]

theorem utf8_append (left right : String) : utf8 (left ++ right) = utf8 left ++ utf8 right := by
  simp [utf8, String.toByteArray_append]

end Text
end Casebook
