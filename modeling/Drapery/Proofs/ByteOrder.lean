import Mathlib.Data.UInt

/-!
# Texts in the order of their bytes

Texts are ordered by their code points.  Of two characters the smaller one has
the smaller byte at the first place where their bytes differ, so this is also
the order of the texts in UTF-8.
-/

namespace Drapery.Text

def bytes (text : String) : List UInt8 := text.toUTF8.data.toList

theorem bytes_eq (text : String) :
    bytes text = text.toList.flatMap String.utf8EncodeChar := by
  have hencode : text.toByteArray = text.toList.utf8Encode := by
    rw [← String.toByteArray_ofList, String.ofList_toList]
  rw [bytes, String.toUTF8_eq_toByteArray, hencode, List.utf8Encode, List.toList_data_toByteArray]

/-! ## The bytes of a character -/

theorem codePoint_lt (c : Char) : c.val.toNat < 0x110000 := by
  rcases c.valid with hlow | ⟨-, hhigh⟩
  · omega
  · exact hhigh

/-- What follows the two characters does not matter: neither encoding is a
prefix of the other. -/
theorem utf8EncodeChar_append_lt {c d : Char} (h : c < d) (after after' : List UInt8) :
    String.utf8EncodeChar c ++ after < String.utf8EncodeChar d ++ after' := by
  have hlt : c.val.toNat < d.val.toNat := h
  have hd := codePoint_lt d
  have hbyte : ∀ {n : Nat}, n < 256 → (UInt8.ofNat n).toNat = n := UInt8.toNat_ofNat_of_lt'
  -- the bytes after the first are digits to the base 64
  have hdigits : ∀ n : Nat, n / 4096 = n / 64 / 64 ∧ n / 262144 = n / 64 / 64 / 64 := by omega
  simp only [String.utf8EncodeChar, hdigits]
  split_ifs <;>
    simp (disch := omega) only [List.cons_append, List.nil_append, List.cons_lt_cons_iff,
      UInt8.lt_iff_toNat_lt, ← UInt8.toNat_inj, hbyte] <;>
    omega

/-! ## The bytes of a text -/

theorem flatMap_utf8EncodeChar_lt {as bs : List Char} (h : as < bs) :
    as.flatMap String.utf8EncodeChar < bs.flatMap String.utf8EncodeChar := by
  induction h with
  | @nil b bs =>
      have hne : (b :: bs).flatMap String.utf8EncodeChar ≠ [] := by
        simp [String.utf8EncodeChar_ne_nil]
      obtain ⟨byte, rest, hbytes⟩ := List.exists_cons_of_ne_nil hne
      rw [hbytes]
      exact List.nil_lt_cons byte rest
  | rel hlt =>
      rw [List.flatMap_cons, List.flatMap_cons]
      exact utf8EncodeChar_append_lt hlt _ _
  | cons _ ih =>
      rw [List.flatMap_cons, List.flatMap_cons]
      exact List.append_left_lt ih

theorem bytes_lt_bytes_iff {a b : String} : bytes a < bytes b ↔ a < b := by
  have hmono : ∀ {a b : String}, a < b → bytes a < bytes b := by
    intro a b h
    rw [bytes_eq, bytes_eq]
    exact flatMap_utf8EncodeChar_lt h
  refine ⟨fun hbytes => Decidable.byContradiction fun hnot => ?_, hmono⟩
  by_cases hgreater : b < a
  · exact List.lt_asymm hbytes (hmono hgreater)
  · obtain rfl : a = b := String.le_antisymm hgreater hnot
    exact List.lt_irrefl _ hbytes

theorem bytes_le_bytes_iff {a b : String} : bytes a ≤ bytes b ↔ a ≤ b :=
  not_congr bytes_lt_bytes_iff

end Drapery.Text
