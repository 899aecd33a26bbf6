import Mathlib.Data.List.Lex
import Mathlib.Data.String.Basic

/-!
# The order of texts by their bytes

Texts are ordered character by character. UTF-8 writes a greater character with greater bytes, and
the first byte that differs decides (`encodeChar_lt`), so the order of the bytes of texts is the
order of the texts (`bytes_le_iff`).
-/

namespace Scaffold.Text

/-- The bytes of a text in UTF-8. -/
def bytes (s : String) : List Nat :=
  s.toUTF8.data.toList.map UInt8.toNat

/-- The bytes of a character in UTF-8. -/
def encodeChar (c : Char) : List Nat :=
  (String.utf8EncodeChar c).map UInt8.toNat

theorem bytes_eq (s : String) : bytes s = s.toList.flatMap encodeChar := by
  obtain ⟨cs, rfl⟩ : ∃ cs, s = String.ofList cs := ⟨s.toList, String.ofList_toList.symm⟩
  rw [bytes, String.toUTF8_eq_toByteArray, String.toByteArray_ofList, List.utf8Encode,
    List.toList_data_toByteArray, String.toList_ofList, List.map_flatMap]
  rfl

/-- The bytes of a character by its code point. -/
theorem encodeChar_eq (c : Char) : encodeChar c =
    if c.toNat ≤ 127 then [c.toNat]
    else if c.toNat ≤ 2047 then [c.toNat / 64 + 192, c.toNat % 64 + 128]
    else if c.toNat ≤ 65535 then
      [c.toNat / 4096 + 224, c.toNat / 64 % 64 + 128, c.toNat % 64 + 128]
    else [c.toNat / 262144 + 240, c.toNat / 4096 % 64 + 128, c.toNat / 64 % 64 + 128,
      c.toNat % 64 + 128] := by
  have hbound : c.toNat < 1114112 := by
    rcases c.valid with h | ⟨-, h⟩
    · exact Nat.lt_trans h (by decide)
    · exact h
  have hn : c.val.toNat = c.toNat := rfl
  rw [encodeChar, String.utf8EncodeChar]
  simp only [hn]
  split_ifs <;> simp only [List.map_cons, List.map_nil, UInt8.toNat_ofNat', List.cons.injEq,
    and_true] <;> omega

theorem encodeChar_ne_nil (c : Char) : encodeChar c ≠ [] := by
  rw [encodeChar, ne_eq, List.map_eq_nil_iff]
  exact String.utf8EncodeChar_ne_nil

/-- A greater character is written with greater bytes, whatever follows. -/
theorem encodeChar_lt {c d : Char} (h : c < d) (rest rest' : List Nat) :
    encodeChar c ++ rest < encodeChar d ++ rest' := by
  have hlt : c.toNat < d.toNat := h
  rw [encodeChar_eq, encodeChar_eq]
  split_ifs <;> simp only [List.cons_append, List.nil_append, List.cons_lt_cons_iff] <;> omega

theorem bytes_strictMono : StrictMono bytes := by
  intro s t h
  rw [bytes_eq, bytes_eq]
  rw [String.lt_iff_toList_lt] at h
  generalize s.toList = cs at h ⊢
  generalize t.toList = ds at h ⊢
  induction h with
  | @nil c cs =>
    obtain ⟨b, bs, hc⟩ := List.exists_cons_of_ne_nil (encodeChar_ne_nil c)
    rw [List.flatMap_nil, List.flatMap_cons, hc, List.cons_append]
    exact List.nil_lt_cons b _
  | rel h => exact encodeChar_lt h _ _
  | cons h ih => exact List.append_left_lt ih

/-- Texts are in the order of their bytes. -/
theorem bytes_le_iff {s t : String} : bytes s ≤ bytes t ↔ s ≤ t :=
  bytes_strictMono.le_iff_le

end Scaffold.Text
