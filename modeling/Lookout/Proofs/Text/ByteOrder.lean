import Mathlib.Data.String.Basic

/-!
# The order of texts is the order of their bytes

Texts are compared by code point. UTF-8 keeps that order: of two characters the greater one has the
greater bytes, and no character's bytes begin those of another.
-/
set_option autoImplicit false

namespace Lookout.Text

def bytes (s : String) : List Nat := s.toUTF8.data.toList.map UInt8.toNat

def bytesOfChar (c : Char) : List Nat := (String.utf8EncodeChar c).map UInt8.toNat

theorem bytes_eq_flatMap (s : String) : bytes s = s.toList.flatMap bytesOfChar := by
  rw [bytes, String.toUTF8_eq_toByteArray, ← String.utf8Encode_toList, List.utf8Encode,
    List.toList_data_toByteArray, List.map_flatMap]
  rfl

theorem codePoint_lt (c : Char) : c.toNat < 0x110000 := by
  have hvalid := c.valid
  simp only [UInt32.isValidChar, Nat.isValidChar] at hvalid
  change c.val.toNat < 0x110000
  omega

/-- The first byte tells how many follow, and every byte after it has six bits. -/
theorem bytesOfChar_eq (c : Char) :
    bytesOfChar c =
      if c.toNat < 0x80 then [c.toNat]
      else if c.toNat < 0x800 then [0xc0 + c.toNat / 64, 0x80 + c.toNat % 64]
      else if c.toNat < 0x10000 then
        [0xe0 + c.toNat / 4096, 0x80 + c.toNat / 64 % 64, 0x80 + c.toNat % 64]
      else
        [0xf0 + c.toNat / 262144, 0x80 + c.toNat / 4096 % 64, 0x80 + c.toNat / 64 % 64,
          0x80 + c.toNat % 64] := by
  have hbound := codePoint_lt c
  have hval : c.val.toNat = c.toNat := rfl
  simp only [bytesOfChar, String.utf8EncodeChar, hval]
  split_ifs <;>
    simp only [List.map_cons, List.map_nil, UInt8.toNat_ofNat', List.cons.injEq, and_true] <;>
    omega

/-- The first bytes decide between characters of different lengths. In one length the bytes are the
digits of the code point, the highest first. -/
theorem bytesOfChar_append_lt {c d : Char} (h : c < d) (xs ys : List Nat) :
    bytesOfChar c ++ xs < bytesOfChar d ++ ys := by
  have hlt : c.toNat < d.toNat := h
  have hbound := codePoint_lt d
  rw [bytesOfChar_eq, bytesOfChar_eq]
  split_ifs <;> simp only [List.cons_append, List.nil_append, List.cons_lt_cons_iff] <;> omega

theorem bytesOfChar_ne_nil (c : Char) : bytesOfChar c ≠ [] := by
  simp [bytesOfChar, String.utf8EncodeChar_ne_nil]

theorem flatMap_bytesOfChar_lt {cs ds : List Char} (h : cs < ds) :
    cs.flatMap bytesOfChar < ds.flatMap bytesOfChar := by
  induction cs generalizing ds with
  | nil =>
    cases ds with
    | nil => cases h
    | cons d ds =>
      obtain ⟨byte, rest, hbytes⟩ := List.exists_cons_of_ne_nil (bytesOfChar_ne_nil d)
      rw [List.flatMap_cons, hbytes]
      exact List.nil_lt_cons _ _
  | cons c cs ih =>
    cases ds with
    | nil => cases h
    | cons d ds =>
      rw [List.flatMap_cons, List.flatMap_cons]
      rcases List.cons_lt_cons_iff.1 h with hlt | ⟨rfl, hrest⟩
      · exact bytesOfChar_append_lt hlt _ _
      · exact List.append_left_lt (ih hrest)

theorem bytes_strictMono : StrictMono bytes := by
  intro s t h
  rw [bytes_eq_flatMap, bytes_eq_flatMap]
  exact flatMap_bytesOfChar_lt h

theorem bytes_le_iff {s t : String} : bytes s ≤ bytes t ↔ s ≤ t := bytes_strictMono.le_iff_le

end Lookout.Text
