import Lookout.Proofs.Text.Digits
import Lookout.Url.Percent
import Mathlib.Data.List.Infix

/-!
# Percent-encoding and reading it back

What is encoded is read back as what the text itself would be read as: encoding writes a percent
sign only where it takes a character away. A text is read as itself exactly if no percent sign in it
stands before two hexadecimal digits; any other text is read as a shorter one.
-/
set_option autoImplicit false

namespace Lookout.Url

def utf8 (cs : List Char) : List UInt8 := cs.flatMap String.utf8EncodeChar

/-- A percent sign and two hexadecimal digits come next. -/
def escapeAhead : List Char → Bool
  | '%' :: a :: b :: _ => Text.isDigit 16 a && Text.isDigit 16 b
  | _ => false

/-- Somewhere in the text a percent sign stands before two hexadecimal digits. -/
def HasEscape (cs : List Char) : Prop :=
  ∃ a b, ['%', a, b] <:+: cs ∧ Text.isDigit 16 a = true ∧ Text.isDigit 16 b = true

/-- Percent signs and hexadecimal digits are written as they are. -/
def SparesEscapes (reserved : Reserved) : Prop :=
  ∀ c ∈ reserved, c ≠ '%' ∧ Text.isDigit 16 c = false

@[simp]
theorem utf8_cons (c : Char) (rest : List Char) :
    utf8 (c :: rest) = String.utf8EncodeChar c ++ utf8 rest := rfl

theorem utf8_toList (s : String) : (utf8 s.toList).toByteArray = s.toByteArray :=
  String.utf8Encode_toList

theorem length_utf8EncodeChar_pos (c : Char) : 0 < (String.utf8EncodeChar c).length :=
  List.length_pos_iff.2 String.utf8EncodeChar_ne_nil

theorem length_utf8_le {cs ds : List Char} (h : cs.Sublist ds) :
    (utf8 cs).length ≤ (utf8 ds).length := by
  induction h with
  | slnil => exact Nat.le_refl _
  | cons c _ ih =>
    rw [utf8_cons, List.length_append]
    omega
  | cons_cons c _ ih =>
    rw [utf8_cons, utf8_cons, List.length_append, List.length_append]
    omega

theorem eq_of_length_utf8_le {cs ds : List Char} (h : cs.Sublist ds)
    (hle : (utf8 ds).length ≤ (utf8 cs).length) : cs = ds := by
  induction h with
  | slnil => rfl
  | cons c hsub ih =>
    have hpos := length_utf8EncodeChar_pos c
    have hshort := length_utf8_le hsub
    rw [utf8_cons, List.length_append] at hle
    omega
  | cons_cons c hsub ih =>
    rw [utf8_cons, utf8_cons, List.length_append, List.length_append] at hle
    rw [ih (by omega)]

/-! ## Reading -/

theorem escapeAhead_iff {cs : List Char} : escapeAhead cs = true ↔
    ∃ a b rest, cs = '%' :: a :: b :: rest ∧ Text.isDigit 16 a = true ∧
      Text.isDigit 16 b = true := by
  constructor
  · intro h
    unfold escapeAhead at h
    split at h
    · next a b rest =>
      obtain ⟨ha, hb⟩ := Bool.and_eq_true_iff.1 h
      exact ⟨a, b, rest, rfl, ha, hb⟩
    · cases h
  · rintro ⟨a, b, rest, rfl, ha, hb⟩
    simp [escapeAhead, ha, hb]

theorem hasEscape_cons_iff {c : Char} {rest : List Char} :
    HasEscape (c :: rest) ↔ escapeAhead (c :: rest) = true ∨ HasEscape rest := by
  constructor
  · rintro ⟨a, b, hwithin, ha, hb⟩
    rcases List.infix_cons_iff.1 hwithin with ⟨more, hprefix⟩ | hrest
    · exact Or.inl (escapeAhead_iff.2 ⟨a, b, more, hprefix.symm, ha, hb⟩)
    · exact Or.inr ⟨a, b, hrest, ha, hb⟩
  · rintro (hahead | ⟨a, b, hwithin, ha, hb⟩)
    · obtain ⟨a, b, more, heq, ha, hb⟩ := escapeAhead_iff.1 hahead
      exact ⟨a, b, heq ▸ ⟨[], more, rfl⟩, ha, hb⟩
    · exact ⟨a, b, List.infix_cons hwithin, ha, hb⟩

theorem decodeBytes_escape {a b : Char} (ha : Text.isDigit 16 a = true)
    (hb : Text.isDigit 16 b = true) (rest : List Char) :
    decodeBytes ('%' :: a :: b :: rest) =
      .ofNat (Text.valueOf 16 [a, b]) :: decodeBytes rest := by
  simp [decodeBytes, ha, hb]

theorem decodeBytes_cons {c : Char} {rest : List Char} (h : escapeAhead (c :: rest) = false) :
    decodeBytes (c :: rest) = String.utf8EncodeChar c ++ decodeBytes rest := by
  rw [decodeBytes.eq_def (c :: rest)]
  split
  · next heq => cases heq
  · next a b more heq =>
    cases heq
    rw [escapeAhead] at h
    rw [if_neg (by simp [h])]
  · next heq =>
    cases heq
    rfl

theorem escapeAhead_eq_false {c : Char} {rest : List Char}
    (h : ∀ a b more, c = '%' → rest = a :: b :: more → False) :
    escapeAhead (c :: rest) = false := by
  rw [Bool.eq_false_iff]
  intro hahead
  obtain ⟨a, b, more, heq, -⟩ := escapeAhead_iff.1 hahead
  obtain ⟨hc, hrest⟩ := List.cons.inj heq
  exact h a b more hc hrest

theorem decodeBytes_eq_utf8 {cs : List Char} (h : ¬HasEscape cs) : decodeBytes cs = utf8 cs := by
  induction cs with
  | nil => simp [decodeBytes, utf8]
  | cons c rest ih =>
    obtain ⟨hahead, hrest⟩ := not_or.1 (mt hasEscape_cons_iff.2 h)
    rw [decodeBytes_cons (by simpa using hahead), ih hrest, utf8_cons]

theorem length_decodeBytes_le (cs : List Char) : (decodeBytes cs).length ≤ (utf8 cs).length := by
  induction cs using decodeBytes.induct with
  | case1 => simp [decodeBytes]
  | case2 a b rest hdigits ih =>
    obtain ⟨ha, hb⟩ := Bool.and_eq_true_iff.1 hdigits
    have hposa := length_utf8EncodeChar_pos a
    rw [decodeBytes_escape ha hb]
    simp only [utf8_cons, List.length_cons, List.length_append]
    omega
  | case3 a b rest hdigits ih =>
    rw [decodeBytes_cons (by simpa [escapeAhead] using hdigits), utf8_cons, List.length_append,
      List.length_append]
    omega
  | case4 c rest hplain ih =>
    rw [decodeBytes_cons (escapeAhead_eq_false hplain), utf8_cons, List.length_append,
      List.length_append]
    omega

/-- What three characters stand for is one byte. -/
theorem length_decodeBytes_lt {cs : List Char} (h : HasEscape cs) :
    (decodeBytes cs).length < (utf8 cs).length := by
  induction cs with
  | nil =>
    obtain ⟨a, b, hwithin, -⟩ := h
    simp at hwithin
  | cons c rest ih =>
    cases hahead : escapeAhead (c :: rest) with
    | true =>
      obtain ⟨a, b, more, heq, ha, hb⟩ := escapeAhead_iff.1 hahead
      have hle := length_decodeBytes_le more
      have hposa := length_utf8EncodeChar_pos a
      have hpos := length_utf8EncodeChar_pos '%'
      rw [heq, decodeBytes_escape ha hb]
      simp only [utf8_cons, List.length_cons, List.length_append]
      omega
    | false =>
      have hrest := (hasEscape_cons_iff.1 h).resolve_left (by simp [hahead])
      rw [decodeBytes_cons hahead, utf8_cons, List.length_append, List.length_append]
      have hlt := ih hrest
      omega

theorem decodeText?_eq_some_iff {cs : List Char} {s : String} :
    decodeText? cs = some s ↔ decodeBytes cs = utf8 s.toList := by
  unfold decodeText? String.fromUTF8?
  constructor
  · intro h
    split at h
    · next hvalid =>
      have hbytes : (decodeBytes cs).toByteArray = s.toByteArray :=
        congrArg String.toByteArray (Option.some.inj h)
      rw [← utf8_toList] at hbytes
      have hdata := congrArg (fun bytes => bytes.data.toList) hbytes
      simpa using hdata
    · cases h
  · intro h
    have hvalid : (decodeBytes cs).toByteArray.IsValidUTF8 := by
      rw [h, utf8_toList]
      exact s.isValidUTF8
    rw [dif_pos hvalid]
    refine congrArg some (String.toByteArray_inj.1 ?_)
    change (decodeBytes cs).toByteArray = s.toByteArray
    rw [h, utf8_toList]

/-! ## Writing -/

theorem isDigit_hexDigit : ∀ n < 16, Text.isDigit 16 (hexDigit n) = true := by decide

theorem valueOf_hexDigits : ∀ a < 16, ∀ b < 16,
    Text.valueOf 16 [hexDigit a, hexDigit b] = a * 16 + b := by decide

theorem decodeBytes_encodeByte (b : UInt8) (rest : List Char) :
    decodeBytes (encodeByte b ++ rest) = b :: decodeBytes rest := by
  have hb : b.toNat < 256 := b.toNat_lt
  have hhigh : b.toNat / 16 < 16 := by omega
  have hlow : b.toNat % 16 < 16 := by omega
  have hsum : b.toNat / 16 * 16 + b.toNat % 16 = b.toNat := by omega
  change decodeBytes ('%' :: hexDigit (b.toNat / 16) :: hexDigit (b.toNat % 16) :: rest) = _
  rw [decodeBytes_escape (isDigit_hexDigit _ hhigh) (isDigit_hexDigit _ hlow),
    valueOf_hexDigits _ hhigh _ hlow, hsum, UInt8.ofNat_toNat]

theorem decodeBytes_encodeBytes (bytes : List UInt8) (rest : List Char) :
    decodeBytes (bytes.flatMap encodeByte ++ rest) = bytes ++ decodeBytes rest := by
  induction bytes with
  | nil => rfl
  | cons b more ih =>
    rw [List.flatMap_cons, List.append_assoc, decodeBytes_encodeByte, ih, List.cons_append]

section
variable {reserved : Reserved}

theorem encode_cons (c : Char) (rest : List Char) :
    encode reserved (c :: rest) = encodeChar reserved c ++ encode reserved rest := rfl

theorem encodeChar_cases (reserved : Reserved) (c : Char) :
    encodeChar reserved c = [c] ∨
      encodeChar reserved c = (String.utf8EncodeChar c).flatMap encodeByte := by
  unfold encodeChar
  split
  · exact Or.inr rfl
  · exact Or.inl rfl

theorem encodeChar_digit (h : SparesEscapes reserved) {c : Char}
    (hc : Text.isDigit 16 c = true) : encodeChar reserved c = [c] := by
  have hrange := Text.toNat_of_isDigit hc
  have hkept : c ∉ reserved := by
    intro hmem
    rw [(h c hmem).2] at hc
    cases hc
  unfold encodeChar
  rw [if_neg]
  simp [hkept]
  omega

theorem exists_encodeBytes (c : Char) :
    ∃ more, (String.utf8EncodeChar c).flatMap encodeByte = '%' :: more := by
  obtain ⟨b, bytes, hbytes⟩ := List.exists_cons_of_ne_nil (String.utf8EncodeChar_ne_nil (c := c))
  exact ⟨_, by rw [hbytes, List.flatMap_cons]; rfl⟩

/-- A digit comes next in what is written only if it came next before. -/
theorem digit_ahead (h : SparesEscapes reserved) {cs more : List Char} {a : Char}
    (ha : Text.isDigit 16 a = true) :
    encode reserved cs = a :: more ↔ ∃ rest, cs = a :: rest ∧ encode reserved rest = more := by
  constructor
  · intro hcs
    cases cs with
    | nil => cases hcs
    | cons c rest =>
      rw [encode_cons] at hcs
      rcases encodeChar_cases reserved c with hkept | hencoded
      · rw [hkept] at hcs
        obtain ⟨rfl, hmore⟩ := List.cons.inj hcs
        exact ⟨rest, rfl, hmore⟩
      · obtain ⟨bytes, hbytes⟩ := exists_encodeBytes c
        rw [hencoded, hbytes] at hcs
        obtain ⟨rfl, -⟩ := List.cons.inj hcs
        exact absurd ha (by decide)
  · rintro ⟨rest, rfl, rfl⟩
    rw [encode_cons, encodeChar_digit h ha, List.singleton_append]

theorem escapeAhead_encode (h : SparesEscapes reserved) (c : Char) (rest : List Char) :
    escapeAhead (c :: encode reserved rest) = escapeAhead (c :: rest) := by
  rw [Bool.eq_iff_iff, escapeAhead_iff, escapeAhead_iff]
  constructor
  · rintro ⟨a, b, more, heq, ha, hb⟩
    obtain ⟨rfl, hrest⟩ := List.cons.inj heq
    obtain ⟨rest, rfl, hmore⟩ := (digit_ahead h ha).1 hrest
    obtain ⟨rest, rfl, -⟩ := (digit_ahead h hb).1 hmore
    exact ⟨a, b, rest, rfl, ha, hb⟩
  · rintro ⟨a, b, more, heq, ha, hb⟩
    obtain ⟨rfl, rfl⟩ := List.cons.inj heq
    refine ⟨a, b, encode reserved more, ?_, ha, hb⟩
    rw [(digit_ahead h ha).2 ⟨_, rfl, (digit_ahead h hb).2 ⟨more, rfl, rfl⟩⟩]

theorem decodeBytes_encode_cons (h : SparesEscapes reserved) {c : Char} {rest : List Char}
    (hahead : escapeAhead (c :: rest) = false) :
    decodeBytes (encode reserved (c :: rest)) =
      String.utf8EncodeChar c ++ decodeBytes (encode reserved rest) := by
  rw [encode_cons]
  rcases encodeChar_cases reserved c with hkept | hencoded
  · rw [hkept, List.singleton_append,
      decodeBytes_cons ((escapeAhead_encode h c rest).trans hahead)]
  · rw [hencoded, decodeBytes_encodeBytes]

theorem decodeBytes_encode (h : SparesEscapes reserved) (cs : List Char) :
    decodeBytes (encode reserved cs) = decodeBytes cs := by
  induction cs using decodeBytes.induct with
  | case1 => rfl
  | case2 a b rest hdigits ih =>
    obtain ⟨ha, hb⟩ := Bool.and_eq_true_iff.1 hdigits
    have hpercent : encodeChar reserved '%' = ['%'] := by
      have hkept : '%' ∉ reserved := fun hmem => (h '%' hmem).1 rfl
      unfold encodeChar
      rw [if_neg]
      simp [hkept]
    rw [encode_cons, hpercent, encode_cons, encodeChar_digit h ha, encode_cons,
      encodeChar_digit h hb]
    simp only [List.singleton_append]
    rw [decodeBytes_escape ha hb, decodeBytes_escape ha hb, ih]
  | case3 a b rest hdigits ih =>
    have hahead : escapeAhead ('%' :: a :: b :: rest) = false := by
      simpa [escapeAhead] using hdigits
    rw [decodeBytes_encode_cons h hahead, decodeBytes_cons hahead, ih]
  | case4 c rest hplain ih =>
    have hahead := escapeAhead_eq_false hplain
    rw [decodeBytes_encode_cons h hahead, decodeBytes_cons hahead, ih]

theorem slash_not_mem_encodeByte (b : UInt8) : '/' ∉ encodeByte b := by
  have hdigit : ∀ n < 16, '/' ≠ hexDigit n := by decide
  have hb : b.toNat < 256 := b.toNat_lt
  have hhigh := hdigit (b.toNat / 16) (by omega)
  have hlow := hdigit (b.toNat % 16) (by omega)
  simp [encodeByte, hhigh, hlow]

theorem slash_not_mem_encode {cs : List Char} (h : '/' ∉ cs) : '/' ∉ encode reserved cs := by
  intro hmem
  obtain ⟨c, hc, hwritten⟩ := List.mem_flatMap.1 hmem
  rcases encodeChar_cases reserved c with hkept | hencoded
  · rw [hkept, List.mem_singleton] at hwritten
    exact h (hwritten ▸ hc)
  · rw [hencoded] at hwritten
    obtain ⟨b, -, hb⟩ := List.mem_flatMap.1 hwritten
    exact slash_not_mem_encodeByte b hb

theorem sparesEscapes_inPath : SparesEscapes inPath := by
  have hall : inPath.all (fun c => c ≠ '%' && !Text.isDigit 16 c) = true := by decide
  simpa [SparesEscapes] using hall

end

end Lookout.Url
