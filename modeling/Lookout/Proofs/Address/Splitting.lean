import Lookout.Proofs.Address
import Lookout.Proofs.Text.Digits

/-!
# Addresses taken apart

An address has two forms, `host:port` and `[host]:port`. The first leaves no room for colons in the
host and the second none for closing brackets, so a text is of one form at most and has one host
and one port.
-/
set_option autoImplicit false

namespace Lookout.Address

open Text

/-- The digits of a number from 0 to 65535, at least one, with or without a plus sign before
them. -/
def WritesPort (cs : List Char) (port : UInt16) : Prop :=
  ∃ digits, (cs = digits ∨ cs = '+' :: digits) ∧ digits ≠ [] ∧
    (∀ c ∈ digits, c.isDigit = true) ∧ Nat.ofDigitChars 10 digits 0 = port.toNat

/-- The forms of an address. -/
inductive Writes : List Char → List Char → UInt16 → Prop
  | bracketed {host cs : List Char} {port : UInt16} (nonempty : host ≠ []) (closed : ']' ∉ host)
    (written : WritesPort cs port) : Writes ('[' :: host ++ ']' :: ':' :: cs) host port
  | plain {host cs : List Char} {port : UInt16} (nonempty : host ≠ []) (single : ':' ∉ host)
    (unbracketed : host.head? ≠ some '[') (written : WritesPort cs port) :
    Writes (host ++ ':' :: cs) host port

/-! ## Ports -/

theorem natural?_eq_some_iff {cs : List Char} {n : Nat} :
    natural? cs = some n ↔
      cs ≠ [] ∧ (∀ c ∈ cs, c.isDigit = true) ∧ Nat.ofDigitChars 10 cs 0 = n := by
  simp only [natural?, Option.ite_none_left_eq_some, Bool.or_eq_true, List.isEmpty_iff,
    Bool.not_eq_true', not_or, Bool.not_eq_false, List.all_eq_true, isDigit_ten, Option.some.injEq,
    and_assoc]
  refine and_congr_right fun _ => and_congr_right fun hdigits => ?_
  rw [valueOf_eq_ofDigitChars fun c hc => (isDigit_ten c).trans (hdigits c hc)]

theorem natural?_plus (cs : List Char) : natural? ('+' :: cs) = none := by
  rw [Option.eq_none_iff_forall_ne_some]
  intro n h
  exact absurd ((natural?_eq_some_iff.1 h).2.1 '+' List.mem_cons_self) (by decide)

theorem unsigned?_eq_some_iff {limit n : Nat} {cs : List Char} :
    unsigned? limit cs = some n ↔
      ∃ digits, (cs = digits ∨ cs = '+' :: digits) ∧ natural? digits = some n ∧ n ≤ limit := by
  unfold unsigned?
  simp only [Option.filter_eq_some_iff, decide_eq_true_eq]
  split
  · next rest =>
    constructor
    · intro h
      exact ⟨rest, Or.inr rfl, h⟩
    · rintro ⟨digits, rfl | heq, h⟩
      · rw [natural?_plus] at h
        cases h.1
      · obtain rfl := (List.cons.inj heq).2
        exact h
  · next hsign =>
    constructor
    · intro h
      exact ⟨cs, Or.inl rfl, h⟩
    · rintro ⟨digits, rfl | rfl, h⟩
      · exact h
      · exact absurd rfl (hsign digits)

theorem port?_eq_some_iff {cs : List Char} {port : UInt16} :
    port? cs = some port ↔ WritesPort cs port := by
  have hlt : port.toNat < 65536 := port.toNat_lt
  simp only [port?, Option.map_eq_some_iff, unsigned?_eq_some_iff, WritesPort]
  constructor
  · rintro ⟨n, ⟨digits, hcs, hnatural, hle⟩, rfl⟩
    obtain ⟨hempty, hdigits, hvalue⟩ := natural?_eq_some_iff.1 hnatural
    exact ⟨digits, hcs, hempty, hdigits,
      hvalue.trans (UInt16.toNat_ofNat_of_lt' (Nat.lt_succ_of_le hle)).symm⟩
  · rintro ⟨digits, hcs, hempty, hdigits, hvalue⟩
    exact ⟨port.toNat, ⟨digits, hcs, natural?_eq_some_iff.2 ⟨hempty, hdigits, hvalue⟩, by omega⟩,
      UInt16.ofNat_toNat⟩

theorem writesPort_decimal (port : UInt16) : WritesPort (decimal port.toNat) port :=
  ⟨_, Or.inl rfl, Nat.toDigits_ne_nil,
    fun _ => Nat.isDigit_of_mem_toDigits (by decide) (by decide), Nat.ofDigitChars_ten_toDigits⟩

theorem WritesPort.not_mem {cs : List Char} {port : UInt16} (h : WritesPort cs port) {c : Char}
    (hdigit : c.isDigit = false) (hplus : c ≠ '+') : c ∉ cs := by
  obtain ⟨digits, hcs, -, hdigits, -⟩ := h
  have hnot : c ∉ digits := fun hc => by simp [hdigits c hc] at hdigit
  rcases hcs with rfl | rfl
  · exact hnot
  · simp [hplus, hnot]

/-! ## Hosts -/

theorem splitLast?_eq_some_iff {c : Char} {cs front back : List Char} :
    splitLast? c cs = some (front, back) ↔ c ∉ back ∧ cs = front ++ c :: back := by
  simp only [splitLast?, Option.map_eq_some_iff, Prod.exists, Prod.mk.injEq,
    splitFirst?_eq_some_iff]
  constructor
  · rintro ⟨back', front', ⟨hmem, hcs⟩, rfl, rfl⟩
    refine ⟨by simpa using hmem, ?_⟩
    simpa using congrArg List.reverse hcs
  · rintro ⟨hmem, rfl⟩
    exact ⟨back.reverse, front.reverse, ⟨by simpa using hmem, by simp⟩, by simp, by simp⟩

theorem splitBracketed?_eq_some_iff {cs host back : List Char} :
    splitBracketed? cs = some (host, back) ↔ ']' ∉ host ∧ cs = host ++ ']' :: ':' :: back := by
  rw [← splitFirst?_eq_some_iff]
  unfold splitBracketed?
  split
  · next hsplit => simp [hsplit]
  · next hcolon =>
    constructor
    · intro h
      cases h
    · intro h
      exact absurd h (hcolon _ _)

theorem writes_bracket_iff {rest host : List Char} {port : UInt16} :
    Writes ('[' :: rest) host port ↔
      ∃ cs, (']' ∉ host ∧ rest = host ++ ']' :: ':' :: cs) ∧ host ≠ [] ∧ WritesPort cs port := by
  constructor
  · intro h
    generalize htext : '[' :: rest = text at h
    cases h with
    | bracketed nonempty closed written =>
      exact ⟨_, ⟨closed, (List.cons.inj htext).2⟩, nonempty, written⟩
    | plain nonempty single unbracketed written =>
      obtain ⟨c, more, rfl⟩ := List.exists_cons_of_ne_nil nonempty
      obtain ⟨rfl, -⟩ := List.cons.inj htext
      exact absurd rfl unbracketed
  · rintro ⟨cs, ⟨closed, rfl⟩, nonempty, written⟩
    exact .bracketed nonempty closed written

theorem writes_plain_iff {text host : List Char} {port : UInt16} (h : text.head? ≠ some '[') :
    Writes text host port ↔
      ∃ cs, (':' ∉ cs ∧ text = host ++ ':' :: cs) ∧ (host ≠ [] ∧ ':' ∉ host) ∧
        WritesPort cs port := by
  constructor
  · intro hwrites
    cases hwrites with
    | bracketed => exact absurd rfl h
    | plain nonempty single unbracketed written =>
      exact ⟨_, ⟨written.not_mem (by decide) (by decide), rfl⟩, ⟨nonempty, single⟩, written⟩
  · rintro ⟨cs, ⟨-, rfl⟩, ⟨nonempty, single⟩, written⟩
    refine .plain nonempty single ?_ written
    rwa [List.head?_append_of_ne_nil _ nonempty] at h

/-- An address is taken apart if it is of one of the forms, and then as the form has it. -/
theorem splitChars?_eq_some_iff {cs host : List Char} {port : UInt16} :
    splitChars? cs = some (host, port) ↔ Writes (trim cs) host port := by
  unfold splitChars?
  split
  · next rest htext =>
    simp only [htext, Option.bind_eq_bind, Option.bind_eq_some_iff, Prod.exists,
      Option.ite_none_left_eq_some, Option.map_eq_some_iff, List.isEmpty_iff, Prod.mk.injEq,
      splitBracketed?_eq_some_iff, port?_eq_some_iff, writes_bracket_iff]
    constructor
    · rintro ⟨_, back, hsplit, hempty, _, hport, rfl, rfl⟩
      exact ⟨back, hsplit, hempty, hport⟩
    · rintro ⟨back, hsplit, hempty, hport⟩
      exact ⟨_, back, hsplit, hempty, _, hport, rfl, rfl⟩
  · next hbracket =>
    have hhead : (trim cs).head? ≠ some '[' := by
      intro h
      obtain ⟨rest, htext⟩ := List.head?_eq_some_iff.1 h
      exact hbracket rest htext
    simp only [Option.bind_eq_bind, Option.bind_eq_some_iff, Prod.exists,
      Option.ite_none_left_eq_some, Option.map_eq_some_iff, List.isEmpty_iff, Prod.mk.injEq,
      Bool.or_eq_true, List.contains_iff_mem, not_or, splitLast?_eq_some_iff, port?_eq_some_iff,
      writes_plain_iff hhead]
    constructor
    · rintro ⟨_, back, hsplit, hhost, _, hport, rfl, rfl⟩
      exact ⟨back, hsplit, hhost, hport⟩
    · rintro ⟨back, hsplit, hhost, hport⟩
      exact ⟨_, back, hsplit, hhost, _, hport, rfl, rfl⟩

theorem split?_eq_some_iff {address host : String} {port : UInt16} :
    split? address = some (host, port) ↔ Writes (trim address.toList) host.toList port := by
  rw [← splitChars?_eq_some_iff, split?, Option.map_eq_some_iff]
  constructor
  · rintro ⟨⟨host', port'⟩, hsplit, heq⟩
    obtain ⟨rfl, rfl⟩ := Prod.mk.inj heq
    rw [String.toList_ofList, hsplit]
  · intro hsplit
    exact ⟨_, hsplit, by rw [String.ofList_toList]⟩

/-- Blanks around it aside, an address is taken apart exactly if it is of one of the two forms, and
a text can be of one form in one way only. -/
theorem split_iff_written (address : String) :
    (∀ host port, split? address = some (host, port) ↔
      Writes (trim address.toList) host.toList port) ∧
    ∀ host port host' port', Writes (trim address.toList) host port →
      Writes (trim address.toList) host' port' → host = host' ∧ port = port' := by
  refine ⟨fun _ _ => split?_eq_some_iff, fun host port host' port' h h' => ?_⟩
  rw [← splitChars?_eq_some_iff] at h h'
  exact Prod.mk.inj (Option.some.inj (h.symm.trans h'))

/-- Colons in brackets, a port with a sign and needless zeros, and blanks. -/
theorem split_of_bracketed :
    Writes (trim " [a:b]:+00080\n".toList) "a:b".toList 80 ∧
    split? " [a:b]:+00080\n" = some ("a:b", 80) := by
  have htext : trim " [a:b]:+00080\n".toList =
      '[' :: "a:b".toList ++ ']' :: ':' :: '+' :: "00080".toList := by decide
  have hport : WritesPort ('+' :: "00080".toList) 80 :=
    ⟨"00080".toList, Or.inr rfl, by decide, List.all_eq_true.1 (by decide), by decide⟩
  have hwrites : Writes (trim " [a:b]:+00080\n".toList) "a:b".toList 80 := by
    rw [htext]
    exact .bracketed (by decide) (by decide) hport
  exact ⟨hwrites, ((split_iff_written _).1 _ _).2 hwrites⟩

end Lookout.Address
