import Lookout.Text.Number
import Mathlib.Data.List.Induction
import Mathlib.Data.Nat.Digits.Defs

/-!
# Written numbers

A number is written in digits of the base and read again from them. Digits without a leading zero
are the only ones that the number they stand for is written in.
-/
set_option autoImplicit false

namespace Lookout.Text

variable {base : Nat}

/-! ## Digits -/

theorem digitValue?_sixteen_digitChar :
    ∀ d < 16, digitValue? 16 (Nat.digitChar d) = some d := by decide

theorem digitValue?_digitChar (hbase : base ≤ 16) {d : Nat} (h : d < base) :
    digitValue? base (Nat.digitChar d) = some d := by
  have hvalue := digitValue?_sixteen_digitChar d (by omega)
  simp only [digitValue?, Option.filter_eq_some_iff] at hvalue ⊢
  exact ⟨hvalue.1, by simpa using h⟩

theorem isDigit_of_digitValue? {c : Char} {d : Nat} (h : digitValue? base c = some d) :
    isDigit base c = true := by
  rw [isDigit, h, Option.isSome_some]

theorem digitValue?_ten_eq_some_iff {c : Char} {d : Nat} :
    digitValue? 10 c = some d ↔ d < 10 ∧ c = Nat.digitChar d := by
  constructor
  · intro h
    simp only [digitValue?, Option.filter_eq_some_iff, decide_eq_true_eq] at h
    obtain ⟨hvalue, hsmall⟩ := h
    refine ⟨hsmall, Char.toNat_inj.1 ?_⟩
    rw [Nat.toNat_digitChar_of_lt_ten hsmall]
    split_ifs at hvalue <;> simp only [Option.some.injEq] at hvalue <;> omega
  · rintro ⟨hsmall, rfl⟩
    exact digitValue?_digitChar (by decide) hsmall

theorem isDigit_mono {base' : Nat} (hle : base ≤ base') {c : Char} (h : isDigit base c = true) :
    isDigit base' c = true := by
  obtain ⟨d, hd⟩ := Option.isSome_iff_exists.1 h
  refine isDigit_of_digitValue? (d := d) ?_
  simp only [digitValue?, Option.filter_eq_some_iff, decide_eq_true_eq] at hd ⊢
  exact ⟨hd.1, hd.2.trans_le hle⟩

theorem toNat_of_isDigit {c : Char} (h : isDigit base c = true) :
    0x30 ≤ c.toNat ∧ c.toNat ≤ 0x66 := by
  obtain ⟨d, hd⟩ := Option.isSome_iff_exists.1 h
  simp only [digitValue?, Option.filter_eq_some_iff] at hd
  obtain ⟨hvalue, -⟩ := hd
  split_ifs at hvalue <;> omega

theorem isDigit_ten (c : Char) : isDigit 10 c = c.isDigit := by
  rw [Bool.eq_iff_iff, isDigit, Option.isSome_iff_exists]
  constructor
  · rintro ⟨d, hd⟩
    obtain ⟨hsmall, rfl⟩ := digitValue?_ten_eq_some_iff.1 hd
    simpa [Nat.isDigit_digitChar] using hsmall
  · intro h
    have hrange : 48 ≤ c.toNat ∧ c.toNat ≤ 57 := Char.isDigit_iff_toNat.1 h
    refine ⟨c.toNat - 48, digitValue?_ten_eq_some_iff.2 ⟨by omega, Char.toNat_inj.1 ?_⟩⟩
    rw [Nat.toNat_digitChar_of_lt_ten (by omega)]
    omega

/-! ## Values -/

theorem valueOf_concat {c : Char} {d : Nat} (h : digitValue? base c = some d) (cs : List Char) :
    valueOf base (cs ++ [c]) = valueOf base cs * base + d := by
  simp [valueOf, h]

theorem isDigit_of_mem_toDigits (hone : 1 < base) (hbase : base ≤ 16) {n : Nat} {c : Char}
    (h : c ∈ Nat.toDigits base n) : isDigit base c = true := by
  induction n using Nat.strongRecOn with
  | _ n ih =>
    rw [Nat.toDigits_eq_if hone] at h
    split at h
    · next hsmall =>
      obtain rfl := List.mem_singleton.1 h
      exact isDigit_of_digitValue? (digitValue?_digitChar hbase hsmall)
    · next hlarge =>
      rcases List.mem_append.1 h with hfront | hlast
      · exact ih _ (Nat.div_lt_self (by omega) hone) hfront
      · obtain rfl := List.mem_singleton.1 hlast
        exact isDigit_of_digitValue? (digitValue?_digitChar hbase (Nat.mod_lt _ (by omega)))

theorem isDigit_of_mem_decimal {n : Nat} {c : Char} (h : c ∈ decimal n) : isDigit 10 c = true :=
  isDigit_of_mem_toDigits (by decide) (by decide) h

theorem isDigit_of_mem_hex {n : Nat} {c : Char} (h : c ∈ hex n) : isDigit 16 c = true :=
  isDigit_of_mem_toDigits (by decide) (by decide) h

theorem valueOf_toDigits (hone : 1 < base) (hbase : base ≤ 16) (n : Nat) :
    valueOf base (Nat.toDigits base n) = n := by
  induction n using Nat.strongRecOn with
  | _ n ih =>
    rw [Nat.toDigits_eq_if hone]
    split
    · next hsmall => simp [valueOf, digitValue?_digitChar hbase hsmall]
    · next hlarge =>
      have hlast := digitValue?_digitChar hbase (Nat.mod_lt n (show 0 < base by omega))
      rw [valueOf_concat hlast, ih _ (Nat.div_lt_self (by omega) hone)]
      exact Nat.div_add_mod' n base

/-- Only zero is written with a zero in front. -/
theorem length_toDigits_of_head? (hone : 1 < base) (hbase : base ≤ 16) {n : Nat}
    (h : (Nat.toDigits base n).head? = some '0') : (Nat.toDigits base n).length = 1 := by
  induction n using Nat.strongRecOn with
  | _ n ih =>
    rw [Nat.toDigits_eq_if hone] at h ⊢
    split
    · rfl
    · next hlarge =>
      rw [if_neg hlarge, List.head?_append,
        Option.or_of_isSome (by simp [Nat.toDigits_ne_nil])] at h
      have hlength := ih _ (Nat.div_lt_self (by omega) hone) h
      obtain ⟨c, hc⟩ := List.length_eq_one_iff.1 hlength
      rw [hc] at h
      obtain rfl : c = '0' := by simpa using h
      -- what is before the last digit would be zero
      have hzero : n / base = 0 := by
        rw [← valueOf_toDigits hone hbase (n / base), hc]
        have hvalue : digitValue? base '0' = some 0 :=
          digitValue?_digitChar (d := 0) hbase (by omega)
        simp [valueOf, hvalue]
      exact absurd hzero (Nat.div_pos (by omega) (by omega)).ne'

theorem valueOf_eq_ofDigitChars {cs : List Char} (h : ∀ c ∈ cs, isDigit 10 c = true) :
    valueOf 10 cs = Nat.ofDigitChars 10 cs 0 := by
  induction cs using List.reverseRecOn with
  | nil => rfl
  | append_singleton front c ih =>
    obtain ⟨d, hd⟩ := Option.isSome_iff_exists.1 (h c (by simp))
    obtain ⟨hsmall, rfl⟩ := digitValue?_ten_eq_some_iff.1 hd
    rw [valueOf_concat hd, ih fun c hc => h c (by simp [hc]), Nat.ofDigitChars_append,
      Nat.ofDigitChars_cons_digitChar_of_lt_ten hsmall, Nat.ofDigitChars_nil, Nat.mul_comm]

theorem toDigits_valueOf {cs : List Char} (hdigits : ∀ c ∈ cs, isDigit 10 c = true)
    (hempty : cs ≠ []) (hzero : cs.head? = some '0' → cs.length = 1) :
    Nat.toDigits 10 (valueOf 10 cs) = cs := by
  induction cs using List.reverseRecOn with
  | nil => exact absurd rfl hempty
  | append_singleton front c ih =>
    obtain ⟨d, hd⟩ := Option.isSome_iff_exists.1 (hdigits c (by simp))
    obtain ⟨hsmall, rfl⟩ := digitValue?_ten_eq_some_iff.1 hd
    rw [valueOf_concat hd]
    cases front with
    | nil => simpa [valueOf] using Nat.toDigits_of_lt_base hsmall
    | cons first more =>
      have hfirst : (first :: more).head? ≠ some '0' := by
        intro hhead
        simpa using hzero (by simpa using hhead)
      have hfront : Nat.toDigits 10 (valueOf 10 (first :: more)) = first :: more :=
        ih (fun c hc => hdigits c (List.mem_append_left _ hc)) (by simp) fun h =>
          absurd h hfirst
      have hpos : 0 < valueOf 10 (first :: more) := by
        refine Nat.pos_of_ne_zero fun hnull => hfirst ?_
        rw [← hfront, hnull, Nat.toDigits_zero]
        rfl
      rw [Nat.mul_comm, ← Nat.toDigits_append_toDigits (by decide) hpos hsmall, hfront,
        Nat.toDigits_of_lt_base hsmall]

end Lookout.Text
