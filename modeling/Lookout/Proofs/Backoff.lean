import Lookout.Backoff

/-!
# Bounds of the waits

A wait never exceeds its ceiling. Below that it is meant to be the base, doubled with every attempt,
but it is counted in whole milliseconds held in 64 bits. So the waits are what they are meant to be
only if the base fits after ten doublings and nothing of it is dropped: a base below a millisecond
is no wait at all, and one that is too long starts over from below.
-/
set_option autoImplicit false

namespace Lookout

theorem Duration.nanos_least (d e : Duration) : (d.least e).nanos = min d.nanos e.nanos := by
  unfold least
  split <;> omega

namespace Backoff

/-- The milliseconds of a wait before they are cut to 64 bits and to the ceiling. -/
def doubled (b : Backoff) (attempt : Nat) : Nat := b.base.millis * Nat.pow 2 (min attempt 10)

/-- Nothing is cut off on the way to any wait. -/
def Fits (b : Backoff) : Prop := ∀ attempt, b.doubled attempt < UInt64.size

structure Sound (b : Backoff) : Prop where
  fits : b.Fits
  le_ceiling : ∀ attempt, (b.delay attempt).nanos ≤ b.ceiling.nanos
  base_le : ∀ attempt, min b.base.nanos b.ceiling.nanos ≤ (b.delay attempt).nanos
  mono : ∀ i j, i ≤ j → (b.delay i).nanos ≤ (b.delay j).nanos

section
variable (b : Backoff)

theorem doubled_mono {i j : Nat} (h : i ≤ j) : b.doubled i ≤ b.doubled j := by
  have hexp : min i 10 ≤ min j 10 := by omega
  exact Nat.mul_le_mul_left _ (Nat.pow_le_pow_right (by decide) hexp)

theorem doubled_zero : b.doubled 0 = b.base.millis := by simp [doubled]

theorem millis_le_doubled (attempt : Nat) : b.base.millis ≤ b.doubled attempt := by
  rw [← b.doubled_zero]
  exact b.doubled_mono (Nat.zero_le attempt)

/-- From the tenth on all attempts wait alike. -/
theorem doubled_le_ten (attempt : Nat) : b.doubled attempt ≤ b.doubled 10 := by
  have hexp : min attempt 10 ≤ min 10 10 := by omega
  exact Nat.mul_le_mul_left _ (Nat.pow_le_pow_right (by decide) hexp)

theorem fits_iff : b.Fits ↔ b.base.millis * 1024 < UInt64.size := by
  constructor
  · intro h
    exact h 10
  · intro h attempt
    exact Nat.lt_of_le_of_lt (b.doubled_le_ten attempt) h

theorem nanos_delay (attempt : Nat) :
    (b.delay attempt).nanos =
      min (b.doubled attempt % UInt64.size * 1000000) b.ceiling.nanos := by
  let ms := UInt64.ofNat b.base.millis * UInt64.ofNat (Nat.pow 2 (min attempt 10))
  have hms : ms.toNat = b.doubled attempt % UInt64.size := by
    rw [UInt64.toNat_mul, UInt64.toNat_ofNat', UInt64.toNat_ofNat']
    exact (Nat.mul_mod _ _ _).symm
  calc (b.delay attempt).nanos
    _ = min (ms.toNat * 1000000) b.ceiling.nanos := Duration.nanos_least (.ofMillis ms) b.ceiling
    _ = min (b.doubled attempt % UInt64.size * 1000000) b.ceiling.nanos := by rw [hms]

theorem delay_le (attempt : Nat) : (b.delay attempt).nanos ≤ b.ceiling.nanos := by
  rw [nanos_delay]
  exact Nat.min_le_right _ _

variable {b}

theorem Fits.nanos_delay (h : b.Fits) (attempt : Nat) :
    (b.delay attempt).nanos = min (b.doubled attempt * 1000000) b.ceiling.nanos := by
  rw [Backoff.nanos_delay, Nat.mod_eq_of_lt (h attempt)]

theorem Fits.delay_mono (h : b.Fits) {i j : Nat} (hij : i ≤ j) :
    (b.delay i).nanos ≤ (b.delay j).nanos := by
  have hdoubled := b.doubled_mono hij
  rw [h.nanos_delay, h.nanos_delay]
  omega

theorem Fits.base_le_iff (h : b.Fits) :
    (∀ attempt, min b.base.nanos b.ceiling.nanos ≤ (b.delay attempt).nanos) ↔
      b.base.nanos % 1000000 = 0 ∨ b.ceiling.nanos ≤ b.base.millis * 1000000 := by
  have hmillis : b.base.millis = b.base.nanos / 1000000 := rfl
  constructor
  · intro hle
    have hfirst := hle 0
    rw [h.nanos_delay, doubled_zero] at hfirst
    omega
  · intro hwhole attempt
    have hdoubled := b.millis_le_doubled attempt
    rw [h.nanos_delay]
    omega

theorem Fits.delay_eq_zero_iff (h : b.Fits) (attempt : Nat) :
    (b.delay attempt).nanos = 0 ↔ b.base.nanos < 1000000 ∨ b.ceiling.nanos = 0 := by
  have hmillis : b.base.millis = b.base.nanos / 1000000 := rfl
  have hdoubled := b.millis_le_doubled attempt
  have hzero : b.base.millis = 0 → b.doubled attempt = 0 := by
    intro hbase
    rw [doubled, hbase, Nat.zero_mul]
  rw [h.nanos_delay]
  omega

end

/-- The waits of a policy are sound exactly if its base can be counted after ten doublings and
nothing is dropped of it that the ceiling would leave. The ceiling holds in any case. With a base
that can be counted the waits never become shorter, are never less than the whole milliseconds of
the base or the ceiling, and are nothing exactly if the base is below a millisecond or the ceiling
is nothing. -/
theorem sound_iff (b : Backoff) :
    (b.Sound ↔ b.base.millis * 1024 < UInt64.size ∧
      (b.base.nanos % 1000000 = 0 ∨ b.ceiling.nanos ≤ b.base.millis * 1000000)) ∧
    (∀ attempt, (b.delay attempt).nanos ≤ b.ceiling.nanos) ∧
    (b.base.millis * 1024 < UInt64.size → ∀ attempt,
      (b.delay attempt).nanos ≤ (b.delay (attempt + 1)).nanos ∧
      min (b.base.millis * 1000000) b.ceiling.nanos ≤ (b.delay attempt).nanos ∧
      ((b.delay attempt).nanos = 0 ↔ b.base.nanos < 1000000 ∨ b.ceiling.nanos = 0)) := by
  refine ⟨?_, b.delay_le, ?_⟩
  · rw [← b.fits_iff]
    constructor
    · intro h
      exact ⟨h.fits, h.fits.base_le_iff.1 h.base_le⟩
    · rintro ⟨hfits, hwhole⟩
      exact ⟨hfits, b.delay_le, hfits.base_le_iff.2 hwhole, fun _ _ => hfits.delay_mono⟩
  · intro hbase attempt
    have hfits := b.fits_iff.2 hbase
    have hdoubled := b.millis_le_doubled attempt
    refine ⟨hfits.delay_mono (Nat.le_succ attempt), ?_, hfits.delay_eq_zero_iff attempt⟩
    rw [hfits.nanos_delay]
    omega

/-- Half a millisecond is no wait, however often it is doubled. A base that doubles well nine times
gives no wait at the tenth attempt. -/
theorem no_wait_below_millisecond :
    let short : Backoff := ⟨⟨500000, by decide⟩, .ofSecs 30⟩
    let long : Backoff := ⟨.ofMillis 18014398509481984, .ofSecs 18446744073709551615⟩
    (∀ attempt, (short.delay attempt).nanos = 0) ∧
    (long.delay 9).nanos = 9223372036854775808000000 ∧ (long.delay 10).nanos = 0 := by
  intro short long
  refine ⟨?_, by decide +kernel, by decide +kernel⟩
  intro attempt
  have hfits : short.Fits := short.fits_iff.2 (by decide)
  exact (hfits.delay_eq_zero_iff attempt).2 (Or.inl (by decide))

end Backoff

end Lookout
