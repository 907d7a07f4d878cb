import Lookout.Proofs.Config

/-!
# Intervals of the settings

Three settings are made with a duration and kept in whole milliseconds. Only no time at all is kept
as zero, which turns the periodic resync and the time limit off, so no other duration ever does. A
part of a millisecond is all that is lost of a duration that can be counted in 64 bits; the check of
the settings refuses a duration long before that.
-/
set_option autoImplicit false

namespace Lookout

open ResolverConfig (millisOf maxIntervalMs)

/-! ## Milliseconds -/

namespace Duration

variable {d e : Duration}

theorem nanos_inj : d.nanos = e.nanos ↔ d = e := ⟨ext, fun h => h ▸ rfl⟩

theorem nanos_ofMillis (ms : UInt64) : (ofMillis ms).nanos = ms.toNat * 1000000 := rfl

end Duration

namespace ResolverConfig

variable {d e : Duration}

theorem toNat_millisOf (d : Duration) :
    (millisOf d).toNat = min (max d.millis (min d.nanos 1)) (UInt64.size - 1) := by
  have hmillis : d.millis = d.nanos / 1000000 := rfl
  unfold millisOf
  split
  · next hzero =>
    rw [hmillis, hzero]
    rfl
  · have hfits : max (min d.millis (UInt64.size - 1)) 1 < UInt64.size := by
      simp only [UInt64.size]
      omega
    rw [UInt64.toNat_ofNat', Nat.mod_eq_of_lt hfits]
    simp only [UInt64.size]
    omega

theorem millisOf_eq_zero_iff : millisOf d = 0 ↔ d = .zero := by
  have hmillis : d.millis = d.nanos / 1000000 := rfl
  have hzero : Duration.zero.nanos = 0 := rfl
  rw [← Duration.nanos_inj, hzero, ← UInt64.toNat_inj, toNat_millisOf, UInt64.toNat_zero]
  simp only [UInt64.size]
  omega

theorem millisOf_mono (h : d.nanos ≤ e.nanos) : millisOf d ≤ millisOf e := by
  have hmillis : d.millis ≤ e.millis := Nat.div_le_div_right h
  rw [UInt64.le_iff_toNat_le, toNat_millisOf, toNat_millisOf]
  omega

/-- What the limit leaves out is a whole millisecond beyond it. -/
theorem millisOf_le_maxIntervalMs_iff :
    millisOf d ≤ maxIntervalMs ↔ d.nanos < (maxIntervalMs.toNat + 1) * 1000000 := by
  have hmax : maxIntervalMs.toNat = 604800000 := rfl
  have hmillis : d.millis = d.nanos / 1000000 := rfl
  rw [UInt64.le_iff_toNat_le, toNat_millisOf, hmax]
  simp only [UInt64.size]
  omega

theorem ofMillis_millisOf_eq_iff :
    Duration.ofMillis (millisOf d) = d ↔ d.nanos % 1000000 = 0 ∧ d.millis < UInt64.size := by
  have hmillis : d.millis = d.nanos / 1000000 := rfl
  rw [← Duration.nanos_inj, Duration.nanos_ofMillis, toNat_millisOf]
  simp only [UInt64.size]
  omega

theorem ofMillis_millisOf_near (h : d.millis < UInt64.size) :
    (Duration.ofMillis (millisOf d)).nanos < d.nanos + 1000000 ∧
      d.nanos < (Duration.ofMillis (millisOf d)).nanos + 1000000 := by
  have hmillis : d.millis = d.nanos / 1000000 := rfl
  rw [Duration.nanos_ofMillis, toNat_millisOf]
  simp only [UInt64.size] at h ⊢
  omega

end ResolverConfig

/-! ## The three intervals -/

/-- A setting that is made with a duration. -/
inductive Interval where
  | debounce
  | resync
  | timeout
deriving DecidableEq

namespace Interval

def name : Interval → String
  | .debounce => "debounce_ms"
  | .resync => "resync_interval_ms"
  | .timeout => "timeout_ms"

def all : List Interval := [.debounce, .resync, .timeout]

def put (i : Interval) (c : ResolverConfig) (d : Duration) : ResolverConfig :=
  match i with
  | .debounce => c.withDebounce d
  | .resync => c.withResyncInterval d
  | .timeout => c.withTimeout d

def stored : Interval → ResolverConfig → UInt64
  | .debounce, c => c.debounceMs
  | .resync, c => c.resyncIntervalMs
  | .timeout, c => c.timeoutMs

/-- The interval that is used; none if it is turned off. -/
def inUse? : Interval → ResolverConfig → Option Duration
  | .debounce, c => some c.debounce
  | .resync, c => c.resyncInterval?
  | .timeout, c => c.timeout?

/-- Nothing but this interval can be wrong with the settings. -/
structure PassesBut (i : Interval) (c : ResolverConfig) : Prop where
  realm : Text.allBlank c.realm = false
  protocols : c.protocols.all Text.allBlank = false
  buffer : c.watcherBuffer ≠ 0
  others : ∀ j, j ≠ i → j.stored c ≤ maxIntervalMs

variable {i : Interval} {c : ResolverConfig} {d : Duration}

theorem intervals_eq (c : ResolverConfig) :
    c.intervals = all.map fun j => (j.name, j.stored c) := rfl

theorem mem_all (j : Interval) : j ∈ all := by cases j <;> decide

theorem find?_all {p : Interval → Bool} (hown : p i = true) (hothers : ∀ j, j ≠ i → p j = false) :
    all.find? p = some i := by
  obtain ⟨j, hj⟩ := Option.isSome_iff_exists.1 (List.find?_isSome.2 ⟨i, mem_all i, hown⟩)
  have hp := List.find?_some hj
  have hji : j = i := by
    by_contra hne
    rw [hothers j hne] at hp
    cases hp
  rw [hj, hji]

@[simp]
theorem stored_put (i : Interval) (c : ResolverConfig) (d : Duration) :
    i.stored (i.put c d) = millisOf d := by
  cases i <;> rfl

theorem stored_put_of_ne {j : Interval} (h : j ≠ i) : j.stored (i.put c d) = j.stored c := by
  cases i <;> cases j <;> first | rfl | exact absurd rfl h

@[simp]
theorem realm_put (i : Interval) (c : ResolverConfig) (d : Duration) :
    (i.put c d).realm = c.realm := by
  cases i <;> rfl

@[simp]
theorem protocols_put (i : Interval) (c : ResolverConfig) (d : Duration) :
    (i.put c d).protocols = c.protocols := by
  cases i <;> rfl

@[simp]
theorem watcherBuffer_put (i : Interval) (c : ResolverConfig) (d : Duration) :
    (i.put c d).watcherBuffer = c.watcherBuffer := by
  cases i <;> rfl

theorem inUse?_eq (i : Interval) (c : ResolverConfig) :
    i.inUse? c =
      if i ≠ .debounce ∧ i.stored c = 0 then none else some (.ofMillis (i.stored c)) := by
  cases i <;> simp [inUse?, stored, ResolverConfig.debounce, ResolverConfig.resyncInterval?,
    ResolverConfig.timeout?]

theorem getD_inUse? (i : Interval) (c : ResolverConfig) :
    (i.inUse? c).getD .zero = .ofMillis (i.stored c) := by
  rw [inUse?_eq]
  split
  · next h =>
    rw [h.2]
    rfl
  · rfl

theorem inUse?_put_eq_none_iff : i.inUse? (i.put c d) = none ↔ i ≠ .debounce ∧ d = .zero := by
  rw [inUse?_eq, stored_put, ite_eq_left_iff, ResolverConfig.millisOf_eq_zero_iff]
  simp

/-! ## The check of the settings -/

theorem validate_put_eq_ok_iff :
    (i.put c d).validate = .ok () ↔ i.PassesBut c ∧ millisOf d ≤ maxIntervalMs := by
  have hintervals : (∀ p ∈ (i.put c d).intervals, p.2 ≤ maxIntervalMs) ↔
      ∀ j : Interval, j.stored (i.put c d) ≤ maxIntervalMs := by
    simp only [intervals_eq, List.forall_mem_map]
    exact ⟨fun h j => h j (mem_all j), fun h j _ => h j⟩
  rw [ResolverConfig.validate_eq_ok_iff, hintervals, realm_put, protocols_put, watcherBuffer_put]
  constructor
  · rintro ⟨hrealm, hprotocols, hbuffer, hstored⟩
    refine ⟨⟨hrealm, hprotocols, hbuffer, ?_⟩, ?_⟩
    · intro j hj
      simpa only [stored_put_of_ne hj] using hstored j
    · simpa only [stored_put] using hstored i
  · rintro ⟨hpasses, hown⟩
    refine ⟨hpasses.realm, hpasses.protocols, hpasses.buffer, ?_⟩
    intro j
    by_cases hj : j = i
    · rw [hj, stored_put]
      exact hown
    · rw [stored_put_of_ne hj]
      exact hpasses.others j hj

theorem PassesBut.validate_put (h : i.PassesBut c) (hlong : maxIntervalMs < millisOf d) :
    (i.put c d).validate = .error (.invalidConfig (i.name ++ " must not exceed 604800000")) := by
  have hfind : ((i.put c d).intervals.find? fun p => maxIntervalMs < p.2) =
      some (i.name, millisOf d) := by
    have hfirst : (all.find? fun j => maxIntervalMs < j.stored (i.put c d)) = some i := by
      refine find?_all (by simpa using hlong) ?_
      intro j hj
      simpa [stored_put_of_ne hj] using h.others j hj
    rw [intervals_eq, List.find?_map]
    exact (congrArg _ hfirst).trans (by rw [Option.map_some, stored_put])
  have htext : i.name ++ " must not exceed " ++ toString maxIntervalMs.toNat =
      i.name ++ " must not exceed 604800000" := by
    rw [String.append_assoc]
    rfl
  simp only [ResolverConfig.validate, hfind, htext, realm_put, protocols_put, watcherBuffer_put,
    h.realm, h.protocols, h.buffer, Bool.false_eq_true, if_false]

/-- A longer duration is never kept as fewer milliseconds, and only no time at all is kept as zero:
no other duration turns the periodic resync or the time limit off. What is used from then on, which
is no time for what is turned off, is the duration itself exactly if that is a number of
milliseconds in 64 bits, and is less than a millisecond away from it as long as its milliseconds fit
there. The settings pass exactly if nothing else is wrong with them and the duration is less than a
millisecond over the limit. If it is not, and nothing else is wrong, the complaint names it. -/
theorem put_keeps_meaning (i : Interval) (c : ResolverConfig) (d : Duration) :
    (∀ e : Duration, d.nanos ≤ e.nanos → i.stored (i.put c d) ≤ i.stored (i.put c e)) ∧
    (i.stored (i.put c d) = 0 ↔ d = .zero) ∧
    (i.inUse? (i.put c d) = none ↔ i ≠ .debounce ∧ d = .zero) ∧
    ((i.inUse? (i.put c d)).getD .zero = d ↔
      d.nanos % 1000000 = 0 ∧ d.millis < UInt64.size) ∧
    (d.millis < UInt64.size →
      ((i.inUse? (i.put c d)).getD .zero).nanos < d.nanos + 1000000 ∧
      d.nanos < ((i.inUse? (i.put c d)).getD .zero).nanos + 1000000) ∧
    ((i.put c d).validate = .ok () ↔
      i.PassesBut c ∧ d.nanos < (maxIntervalMs.toNat + 1) * 1000000) ∧
    (i.PassesBut c → (maxIntervalMs.toNat + 1) * 1000000 ≤ d.nanos →
      (i.put c d).validate =
        .error (.invalidConfig (i.name ++ " must not exceed 604800000"))) := by
  rw [getD_inUse?, stored_put]
  refine ⟨?_, ResolverConfig.millisOf_eq_zero_iff, inUse?_put_eq_none_iff,
    ResolverConfig.ofMillis_millisOf_eq_iff, ResolverConfig.ofMillis_millisOf_near, ?_, ?_⟩
  · intro e h
    rw [stored_put]
    exact ResolverConfig.millisOf_mono h
  · rw [validate_put_eq_ok_iff, ResolverConfig.millisOf_le_maxIntervalMs_iff]
  · intro hpasses hlong
    refine hpasses.validate_put (UInt64.not_le.1 ?_)
    rw [ResolverConfig.millisOf_le_maxIntervalMs_iff]
    exact Nat.not_lt.2 hlong

end Interval

end Lookout
