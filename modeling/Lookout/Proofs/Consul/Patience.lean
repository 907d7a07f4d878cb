import Lookout.Consul
import Lookout.Dict.Lemmas

/-!
# The patience of a client

An agent may hold a poll for the wait that was asked for and up to a sixteenth of it more. A client
is given five seconds beyond that, so it never gives a poll up too early. The wait is whatever the
configuration says, though, and one that is near the end of the durations leaves no room for a time
limit: then there is neither a source nor a complaint about the configuration.
-/
set_option autoImplicit false

namespace Lookout

theorem Duration.add?_eq_some_iff {d e f : Duration} :
    d.add? e = some f ↔ f.nanos = d.nanos + e.nanos := by
  unfold add? ofNanos?
  constructor
  · intro h
    split at h
    · rw [← Option.some.inj h]
    · cases h
  · intro h
    have hrange : d.nanos + e.nanos < 18446744073709551616000000000 := h ▸ f.inRange
    rw [dif_pos hrange]
    exact congrArg some (Duration.ext h.symm)

theorem Json.lt_of_natural? {j : Json} {n : Nat} (h : j.natural? = some n) : n < UInt64.size := by
  unfold natural? at h
  split at h
  · split at h
    · next hsize => exact Option.some.inj h ▸ hsize.2
    · cases h
  · cases h

namespace Consul

/-- The longest time that an agent holds a poll, in nanoseconds. -/
def longestHold (wait : Duration) : Nat := wait.nanos + wait.nanos / 16

/-- What is expected of setting a source up. -/
structure Dependable {Client : Type} (make : Duration → Except String Client) (c : SourceConfig) :
    Prop where
  /-- There is an answer: a source, or a complaint about the configuration. -/
  answered : ∃ outcome, setUp make c = .ok outcome ∧
    ∀ failure, outcome = .error failure → ∃ reason, failure = .invalidConfig reason
  /-- No request is given up while an agent may hold it. -/
  patient : ∃ limit, timeLimit? (ofConfig c).wait = some limit ∧
    longestHold (ofConfig c).wait < limit.nanos

variable {c : SourceConfig} {wait limit : Duration}

theorem waitSecs_lt (c : SourceConfig) : waitSecs c < UInt64.size := by
  unfold waitSecs
  cases hoption : (c.options.find? "wait_secs").bind Json.natural? with
  | none => decide
  | some n =>
    obtain ⟨_, -, hnatural⟩ := Option.bind_eq_some_iff.1 hoption
    exact Json.lt_of_natural? hnatural

theorem toNat_waitSecs (c : SourceConfig) : (UInt64.ofNat (waitSecs c)).toNat = waitSecs c := by
  rw [UInt64.toNat_ofNat', Nat.mod_eq_of_lt (waitSecs_lt c)]

theorem nanos_wait_ofConfig (c : SourceConfig) :
    (ofConfig c).wait.nanos = waitSecs c * 1000000000 :=
  congrArg (· * 1000000000) (toNat_waitSecs c)

theorem secs_wait_ofConfig (c : SourceConfig) : (ofConfig c).wait.secs = waitSecs c := by
  rw [Duration.secs, nanos_wait_ofConfig]
  omega

/-! ## Time limits -/

theorem timeLimit?_eq_some_iff :
    timeLimit? wait = some limit ↔ limit.nanos = longestHold wait + 5000000000 := by
  have hgrace : (Duration.ofSecs 5).nanos = 5000000000 := rfl
  have hpart : (wait.divide 16).nanos = wait.nanos / 16 := rfl
  simp only [timeLimit?, Option.bind_eq_some_iff, Duration.add?_eq_some_iff, hgrace, hpart,
    longestHold]
  constructor
  · rintro ⟨held, hheld, hlimit⟩
    rw [hlimit, hheld]
  · intro h
    have hrange := limit.inRange
    exact ⟨⟨wait.nanos + wait.nanos / 16, by omega⟩, rfl, h⟩

/-- There is a time limit exactly if its whole seconds fit 64 bits. -/
theorem exists_timeLimit_iff :
    (∃ limit, timeLimit? (ofConfig c).wait = some limit) ↔
      waitSecs c + waitSecs c / 16 + 5 < UInt64.size := by
  simp only [timeLimit?_eq_some_iff, longestHold, nanos_wait_ofConfig, UInt64.size]
  constructor
  · rintro ⟨limit, hlimit⟩
    have hrange := limit.inRange
    omega
  · intro h
    exact ⟨⟨waitSecs c * 1000000000 + waitSecs c * 1000000000 / 16 + 5000000000, by omega⟩, rfl⟩

/-! ## Answers -/

section
variable {Client : Type} {make : Duration → Except String Client}

theorem eq_invalidConfig_of_withClient {source : Consul} {client? : Except String Client}
    {failure : Failure} (h : source.withClient client? = .error failure) :
    ∃ reason, failure = .invalidConfig reason := by
  cases client? with
  | ok client => cases h
  | error reason => exact ⟨_, (Except.error.inj h).symm⟩

theorem setUp_eq_ok_iff {outcome : Except Failure (Consul × Client)} :
    setUp make c = .ok outcome ↔
      ∃ limit, timeLimit? (ofConfig c).wait = some limit ∧
        outcome = (ofConfig c).withClient (make limit) := by
  unfold setUp
  cases timeLimit? (ofConfig c).wait with
  | none => simp [connect]
  | some limit => simp [connect, eq_comm]

theorem setUp_eq_waitTooLong_iff :
    setUp make c = .error .waitTooLong ↔
      UInt64.size ≤ waitSecs c + waitSecs c / 16 + 5 := by
  rw [← Nat.not_lt, ← exists_timeLimit_iff]
  unfold setUp
  cases timeLimit? (ofConfig c).wait <;> simp [connect]

theorem wait_mem_watchQuery (c : SourceConfig) (index : UInt64) :
    ("wait", toString (waitSecs c) ++ "s") ∈ (ofConfig c).watchQuery index := by
  rw [← secs_wait_ofConfig]
  exact List.mem_append_right _ (List.mem_cons_of_mem _ List.mem_cons_self)

theorem Dependable.of_limit (h : timeLimit? (ofConfig c).wait = some limit) :
    Dependable make c where
  answered :=
    ⟨(ofConfig c).withClient (make limit), setUp_eq_ok_iff.2 ⟨limit, h, rfl⟩,
      fun _ hfailure => eq_invalidConfig_of_withClient hfailure⟩
  patient := by
    refine ⟨limit, h, ?_⟩
    rw [timeLimit?_eq_some_iff.1 h]
    exact Nat.lt_add_of_pos_right (by decide)

end

/-- A source is set up dependably, whatever its options and its clients are, exactly if the whole
seconds of the wait, a sixteenth of it and five more fit 64 bits. Then its client has a time limit
of five seconds over what an agent may take for a poll that asks for this wait, and whether there is
a source is up to the client; otherwise there is no answer. -/
theorem dependable_iff {Client : Type} (make : Duration → Except String Client)
    (c : SourceConfig) :
    (Dependable make c ↔ waitSecs c + waitSecs c / 16 + 5 < UInt64.size) ∧
    (∀ outcome, setUp make c = .ok outcome ↔
      ∃ limit : Duration, limit.nanos = longestHold (ofConfig c).wait + 5000000000 ∧
        outcome = (ofConfig c).withClient (make limit)) ∧
    (setUp make c = .error .waitTooLong ↔
      UInt64.size ≤ waitSecs c + waitSecs c / 16 + 5) ∧
    (∀ index, ("wait", toString (waitSecs c) ++ "s") ∈ (ofConfig c).watchQuery index) := by
  refine ⟨?_, ?_, setUp_eq_waitTooLong_iff, wait_mem_watchQuery c⟩
  · rw [← exists_timeLimit_iff]
    constructor
    · intro h
      obtain ⟨limit, hlimit, -⟩ := h.patient
      exact ⟨limit, hlimit⟩
    · rintro ⟨limit, hlimit⟩
      exact .of_limit hlimit
  · intro outcome
    simp only [setUp_eq_ok_iff, timeLimit?_eq_some_iff]

/-- The options of a source whose polls ask to be held for that many seconds. -/
def optionsOf (secs : Nat) : SourceConfig :=
  (SourceConfig.create .consul).withOption "wait_secs" (.int secs)

theorem waitSecs_optionsOf {secs : Nat} (h : secs < UInt64.size) :
    waitSecs (optionsOf secs) = secs := by
  have hnatural : (Json.int secs).natural? = some secs := by
    simp [Json.natural?, h]
  unfold waitSecs optionsOf SourceConfig.withOption
  rw [Dict.find?_insert_self, Option.bind_some, hnatural, Option.getD_some]

/-- The longest wait that can be written leaves no room for a time limit. -/
theorem longest_wait_breaks_off :
    waitSecs (optionsOf 18446744073709551615) = 18446744073709551615 ∧
    setUp (.ok : Duration → Except String Duration) (optionsOf 18446744073709551615) =
      .error .waitTooLong ∧
    ¬Dependable (.ok : Duration → Except String Duration) (optionsOf 18446744073709551615) := by
  have hwait : waitSecs (optionsOf 18446744073709551615) = 18446744073709551615 :=
    waitSecs_optionsOf (by decide)
  have hfault : setUp (.ok : Duration → Except String Duration)
      (optionsOf 18446744073709551615) = .error .waitTooLong := by
    rw [setUp_eq_waitTooLong_iff, hwait]
    decide
  refine ⟨hwait, hfault, ?_⟩
  intro h
  obtain ⟨outcome, hanswer, -⟩ := h.answered
  rw [hfault] at hanswer
  cases hanswer

end Consul

end Lookout
