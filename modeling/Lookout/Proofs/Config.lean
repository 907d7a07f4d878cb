import Lookout.Config.Resolver
import Lookout.Dict.Lemmas
import Lookout.Proofs.Text.Blank

/-!
# Settings that pass

What the check of the settings and the check of a policy let through. Either complains only of the
configuration. Once the settings have passed, nothing can be wrong with the policy of a service but
the name of the service.
-/
set_option autoImplicit false

namespace Lookout

namespace Policy

variable {p : Policy}

theorem validate_eq_ok_iff :
    p.validate = .ok () ↔ Text.allBlank p.realm = false ∧ Text.allBlank p.service = false ∧
      p.protocols.entries ≠ [] := by
  unfold validate
  cases Text.allBlank p.realm <;> cases Text.allBlank p.service <;>
    cases p.protocols.entries <;> simp

theorem eq_invalidConfig_of_validate {f : Failure} (h : p.validate = .error f) :
    ∃ reason, f = .invalidConfig reason := by
  unfold validate at h
  split at h
  · exact ⟨_, (Except.error.inj h).symm⟩
  · split at h
    · exact ⟨_, (Except.error.inj h).symm⟩
    · split at h
      · exact ⟨_, (Except.error.inj h).symm⟩
      · cases h

end Policy

namespace ResolverConfig

variable {c : ResolverConfig}

theorem validate_eq_ok_iff :
    c.validate = .ok () ↔ Text.allBlank c.realm = false ∧ c.protocols.all Text.allBlank = false ∧
      c.watcherBuffer ≠ 0 ∧ ∀ i ∈ c.intervals, i.2 ≤ maxIntervalMs := by
  have hfind : (c.intervals.find? fun i => maxIntervalMs < i.2) = none ↔
      ∀ i ∈ c.intervals, i.2 ≤ maxIntervalMs := by
    simp [List.find?_eq_none]
  rw [← hfind]
  unfold validate
  cases Text.allBlank c.realm with
  | true => simp
  | false =>
    cases c.protocols.all Text.allBlank with
    | true => simp
    | false =>
      by_cases hbuffer : c.watcherBuffer = 0
      · simp [hbuffer]
      · cases c.intervals.find? fun i => maxIntervalMs < i.2 <;> simp [hbuffer]

theorem eq_invalidConfig_of_validate {f : Failure} (h : c.validate = .error f) :
    ∃ reason, f = .invalidConfig reason := by
  unfold validate at h
  split at h
  · exact ⟨_, (Except.error.inj h).symm⟩
  · split at h
    · exact ⟨_, (Except.error.inj h).symm⟩
    · split at h
      · exact ⟨_, (Except.error.inj h).symm⟩
      · split at h
        · exact ⟨_, (Except.error.inj h).symm⟩
        · cases h

theorem protocols_policyFor (service : String) :
    (c.policyFor service).protocols.entries = [] ↔ c.protocols = [] := by
  constructor
  · intro h
    cases hprotocols : c.protocols with
    | nil => rfl
    | cons protocol rest =>
      have hmem : protocol ∈ (c.policyFor service).protocols.keys := by
        rw [Dict.mem_keys, policyFor, Policy.create, Dict.find?_ofList]
        simp [hprotocols]
      simp [Dict.keys, h] at hmem
  · intro h
    simp only [policyFor, Policy.create, h]
    rfl

theorem validate_policyFor (h : c.validate = .ok ()) (service : String) :
    (c.policyFor service).validate = .ok () ↔ Text.trim service.toList ≠ [] := by
  obtain ⟨hrealm, hprotocols, -⟩ := validate_eq_ok_iff.1 h
  have hsome : c.protocols ≠ [] := by
    intro hnone
    rw [hnone] at hprotocols
    cases hprotocols
  rw [Policy.validate_eq_ok_iff, ne_eq, protocols_policyFor, ne_eq, Text.trim_eq_nil_iff,
    Bool.not_eq_true]
  exact ⟨fun hp => hp.2.1, fun hs => ⟨hrealm, hs, hsome⟩⟩

end ResolverConfig

end Lookout
