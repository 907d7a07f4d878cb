import Lookout.Proofs.Resolver.Activity
import Lookout.Proofs.Resolver.Orderly

/-!
# Sessions and their subscriptions

Every session reads a subscription to its own service that no other session reads, and a build of it
lists the records of its service for its policy. What one session does therefore does not get in the
way of what another is about to hear.
-/
set_option autoImplicit false

namespace Lookout

namespace Activity

/-- What holds of the routine of every session by itself. -/
structure Sound (config : ResolverConfig) (q : Routine) : Prop where
  policy : q.policy = config.policyFor q.service
  building : ∀ b, q.evaluation = .building b → b.policy = q.policy ∧ b.listing.service = q.service
  /-- The registry in memory gives every subscription an id. -/
  identified : q.ingestion ≠ .reading none

/-- Every session has a subscription to its own service, and for itself. -/
structure Tuned (config : ResolverConfig) (g : Activity) : Prop where
  sound : ∀ (i : Nat) (q : Routine), g.routines[i]? = some q → Sound config q
  holds : ∀ (i : Nat) (q : Routine) (id : SubscriptionId), g.routines[i]? = some q →
    q.ingestion = .reading (some id) → ∃ s, g.memory.Holds q.service id s
  apart : ∀ (i j : Nat) (p q : Routine) (id : SubscriptionId), g.routines[i]? = some p →
    g.routines[j]? = some q → p.ingestion = .reading (some id) →
    q.ingestion = .reading (some id) → i = j

/-- What a move of one session means for all that do not look into it. -/
structure Move.Effect (config : ResolverConfig) (m : Memory) (q : Routine) (m' : Memory)
    (q' : Routine) : Prop where
  service : q'.service = q.service
  sound : Sound config q → Sound config q'
  records : m'.records = m.records
  others : ∀ {a id s}, m.Holds a id s → q.ingestion ≠ .reading (some id) → m'.Holds a id s
  /-- It reads what it has read before, or a new subscription to its service. -/
  own : ∀ {id}, q'.ingestion = .reading (some id) →
    (q.ingestion = .reading (some id) ∧ ∀ {a s}, m.Holds a id s → ∃ s', m'.Holds a id s') ∨
    (id = m.subscriptions.length ∧ m'.Holds q.service id .opened)

theorem Touches.records {q : Routine} {m m' : Memory} (h : Touches q m m') :
    m'.records = m.records := by
  rcases h with rfl | ⟨id, f, -, rfl⟩
  · rfl
  · rfl

theorem Touches.others {q : Routine} {m m' : Memory} (h : Touches q m m') {a : String}
    {id : SubscriptionId} {s : Subscription} (hs : m.Holds a id s)
    (hother : q.ingestion ≠ .reading (some id)) : m'.Holds a id s := by
  rcases h with rfl | ⟨own, f, hown, rfl⟩
  · exact hs
  · refine hs.modify_of_ne ?_ f
    rintro rfl
    exact hother hown

theorem Touches.own {q : Routine} {m m' : Memory} (h : Touches q m m') {a : String}
    {id : SubscriptionId} {s : Subscription} (hs : m.Holds a id s) :
    ∃ s', m'.Holds a id s' := by
  rcases h with rfl | ⟨own, f, -, rfl⟩
  · exact ⟨s, hs⟩
  · by_cases hid : own = id
    · subst hid
      exact ⟨f s, hs.modify_self f⟩
    · exact ⟨s, hs.modify_of_ne hid f⟩

theorem Move.Effect.of_evaluation {config : ResolverConfig} {m m' : Memory} {q : Routine}
    (hrecords : m'.records = m.records) (hsubscriptions : m'.subscriptions = m.subscriptions)
    (d : Debouncer) {e : Evaluation}
    (he : ∀ b, e = .building b → b.policy = q.policy ∧ b.listing.service = q.service) :
    Effect config m q m' { q with debouncer := d, evaluation := e } where
  service := rfl
  sound h := ⟨h.policy, he, h.identified⟩
  records := hrecords
  others := by
    intro a id s hs _
    simp only [Memory.Holds]
    rw [hsubscriptions]
    exact hs
  own := by
    intro id hid
    refine Or.inl ⟨hid, ?_⟩
    intro a s hs
    refine ⟨s, ?_⟩
    simp only [Memory.Holds]
    rw [hsubscriptions]
    exact hs

theorem Move.Effect.of_silent {config : ResolverConfig} {m m' : Memory} {q : Routine}
    (htouch : Touches q m m') {t : Ingestion} (ht : ∀ id?, t ≠ .reading id?) (reconnecting : Bool) :
    Effect config m q m' { q with ingestion := t, reconnecting } where
  service := rfl
  sound h := ⟨h.policy, h.building, ht none⟩
  records := htouch.records
  others := htouch.others
  own := by
    intro id hid
    exact absurd hid (ht (some id))

theorem Move.effect {config : ResolverConfig} {i : Nat} {m m' : Memory} {q q' : Routine}
    {ns : List Notice} (h : Move i m q ns m' q') : Move.Effect config m q m' q' := by
  cases h with
  | ended hready => exact .of_evaluation rfl rfl q.debouncer (by simp)
  | looked d w hready hpending => exact .of_evaluation rfl rfl d (by simp)
  | triggered d b trigger hservice hpolicy =>
    have hbuild : ∀ b', Evaluation.building b = .building b' →
        b'.policy = q.policy ∧ b'.listing.service = q.service := by
      intro b' hb'
      obtain rfl := Evaluation.building.inj hb'
      exact ⟨hpolicy, hservice⟩
    refine Move.Effect.of_evaluation ?_ ?_ d hbuild
    · rfl
    · rfl
  | built label revision hbuilding => exact .of_evaluation rfl rfl q.debouncer (by simp)
  | published report hready => exact .of_evaluation rfl rfl _ (by simp)
  | failed hready hns => exact .of_evaluation rfl rfl _ (by simp)
  | deafened htouch => exact .of_silent htouch (by simp) q.reconnecting
  | interrupted t hns htouch => exact .of_silent htouch (by simp) true
  | resumed hingestion => exact .of_silent (Or.inl rfl) (by simp) q.reconnecting
  | subscribed now hingestion =>
    refine ⟨rfl, fun h => ⟨h.policy, h.building, by simp⟩, rfl, ?_, ?_⟩
    · intro a id s hs _
      exact hs.append _
    · intro id hid
      obtain rfl := Option.some.inj (Ingestion.reading.inj hid)
      exact Or.inr ⟨rfl, List.getElem?_concat_length⟩
  | noted d htouch hpending =>
    refine ⟨rfl, fun h => ⟨h.policy, h.building, h.identified⟩, htouch.records, htouch.others, ?_⟩
    intro id hid
    exact Or.inl ⟨hid, htouch.own⟩

theorem set_getElem? {routines : List Routine} {i j : Nat} {q q' p : Routine}
    (hq : routines[i]? = some q) (hp : (routines.set i q')[j]? = some p) :
    (i = j ∧ p = q') ∨ (i ≠ j ∧ routines[j]? = some p) := by
  rw [List.getElem?_set] at hp
  split at hp
  · next hij =>
    rw [if_pos (List.getElem?_eq_some_iff.1 hq).1] at hp
    exact Or.inl ⟨hij, (Option.some.inj hp).symm⟩
  · next hij => exact Or.inr ⟨hij, hp⟩

theorem Tuned.moved {config : ResolverConfig} {g : Activity} (h : Tuned config g) {i : Nat}
    {q q' : Routine} {m' : Memory} (hq : g.routines[i]? = some q)
    (heffect : Move.Effect config g.memory q m' q') :
    Tuned config ⟨m', g.routines.set i q'⟩ where
  sound := by
    intro j p hp
    rcases set_getElem? hq hp with ⟨-, rfl⟩ | ⟨-, hp⟩
    · exact heffect.sound (h.sound i q hq)
    · exact h.sound j p hp
  holds := by
    intro j p id hp hid
    rcases set_getElem? hq hp with ⟨-, rfl⟩ | ⟨hij, hp⟩
    · rw [heffect.service]
      rcases heffect.own hid with ⟨hold, hkeep⟩ | ⟨-, hnew⟩
      · obtain ⟨s, hs⟩ := h.holds i q id hq hold
        exact hkeep hs
      · exact ⟨_, hnew⟩
    · obtain ⟨s, hs⟩ := h.holds j p id hp hid
      exact ⟨s, heffect.others hs fun hown => hij (h.apart i j q p id hq hp hown hid)⟩
  apart := by
    -- an id that was there before is not that of a new subscription
    have hnew : ∀ {j p id}, i ≠ j → g.routines[j]? = some p → p.ingestion = .reading (some id) →
        q'.ingestion ≠ .reading (some id) := by
      intro j p id hij hp hid hid'
      rcases heffect.own hid' with ⟨hold, -⟩ | ⟨hlength, -⟩
      · exact hij (h.apart i j q p id hq hp hold hid)
      · obtain ⟨s, hs⟩ := h.holds j p id hp hid
        exact Nat.lt_irrefl _ (hlength ▸ hs.lt_length)
    intro j k p t id hp ht hpid htid
    rcases set_getElem? hq hp with ⟨rfl, rfl⟩ | ⟨hij, hp'⟩
    · rcases set_getElem? hq ht with ⟨rfl, -⟩ | ⟨hik, ht'⟩
      · rfl
      · exact absurd hpid (hnew hik ht' htid)
    · rcases set_getElem? hq ht with ⟨rfl, rfl⟩ | ⟨hik, ht'⟩
      · exact absurd htid (hnew hij hp' hpid)
      · exact h.apart j k p t id hp' ht' hpid htid

theorem Tuned.begun {config : ResolverConfig} {g : Activity} (h : Tuned config g) {q : Routine}
    (hfresh : Fresh config q) : Tuned config { g with routines := g.routines ++ [q] } where
  sound := by
    intro j p hp
    rcases of_append_getElem? hp with hold | ⟨-, rfl⟩
    · exact h.sound j p hold
    · refine ⟨hfresh.policy, ?_, ?_⟩
      · intro b hb
        rw [hfresh.evaluation] at hb
        exact absurd hb (by simp)
      · rw [hfresh.ingestion]
        simp
  holds := by
    intro j p id hp hid
    rcases of_append_getElem? hp with hold | ⟨-, rfl⟩
    · exact h.holds j p id hold hid
    · rw [hfresh.ingestion] at hid
      exact absurd hid (by simp)
  apart := by
    intro j k p t id hp ht hpid htid
    rcases of_append_getElem? hp with hp | ⟨-, rfl⟩
    · rcases of_append_getElem? ht with ht | ⟨-, rfl⟩
      · exact h.apart j k p t id hp ht hpid htid
      · rw [hfresh.ingestion] at htid
        exact absurd htid (by simp)
    · rw [hfresh.ingestion] at hpid
      exact absurd hpid (by simp)

theorem Tuned.step {config : ResolverConfig} {g g' : Activity} {ns : List Notice}
    (h : Tuned config g) (hstep : Step config g ns g') : Tuned config g' := by
  cases hstep with
  | quiet hns => exact h
  | begun q hfresh => exact h.begun hfresh
  | changed c =>
    refine ⟨h.sound, ?_, h.apart⟩
    intro i q id hq hid
    obtain ⟨s, hs⟩ := h.holds i q id hq hid
    obtain ⟨s', hnoticed⟩ := hs.noticed c
    exact ⟨s', hnoticed.holds⟩
  | moved hq hmove => exact h.moved hq hmove.effect

end Activity

end Lookout
