import Lookout.Proofs.Resolver.Answers
import Lookout.Proofs.Resolver.Tuned

/-!
# What a quiescent resolver knows

A session that reads its subscription, or that will look again once it has one, learns of every
change of its service's records: until it begins another evaluation it has a signal to read, a
trigger pending, or a subscription to renew. So when nothing of that kind is left the records are
those of the moment from which on it listened. What changed between the list of its last build and
its first subscription is the one thing that it can miss, until a periodic resync is due.
-/
set_option autoImplicit false

namespace Lookout

namespace Activity

/-! ## Listening -/

/-- Whether a session reads a subscription or will take note when it has one again. -/
def Attentive (q : Routine) : Prop :=
  match q.ingestion with
  | .reading _ => True
  | .ended => True
  | _ => q.reconnecting = true

/-- Whether an attentive session still has reason to evaluate, or has given up to listen. -/
def Due (m : Memory) (q : Routine) : Prop :=
  q.debouncer.isPending = true ∨
    match q.ingestion with
    | .reading id? => ∃ id s, id? = some id ∧ m.Holds q.service id s ∧ s.Alarmed
    | _ => True

/-- If the records of its service are no more the given ones the session will come to know. -/
def Aware (records : List Record) (g : Activity) (i : Nat) : Prop :=
  ∃ q, g.routines[i]? = some q ∧ Attentive q ∧
    (g.memory.recordsOf q.service = records ∨ Due g.memory q)

theorem due_of_pending {m : Memory} {q : Routine} (h : q.debouncer.isPending = true) : Due m q :=
  Or.inl h

theorem due_of_silent {m : Memory} {q : Routine} (h : ∀ id?, q.ingestion ≠ .reading id?) :
    Due m q := by
  refine Or.inr ?_
  split
  · next id? heq => exact absurd heq (h id?)
  · trivial

theorem recordsOf_congr {m m' : Memory} (h : m'.records = m.records) (service : String) :
    m'.recordsOf service = m.recordsOf service := by
  simp only [Memory.recordsOf]
  rw [h]

theorem Due.congr {m m' : Memory} {q q' : Routine} (h : Due m q)
    (hservice : q'.service = q.service) (hingestion : q'.ingestion = q.ingestion)
    (hpending : q'.debouncer.isPending = q.debouncer.isPending)
    (hholds : ∀ id s, q.ingestion = .reading (some id) → m.Holds q.service id s →
      m'.Holds q.service id s) : Due m' q' := by
  rcases h with h | h
  · exact Or.inl (hpending.trans h)
  · cases hreading : q.ingestion with
    | reading id? =>
      rw [hreading] at h
      obtain ⟨id, s, rfl, hs, halarmed⟩ := h
      refine Or.inr ?_
      rw [hingestion, hreading, hservice]
      exact ⟨id, s, rfl, hholds id s hreading hs, halarmed⟩
    | subscribing => exact due_of_silent (by rw [hingestion, hreading]; simp)
    | backingOff t => exact due_of_silent (by rw [hingestion, hreading]; simp)
    | ended => exact due_of_silent (by rw [hingestion, hreading]; simp)

theorem Aware.of_move {records : List Record} {i : Nat} {m m' : Memory} {q q' : Routine}
    {ns : List Notice} (hmove : Move i m q ns m' q')
    (hquiet : ∀ trigger, .triggered i trigger ∉ ns) (hattentive : Attentive q)
    (haware : m.recordsOf q.service = records ∨ Due m q) :
    Attentive q' ∧ (m'.recordsOf q'.service = records ∨ Due m' q') := by
  cases hmove with
  | ended hready => exact ⟨hattentive, haware⟩
  | looked d w hready hpending =>
    refine ⟨hattentive, haware.imp id ?_⟩
    intro hdue
    exact hdue.congr rfl rfl hpending fun _ _ _ hs => hs
  | triggered d b trigger hservice hpolicy =>
    exact absurd (List.mem_singleton_self _) (hquiet trigger)
  | built label revision hbuilding => exact ⟨hattentive, haware⟩
  | published report hready => exact ⟨hattentive, haware⟩
  | failed hready hns => exact ⟨hattentive, haware⟩
  | deafened htouch => exact ⟨trivial, Or.inr (due_of_silent (by simp))⟩
  | interrupted t hns htouch => exact ⟨rfl, Or.inr (due_of_silent (by simp))⟩
  | resumed hingestion =>
    simp only [Attentive] at hattentive
    rw [hingestion] at hattentive
    exact ⟨hattentive, Or.inr (due_of_silent (by simp))⟩
  | subscribed now hingestion =>
    simp only [Attentive] at hattentive
    rw [hingestion] at hattentive
    have hreconnecting : q.reconnecting = true := hattentive
    refine ⟨trivial, Or.inr (due_of_pending ?_)⟩
    rw [if_pos hreconnecting]
    exact Debouncer.isPending_signal _ _
  | noted d htouch hpending => exact ⟨hattentive, Or.inr (due_of_pending hpending)⟩

/-- What is done to the registry from outside comes to the notice of the session. -/
theorem Aware.of_change {config : ResolverConfig} {records : List Record} {m : Memory}
    {q : Routine} (hsound : Sound config q)
    (hholds : ∀ id, q.ingestion = .reading (some id) → ∃ s, m.Holds q.service id s)
    (haware : m.recordsOf q.service = records ∨ Due m q) (c : Memory.Change) :
    (m.apply c).recordsOf q.service = records ∨ Due (m.apply c) q := by
  cases hreading : q.ingestion with
  | reading id? =>
    cases id? with
    | none => exact absurd hreading hsound.identified
    | some id =>
      obtain ⟨s, hs⟩ := hholds id hreading
      obtain ⟨s', hnoticed⟩ := hs.noticed c
      have hdue : s'.Alarmed → Due (m.apply c) q := by
        intro halarmed
        refine Or.inr ?_
        rw [hreading]
        exact ⟨id, s', rfl, hnoticed.holds, halarmed⟩
      rcases haware with hsame | hpending | halarmed
      · rcases hnoticed.alarmed with hkept | halarmed
        · exact Or.inl (hkept.trans hsame)
        · exact Or.inr (hdue halarmed)
      · exact Or.inr (due_of_pending hpending)
      · rw [hreading] at halarmed
        obtain ⟨id', t, hid, ht, halarmed⟩ := halarmed
        obtain rfl := Option.some.inj hid
        have hst : s = t := (Prod.mk.inj (Option.some.inj (hs.symm.trans ht))).2
        rw [← hst] at halarmed
        exact Or.inr (hdue (hnoticed.still halarmed))
  | subscribing => exact Or.inr (due_of_silent (by rw [hreading]; simp))
  | backingOff t => exact Or.inr (due_of_silent (by rw [hreading]; simp))
  | ended => exact Or.inr (due_of_silent (by rw [hreading]; simp))

theorem Step.aware {config : ResolverConfig} {g g' : Activity} {ns : List Notice}
    (h : Step config g ns g') (htuned : Tuned config g) {records : List Record} {i : Nat}
    (hquiet : ∀ trigger, .triggered i trigger ∉ ns) (haware : Aware records g i) :
    Aware records g' i := by
  obtain ⟨q, hq, hattentive, hknown⟩ := haware
  cases h with
  | quiet hns => exact ⟨q, hq, hattentive, hknown⟩
  | begun p hfresh => exact ⟨q, append_getElem? hq p, hattentive, hknown⟩
  | changed c =>
    refine ⟨q, hq, hattentive, ?_⟩
    exact Aware.of_change (htuned.sound i q hq) (fun id => htuned.holds i q id hq) hknown c
  | @moved j p p' m' ns hp hmove =>
    have hlt : i < g.routines.length := (List.getElem?_eq_some_iff.1 hq).1
    by_cases hij : j = i
    · subst hij
      rw [hq] at hp
      obtain rfl := Option.some.inj hp
      exact ⟨p', List.getElem?_set_self hlt, Aware.of_move hmove hquiet hattentive hknown⟩
    · refine ⟨q, (List.getElem?_set_ne hij).trans hq, hattentive, ?_⟩
      · have heffect : Move.Effect config g.memory p m' p' := hmove.effect
        refine hknown.imp ?_ ?_
        · intro hsame
          rw [recordsOf_congr heffect.records]
          exact hsame
        · intro hdue
          refine hdue.congr rfl rfl rfl ?_
          intro id s hid hs
          exact heffect.others hs fun hown => hij (htuned.apart j i p q id hp hq hown hid)

/-! ## Building -/

structure Builds (i : Nat) (m : Memory) (q : Routine) (m' : Memory) (q' : Routine)
    (service : String) (c : Snapshot) : Prop where
  service : service = q.service
  memory : m' = m
  routine : q'.service = q.service ∧ q'.evaluation = .publishing c
  built : ∃ b label revision, q.evaluation = .building b ∧
    c = .build label b.listing.service b.policy revision (m.recordsOf b.listing.service)

theorem not_mem_of_isBuild {ns : List Notice} (h : ∀ n ∈ ns, n.isBuild = false) {n : Notice}
    (hn : n.isBuild = true) : n ∉ ns := by
  intro hmem
  exact Bool.noConfusion ((h n hmem).symm.trans hn)

theorem Move.builds {i j : Nat} {m m' : Memory} {q q' : Routine} {ns : List Notice}
    (h : Move j m q ns m' q') {service : String} {c : Snapshot}
    (hmem : .built i service c ∈ ns) : i = j ∧ Builds i m q m' q' service c := by
  cases h with
  | built label revision hbuilding =>
    have heq := List.mem_singleton.1 hmem
    simp only [Notice.built.injEq] at heq
    obtain ⟨rfl, rfl, rfl⟩ := heq
    exact ⟨rfl, rfl, rfl, ⟨rfl, rfl⟩, _, label, revision, hbuilding, rfl⟩
  | triggered d b trigger hservice hpolicy => exact absurd (List.mem_singleton.1 hmem) (by simp)
  | published report hready => exact absurd (List.mem_singleton.1 hmem) (by simp)
  | failed hready hns => exact absurd hmem (not_mem_of_isBuild hns rfl)
  | interrupted t hns htouch => exact absurd hmem (not_mem_of_isBuild hns rfl)
  | _ => exact absurd hmem List.not_mem_nil

theorem Step.builds {config : ResolverConfig} {g g' : Activity} {ns : List Notice}
    (h : Step config g ns g') {i : Nat} {service : String} {c : Snapshot}
    (hmem : .built i service c ∈ ns) :
    ∃ q q', g.routines[i]? = some q ∧ g'.routines[i]? = some q' ∧
      Builds i g.memory q g'.memory q' service c := by
  cases h with
  | quiet hns => exact absurd hmem (not_mem_of_isBuild hns rfl)
  | begun p hfresh => exact absurd hmem List.not_mem_nil
  | changed c => exact absurd hmem List.not_mem_nil
  | @moved j q q' m' ns hq hmove =>
    obtain ⟨rfl, hbuilds⟩ := hmove.builds hmem
    have hlt : i < g.routines.length := (List.getElem?_eq_some_iff.1 hq).1
    exact ⟨q, q', hq, List.getElem?_set_self hlt, hbuilds⟩

def Unbusy (q : Routine) : Prop := q.evaluation.ready? = none ∧ ∀ b, q.evaluation ≠ .building b

def Mute (i : Nat) (ns : List Notice) : Prop :=
  ∀ service c report, .published i service c report ∉ ns

theorem mute_of_isBuild {ns : List Notice} (h : ∀ n ∈ ns, n.isBuild = false) (i : Nat) :
    Mute i ns := fun _ _ _ => not_mem_of_isBuild h rfl

/-- A snapshot that has been built waits until it is published; then the session has nothing to do
until it begins another evaluation. -/
theorem Move.carried {i : Nat} {m m' : Memory} {q q' : Routine} {ns : List Notice}
    (h : Move i m q ns m' q') (hquiet : ∀ trigger, .triggered i trigger ∉ ns) :
    (∀ c, q.evaluation = .publishing c →
      (q'.evaluation = .publishing c ∧ Mute i ns) ∨
        (Unbusy q' ∧ ∃ report, ns = [.published i q.service c report])) ∧
    (Unbusy q → Unbusy q' ∧ Mute i ns) := by
  have hidle : ∀ {q : Routine} {c : Snapshot}, q.evaluation.ready? = none →
      q.evaluation ≠ .publishing c := by
    intro q c hready heq
    rw [heq] at hready
    exact absurd hready (by simp [Evaluation.ready?])
  cases h with
  | triggered d b trigger hservice hpolicy =>
    exact absurd (List.mem_singleton_self _) (hquiet trigger)
  | ended hready =>
    refine ⟨fun c hc => absurd hc (hidle hready), fun _ => ⟨⟨rfl, by simp⟩, ?_⟩⟩
    exact fun _ _ _ => List.not_mem_nil
  | looked d w hready hpending =>
    refine ⟨fun c hc => absurd hc (hidle hready), fun _ => ⟨⟨rfl, by simp⟩, ?_⟩⟩
    exact fun _ _ _ => List.not_mem_nil
  | built label revision hbuilding =>
    refine ⟨fun c hc => ?_, fun hunbusy => absurd hbuilding (hunbusy.2 _)⟩
    rw [hbuilding] at hc
    exact absurd hc (by simp)
  | published report hready =>
    refine ⟨fun c hc => .inr ⟨⟨rfl, by simp⟩, report, ?_⟩, fun hunbusy => ?_⟩
    · rw [hready] at hc
      rw [Evaluation.publishing.inj hc]
    · exact absurd hready (hidle hunbusy.1)
  | failed hready hns =>
    exact ⟨fun c hc => absurd hc (hidle hready),
      fun _ => ⟨⟨rfl, by simp⟩, mute_of_isBuild hns i⟩⟩
  | interrupted t hns htouch =>
    exact ⟨fun c hc => .inl ⟨hc, mute_of_isBuild hns i⟩,
      fun hunbusy => ⟨hunbusy, mute_of_isBuild hns i⟩⟩
  | _ =>
    exact ⟨fun c hc => .inl ⟨hc, fun _ _ _ => List.not_mem_nil⟩,
      fun hunbusy => ⟨hunbusy, fun _ _ _ => List.not_mem_nil⟩⟩

theorem Move.mute {i j : Nat} {m m' : Memory} {q q' : Routine} {ns : List Notice}
    (h : Move j m q ns m' q') (hij : j ≠ i) : Mute i ns := by
  cases h with
  | published report hready =>
    intro service c report' hmem
    have heq := List.mem_singleton.1 hmem
    simp only [Notice.published.injEq] at heq
    exact hij heq.1.symm
  | triggered d b trigger hservice hpolicy =>
    exact fun _ _ _ hmem => absurd (List.mem_singleton.1 hmem) (by simp)
  | built label revision hbuilding =>
    exact fun _ _ _ hmem => absurd (List.mem_singleton.1 hmem) (by simp)
  | failed hready hns => exact mute_of_isBuild hns i
  | interrupted t hns htouch => exact mute_of_isBuild hns i
  | _ => exact fun _ _ _ => List.not_mem_nil

theorem Step.carried {config : ResolverConfig} {g g' : Activity} {ns : List Notice}
    (h : Step config g ns g') {i : Nat} {q : Routine} (hq : g.routines[i]? = some q)
    (hquiet : ∀ trigger, .triggered i trigger ∉ ns) :
    ∃ q', g'.routines[i]? = some q' ∧
      (∀ c, q.evaluation = .publishing c →
        (q'.evaluation = .publishing c ∧ Mute i ns) ∨
          (Unbusy q' ∧ ∃ report, ns = [.published i q.service c report])) ∧
      (Unbusy q → Unbusy q' ∧ Mute i ns) := by
  have hsame : Mute i ns → (∀ c, q.evaluation = .publishing c →
        (q.evaluation = .publishing c ∧ Mute i ns) ∨
          (Unbusy q ∧ ∃ report, ns = [.published i q.service c report])) ∧
      (Unbusy q → Unbusy q ∧ Mute i ns) :=
    fun hmute => ⟨fun c hc => .inl ⟨hc, hmute⟩, fun hunbusy => ⟨hunbusy, hmute⟩⟩
  cases h with
  | quiet hns => exact ⟨q, hq, hsame (mute_of_isBuild hns i)⟩
  | begun p hfresh => exact ⟨q, append_getElem? hq p, hsame fun _ _ _ => List.not_mem_nil⟩
  | changed c => exact ⟨q, hq, hsame fun _ _ _ => List.not_mem_nil⟩
  | @moved j p p' m' ns hp hmove =>
    by_cases hij : j = i
    · subst hij
      obtain rfl := Option.some.inj (hq.symm.trans hp)
      have hlt : j < g.routines.length := (List.getElem?_eq_some_iff.1 hq).1
      exact ⟨p', List.getElem?_set_self hlt, hmove.carried hquiet⟩
    · exact ⟨q, (List.getElem?_set_ne hij).trans hq, hsame (hmove.mute hij)⟩

end Activity

namespace Resolver

/-! ## Runs -/

/-- The records that the source holds for a service now, as the policy lets them through. -/
def wanted (r : Resolver) (service : String) : List Endpoint :=
  Snapshot.endpointsOf (r.config.policyFor service) (r.source.recordsOf service)

/-- A resolver over a registry in memory, with its ledger and its activity in order. -/
structure Sane (buffer : Nat) (r : Resolver) (ns : List Notice) (m : Memory) : Prop where
  reached : Ledger.Reached buffer ns r.ledger
  source : r.source = .memory m
  tuned : Activity.Tuned r.config ⟨m, r.routines⟩

theorem Sane.react {buffer : Nat} {r : Resolver} {ns : List Notice} {m : Memory}
    (h : Sane buffer r ns m) (e : Event) :
    ∃ m', Sane buffer (r.react e).1 (ns ++ (r.react e).2) m' ∧
      (r.react e).1.config = r.config ∧
      Activity.Step r.config ⟨m, r.routines⟩ (r.react e).2 ⟨m', (r.react e).1.routines⟩ := by
  obtain ⟨hconfig, m', hsource, hstep⟩ := r.activity_react h.source e
  refine ⟨m', ⟨h.reached.step (r.ledger_react e), hsource, ?_⟩, hconfig, hstep⟩
  rw [hconfig]
  exact h.tuned.step hstep

theorem Sane.run {buffer : Nat} {r : Resolver} {ns : List Notice} {m : Memory}
    (h : Sane buffer r ns m) (events : List Event) :
    ∃ m', Sane buffer (r.run events).1 (ns ++ (r.run events).2) m' ∧
      (r.run events).1.config = r.config := by
  induction events generalizing r ns m with
  | nil =>
    refine ⟨m, ?_, rfl⟩
    rw [run_nil, List.append_nil]
    exact h
  | cons e rest ih =>
    obtain ⟨m₁, h₁, hconfig₁, -⟩ := h.react e
    obtain ⟨m₂, h₂, hconfig₂⟩ := ih h₁
    refine ⟨m₂, ?_, hconfig₂.trans hconfig₁⟩
    rw [run_cons, ← List.append_assoc]
    exact h₂

theorem not_mem_left {α : Type} {x : α} {xs ys : List α} (h : x ∉ xs ++ ys) : x ∉ xs :=
  fun hx => h (List.mem_append_left _ hx)

theorem not_mem_right {α : Type} {x : α} {xs ys : List α} (h : x ∉ xs ++ ys) : x ∉ ys :=
  fun hx => h (List.mem_append_right _ hx)

theorem Sane.run_aware {buffer : Nat} {r : Resolver} {ns : List Notice} {m : Memory}
    (h : Sane buffer r ns m) {events : List Event} {i : Nat}
    (hquiet : ∀ trigger, .triggered i trigger ∉ (r.run events).2) {records : List Record}
    (haware : Activity.Aware records ⟨m, r.routines⟩ i) :
    ∃ m', (r.run events).1.source = .memory m' ∧
      Activity.Aware records ⟨m', (r.run events).1.routines⟩ i := by
  induction events generalizing r ns m with
  | nil => exact ⟨m, h.source, haware⟩
  | cons e rest ih =>
    obtain ⟨m₁, h₁, -, hstep⟩ := h.react e
    have hfirst := hstep.aware h.tuned (fun trigger => not_mem_left (hquiet trigger)) haware
    exact ih h₁ (fun trigger => not_mem_right (hquiet trigger)) hfirst

/-- What the session has built is to be published, or has been and is current there. -/
def Carries (r : Resolver) (i : Nat) (c : Snapshot) : Prop :=
  ∃ q, r.routines[i]? = some q ∧
    (q.evaluation = .publishing c ∨ (Activity.Unbusy q ∧ r.ledger.currentOf i = some c))

theorem Sane.carries_react {buffer : Nat} {r : Resolver} {ns : List Notice} {m : Memory}
    (h : Sane buffer r ns m) {e : Event} {i : Nat} {c : Snapshot}
    (hquiet : ∀ trigger, .triggered i trigger ∉ (r.react e).2) (hcarries : Carries r i c) :
    Carries (r.react e).1 i c := by
  obtain ⟨m', -, -, hstep⟩ := h.react e
  obtain ⟨q, hq, hstate⟩ := hcarries
  obtain ⟨q', hq', hpublishing, hunbusy⟩ := hstep.carried hq hquiet
  have hd : ∃ d, r.ledger.desks[i]? = some d := by
    rw [routines_getElem?] at hq
    obtain ⟨s, hs, -⟩ := Option.map_eq_some_iff.1 hq
    exact ⟨s.desk, by simp [hs]⟩
  obtain ⟨d, hd⟩ := hd
  refine ⟨q', hq', ?_⟩
  rcases hstate with hready | ⟨hidle, hcurrent⟩
  · rcases hpublishing c hready with ⟨hstill, -⟩ | ⟨hdone, report, hns⟩
    · exact .inl hstill
    · refine .inr ⟨hdone, ?_⟩
      rcases (r.ledger_react e).currentOf hd with ⟨-, hsilent⟩ | ⟨s, report', hnew, -, hns'⟩
      · refine absurd ?_ (hsilent q.service)
        rw [hns, publishers_published, if_pos rfl]
        exact List.mem_singleton_self i
      · have heq := hns.symm.trans hns'
        simp only [List.cons.injEq, Notice.published.injEq] at heq
        rw [hnew, heq.1.2.2.1]
  · obtain ⟨hstill, hmute⟩ := hunbusy hidle
    refine .inr ⟨hstill, ?_⟩
    rcases (r.ledger_react e).currentOf hd with ⟨hsame, -⟩ | ⟨s, report, -, -, hns⟩
    · rw [hsame, hcurrent]
    · exact absurd (by rw [hns]; exact List.mem_singleton_self _) (hmute d.service s report)

theorem Sane.carries_run {buffer : Nat} {r : Resolver} {ns : List Notice} {m : Memory}
    (h : Sane buffer r ns m) {events : List Event} {i : Nat} {c : Snapshot}
    (hquiet : ∀ trigger, .triggered i trigger ∉ (r.run events).2) (hcarries : Carries r i c) :
    Carries (r.run events).1 i c := by
  induction events generalizing r ns m with
  | nil => exact hcarries
  | cons e rest ih =>
    obtain ⟨m₁, h₁, -, -⟩ := h.react e
    exact ih h₁ (fun trigger => not_mem_right (hquiet trigger))
      (h.carries_react (fun trigger => not_mem_left (hquiet trigger)) hcarries)

/-! ## Quiescence -/

/-- The session of a service has nothing to do but wait for a signal or the next periodic resync. -/
structure Quiescent (r : Resolver) (service : String) (i : Nat) : Prop where
  watched : r.watched.find? service = some i
  idle : ∃ s id w, r.session? i = some s ∧ s.ingestion = .reading (some id) ∧
    (r.source.subscription (some id)).isLive = true ∧
    (r.source.subscription (some id)).unread = [] ∧
    s.debouncer.isPending = false ∧ s.evaluation = .waiting w

/-- A run begins with `front`, whose last event is a build of the session that succeeds, and the
session begins no other build after it. -/
structure LatestBuild (r : Resolver) (i : Nat) (front events : List Event) : Prop where
  built : ∃ init e service c, front = init ++ [e] ∧
    .built i service c ∈ ((r.run init).1.react e).2
  latest : ∃ back, events = front ++ back ∧
    ∀ trigger, .triggered i trigger ∉ ((r.run front).1.run back).2

/-- The session reads a subscription, or has had one that was closed or refused. -/
def Hears (r : Resolver) (i : Nat) : Prop :=
  ∃ s, r.session? i = some s ∧
    ((∃ id?, s.ingestion = .reading id?) ∨ s.reconnecting = true)

def Fresh (r : Resolver) (service : String) : Prop :=
  (r.currentState service).map (·.endpoints) = some (r.wanted service)

theorem sane_create (name : String) (config : ResolverConfig) (m : Memory) (backoff : Backoff)
    (hooked : Bool) (stamp : String) :
    Sane config.watcherBuffer.toNat (create name config (.memory m) backoff hooked stamp) [] m where
  reached := .create
  source := rfl
  tuned := by
    refine ⟨?_, ?_, ?_⟩
    · intro i q hq
      exact absurd hq (by simp [routines, create])
    · intro i q id hq
      exact absurd hq (by simp [routines, create])
    · intro i j p q id hp
      exact absurd hp (by simp [routines, create])

theorem Sane.service_of_watched {buffer : Nat} {r : Resolver} {ns : List Notice} {m : Memory}
    (h : Sane buffer r ns m) {events : List Event} {service : String} {i : Nat} {s : Session}
    (hs : r.session? i = some s) (hwatched : (r.run events).1.watched.find? service = some i) :
    s.service = service := by
  have hdesk : r.ledger.desks[i]? = some s.desk := by simp [hs]
  obtain ⟨d, hd, hsame⟩ := desk_run hdesk events
  exact hsame.symm.trans ((h.reached.run events).orderly.service_of_watched hwatched hd)

theorem attentive_of_hears {s : Session}
    (h : (∃ id?, s.ingestion = .reading id?) ∨ s.reconnecting = true) :
    Activity.Attentive s.routine := by
  unfold Activity.Attentive
  split
  · trivial
  · trivial
  · next hreading _ =>
    rcases h with ⟨id?, hid⟩ | hreconnecting
    · exact absurd hid (hreading id?)
    · exact hreconnecting

theorem Quiescent.not_due {r : Resolver} {service : String} {i : Nat} {m : Memory} {q : Routine}
    (h : Quiescent r service i) (hsource : r.source = .memory m)
    (hq : r.routines[i]? = some q) : ¬Activity.Due m q := by
  obtain ⟨s, id, w, hs, hreading, hlive, hunread, hpending, -⟩ := h.idle
  rw [routines_getElem?, hs] at hq
  obtain rfl := Option.some.inj hq
  rintro (hdue | halarmed)
  · exact absurd (hpending.symm.trans hdue) (by simp)
  · have hreading' : s.routine.ingestion = .reading (some id) := hreading
    rw [hreading'] at halarmed
    obtain ⟨id', u, hid, hu, halarmed⟩ := halarmed
    obtain rfl := Option.some.inj hid
    have hsubscription : r.source.subscription (some id) = u := by
      have hfound : m.subscription? id = some u := hu.subscription?
      rw [hsource]
      simp only [Source.subscription, hfound, Option.getD_some]
    rw [hsubscription] at hlive hunread
    rcases halarmed with hsome | hdetached
    · exact absurd hunread hsome
    · simp [Subscription.isLive, hdetached] at hlive

theorem Sane.recordsOf_quiescent {buffer : Nat} {r : Resolver} {ns : List Notice} {m : Memory}
    (h : Sane buffer r ns m) {events : List Event} {service : String} {i : Nat}
    (hhears : Hears r i) (hquiet : ∀ trigger, .triggered i trigger ∉ (r.run events).2)
    (hquiescent : Quiescent (r.run events).1 service i) :
    (r.run events).1.source.recordsOf service = r.source.recordsOf service := by
  obtain ⟨s, hs, hears⟩ := hhears
  have hservice := h.service_of_watched hs hquiescent.watched
  have haware : Activity.Aware (m.recordsOf service) ⟨m, r.routines⟩ i := by
    refine ⟨s.routine, ?_, attentive_of_hears hears, Or.inl ?_⟩
    · rw [routines_getElem?, hs]
      rfl
    · rw [← hservice]
      rfl
  obtain ⟨n, hend, -⟩ := h.run events
  obtain ⟨m', hsource, q, hq, -, hknown⟩ := h.run_aware hquiet haware
  have hsame : m'.recordsOf q.service = m.recordsOf service :=
    hknown.resolve_right (hquiescent.not_due hsource hq)
  obtain ⟨t, id, w, ht, -⟩ := hquiescent.idle
  have hwatched : ((r.run events).1.run []).1.watched.find? service = some i := hquiescent.watched
  have hservice' : t.service = service := hend.service_of_watched ht hwatched
  rw [routines_getElem?, ht] at hq
  obtain rfl := Option.some.inj hq
  rw [hsource, h.source]
  rw [← hservice'] at hsame ⊢
  exact hsame

theorem Sane.endpoints_of_built {buffer : Nat} {r : Resolver} {ns : List Notice} {m : Memory}
    (h : Sane buffer r ns m) {e : Event} {i : Nat} {service : String} {c : Snapshot}
    (hmem : .built i service c ∈ (r.react e).2) :
    c.endpoints = (r.react e).1.wanted service := by
  obtain ⟨m', h', hconfig, hstep⟩ := h.react e
  obtain ⟨q, q', hq, -, hbuilds⟩ := hstep.builds hmem
  obtain ⟨b, label, revision, hbuilding, hc⟩ := hbuilds.built
  have hsound := h.tuned.sound i q hq
  obtain ⟨hpolicy, hlisted⟩ := hsound.building b hbuilding
  have hsource : (r.react e).1.source = .memory m := by
    rw [h'.source]
    exact congrArg Source.memory hbuilds.memory
  simp only [wanted]
  rw [hsource, hconfig, hc, hbuilds.service]
  change Snapshot.endpointsOf b.policy (m.recordsOf b.listing.service) = _
  rw [hpolicy, hlisted, hsound.policy]
  rfl

theorem Sane.currentState_of_latest {buffer : Nat} {r : Resolver} {m : Memory}
    (h : Sane buffer r [] m) {front events : List Event} {service : String} {i : Nat}
    (hbuild : LatestBuild r i front events)
    (hquiescent : Quiescent (r.run events).1 service i) :
    ((r.run events).1.currentState service).map (·.endpoints) =
      some ((r.run front).1.wanted service) := by
  obtain ⟨init, e, owner, c, rfl, hmem⟩ := hbuild.built
  obtain ⟨back, rfl, hquiet⟩ := hbuild.latest
  rw [run_append, run_concat] at hquiescent ⊢
  rw [run_concat] at hquiet
  obtain ⟨m₁, h₁, -⟩ := h.run init
  obtain ⟨m₂, h₂, -, hstep⟩ := h₁.react e
  obtain ⟨q, q', hq, hq', hbuilds⟩ := hstep.builds hmem
  -- the session that built is the one that is watched at the end
  have howner : owner = service := by
    rw [routines_getElem?] at hq'
    obtain ⟨s, hs, rfl⟩ := Option.map_eq_some_iff.1 hq'
    rw [hbuilds.service, ← hbuilds.routine.1]
    exact h₂.service_of_watched hs hquiescent.watched
  subst howner
  obtain ⟨p, hp, hstate⟩ := h₂.carries_run hquiet ⟨q', hq', .inl hbuilds.routine.2⟩
  obtain ⟨s, id, w, hs, -, -, -, -, hwaiting⟩ := hquiescent.idle
  rw [routines_getElem?, hs] at hp
  obtain rfl := Option.some.inj hp
  rcases hstate with hpublishing | ⟨-, hcurrent⟩
  · exact absurd (hwaiting.symm.trans hpublishing) (by simp)
  · rw [currentState, lookUp_of_watched hquiescent.watched, answer_session, hcurrent,
      Option.map_some, h₁.endpoints_of_built hmem]

/-- When nothing is under way for a service whose latest build succeeded, its current endpoints are
those of the records in its source exactly if these give the same endpoints at the build and at a
time after it at which the session heard the source. So a session that heard the source when it
built misses nothing; one that subscribed later misses what changed in between. -/
theorem quiescent_fresh_iff (name : String) (config : ResolverConfig) (m : Memory)
    (backoff : Backoff) (hooked : Bool) (stamp : String) {front mid events : List Event}
    {service : String} {i : Nat}
    (hbuild : LatestBuild (create name config (.memory m) backoff hooked stamp) i front events)
    (hquiescent : Quiescent
      ((create name config (.memory m) backoff hooked stamp).run events).1 service i)
    (hfrom : front <+: mid) (hto : mid <+: events)
    (hhears : Hears ((create name config (.memory m) backoff hooked stamp).run mid).1 i) :
    Fresh ((create name config (.memory m) backoff hooked stamp).run events).1 service ↔
      ((create name config (.memory m) backoff hooked stamp).run mid).1.wanted service =
        ((create name config (.memory m) backoff hooked stamp).run front).1.wanted service := by
  have hsane := sane_create name config m backoff hooked stamp
  have hcurrent := hsane.currentState_of_latest hbuild hquiescent
  obtain ⟨back, hback, hquiet⟩ := hbuild.latest
  obtain ⟨start, rfl⟩ := hfrom
  obtain ⟨rest, rfl⟩ := hto
  obtain rfl : start ++ rest = back := by
    rw [List.append_assoc] at hback
    exact List.append_cancel_left hback
  obtain ⟨m₁, h₁, hconfig₁⟩ := hsane.run (front ++ start)
  obtain ⟨m₂, h₂, hconfig₂⟩ := h₁.run rest
  have hquiet' : ∀ trigger, .triggered i trigger ∉
      (((create name config (.memory m) backoff hooked stamp).run (front ++ start)).1.run
        rest).2 := by
    intro trigger
    have hall := hquiet trigger
    rw [run_append] at hall
    rw [run_append]
    exact not_mem_right hall
  rw [run_append _ (front ++ start) rest] at hquiescent hcurrent ⊢
  have hrecords := h₁.recordsOf_quiescent hhears hquiet' hquiescent
  have hwanted : (((create name config (.memory m) backoff hooked stamp).run
      (front ++ start)).1.run rest).1.wanted service =
      ((create name config (.memory m) backoff hooked stamp).run
        (front ++ start)).1.wanted service := by
    simp only [wanted]
    rw [hrecords, hconfig₂]
  simp only [Fresh]
  rw [hcurrent, hwanted, Option.some_inj]
  exact eq_comm

def exampleRecord : Record :=
  { service := "a", realm := "n", protocol := "http", host := "h", port := 1, instanceId := "x"
    metadata := ∅ }

/-- A record is registered and the session subscribes while the first list is under way. -/
def listening : List Event :=
  [.watch "a" "w", .proceed "a", .step (.evaluate 0), .change (.register exampleRecord),
    .step (.ingest 0), .step (.evaluate 0), .step (.evaluate 0)]

theorem quiescent_fresh_when_subscribed :
    Fresh ((create "r" (.create "n" ["http"]) (.memory .empty) .standard true "").run
      listening).1 "a" := by
  have hbuild : LatestBuild
      (create "r" (.create "n" ["http"]) (.memory .empty) .standard true "") 0
      (listening.take 6) listening := by
    refine ⟨⟨listening.take 5, .step (.evaluate 0), "a", _, rfl, List.mem_singleton_self _⟩, ?_⟩
    exact ⟨[.step (.evaluate 0)], rfl, fun trigger hmem =>
      absurd (List.mem_singleton.1 hmem) (by simp)⟩
  have hquiescent : Quiescent
      ((create "r" (.create "n" ["http"]) (.memory .empty) .standard true "").run
        listening).1 "a" 0 :=
    ⟨rfl, _, 0, _, rfl, rfl, rfl, rfl, rfl, rfl⟩
  have hiff := quiescent_fresh_iff "r" (.create "n" ["http"]) .empty .standard true "" hbuild
    hquiescent List.prefix_rfl ⟨[.step (.evaluate 0)], rfl⟩ ⟨_, rfl, Or.inl ⟨_, rfl⟩⟩
  exact hiff.2 rfl

/-- A record that is registered after the first build and before the first subscription is missed:
the service is quiescent, and its current endpoints are not those of the records. So it stays until
a later signal or the next periodic resync, which is half a minute later with the settings here. -/
theorem change_missed_before_subscription :
    ∃ front events,
      LatestBuild (create "r" (.create "n" ["http"]) (.memory .empty) .standard true "") 0 front
        events ∧
      Quiescent ((create "r" (.create "n" ["http"]) (.memory .empty) .standard true "").run
        events).1 "a" 0 ∧
      ¬Fresh ((create "r" (.create "n" ["http"]) (.memory .empty) .standard true "").run
        events).1 "a" := by
  refine ⟨[.watch "a" "w", .proceed "a", .step (.evaluate 0), .step (.evaluate 0)],
    [.watch "a" "w", .proceed "a", .step (.evaluate 0), .step (.evaluate 0),
      .step (.evaluate 0), .change (.register exampleRecord), .step (.ingest 0)],
    ⟨?_, ?_⟩, ?_, ?_⟩
  · exact ⟨[.watch "a" "w", .proceed "a", .step (.evaluate 0)], .step (.evaluate 0), "a", _, rfl,
      List.mem_singleton_self _⟩
  · exact ⟨[.step (.evaluate 0), .change (.register exampleRecord), .step (.ingest 0)], rfl,
      fun trigger hmem => absurd (List.mem_singleton.1 hmem) (by simp)⟩
  · exact ⟨rfl, _, 0, _, rfl, rfl, rfl, rfl, rfl, rfl⟩
  · intro hfresh
    have hsame : Snapshot.endpointsOf (ResolverConfig.policyFor (.create "n" ["http"]) "a") [] =
        Snapshot.endpointsOf (ResolverConfig.policyFor (.create "n" ["http"]) "a")
          [exampleRecord] := Option.some.inj hfresh
    have hlength := congrArg List.length hsame
    simp only [Snapshot.endpointsOf] at hlength
    rw [List.length_mergeSort, List.length_mergeSort] at hlength
    revert hlength
    decide

end Resolver

end Lookout
