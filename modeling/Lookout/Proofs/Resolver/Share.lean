import Lookout.Proofs.Resolver.Freshness
import Lookout.Proofs.Source.Share

/-!
# What a resolver does for one service

The share of a service in a resolver over a registry in memory: its sessions, numbered among
themselves, its history, what a call has left to do about it, and its share of the registry.
Counters are of all services together and are not part of it. An event about another service leaves
the share alone; an event about the service, or about all, does to the share what it does to the
resolver. So the share behaves like a resolver that has never heard of the other services.
-/
set_option autoImplicit false

namespace Lookout

/-! ## Shares of sources and sessions -/

namespace Source

def only (src : Source) (a : String) : Source :=
  match src with
  | .memory m => .memory (m.only a)
  | .fixed s => .fixed s

/-- The services of all subscriptions that the source has given ids. -/
def owners : Source → List String
  | .memory m => m.owners
  | .fixed _ => []

end Source

def Ingestion.renumber (f : SubscriptionId → SubscriptionId) : Ingestion → Ingestion
  | .reading id? => .reading (id?.map f)
  | g => g

def Session.renumber (f : SubscriptionId → SubscriptionId) (s : Session) : Session :=
  { s with ingestion := s.ingestion.renumber f }

namespace Session

section
variable (f : SubscriptionId → SubscriptionId) (s : Session)

@[simp]
theorem renumber_service : (s.renumber f).service = s.service := rfl

@[simp]
theorem renumber_registry : (s.renumber f).registry = s.registry := rfl

@[simp]
theorem renumber_debouncer : (s.renumber f).debouncer = s.debouncer := rfl

@[simp]
theorem renumber_evaluation : (s.renumber f).evaluation = s.evaluation := rfl

@[simp]
theorem renumber_ingestion : (s.renumber f).ingestion = s.ingestion.renumber f := rfl

@[simp]
theorem renumber_nextResync? : (s.renumber f).nextResync? = s.nextResync? := rfl

end

end Session

/-- What a call has left to do about one service. -/
def Call.only? (a : String) (f : Nat → Nat) : Call → Option Call
  | .joining service i w => if service = a then some (.joining service (f i) w) else none
  | .keeping service i => if service = a then some (.keeping service (f i)) else none
  | .cancelling service i => if service = a then some (.cancelling service (f i)) else none
  | .closing sessions => Call.closing? (sessions.only a f)

namespace Resolver

def Task.renumber (f : Nat → Nat) : Task → Task
  | .evaluate i => .evaluate (f i)
  | .ingest i => .ingest (f i)
  | .resync i => .resync (f i)
  | .deliver i ticket => .deliver (f i) ticket

def owners (r : Resolver) : List String := r.sessions.map (·.service)

/-- The share of a service, with counters of its own. -/
def only (r : Resolver) (a : String) (k : Metrics) : Resolver :=
  { r with
    source := r.source.only a
    metrics := k
    sessions := (share Session.service a r.sessions).map
      (Session.renumber (rank a r.source.owners))
    watched := r.watched.only a (rank a r.owners)
    histories := r.histories.only a id
    call? := r.call?.bind (Call.only? a (rank a r.owners)) }

end Resolver

namespace Resolver

section
variable (r : Resolver) (a : String) (k : Metrics)

@[simp]
theorem only_config : (r.only a k).config = r.config := rfl

@[simp]
theorem only_hooked : (r.only a k).hooked = r.hooked := rfl

@[simp]
theorem only_now : (r.only a k).now = r.now := rfl

end

end Resolver

def Notice.renumber (f : Nat → Nat) : Notice → Notice
  | .triggered i trigger => .triggered (f i) trigger
  | .built i service s => .built (f i) service s
  | .published i service s report => .published (f i) service s report
  | .failed service failure => .failed service failure
  | .delivered i ticket service w s => .delivered (f i) ticket service w s

namespace Resolver

section
variable {r : Resolver} {a : String} {i : Nat} {s : Session} {k : Metrics}

theorem only_metrics {q : Resolver} {j : Metrics} (h : q.only a j = r.only a k) (l : Metrics) :
    q.only a l = r.only a l :=
  congrArg (fun p : Resolver => { p with metrics := l }) h

theorem owners_getElem? (hs : r.session? i = some s) : r.owners[i]? = some s.service := by
  have hs' : r.sessions[i]? = some s := hs
  simp [owners, hs']

theorem session?_only (hs : r.session? i = some s) (ha : s.service = a) (k : Metrics) :
    (r.only a k).session? (rank a r.owners i) =
      some (s.renumber (rank a r.source.owners)) := by
  have hshare := share_getElem? (o := Session.service) hs ha
  simp only [session?, only, owners]
  rw [List.getElem?_map, hshare]
  rfl

theorem historyOf_only (r : Resolver) (a : String) (k : Metrics) :
    (r.only a k).historyOf a = r.historyOf a := by
  simp only [historyOf, only]
  rw [Dict.find?_only_self, Option.map_id, id_eq]

theorem builder_only (r : Resolver) (a : String) (k : Metrics) :
    (r.only a k).builder = r.builder := by
  simp only [builder, only]
  cases r.source <;> rfl

/-! ## Changes of a session -/

theorem owners_modify {f : Session → Session} (hs : r.session? i = some s)
    (hf : (f s).service = s.service) : (r.modify i f).owners = r.owners :=
  map_owner_modify hs hf

theorem only_modify {f g : Session → Session} (hs : r.session? i = some s)
    (hf : (f s).service = s.service)
    (hfg : (f s).renumber (rank s.service r.source.owners) =
      g (s.renumber (rank s.service r.source.owners))) (k : Metrics) :
    (r.modify i f).only s.service k =
      (r.only s.service k).modify (rank s.service r.owners i) g := by
  have hshare := share_modify (o := Session.service) (f := f) hs rfl hf
  have hfound := share_getElem? (o := Session.service) hs rfl
  have hsessions : (share Session.service s.service (r.sessions.modify i f)).map
        (Session.renumber (rank s.service r.source.owners)) =
      ((share Session.service s.service r.sessions).map
        (Session.renumber (rank s.service r.source.owners))).modify
          (rank s.service r.owners i) g := by
    rw [hshare]
    apply List.ext_getElem?
    intro j
    rw [List.getElem?_map, List.getElem?_modify, List.getElem?_modify, List.getElem?_map]
    by_cases hij : rank s.service r.owners i = j
    · subst hij
      simp only [owners, if_pos]
      rw [hfound]
      exact congrArg some hfg
    · simp only [owners] at hij ⊢
      simp [hij]
  have howners := owners_modify hs hf
  simp only [only]
  rw [howners]
  simp only [modify]
  rw [hsessions]

theorem only_modify_of_ne {f : Session → Session} (hs : r.session? i = some s)
    (ha : s.service ≠ a) (hf : (f s).service = s.service) (k : Metrics) :
    (r.modify i f).only a k = r.only a k := by
  have hshare := share_modify_of_ne (o := Session.service) (f := f) hs ha
    (by rw [hf]; exact ha)
  have howners := owners_modify hs hf
  simp only [only]
  rw [howners]
  simp only [modify]
  rw [hshare]

/-! ## Changes of the source -/

/-- The source changes, but not in the ranks of the subscriptions that sessions of the service
read. -/
theorem only_source (src : Source)
    (hranks : ∀ (j : Nat) (p : Session) (id : SubscriptionId), r.session? j = some p →
      p.service = a → p.ingestion = .reading (some id) →
      rank a src.owners id = rank a r.source.owners id) (k : Metrics) :
    Resolver.only { r with source := src } a k = { r.only a k with source := src.only a } := by
  have hsessions : (share Session.service a r.sessions).map
        (Session.renumber (rank a src.owners)) =
      (share Session.service a r.sessions).map (Session.renumber (rank a r.source.owners)) := by
    refine List.map_congr_left fun p hp => ?_
    obtain ⟨hmem, hservice⟩ := mem_share.1 hp
    obtain ⟨j, hj⟩ := List.getElem?_of_mem hmem
    simp only [Session.renumber]
    cases hingestion : p.ingestion with
    | reading id? =>
      cases id? with
      | none => rfl
      | some id =>
        simp only [Ingestion.renumber, Option.map_some]
        rw [hranks j p id hj hservice hingestion]
    | subscribing => rfl
    | backingOff t => rfl
    | ended => rfl
  simp only [only]
  rw [hsessions]
  rfl

theorem only_source_of_owners (src : Source) (howners : src.owners = r.source.owners)
    (k : Metrics) :
    Resolver.only { r with source := src } a k = { r.only a k with source := src.only a } :=
  only_source src (fun j p id _ _ _ => by rw [howners]) k

/-! ## Tasks of the service -/

/-- The source is a registry in memory, and every session has to do with the records and with a
subscription of its own service only. -/
structure Served (r : Resolver) (m : Memory) : Prop where
  source : r.source = .memory m
  building : ∀ {i s}, r.session? i = some s → ∀ b, s.evaluation = .building b →
    b.listing.service = s.service
  identified : ∀ {i s}, r.session? i = some s → s.ingestion ≠ .reading none
  holds : ∀ {i s id}, r.session? i = some s → s.ingestion = .reading (some id) →
    ∃ sub, m.Holds s.service id sub

theorem Sane.served {buffer : Nat} {ns : List Notice} {m : Memory} (h : Sane buffer r ns m) :
    r.Served m := by
  have hroutine : ∀ {i s}, r.session? i = some s → r.routines[i]? = some s.routine := by
    intro i s hs
    rw [routines_getElem?, hs]
    rfl
  refine ⟨h.source, ?_, ?_, ?_⟩
  · intro i s hs b hb
    exact ((h.tuned.sound i _ (hroutine hs)).building b hb).2
  · intro i s hs
    exact (h.tuned.sound i _ (hroutine hs)).identified
  · intro i s id hs hid
    exact h.tuned.holds i _ id (hroutine hs) hid

/-- What a share does is what the resolver does, with its sessions renumbered. -/
def Mirrors (a : String) (f : Nat → Nat) (full sole : Resolver × List Notice) : Prop :=
  ∃ k, sole = (full.1.only a k, full.2.map (Notice.renumber f))

theorem mirrors_ite {f : Nat → Nat} {c c' : Prop} [Decidable c] [Decidable c']
    {x y x' y' : Resolver × List Notice} (hc : c ↔ c') (hx : Mirrors a f x x')
    (hy : Mirrors a f y y') : Mirrors a f (if c then x else y) (if c' then x' else y') := by
  by_cases hpos : c
  · rw [if_pos hpos, if_pos (hc.1 hpos)]
    exact hx
  · rw [if_neg hpos, if_neg fun hpos' => hpos (hc.2 hpos')]
    exact hy

theorem mirrors_modify {f g : Session → Session} (hs : r.session? i = some s)
    (hf : (f s).service = s.service)
    (hfg : (f s).renumber (rank s.service r.source.owners) =
      g (s.renumber (rank s.service r.source.owners))) (k : Metrics) (ns : List Notice)
    {ms : List Notice} (hns : ms = ns.map (Notice.renumber (rank s.service r.owners))) :
    Mirrors s.service (rank s.service r.owners) (r.modify i f, ns)
      ((r.only s.service k).modify (rank s.service r.owners i) g, ms) := by
  refine ⟨k, ?_⟩
  rw [only_modify hs hf hfg k, hns]

theorem mirrors_served {f g : Session → Session} (hs : r.session? i = some s) (src : Source)
    (hsrc : src.owners = r.source.owners) (c : Metrics.Count) (hf : (f s).service = s.service)
    (hfg : (f s).renumber (rank s.service r.source.owners) =
      g (s.renumber (rank s.service r.source.owners))) (k : Metrics) (ns : List Notice)
    {ms : List Notice} (hns : ms = ns.map (Notice.renumber (rank s.service r.owners))) :
    Mirrors s.service (rank s.service r.owners)
      ((count { r with source := src } c).modify i f, ns)
      ((count { r.only s.service k with source := src.only s.service } c).modify
        (rank s.service r.owners i) g, ms) := by
  have hserved : (count { r with source := src } c).only s.service (k.count c) =
      count { r.only s.service k with source := src.only s.service } c :=
    only_source_of_owners (r := r.count c) src hsrc (k.count c)
  have hmodify := mirrors_modify (r := count { r with source := src } c) hs hf
    (by rw [← hsrc] at hfg; exact hfg) (k.count c) ns hns
  rw [hserved] at hmodify
  exact hmodify

theorem report_only (r : Resolver) (a : String) (k : Metrics) (service : String) (f : Failure)
    (g : Nat → Nat) :
    (r.only a k).report service f = (r.report service f).map (Notice.renumber g) := by
  simp only [report, only_hooked]
  by_cases hhooked : r.hooked = true
  · simp [hhooked, Notice.renumber]
  · simp [hhooked]

theorem source_only {m : Memory} (hm : r.source = .memory m) (a : String) (k : Metrics) :
    (r.only a k).source = .memory (m.only a) := by
  simp only [only]
  rw [hm]
  rfl

theorem beginBuild_eq {m : Memory} (hm : r.source = .memory m) (i : Nat) (s : Session)
    (d : Debouncer) (trigger : Trigger) :
    r.beginBuild i s d trigger =
      (Resolver.modify { r with
          source := .memory (m.countList s.service), metrics := r.metrics.count .evaluation } i
        fun q => { q with
          debouncer := d
          evaluation := .building
            (r.builder.start (.memory m) r.now s.service s.policy).2 },
        [.triggered i trigger]) := by
  simp only [beginBuild]
  rw [hm]
  rfl

theorem mirrors_beginBuild {m : Memory} (hm : r.source = .memory m) (hs : r.session? i = some s)
    (d : Debouncer) (trigger : Trigger) (k : Metrics) :
    Mirrors s.service (rank s.service r.owners) (r.beginBuild i s d trigger)
      ((r.only s.service k).beginBuild (rank s.service r.owners i)
        (s.renumber (rank s.service r.source.owners)) d trigger) := by
  have hshare : Source.only (.memory (m.countList s.service)) s.service =
      .memory ((m.only s.service).countList s.service) :=
    congrArg Source.memory (m.only_countList_self s.service)
  have hserved := mirrors_served (f := fun q => { q with
      debouncer := d
      evaluation := .building (r.builder.start (.memory m) r.now s.service s.policy).2 })
    (g := fun q => { q with
      debouncer := d
      evaluation := .building (r.builder.start (.memory m) r.now s.service s.policy).2 })
    hs (.memory (m.countList s.service)) (by rw [hm]; rfl) .evaluation rfl rfl k
    [.triggered i trigger] rfl
  rw [hshare] at hserved
  rw [beginBuild_eq hm, beginBuild_eq (source_only hm s.service k), builder_only]
  exact hserved

theorem outcome?_only {m : Memory} {b : Builder} {build : Builder.Build}
    (hbuild : build.listing.service = a) (now : Instant) (revision : UInt64) :
    b.outcome? build now (.memory (m.only a)) revision =
      b.outcome? build now (.memory m) revision := by
  have hrecords := m.recordsOf_only build.listing.service
  rw [hbuild] at hrecords
  simp only [Builder.outcome?, Listing.outcome?, Source.recordsOf]
  rw [hbuild, hrecords]

theorem mirrors_finishBuild (hs : r.session? i = some s) (snapshot : Snapshot) (k : Metrics) :
    Mirrors s.service (rank s.service r.owners) (r.finishBuild i s snapshot)
      ((r.only s.service k).finishBuild (rank s.service r.owners i)
        (s.renumber (rank s.service r.source.owners)) snapshot) := by
  have hinsert := Dict.only_insert_self r.histories s.service
    { r.historyOf s.service with revision := snapshot.revision } id
  have hmodify := mirrors_modify (r := { r.count (.build true) with
      histories := r.histories.insert s.service
        { r.historyOf s.service with revision := snapshot.revision } })
    (f := fun q => { q with evaluation := .publishing snapshot })
    (g := fun q => { q with evaluation := .publishing snapshot })
    hs rfl rfl (k.count (.build true)) [.built i s.service snapshot] rfl
  simp only [finishBuild, Session.renumber_service]
  rw [historyOf_only]
  simp only [only] at hmodify ⊢
  rw [hinsert] at hmodify
  exact hmodify

theorem mirrors_publish (hs : r.session? i = some s) (snapshot : Snapshot) (k : Metrics) :
    Mirrors s.service (rank s.service r.owners) (r.publish i s snapshot)
      ((r.only s.service k).publish (rank s.service r.owners i)
        (s.renumber (rank s.service r.source.owners)) snapshot) :=
  mirrors_modify (r := { r with metrics := (s.registry.notify snapshot).2.countIn r.metrics })
    (f := fun q => Session.endEvaluation { q with registry := (s.registry.notify snapshot).1 })
    (g := fun q => Session.endEvaluation { q with registry := (s.registry.notify snapshot).1 })
    hs rfl rfl ((s.registry.notify snapshot).2.countIn k)
    [.published i s.service snapshot (s.registry.notify snapshot).2] rfl

theorem mirrors_evaluate {m : Memory} (h : r.Served m) (hs : r.session? i = some s)
    (k : Metrics) :
    Mirrors s.service (rank s.service r.owners) (r.evaluate i s)
      ((r.only s.service k).evaluate (rank s.service r.owners i)
        (s.renumber (rank s.service r.source.owners))) := by
  simp only [evaluate, Session.renumber_evaluation, Session.renumber_debouncer,
    Session.renumber_service]
  cases hevaluation : s.evaluation with
  | ended => exact ⟨k, rfl⟩
  | waiting w =>
    refine mirrors_ite Iff.rfl ?_ ?_
    · exact mirrors_modify hs (by rfl) (by rfl) k _ (by rfl)
    · rw [only_now]
      rcases s.debouncer.poll r.now w with ⟨d, trigger | v⟩
      · exact mirrors_beginBuild h.source hs d trigger k
      · exact mirrors_modify hs (by rfl) (by rfl) k _ (by rfl)
  | building build =>
    refine mirrors_ite Iff.rfl ?_ ?_
    · exact mirrors_modify hs (by rfl) (by rfl) k _ (by rfl)
    · rw [only_now, builder_only, historyOf_only, source_only h.source s.service k,
        outcome?_only (h.building hs build hevaluation), h.source]
      cases r.builder.outcome? build r.now (.memory m) (r.historyOf s.service).revision with
      | none => exact ⟨k, rfl⟩
      | some outcome =>
        cases outcome with
        | ok snapshot => exact mirrors_finishBuild hs snapshot k
        | error f =>
          exact mirrors_modify (r := r.count (.build false)) hs (by rfl) (by rfl)
            (k.count (.build false)) _ (r.report_only s.service k s.service f _)
  | publishing snapshot => exact mirrors_publish hs snapshot k

/-! ### Subscriptions -/

theorem subscribe_of_some {m : Memory} (hm : r.source = .memory m) {reason : String}
    (h : m.subscribeFailure? = some reason) (i : Nat) (s : Session) :
    r.subscribe i s = r.failSubscription i s reason := by
  have hrefused : r.source.subscribe s.service = .error reason := by
    rw [hm]
    simp only [Source.subscribe]
    rw [Memory.subscribe_of_some h]
    rfl
  simp only [subscribe]
  rw [hrefused]

theorem subscribe_of_none {m : Memory} (hm : r.source = .memory m)
    (h : m.subscribeFailure? = none) (i : Nat) (s : Session) :
    r.subscribe i s =
      (Resolver.modify { r with source := .memory (m.opened s.service) } i fun q => { q with
          ingestion := .reading (some m.subscriptions.length)
          attempt := 0
          debouncer := if q.reconnecting then q.debouncer.signal r.now else q.debouncer },
        []) := by
  have hmade : r.source.subscribe s.service =
      .ok (.memory (m.opened s.service), some m.subscriptions.length) := by
    rw [hm]
    simp only [Source.subscribe]
    rw [Memory.subscribe_of_none h]
    rfl
  simp only [subscribe]
  rw [hmade]

/-- What a session does about what it has read. -/
def heed (r : Resolver) (i : Nat) (s : Session) (received : Received) (src dropped : Source) :
    Resolver × List Notice :=
  match received with
  | .pending => (r, [])
  | .closed => failSubscription { r with source := dropped } i s "signal stream closed"
  | .signal .changed =>
    ((count { r with source := src } .signal).modify i fun s =>
      { s with debouncer := s.debouncer.signal r.now }, [])
  | .signal .resync =>
    ((count { r with source := src } .resync).modify i fun s =>
      { s with debouncer := s.debouncer.force .resync }, [])

theorem read_eq {m : Memory} (hm : r.source = .memory m) (i : Nat) (s : Session)
    (id : SubscriptionId) :
    r.read i s (some id) =
      r.heed i s (m.receive id).1 (.memory (m.receive id).2)
        (.memory (m.modify id Subscription.drop)) := by
  have hreceived : r.source.receive (some id) = ((m.receive id).1, .memory (m.receive id).2) := by
    rw [hm]
    rfl
  have hreleased : r.source.release (some id) = .memory (m.modify id Subscription.drop) := by
    rw [hm]
    rfl
  unfold Resolver.read
  rw [hreceived, hreleased]
  cases (m.receive id).1 with
  | pending => rfl
  | closed => rfl
  | signal signal => cases signal <;> rfl

theorem mirrors_failSubscription (hs : r.session? i = some s) (reason : String) (k : Metrics) :
    Mirrors s.service (rank s.service r.owners) (r.failSubscription i s reason)
      ((r.only s.service k).failSubscription (rank s.service r.owners i)
        (s.renumber (rank s.service r.source.owners)) reason) :=
  mirrors_modify (r := r.count .subscriptionFailure) hs (by rfl) (by rfl)
    (k.count .subscriptionFailure) _ (r.report_only s.service k s.service _ _)

/-- A subscription that is new has the rank that its id has in the share. -/
theorem mirrors_subscribe {m : Memory} (h : r.Served m) (hs : r.session? i = some s)
    (k : Metrics) :
    Mirrors s.service (rank s.service r.owners) (r.subscribe i s)
      ((r.only s.service k).subscribe (rank s.service r.owners i)
        (s.renumber (rank s.service r.source.owners))) := by
  have honly := source_only h.source s.service k
  cases hfailure : m.subscribeFailure? with
  | some reason =>
    have hfailure' : (m.only s.service).subscribeFailure? = some reason := hfailure
    rw [subscribe_of_some h.source hfailure, subscribe_of_some honly hfailure']
    exact mirrors_failSubscription hs reason k
  | none =>
    have hfailure' : (m.only s.service).subscribeFailure? = none := hfailure
    have hranks : ∀ id, id ≤ m.subscriptions.length →
        rank s.service (m.opened s.service).owners id =
          rank s.service r.source.owners id := by
      intro id hid
      rw [h.source]
      exact Memory.rank_opened hid s.service s.service
    have hshare := only_source (r := r) (a := s.service) (.memory (m.opened s.service)) (by
      intro j p id hp hservice hreading
      obtain ⟨sub, hsub⟩ := h.holds hp hreading
      exact hranks id (Nat.le_of_lt hsub.lt_length)) k
    have hnext : rank s.service (m.opened s.service).owners m.subscriptions.length =
        (m.only s.service).subscriptions.length := by
      rw [Memory.rank_opened (Nat.le_refl _)]
      exact m.rank_next s.service
    have hmodify := mirrors_modify
      (r := { r with source := .memory (m.opened s.service) })
      (f := fun q => { q with
        ingestion := .reading (some m.subscriptions.length)
        attempt := 0
        debouncer := if q.reconnecting then q.debouncer.signal r.now else q.debouncer })
      (g := fun q => { q with
        ingestion := .reading (some (m.only s.service).subscriptions.length)
        attempt := 0
        debouncer := if q.reconnecting then q.debouncer.signal r.now else q.debouncer })
      hs rfl (by
        simp only [Session.renumber, Ingestion.renumber, Option.map_some, Source.owners]
        rw [hnext]
        rfl) k [] rfl
    have hsource : Source.only (.memory (m.opened s.service)) s.service =
        .memory ((m.only s.service).opened s.service) :=
      congrArg Source.memory (m.only_opened s.service)
    rw [hshare, hsource] at hmodify
    rw [subscribe_of_none h.source hfailure, subscribe_of_none honly hfailure']
    exact hmodify

theorem mirrors_heed (src dropped : Source) (hs : r.session? i = some s)
    (hsrc : src.owners = r.source.owners) (hdropped : dropped.owners = r.source.owners)
    (received : Received) (k : Metrics) :
    Mirrors s.service (rank s.service r.owners) (r.heed i s received src dropped)
      ((r.only s.service k).heed (rank s.service r.owners i)
        (s.renumber (rank s.service r.source.owners)) received (src.only s.service)
        (dropped.only s.service)) := by
  cases received with
  | pending => exact ⟨k, rfl⟩
  | closed =>
    have hfail := mirrors_failSubscription (r := { r with source := dropped }) hs
      "signal stream closed" k
    rw [only_source_of_owners (r := r) dropped hdropped] at hfail
    dsimp only at hfail
    rw [hdropped] at hfail
    exact hfail
  | signal signal =>
    cases signal with
    | changed => exact mirrors_served hs src hsrc .signal (by rfl) (by rfl) k _ (by rfl)
    | resync => exact mirrors_served hs src hsrc .resync (by rfl) (by rfl) k _ (by rfl)

theorem mirrors_leave {m : Memory} (hm : r.source = .memory m) (hs : r.session? i = some s)
    {id : SubscriptionId} {sub : Subscription} (hsub : m.Holds s.service id sub) (k : Metrics) :
    Mirrors s.service (rank s.service r.owners)
      (Resolver.modify { r with source := r.source.release (some id) } i
        fun q => { q with ingestion := .ended }, [])
      (Resolver.modify { r.only s.service k with
          source := (r.only s.service k).source.release
            (some (rank s.service r.source.owners id)) } (rank s.service r.owners i)
        fun q => { q with ingestion := .ended }, []) := by
  have hrank : rank s.service r.source.owners id = rank s.service m.owners id := by
    rw [hm]
    rfl
  have hfull : r.source.release (some id) = .memory (m.modify id Subscription.drop) := by
    rw [hm]
    rfl
  have hsole : (r.only s.service k).source.release (some (rank s.service r.source.owners id)) =
      Source.only (.memory (m.modify id Subscription.drop)) s.service := by
    rw [source_only hm, hrank]
    simp only [Source.release, Source.only]
    rw [Memory.only_modify hsub]
  have hmodify := mirrors_modify
    (r := { r with source := .memory (m.modify id Subscription.drop) })
    (f := fun q => { q with ingestion := .ended }) (g := fun q => { q with ingestion := .ended })
    hs rfl rfl k [] rfl
  rw [only_source_of_owners (r := r) _ (by rw [hm]; exact m.owners_modify id _)] at hmodify
  rw [hfull, hsole]
  exact hmodify

theorem mirrors_read {m : Memory} (hm : r.source = .memory m) (hs : r.session? i = some s)
    {id : SubscriptionId} {sub : Subscription} (hsub : m.Holds s.service id sub) (k : Metrics) :
    Mirrors s.service (rank s.service r.owners) (r.read i s (some id))
      ((r.only s.service k).read (rank s.service r.owners i)
        (s.renumber (rank s.service r.source.owners))
        (some (rank s.service m.owners id))) := by
  have hheed := mirrors_heed (.memory (m.receive id).2)
    (.memory (m.modify id Subscription.drop)) hs
    (by rw [hm]; exact m.owners_receive id) (by rw [hm]; exact m.owners_modify id _)
    (m.receive id).1 k
  rw [read_eq hm, read_eq (source_only hm s.service k), Memory.receive_only hsub,
    ← Memory.only_modify hsub]
  exact hheed

theorem mirrors_ingest {m : Memory} (h : r.Served m) (hs : r.session? i = some s) (k : Metrics) :
    Mirrors s.service (rank s.service r.owners) (r.ingest i s)
      ((r.only s.service k).ingest (rank s.service r.owners i)
        (s.renumber (rank s.service r.source.owners))) := by
  simp only [ingest, Session.renumber_ingestion]
  cases hingestion : s.ingestion with
  | ended => exact ⟨k, rfl⟩
  | subscribing =>
    refine mirrors_ite Iff.rfl ?_ ?_
    · exact mirrors_modify hs (by rfl) (by rfl) k _ (by rfl)
    · exact mirrors_subscribe h hs k
  | reading id? =>
    cases id? with
    | none => exact absurd hingestion (h.identified hs)
    | some id =>
      obtain ⟨sub, hsub⟩ := h.holds hs hingestion
      have hrank : rank s.service r.source.owners id = rank s.service m.owners id := by
        rw [h.source]
        rfl
      refine mirrors_ite Iff.rfl ?_ ?_
      · exact mirrors_leave h.source hs hsub k
      · have hread := mirrors_read h.source hs hsub k
        rw [← hrank] at hread
        exact hread
  | backingOff t =>
    refine mirrors_ite Iff.rfl ?_ (mirrors_ite Iff.rfl ?_ ?_)
    · exact mirrors_modify hs (by rfl) (by rfl) k _ (by rfl)
    · exact mirrors_modify hs (by rfl) (by rfl) k _ (by rfl)
    · exact ⟨k, rfl⟩

theorem mirrors_resync (hs : r.session? i = some s) (k : Metrics) :
    Mirrors s.service (rank s.service r.owners) (r.resync i s)
      ((r.only s.service k).resync (rank s.service r.owners i)
        (s.renumber (rank s.service r.source.owners))) := by
  simp only [resync, Session.renumber_nextResync?, only_config]
  cases s.nextResync? with
  | none => exact ⟨k, rfl⟩
  | some due =>
    cases r.config.resyncInterval? with
    | none => exact ⟨k, rfl⟩
    | some period =>
      refine mirrors_ite Iff.rfl ?_ (mirrors_ite Iff.rfl ?_ ?_)
      · exact mirrors_modify hs (by rfl) (by rfl) k _ (by rfl)
      · exact mirrors_modify (r := r.count .resync) hs (by rfl) (by rfl) (k.count .resync) _
          (by rfl)
      · exact ⟨k, rfl⟩

theorem mirrors_deliver (hs : r.session? i = some s) (ticket : Nat) (k : Metrics) :
    Mirrors s.service (rank s.service r.owners) (r.deliver i s ticket)
      ((r.only s.service k).deliver (rank s.service r.owners i)
        (s.renumber (rank s.service r.source.owners)) ticket) := by
  simp only [deliver, Session.renumber_registry, Session.renumber_service]
  refine mirrors_modify hs (by rfl) (by rfl) k _ ?_
  split <;> rfl

theorem Task.session_renumber (f : Nat → Nat) (t : Task) :
    (t.renumber f).session = f t.session := by
  cases t <;> rfl

/-- A step of a session of the service is the step of that session in the share. -/
theorem mirrors_step {m : Memory} (h : r.Served m) {t : Task} (hs : r.session? t.session = some s)
    (k : Metrics) :
    Mirrors s.service (rank s.service r.owners) (r.step t)
      ((r.only s.service k).step (t.renumber (rank s.service r.owners))) := by
  have hfound := session?_only hs rfl k
  simp only [step]
  rw [Task.session_renumber, hs, hfound]
  cases t with
  | evaluate i => exact mirrors_evaluate h hs k
  | ingest i => exact mirrors_ingest h hs k
  | resync i => exact mirrors_resync hs k
  | deliver i ticket => exact mirrors_deliver hs ticket k

end

end Resolver

end Lookout
