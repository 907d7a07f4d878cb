import Lookout.Proofs.Resolver.Aspect
import Lookout.Proofs.Source.Memory

/-!
# The activity of a resolver

The activity is what evaluations and signals change: how far the tasks of every session have come,
and the registry in memory that they list and listen to. Who watches is left out.
`Resolver.activity_react` lists all that one event can do to it.
-/
set_option autoImplicit false

namespace Lookout

/-- How far the evaluations and the signals of a session have come. -/
structure Routine where
  service : String
  policy : Policy
  debouncer : Debouncer
  evaluation : Evaluation
  ingestion : Ingestion
  reconnecting : Bool

def Session.routine (s : Session) : Routine :=
  ⟨s.service, s.policy, s.debouncer, s.evaluation, s.ingestion, s.reconnecting⟩

/-- Whether a notice is about the beginning or the success of an evaluation. -/
def Notice.isBuild : Notice → Bool
  | .triggered _ _ => true
  | .built _ _ _ => true
  | .published _ _ _ _ => true
  | _ => false

structure Activity where
  memory : Memory
  routines : List Routine

namespace Activity

/-- A session's own subscription is all that it touches. -/
def Touches (q : Routine) (m m' : Memory) : Prop :=
  m' = m ∨ ∃ id f, q.ingestion = .reading (some id) ∧ m' = m.modify id f

/-- What one step of a task of session `i` does. What has been built is given up by no step. -/
inductive Move (i : Nat) (m : Memory) (q : Routine) : List Notice → Memory → Routine → Prop
  | ended (hready : q.evaluation.ready? = none) : Move i m q [] m { q with evaluation := .ended }
  | looked (d : Debouncer) (w : Waiter) (hready : q.evaluation.ready? = none)
      (hpending : d.isPending = q.debouncer.isPending) :
      Move i m q [] m { q with debouncer := d, evaluation := .waiting w }
  | triggered (d : Debouncer) (b : Builder.Build) (trigger : Trigger)
      (hservice : b.listing.service = q.service) (hpolicy : b.policy = q.policy) :
      Move i m q [.triggered i trigger] (m.countList q.service)
        { q with debouncer := d, evaluation := .building b }
  | built {b : Builder.Build} (label : Snapshot.Label) (revision : UInt64)
      (hbuilding : q.evaluation = .building b) :
      Move i m q [.built i q.service (.build label b.listing.service b.policy revision
          (m.recordsOf b.listing.service))] m
        { q with evaluation := .publishing (.build label b.listing.service b.policy revision
          (m.recordsOf b.listing.service)) }
  | published {c : Snapshot} (report : Report) (hready : q.evaluation = .publishing c) :
      Move i m q [.published i q.service c report] m
        { q with debouncer := q.debouncer.complete, evaluation := .waiting .fresh }
  | failed {ns : List Notice} (hready : q.evaluation.ready? = none)
      (hns : ∀ n ∈ ns, n.isBuild = false) :
      Move i m q ns m
        { q with debouncer := q.debouncer.complete, evaluation := .waiting .fresh }
  | deafened {m' : Memory} (htouch : Touches q m m') :
      Move i m q [] m' { q with ingestion := .ended }
  /-- A subscription is refused or closed. -/
  | interrupted {m' : Memory} {ns : List Notice} (t : Instant)
      (hns : ∀ n ∈ ns, n.isBuild = false) (htouch : Touches q m m') :
      Move i m q ns m' { q with ingestion := .backingOff t, reconnecting := true }
  | resumed {t : Instant} (hingestion : q.ingestion = .backingOff t) :
      Move i m q [] m { q with ingestion := .subscribing }
  | subscribed (now : Instant) (hingestion : q.ingestion = .subscribing) :
      Move i m q [] { m with subscriptions := m.subscriptions ++ [(q.service, .opened)] }
        { q with
          ingestion := .reading (some m.subscriptions.length)
          debouncer := if q.reconnecting then q.debouncer.signal now else q.debouncer }
  /-- A signal or a resync is noted. -/
  | noted {m' : Memory} (d : Debouncer) (htouch : Touches q m m') (hpending : d.isPending = true) :
      Move i m q [] m' { q with debouncer := d }

/-- A session that has just begun. -/
structure Fresh (config : ResolverConfig) (q : Routine) : Prop where
  policy : q.policy = config.policyFor q.service
  evaluation : q.evaluation = .waiting .fresh
  ingestion : q.ingestion = .subscribing

/-- What one event does to an activity. -/
inductive Step (config : ResolverConfig) (g : Activity) : List Notice → Activity → Prop
  | quiet {ns : List Notice} (hns : ∀ n ∈ ns, n.isBuild = false) : Step config g ns g
  | begun (q : Routine) (hfresh : Fresh config q) :
      Step config g [] { g with routines := g.routines ++ [q] }
  | changed (c : Memory.Change) : Step config g [] { g with memory := g.memory.apply c }
  | moved {i : Nat} {q q' : Routine} {m' : Memory} {ns : List Notice}
      (hq : g.routines[i]? = some q) (hmove : Move i g.memory q ns m' q') :
      Step config g ns ⟨m', g.routines.set i q'⟩

end Activity

/-! ## Debouncers -/

namespace Debouncer

theorem isPending_signal (d : Debouncer) (now : Instant) : (d.signal now).isPending = true := by
  unfold signal isPending
  split <;> simp

theorem isPending_force (d : Debouncer) (trigger : Trigger) :
    (d.force trigger).isPending = true := by
  simp [force, isPending]

theorem isPending_of_poll {d e : Debouncer} {now : Instant} {w v : Waiter}
    (h : d.poll now w = (e, .waiting v)) : e.isPending = d.isPending := by
  unfold poll at h
  dsimp only at h
  split at h
  · split at h
    · exact absurd (Prod.mk.inj h).2 (by simp)
    · rw [← (Prod.mk.inj h).1]
      cases w <;> rfl
  · rw [← (Prod.mk.inj h).1]

end Debouncer

namespace Resolver

def routines (r : Resolver) : List Routine := r.sessions.map Session.routine

@[simp]
theorem routines_getElem? (r : Resolver) (i : Nat) :
    r.routines[i]? = (r.session? i).map Session.routine := by
  simp [routines, session?]

theorem aspect_routine : Session.Aspect Session.routine id := ⟨fun _ _ => rfl, fun _ => rfl⟩

theorem routines_modify {r : Resolver} {i : Nat} {s : Session} (hs : r.session? i = some s)
    (f : Session → Session) : (r.modify i f).routines = r.routines.set i (f s).routine :=
  map_sessions_modify hs Session.routine f

theorem routines_modify_self (r : Resolver) (i : Nat) {f : Session → Session}
    (hf : ∀ s, (f s).routine = s.routine) : (r.modify i f).routines = r.routines :=
  r.map_sessions_modify_self i fun s _ => hf s

/-- What an event does to a resolver whose source is a registry in memory. -/
def Acts (r : Resolver) (m : Memory) (ns : List Notice) (r' : Resolver) : Prop :=
  r'.config = r.config ∧ ∃ m', r'.source = .memory m' ∧
    Activity.Step r.config ⟨m, r.routines⟩ ns ⟨m', r'.routines⟩

theorem Acts.quiet {r q : Resolver} {m : Memory} {ns : List Notice}
    (hconfig : q.config = r.config) (hsource : q.source = .memory m)
    (hroutines : q.routines = r.routines) (hns : ∀ n ∈ ns, n.isBuild = false) :
    Acts r m ns q := by
  refine ⟨hconfig, m, hsource, ?_⟩
  rw [hroutines]
  exact .quiet hns

theorem Acts.modify {r q : Resolver} {m m' : Memory} {ns : List Notice} {i : Nat} {s : Session}
    (hs : q.session? i = some s) (hconfig : q.config = r.config)
    (hsessions : q.sessions = r.sessions) (hsource : q.source = .memory m')
    {f : Session → Session} (hmove : Activity.Move i m s.routine ns m' (f s).routine) :
    Acts r m ns (q.modify i f) := by
  have hroutines : q.routines = r.routines := congrArg (List.map Session.routine) hsessions
  refine ⟨hconfig, m', hsource, ?_⟩
  rw [routines_modify hs, hroutines]
  refine .moved ?_ hmove
  rw [← hroutines, routines_getElem?, hs]
  rfl

/-! ## Calls -/

theorem acts_call (r : Resolver) {m : Memory} (hm : r.source = .memory m) {e : Event}
    (he : e.isCall = true) : Acts r m (r.react e).2 (r.react e).1 := by
  obtain ⟨halike, hquiet⟩ := r.alike_call he
  rw [hquiet]
  rcases map_sessions_call aspect_routine r he with ⟨hit, hsame⟩ | ⟨service, hbegun⟩
  · exact .quiet halike.config (halike.source.trans hm) (hsame.trans (halted_id hit _)) (by simp)
  · refine ⟨halike.config, m, halike.source.trans hm, ?_⟩
    rw [show (r.react e).1.routines = _ from hbegun]
    exact .begun _ ⟨rfl, rfl, rfl⟩

/-! ## Tasks -/

theorem report_isBuild (r : Resolver) (service : String) (f : Failure) :
    ∀ n ∈ r.report service f, n.isBuild = false := by
  intro n hn
  rw [eq_of_mem_report hn]
  rfl

theorem of_outcome? {b : Builder} {build : Builder.Build} {now : Instant} {m : Memory}
    {revision : UInt64} {c : Snapshot}
    (h : b.outcome? build now (.memory m) revision = some (.ok c)) :
    c = .build b.label build.listing.service build.policy (revision + 1)
      (m.recordsOf build.listing.service) := by
  simp only [Builder.outcome?] at h
  obtain ⟨result, hresult, hc⟩ := Option.map_eq_some_iff.1 h
  cases result with
  | error fault => simp at hc
  | ok records =>
    have hrecords : records = m.recordsOf build.listing.service := by
      unfold Listing.outcome? at hresult
      split at hresult
      · split at hresult
        · simp at hresult
        · exact (Except.ok.inj (Option.some.inj hresult)).symm
      · split at hresult
        · simp at hresult
        · simp at hresult
    rw [← hrecords]
    exact (Except.ok.inj hc).symm

theorem acts_beginBuild {r : Resolver} {m : Memory} (hm : r.source = .memory m) {i : Nat}
    {s : Session} (hs : r.session? i = some s) (d : Debouncer) (trigger : Trigger) :
    Acts r m (r.beginBuild i s d trigger).2 (r.beginBuild i s d trigger).1 := by
  have hsource : (r.builder.start r.source r.now s.service s.policy).1 =
      .memory (m.countList s.service) := by
    rw [hm]
    rfl
  have hservice : (r.builder.start r.source r.now s.service s.policy).2.listing.service =
      s.service := by
    rw [hm]
    rfl
  unfold beginBuild
  exact .modify (q := { r with
      source := (r.builder.start r.source r.now s.service s.policy).1
      metrics := r.metrics.count .evaluation }) hs rfl rfl hsource
    (.triggered d _ trigger hservice rfl)

theorem acts_finishBuild {r : Resolver} {m : Memory} (hm : r.source = .memory m) {i : Nat}
    {s : Session} (hs : r.session? i = some s) {b : Builder.Build}
    (hbuilding : s.evaluation = .building b) (label : Snapshot.Label) (revision : UInt64)
    {c : Snapshot} (hc : c = .build label b.listing.service b.policy revision
      (m.recordsOf b.listing.service)) :
    Acts r m (r.finishBuild i s c).2 (r.finishBuild i s c).1 := by
  subst hc
  unfold finishBuild
  exact .modify (q := { r.count (.build true) with
      histories := r.histories.insert s.service { r.historyOf s.service with revision } })
    hs rfl rfl hm (.built label revision hbuilding)

theorem acts_publish {r : Resolver} {m : Memory} (hm : r.source = .memory m) {i : Nat}
    {s : Session} (hs : r.session? i = some s) {c : Snapshot}
    (hready : s.evaluation = .publishing c) :
    Acts r m (r.publish i s c).2 (r.publish i s c).1 := by
  unfold publish
  exact .modify (q := { r with metrics := (s.registry.notify c).2.countIn r.metrics })
    hs rfl rfl hm (.published _ hready)

theorem acts_evaluate {r : Resolver} {m : Memory} (hm : r.source = .memory m) {i : Nat}
    {s : Session} (hs : r.session? i = some s) :
    Acts r m (r.evaluate i s).2 (r.evaluate i s).1 := by
  unfold evaluate
  split
  · exact .quiet rfl hm rfl (by simp)
  · next w hwaiting =>
    have hready : s.routine.evaluation.ready? = none := by simp [Session.routine, hwaiting,
      Evaluation.ready?]
    split
    · exact .modify hs rfl rfl hm (.ended hready)
    · split
      · next d trigger _ => exact acts_beginBuild hm hs d trigger
      · next d w hpoll =>
        exact .modify hs rfl rfl hm (.looked d w hready (Debouncer.isPending_of_poll hpoll))
  · next build hbuilding =>
    have hready : s.routine.evaluation.ready? = none := by simp [Session.routine, hbuilding,
      Evaluation.ready?]
    split
    · exact .modify hs rfl rfl hm (.ended hready)
    · split
      · exact .quiet rfl hm rfl (by simp)
      · next c hbuilt =>
        rw [hm] at hbuilt
        exact acts_finishBuild hm hs hbuilding _ _ (of_outcome? hbuilt)
      · exact .modify (q := r.count (.build false)) hs rfl rfl hm
          (.failed hready (r.report_isBuild _ _))
  · next c hpublishing => exact acts_publish hm hs hpublishing

theorem acts_failSubscription {r q : Resolver} {m m' : Memory} {i : Nat} {s : Session}
    (hs : q.session? i = some s) (hconfig : q.config = r.config)
    (hsessions : q.sessions = r.sessions) (hsource : q.source = .memory m')
    (htouch : Activity.Touches s.routine m m') (reason : String) :
    Acts r m (q.failSubscription i s reason).2 (q.failSubscription i s reason).1 := by
  unfold failSubscription
  exact .modify (q := q.count .subscriptionFailure) hs hconfig hsessions hsource
    (.interrupted _ (q.report_isBuild _ _) htouch)

theorem acts_subscribe {r : Resolver} {m : Memory} (hm : r.source = .memory m) {i : Nat}
    {s : Session} (hs : r.session? i = some s) (hsubscribing : s.ingestion = .subscribing) :
    Acts r m (r.subscribe i s).2 (r.subscribe i s).1 := by
  cases hfailure : m.subscribeFailure? with
  | some reason =>
    have hrefused : r.source.subscribe s.service = .error reason := by
      rw [hm]
      simp only [Source.subscribe, Memory.subscribe, hfailure]
      rfl
    simp only [subscribe]
    rw [hrefused]
    exact acts_failSubscription hs rfl rfl hm (Or.inl rfl) reason
  | none =>
    have hmade : r.source.subscribe s.service =
        .ok (.memory { m with subscriptions := m.subscriptions ++ [(s.service, .opened)] },
          some m.subscriptions.length) := by
      rw [hm]
      simp only [Source.subscribe, Memory.subscribe, hfailure]
      rfl
    simp only [subscribe]
    rw [hmade]
    refine Acts.modify (q := { r with
        source := .memory { m with subscriptions := m.subscriptions ++ [(s.service, .opened)] } })
      hs rfl rfl rfl ?_
    exact .subscribed r.now hsubscribing

theorem release_touches {q : Routine} {m : Memory} {id? : Option SubscriptionId}
    (h : q.ingestion = .reading id?) :
    ∃ m', (Source.memory m).release id? = .memory m' ∧ Activity.Touches q m m' := by
  cases id? with
  | none => exact ⟨m, rfl, Or.inl rfl⟩
  | some id => exact ⟨m.modify id Subscription.drop, rfl, Or.inr ⟨id, _, h, rfl⟩⟩

theorem receive_touches {q : Routine} {m : Memory} {id? : Option SubscriptionId}
    (h : q.ingestion = .reading id?) :
    ∃ m', ((Source.memory m).receive id?).2 = .memory m' ∧ Activity.Touches q m m' := by
  cases id? with
  | none => exact ⟨m, rfl, Or.inl rfl⟩
  | some id =>
    cases hfound : m.subscription? id with
    | none =>
      refine ⟨m, ?_, Or.inl rfl⟩
      simp only [Source.receive, Memory.receive, hfound]
    | some s =>
      refine ⟨m.modify id fun s => s.receive.2, ?_, Or.inr ⟨id, _, h, rfl⟩⟩
      simp only [Source.receive, Memory.receive, hfound]

theorem acts_read {r : Resolver} {m : Memory} (hm : r.source = .memory m) {i : Nat} {s : Session}
    (hs : r.session? i = some s) {id? : Option SubscriptionId}
    (hreading : s.ingestion = .reading id?) :
    Acts r m (r.read i s id?).2 (r.read i s id?).1 := by
  obtain ⟨m', hreceive, htouch⟩ := receive_touches (q := s.routine) (m := m) hreading
  simp only [read]
  rw [hm]
  split
  · exact .quiet rfl hm rfl (by simp)
  · obtain ⟨n, hrelease, htouch'⟩ := release_touches (q := s.routine) (m := m) hreading
    exact acts_failSubscription (q := { r with source := (Source.memory m).release id? }) hs rfl
      rfl hrelease htouch' _
  · next source heq =>
    rw [heq] at hreceive
    refine Acts.modify (q := { r with source }.count .signal) hs rfl rfl hreceive
      (f := fun s => { s with debouncer := s.debouncer.signal r.now }) ?_
    exact .noted _ htouch (Debouncer.isPending_signal _ _)
  · next source heq =>
    rw [heq] at hreceive
    refine Acts.modify (q := { r with source }.count .resync) hs rfl rfl hreceive
      (f := fun s => { s with debouncer := s.debouncer.force .resync }) ?_
    exact .noted _ htouch (Debouncer.isPending_force _ _)

theorem acts_ingest {r : Resolver} {m : Memory} (hm : r.source = .memory m) {i : Nat}
    {s : Session} (hs : r.session? i = some s) :
    Acts r m (r.ingest i s).2 (r.ingest i s).1 := by
  unfold ingest
  split
  · exact .quiet rfl hm rfl (by simp)
  · next hsubscribing =>
    split
    · exact .modify hs rfl rfl hm (.deafened (Or.inl rfl))
    · exact acts_subscribe hm hs hsubscribing
  · next id? hreading =>
    split
    · obtain ⟨n, hrelease, htouch⟩ := release_touches (q := s.routine) (m := m) hreading
      refine .modify (q := { r with source := r.source.release id? }) hs rfl rfl ?_
        (.deafened htouch)
      change r.source.release id? = .memory n
      rw [hm]
      exact hrelease
    · exact acts_read hm hs hreading
  · next t hwaiting =>
    split
    · exact .modify hs rfl rfl hm (.deafened (Or.inl rfl))
    · split
      · exact .modify hs rfl rfl hm (.resumed hwaiting)
      · exact .quiet rfl hm rfl (by simp)

theorem acts_resync {r : Resolver} {m : Memory} (hm : r.source = .memory m) {i : Nat}
    {s : Session} (hs : r.session? i = some s) :
    Acts r m (r.resync i s).2 (r.resync i s).1 := by
  unfold resync
  split
  · split
    · exact .quiet rfl hm (r.routines_modify_self i fun _ => rfl) (by simp)
    · split
      · exact .modify (q := r.count .resync) hs rfl rfl hm
          (.noted _ (Or.inl rfl) (Debouncer.isPending_force _ _))
      · exact .quiet rfl hm rfl (by simp)
  · exact .quiet rfl hm rfl (by simp)

theorem acts_deliver {r : Resolver} {m : Memory} (hm : r.source = .memory m) (i : Nat)
    (s : Session) (t : Nat) : Acts r m (r.deliver i s t).2 (r.deliver i s t).1 := by
  refine .quiet rfl hm (r.routines_modify_self i fun _ => rfl) ?_
  intro n hn
  unfold deliver at hn
  dsimp only at hn
  split at hn
  · rw [List.mem_singleton.1 hn]
    rfl
  · exact absurd hn List.not_mem_nil

theorem acts_step (r : Resolver) {m : Memory} (hm : r.source = .memory m) (t : Task) :
    Acts r m (r.step t).2 (r.step t).1 := by
  unfold step
  cases hs : r.session? t.session with
  | none => exact .quiet rfl hm rfl (by simp)
  | some s =>
    cases t with
    | evaluate i => exact acts_evaluate hm hs
    | ingest i => exact acts_ingest hm hs
    | resync i => exact acts_resync hm hs
    | deliver i ticket => exact acts_deliver hm i s ticket

/-- Whatever happens to a resolver over a registry in memory is one of the steps that its activity
can take. -/
theorem activity_react (r : Resolver) {m : Memory} (hm : r.source = .memory m) (e : Event) :
    Acts r m (r.react e).2 (r.react e).1 := by
  cases e with
  | change c =>
    refine ⟨rfl, m.apply c, ?_, .changed c⟩
    change r.source.apply c = .memory (m.apply c)
    rw [hm]
    rfl
  | step t => exact r.acts_step hm t
  | pass nanos => exact .quiet rfl hm rfl (by simp [react])
  | _ => exact r.acts_call hm rfl

end Resolver

end Lookout
