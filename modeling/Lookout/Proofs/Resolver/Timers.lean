import Lookout.Proofs.Resolver.Admission
import Lookout.Proofs.Resolver.Setback

/-!
# Timers

The tasks of a session wait for instants that are reckoned from the clock: the deadline of the
debouncer, the end of the time that a list may take, the next periodic resync. None is further away
than the interval it is made of, and an interval that passes the check is no longer than a week. So
no timer runs over the end of a clock that has a week to go. (The pause before another subscription
is not among the timers: where the clock is too short for it, it lasts to the end of the clock.)

Of the size of a mailbox the check asks only that it is not zero. With a size that is too large
whoever watches a service breaks off half-way.
-/
set_option autoImplicit false

namespace Lookout

/-! ## Intervals that pass -/

theorem Duration.nanos_ofMillis_mono {a b : UInt64} (h : a ≤ b) :
    (Duration.ofMillis a).nanos ≤ (Duration.ofMillis b).nanos :=
  Nat.mul_le_mul_right _ (UInt64.le_iff_toNat_le.1 h)

namespace ResolverConfig

def longestInterval : Duration := .ofMillis maxIntervalMs

section
variable {c : ResolverConfig}

theorem nanos_le_of_mem_intervals (h : c.validate = .ok ()) {i : String × UInt64}
    (hi : i ∈ c.intervals) : (Duration.ofMillis i.2).nanos ≤ longestInterval.nanos :=
  Duration.nanos_ofMillis_mono ((validate_eq_ok_iff.1 h).2.2.2 i hi)

theorem debounce_le (h : c.validate = .ok ()) : c.debounce.nanos ≤ longestInterval.nanos :=
  nanos_le_of_mem_intervals h (i := ("debounce_ms", c.debounceMs)) (by simp [intervals])

theorem timeout_le (h : c.validate = .ok ()) {d : Duration} (hd : c.timeout? = some d) :
    d.nanos ≤ longestInterval.nanos := by
  simp only [timeout?] at hd
  split at hd
  · cases hd
  · cases hd
    exact nanos_le_of_mem_intervals h (i := ("timeout_ms", c.timeoutMs)) (by simp [intervals])

theorem resyncInterval_le (h : c.validate = .ok ()) {d : Duration}
    (hd : c.resyncInterval? = some d) : d.nanos ≤ longestInterval.nanos := by
  simp only [resyncInterval?] at hd
  split at hd
  · cases hd
  · cases hd
    exact nanos_le_of_mem_intervals h (i := ("resync_interval_ms", c.resyncIntervalMs))
      (by simp [intervals])

theorem resyncInterval_pos {d : Duration} (hd : c.resyncInterval? = some d) : 0 < d.nanos := by
  simp only [resyncInterval?] at hd
  split at hd
  · cases hd
  · next hsome =>
    cases hd
    have hpos : 0 < c.resyncIntervalMs.toNat :=
      Nat.pos_of_ne_zero fun hzero => hsome (UInt64.toNat_inj.1 hzero)
    exact Nat.mul_pos hpos (by decide)

end

end ResolverConfig

/-! ## Sessions -/

theorem Debouncer.Timely.poll {window : Duration} {now : Instant} {d : Debouncer}
    (h : d.Timely window now) (w : Waiter) : (d.poll now w).1.Timely window now := by
  rcases d.poll_cases now w with ⟨-, heq⟩ | ⟨-, -, heq⟩ | ⟨trigger, -, -, heq⟩
  · rw [heq]
    exact h
  · rw [heq]
    exact h.hear w
  · rw [heq]
    exact (h.hear w).fire

/-- When the list of a build is no longer in time. -/
def Evaluation.expiry? : Evaluation → Option Instant
  | .building b => b.listing.expiresAt?
  | _ => none

/-- Nothing is waited for, or something that is no further away than the interval. -/
def Within (interval? : Option Duration) (now : Instant) (timer? : Option Instant) : Prop :=
  ∀ t, timer? = some t → ∃ d, interval? = some d ∧ t ≤ now + d.nanos

section
variable {interval? : Option Duration} {now : Instant} {timer? : Option Instant}

theorem within_none : Within interval? now none := by
  intro t ht
  cases ht

theorem within_map : Within interval? now (interval?.map fun d => now + d.nanos) := by
  intro t ht
  obtain ⟨d, hd, rfl⟩ := Option.map_eq_some_iff.1 ht
  exact ⟨d, hd, Nat.le_refl _⟩

theorem Within.later (h : Within interval? now timer?) (nanos : Nat) :
    Within interval? (now + nanos) timer? := by
  intro t ht
  obtain ⟨d, hd, hle⟩ := h t ht
  exact ⟨d, hd, Nat.le_trans hle (Nat.add_le_add_right (Nat.le_add_right _ _) _)⟩

end

/-- A list is given its limit, whichever source it asks. -/
theorem Builder.expiresAt?_start (b : Builder) (src : Source) (now : Instant) (service : String)
    (policy : Policy) :
    (b.start src now service policy).2.listing.expiresAt? =
      b.limit?.map fun d => now + d.nanos := by
  cases src <;> rfl

namespace Session

/-- All that timers depend on. -/
def clockwork (s : Session) : Debouncer × Evaluation × Option Instant :=
  (s.debouncer, s.evaluation, s.nextResync?)

theorem aspect_clockwork : Session.Aspect clockwork id :=
  ⟨fun _ _ => rfl, fun _ => rfl⟩

def timers (s : Session) : List Instant :=
  s.debouncer.deadline?.toList ++ s.evaluation.expiry?.toList ++ s.nextResync?.toList

/-- No timer is further away than the interval it is made of. -/
structure Timed (c : ResolverConfig) (now : Instant) (s : Session) : Prop where
  debouncer : s.debouncer.Timely c.debounce now
  expiry : Within c.timeout? now s.evaluation.expiry?
  resync : Within c.resyncInterval? now s.nextResync?

section
variable {c : ResolverConfig} {now : Instant} {s : Session}

theorem Timed.congr (h : s.Timed c now) {s' : Session} (hsame : s'.clockwork = s.clockwork) :
    s'.Timed c now := by
  obtain ⟨hdebouncer, hevaluation, hresync⟩ : s'.debouncer = s.debouncer ∧
      s'.evaluation = s.evaluation ∧ s'.nextResync? = s.nextResync? := by
    simpa [clockwork] using hsame
  refine ⟨?_, ?_, ?_⟩
  · rw [hdebouncer]
    exact h.debouncer
  · rw [hevaluation]
    exact h.expiry
  · rw [hresync]
    exact h.resync

theorem Timed.later (h : s.Timed c now) (nanos : Nat) : s.Timed c (now + nanos) :=
  ⟨h.debouncer.later nanos, h.expiry.later nanos, h.resync.later nanos⟩

theorem Timed.apply (h : s.Timed c now) (call : Debouncer.Call) :
    { s with debouncer := s.debouncer.apply now call }.Timed c now :=
  ⟨h.debouncer.apply call, h.expiry, h.resync⟩

theorem Timed.endEvaluation (h : s.Timed c now) :
    (Resolver.Session.endEvaluation s).Timed c now :=
  ⟨h.debouncer.apply .complete, within_none, h.resync⟩

/-- With settings that pass, a week is enough for every timer. -/
theorem Timed.le (h : s.Timed c now) (hvalid : c.validate = .ok ()) {t : Instant}
    (ht : t ∈ s.timers) : t ≤ now + ResolverConfig.longestInterval.nanos := by
  simp only [timers, List.mem_append, Option.mem_toList] at ht
  rcases ht with (hdeadline | hexpiry) | hresync
  · exact Nat.le_trans (h.debouncer.deadline t hdeadline)
      (Nat.add_le_add_left (ResolverConfig.debounce_le hvalid) _)
  · obtain ⟨d, hd, hle⟩ := h.expiry t hexpiry
    exact Nat.le_trans hle (Nat.add_le_add_left (ResolverConfig.timeout_le hvalid hd) _)
  · obtain ⟨d, hd, hle⟩ := h.resync t hresync
    exact Nat.le_trans hle (Nat.add_le_add_left (ResolverConfig.resyncInterval_le hvalid hd) _)

theorem Timed.exists_period (h : s.Timed c now) (hticks : s.nextResync? ≠ none) :
    ∃ period, c.resyncInterval? = some period ∧ 0 < period.nanos := by
  obtain ⟨t, ht⟩ := Option.ne_none_iff_exists'.1 hticks
  obtain ⟨period, hperiod, -⟩ := h.resync t ht
  exact ⟨period, hperiod, ResolverConfig.resyncInterval_pos hperiod⟩

end

end Session

namespace Resolver

theorem nextTick_le {period : Duration} {due now : Instant} (h : due ≤ now) :
    nextTick period due now ≤ now + period.nanos := by
  unfold nextTick
  split
  · exact Nat.le_refl _
  · exact Nat.add_le_add_right h _

/-! ## Steps -/

def Timed (r : Resolver) : Prop := ∀ s ∈ r.sessions, s.Timed r.config r.now

section
variable {r : Resolver}

theorem Timed.session (h : r.Timed) {i : Nat} {s : Session} (hs : r.session? i = some s) :
    s.Timed r.config r.now :=
  h s (List.mem_of_getElem? hs)

theorem Timed.modify (h : r.Timed) (i : Nat) {f : Session → Session}
    (hf : ∀ s, r.session? i = some s → s.Timed r.config r.now → (f s).Timed r.config r.now) :
    (r.modify i f).Timed := by
  intro s' hs'
  obtain ⟨j, hj⟩ := List.getElem?_of_mem hs'
  change (r.sessions.modify i f)[j]? = some s' at hj
  rw [List.getElem?_modify] at hj
  obtain ⟨s, hs, heq⟩ := Option.map_eq_some_iff.1 hj
  split at heq
  · next hij =>
    subst hij heq
    exact hf s hs (h.session hs)
  · subst heq
    exact h.session hs

theorem Timed.modify_same (h : r.Timed) (i : Nat) {f : Session → Session}
    (hf : ∀ s, (f s).clockwork = s.clockwork) : (r.modify i f).Timed :=
  h.modify i fun s _ hs => hs.congr (hf s)

theorem timed_newSession (r : Resolver) (service : String) (history : History) :
    (r.newSession service history).Timed r.config r.now :=
  ⟨(Debouncer.timely_create _ _).apply (.force .initial), within_none, within_map⟩

theorem Timed.call (h : r.Timed) {e : Event} (he : e.isCall = true) : (r.react e).1.Timed := by
  obtain ⟨halike, -⟩ := r.alike_call he
  have hold : ∀ s' : Session, s'.clockwork ∈ r.sessions.map Session.clockwork →
      s'.Timed r.config r.now := by
    intro s' hs'
    obtain ⟨s, hs, hsame⟩ := List.mem_map.1 hs'
    exact (h s hs).congr hsame.symm
  intro s' hs'
  have hmem : s'.clockwork ∈ (r.react e).1.sessions.map Session.clockwork :=
    List.mem_map_of_mem hs'
  rw [halike.config, halike.now]
  rcases map_sessions_call Session.aspect_clockwork r he with ⟨hit, hall⟩ | ⟨service, hbegun⟩
  · rw [hall, halted_id] at hmem
    exact hold s' hmem
  · rw [hbegun] at hmem
    rcases List.mem_append.1 hmem with hbefore | hnew
    · exact hold s' hbefore
    · exact (r.timed_newSession service _).congr (List.mem_singleton.1 hnew)

/-! ### Tasks -/

section
variable {i : Nat} {s : Session}

theorem Timed.beginBuild (h : r.Timed) {d : Debouncer} (hd : d.Timely r.config.debounce r.now)
    (trigger : Trigger) : (r.beginBuild i s d trigger).1.Timed := by
  have hexpiry := r.builder.expiresAt?_start r.source r.now s.service s.policy
  generalize hstart : r.builder.start r.source r.now s.service s.policy = started at hexpiry
  obtain ⟨source, build⟩ := started
  simp only [Resolver.beginBuild, hstart]
  refine Timed.modify (r := { r with source }.count .evaluation) h i fun q _ hq => ?_
  refine ⟨hd, ?_, hq.resync⟩
  change Within r.config.timeout? r.now build.listing.expiresAt?
  rw [hexpiry]
  exact within_map

theorem Timed.finishBuild (h : r.Timed) (snapshot : Snapshot) :
    (r.finishBuild i s snapshot).1.Timed :=
  Timed.modify (r := { r.count (.build true) with
    histories := r.histories.insert s.service
      { r.historyOf s.service with revision := snapshot.revision } }) h i
    fun _ _ hq => ⟨hq.debouncer, within_none, hq.resync⟩

theorem Timed.publish (h : r.Timed) (snapshot : Snapshot) :
    (r.publish i s snapshot).1.Timed := by
  refine Timed.modify (r := { r with
    metrics := (s.registry.notify snapshot).2.countIn r.metrics }) h i fun q _ hq => ?_
  have hended := hq.endEvaluation
  exact ⟨hended.debouncer, hended.expiry, hended.resync⟩

theorem Timed.evaluate (h : r.Timed) (hs : r.session? i = some s) : (r.evaluate i s).1.Timed := by
  unfold Resolver.evaluate
  split
  · exact h
  · next w hwaiting =>
    split
    · exact h.modify i fun q _ hq => ⟨hq.debouncer, within_none, hq.resync⟩
    · have hpoll := (h.session hs).debouncer.poll w
      split
      · next d trigger heq =>
        rw [heq] at hpoll
        exact h.beginBuild hpoll trigger
      · next d v heq =>
        rw [heq] at hpoll
        exact h.modify i fun q _ hq => ⟨hpoll, within_none, hq.resync⟩
  · split
    · exact h.modify i fun q _ hq => ⟨hq.debouncer, within_none, hq.resync⟩
    · split
      · exact h
      · next snapshot _ => exact h.finishBuild snapshot
      · next f _ =>
        exact Timed.modify (r := r.count (.build false)) h i fun q _ hq => hq.endEvaluation
  · next snapshot _ => exact h.publish snapshot

theorem Timed.failSubscription (h : r.Timed) (reason : String) :
    (r.failSubscription i s reason).1.Timed :=
  Timed.modify_same (r := r.count .subscriptionFailure) h i fun _ => rfl

theorem Timed.subscribe (h : r.Timed) (hs : r.session? i = some s) :
    (r.subscribe i s).1.Timed := by
  unfold Resolver.subscribe
  split
  · exact h.failSubscription _
  · next source id? _ =>
    refine Timed.modify (r := { r with source }) h i fun q hq htimed => ?_
    obtain rfl : s = q := Option.some.inj (hs.symm.trans hq)
    have hsignal := htimed.apply .signal
    dsimp only
    split
    · exact ⟨hsignal.debouncer, htimed.expiry, htimed.resync⟩
    · exact ⟨htimed.debouncer, htimed.expiry, htimed.resync⟩

theorem Timed.read (h : r.Timed) (hs : r.session? i = some s) (id? : Option SubscriptionId) :
    (r.read i s id?).1.Timed := by
  unfold Resolver.read
  split
  · exact h
  · exact Timed.failSubscription (r := { r with source := r.source.release id? }) h _
  · next source _ =>
    refine Timed.modify (r := { r with source }.count .signal) h i fun q hq htimed => ?_
    obtain rfl : s = q := Option.some.inj (hs.symm.trans hq)
    exact htimed.apply .signal
  · next source _ =>
    refine Timed.modify (r := { r with source }.count .resync) h i fun q hq htimed => ?_
    obtain rfl : s = q := Option.some.inj (hs.symm.trans hq)
    exact htimed.apply (.force .resync)

theorem Timed.ingest (h : r.Timed) (hs : r.session? i = some s) : (r.ingest i s).1.Timed := by
  have hleft : ∀ source, ({ r with source }.modify i fun s =>
      { s with ingestion := .ended }).Timed := fun source =>
    Timed.modify_same (r := { r with source }) h i fun _ => rfl
  unfold Resolver.ingest
  split
  · exact h
  · split
    · exact hleft r.source
    · exact h.subscribe hs
  · next id? _ =>
    split
    · exact hleft (r.source.release id?)
    · exact h.read hs id?
  · split
    · exact hleft r.source
    · split
      · exact h.modify_same i fun _ => rfl
      · exact h

theorem Timed.resync (h : r.Timed) (hs : r.session? i = some s) : (r.resync i s).1.Timed := by
  unfold Resolver.resync
  split
  · next due period hdue hperiod =>
    split
    · exact h.modify i fun q _ hq => ⟨hq.debouncer, hq.expiry, within_none⟩
    · split
      · next hreached =>
        refine Timed.modify (r := r.count .resync) h i fun q hq htimed => ?_
        obtain rfl : s = q := Option.some.inj (hs.symm.trans hq)
        refine ⟨htimed.debouncer.apply (.force .resync), htimed.expiry, ?_⟩
        intro t ht
        cases ht
        exact ⟨period, hperiod, nextTick_le hreached⟩
      · exact h
  · exact h

theorem Timed.step (h : r.Timed) (t : Task) : (r.step t).1.Timed := by
  unfold Resolver.step
  split
  · exact h
  · next s hs =>
    cases t with
    | evaluate i => exact h.evaluate hs
    | ingest i => exact h.ingest hs
    | resync i => exact h.resync hs
    | deliver i ticket => exact h.modify_same i fun _ => rfl

end

theorem Timed.react (h : r.Timed) (e : Event) : (r.react e).1.Timed := by
  cases e with
  | change c => exact h
  | step t => exact h.step t
  | pass nanos => exact fun s hs => (h s hs).later nanos
  | _ => exact h.call rfl

theorem Timed.run (h : r.Timed) (events : List Event) : (r.run events).1.Timed := by
  induction events generalizing r with
  | nil => exact h
  | cons e rest ih => exact ih (h.react e)

end

theorem timed_create (name : String) (config : ResolverConfig) (source : Source)
    (backoff : Backoff) (hooked : Bool) (stamp : String) :
    (create name config source backoff hooked stamp).Timed := by
  intro s hs
  cases hs

theorem capacity_eq {buffer : Nat} {ns : List Notice} {r : Resolver}
    (h : Ledger.Reached buffer ns r.ledger) {s : Session} (hs : s ∈ r.sessions) :
    s.registry.capacity = max buffer 1 := by
  obtain ⟨i, hi⟩ := List.getElem?_of_mem hs
  have hdesk : r.ledger.desks[i]? = some s.desk := by
    rw [ledger_desks_getElem?, show r.session? i = some s from hi]
    rfl
  have hsized : s.registry.capacity = max r.ledger.buffer 1 :=
    (h.orderly.desks i s.desk hdesk).sized
  rw [hsized, h.buffer]

/-- With settings that pass, a call for a service with a name comes through exactly if mailboxes of
the size that is set can be made, and breaks off otherwise. Nothing else goes wrong with such
settings, whatever happens before, during and after it: all mailboxes have the size that is set, who
ticks has a period, and no timer runs over the end of a clock with a week to go. -/
theorem fits_but_for_mailboxes (name : String) (config : ResolverConfig) (source : Source)
    (backoff : Backoff) (hooked : Bool) (stamp : String) (hvalid : config.validate = .ok ())
    (before : List Event)
    (hfree : ((create name config source backoff hooked stamp).run before).1.call? = none)
    (hopen : ¬WasStopped (create name config source backoff hooked stamp) before) (service : String)
    (hnamed : Text.trim service.toList ≠ []) (w : WatcherId) (during : List Event)
    (hduring : .proceed service ∉ during) (after : List Event) :
    let start := create name config source backoff hooked stamp
    let outcome := (start.run before).1.outcome? service w during
    let r := (start.run (before ++ .watch service w :: after)).1
    (outcome = some
      (if config.watcherBuffer.toNat ≤ Mailbox.maxCapacity then .ok else .mailboxTooLarge)) ∧
    ∀ s ∈ r.sessions,
      s.registry.capacity = config.watcherBuffer.toNat ∧
      (s.nextResync? ≠ none →
        ∃ period, config.resyncInterval? = some period ∧ 0 < period.nanos) ∧
      ∀ last, r.now + ResolverConfig.longestInterval.nanos ≤ last → ∀ t ∈ s.timers, t ≤ last := by
  intro start outcome r
  have hbuffer : max config.watcherBuffer.toNat 1 = config.watcherBuffer.toNat := by
    have hne := (ResolverConfig.validate_eq_ok_iff.1 hvalid).2.2.1
    exact max_eq_left (Nat.pos_of_ne_zero fun hzero => hne (UInt64.toNat_inj.1 hzero))
  refine ⟨?_, ?_⟩
  · have hreached := Ledger.reached_run name config source backoff hooked stamp before
    have hpermit := (permit_run_iff name config source backoff hooked stamp before service).2
      ⟨hopen, hvalid, hnamed⟩
    have houtcome := outcome?_of_permit hreached hfree hpermit w hduring
    simp only [hreached.fits_iff, hbuffer] at houtcome
    exact houtcome
  · intro s hs
    have hreached := Ledger.reached_run name config source backoff hooked stamp
      (before ++ .watch service w :: after)
    have hconfig : r.config = config := congrArg Prod.snd (settings_run start _)
    have htimed : s.Timed config r.now :=
      hconfig ▸ (timed_create name config source backoff hooked stamp).run _ s hs
    refine ⟨?_, htimed.exists_period, ?_⟩
    · rw [capacity_eq hreached hs, hbuffer]
    · intro last hlast t ht
      exact Nat.le_trans (htimed.le hvalid ht) hlast

/-- A list that is given three seconds and a resync that is due in thirty, on a clock with a week
to go. -/
theorem fits_with_standard_settings :
    let start := create "r" (.create "n" ["http"]) (.memory .empty) .standard true ""
    let r := (start.run ([] ++ .watch "a" "w" :: [.step (.evaluate 0), .proceed "a"])).1
    (ResolverConfig.create "n" ["http"]).validate = .ok () ∧
    ¬WasStopped start [] ∧
    Text.trim "a".toList ≠ [] ∧
    start.outcome? "a" "w" [.step (.evaluate 0)] = some .ok ∧
    r.sessions.flatMap Session.timers = [3000000000, 30000000000] ∧
    ∀ s ∈ r.sessions,
      s.registry.capacity = 4 ∧ ∀ t ∈ s.timers, t ≤ ResolverConfig.longestInterval.nanos := by
  dsimp only
  have hopen :
      ¬WasStopped (create "r" (.create "n" ["http"]) (.memory .empty) .standard true "") [] := by
    rintro ⟨front, back, hsplit, -⟩
    simp at hsplit
  obtain ⟨hok, hall⟩ := fits_but_for_mailboxes "r" (.create "n" ["http"]) (.memory .empty) .standard
    true "" rfl [] rfl hopen "a" (by decide) "w" [.step (.evaluate 0)] (by simp)
    [.step (.evaluate 0), .proceed "a"]
  refine ⟨rfl, hopen, by decide, hok, by decide, ?_⟩
  intro s hs
  obtain ⟨hcapacity, -, hfits⟩ := hall s hs
  exact ⟨hcapacity, hfits _ (by decide)⟩

/-! Settings that are accepted, with the largest size of a mailbox that there is. -/

def boundless : ResolverConfig :=
  { ResolverConfig.create "n" ["http"] with watcherBuffer := 18446744073709551615 }

/-- Whoever watches a service breaks off: a session has begun, and the service is not watched. -/
theorem boundless_breaks_off :
    let start := create "r" boundless (.memory .empty) .standard true ""
    let r := (start.run [.watch "a" "w", .proceed "a"]).1
    boundless.validate = .ok () ∧ Text.trim "a".toList ≠ [] ∧ start.stopped = false ∧
    start.outcome? "a" "w" [] = some .mailboxTooLarge ∧
    r.sessions.map Session.cancelled = [false] ∧ r.watchedServices = [] := by
  dsimp only
  have hpermit : (create "r" boundless (.memory .empty) .standard true "").permit "a" = .ok () := by
    rfl
  have hlarge : ¬(create "r" boundless (.memory .empty) .standard true "").ledger.Fits := by decide
  have hreached : Ledger.Reached boundless.watcherBuffer.toNat []
      (create "r" boundless (.memory .empty) .standard true "").ledger := .create
  have hnever : Event.proceed "a" ∉ ([] : List Event) := by simp
  have houtcome := outcome?_of_permit hreached rfl hpermit "w" hnever
  refine ⟨rfl, by decide, rfl, ?_, by decide, by decide⟩
  rw [houtcome, if_neg hlarge]

end Resolver

end Lookout
