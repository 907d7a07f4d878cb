import Lookout.Proofs.Resolver.Accounts
import Lookout.Proofs.Resolver.Contact

/-!
# Recovery of subscriptions

A subscription that is refused or closed is a loss. Every loss is counted and reported once, and the
reader of the session waits before it tries again, the longer the more losses there have been in a
row. When it succeeds after a loss, signals may have been missed: it notes one, so an evaluation is
pending. When the very first attempt succeeds it notes nothing.
-/
set_option autoImplicit false

namespace Lookout.Resolver

open Episode

def past (r : Resolver) (events : List Event) (i : Nat) : List Episode :=
  ofSession i (r.episodes events).reverse

/-- What a step of the reader of a session makes of its debouncer after some episodes, the newest of
which comes first. -/
structure Notes (past : List Episode) (turnout? : Option Turnout) (now : Instant)
    (d d' : Debouncer) : Prop where
  first : turnout? = some .established → past = [] → d' = d
  restored : turnout? = some .established → ∀ x before, past = x :: before →
    x.isLoss = true ∧ d' = d.signal now ∧ d'.isPending = true
  lost : ∀ x, turnout? = some x → x.isLoss = true → d' = d
  waiting : ∀ x before, past = x :: before → x.isLoss = true → turnout? = none → d' = d

/-- How the reader of a session goes on after some episodes, the newest of which comes first. -/
structure GoesOn (r : Resolver) (i : Nat) (s : Session) (past : List Episode) : Prop where
  /-- When the wait after a loss is over, an attempt is made. -/
  prompt : s.cancelled = false → ∀ x before, past = x :: before → x.isLoss = true →
    x.resumption r.backoff before ≤ r.now →
    ∃ y, (r.episodes [.step (.ingest i), .step (.ingest i)]).head? = some y ∧
      y.session = i ∧ y.time = r.now ∧ y.turnout ≠ .closed
  noted : ∃ s', (r.step (.ingest i)).1.session? i = some s' ∧
    Notes past (s.turnout? r.source) r.now s.debouncer s'.debouncer

/-- What a run does about the losses of its subscriptions. -/
structure Recovers (start : Resolver) (events : List Event) : Prop where
  counted : (start.run events).1.metrics.failedSubscriptions =
    UInt64.ofNat ((start.episodes events).countP isLoss)
  reported : (start.run events).2.filter Notice.isLoss =
    if start.hooked then (start.episodes events).filterMap notice? else []
  /-- In particular no attempt is made before the wait after a loss is over. -/
  regular : ∀ i, Regular start.backoff (start.past events i)
  goesOn : ∀ i s, (start.run events).1.session? i = some s →
    GoesOn (start.run events).1 i s (start.past events i)

section
variable {r : Resolver} {i : Nat} {s : Session}

/-! ## One step of a reader -/

theorem of_turnout?_established {src : Source} (h : s.turnout? src = some .established) :
    s.cancelled = false ∧ s.ingestion = .subscribing ∧
      ∃ made, src.subscribe s.service = .ok made := by
  unfold Session.turnout? at h
  split at h
  · cases h
  · next hgoing =>
    refine ⟨Bool.eq_false_iff.2 hgoing, ?_⟩
    split at h
    · next hseeking =>
      refine ⟨hseeking, ?_⟩
      split at h
      · cases h
      · next made hmade => exact ⟨made, hmade⟩
    · split at h <;> cases h
    · cases h

theorem debouncer_of_established (hs : r.session? i = some s)
    (h : s.turnout? r.source = some .established) :
    ∃ s', (r.step (.ingest i)).1.session? i = some s' ∧
      s'.debouncer = if s.reconnecting then s.debouncer.signal r.now else s.debouncer := by
  obtain ⟨hgoing, hseeking, ⟨source, id?⟩, hmade⟩ := of_turnout?_established h
  rw [step_ingest hs, ingest_subscribing hgoing hseeking]
  unfold subscribe
  rw [hmade]
  exact ⟨_, session?_modify_self (r := { r with source }) hs _, rfl⟩

theorem debouncer_of_failSubscription (hs : r.session? i = some s) (reason : String) :
    ∃ s', (r.failSubscription i s reason).1.session? i = some s' ∧ s'.debouncer = s.debouncer :=
  ⟨_, session?_modify_self (r := r.count .subscriptionFailure) hs _, rfl⟩

/-- Only a new subscription and a signal that is read make a difference. -/
theorem debouncer_of_other (hs : r.session? i = some s)
    (hother : s.turnout? r.source ≠ some .established)
    (hreads : ∀ id?, s.ingestion = .reading id? → s.turnout? r.source ≠ none) :
    ∃ s', (r.step (.ingest i)).1.session? i = some s' ∧ s'.debouncer = s.debouncer := by
  have hleft : ∀ source, ∃ s', ({ r with source }.modify i fun s =>
      { s with ingestion := .ended }).session? i = some s' ∧ s'.debouncer = s.debouncer :=
    fun source => ⟨_, session?_modify_self (r := { r with source }) hs _, rfl⟩
  rw [step_ingest hs]
  unfold ingest
  split
  · exact ⟨s, hs, rfl⟩
  · next hseeking =>
    split
    · exact hleft r.source
    · next hgoing =>
      unfold subscribe
      split
      · exact debouncer_of_failSubscription hs _
      · next hmade =>
        exact absurd (Session.turnout?_established (Bool.eq_false_iff.2 hgoing) hseeking hmade)
          hother
  · next id? hreading =>
    split
    · exact hleft (r.source.release id?)
    · have hclosed : (r.source.receive id?).1 = .closed :=
        Decidable.byContradiction fun hopen =>
          hreads id? hreading (Session.turnout?_open hreading hopen)
      unfold read
      split
      · next heq => simp [heq] at hclosed
      · exact debouncer_of_failSubscription (r := { r with source := r.source.release id? }) hs _
      · next heq => simp [heq] at hclosed
      · next heq => simp [heq] at hclosed
  · split
    · exact hleft r.source
    · split
      · exact ⟨_, session?_modify_self hs _, rfl⟩
      · exact ⟨s, hs, rfl⟩

theorem exists_session?_step (hs : r.session? i = some s) (t : Task) :
    ∃ s', (r.step t).1.session? i = some s' := by
  have hlength : (r.step t).1.sessions.length = r.sessions.length := r.length_react (.step t)
  have hi : i < r.sessions.length := (List.getElem?_eq_some_iff.1 hs).1
  rw [← hlength] at hi
  exact ⟨_, List.getElem?_eq_getElem hi⟩

theorem notes_of_established {past : List Episode} (h : s.contact.Stands r.backoff r.now past)
    (hmade : s.turnout? r.source = some .established) {d : Debouncer}
    (hd : d = if s.reconnecting then s.debouncer.signal r.now else s.debouncer) :
    Notes past (s.turnout? r.source) r.now s.debouncer d := by
  have hreconnecting : s.reconnecting = past.any isLoss := h.reconnecting
  obtain ⟨-, hseeking, -⟩ := of_turnout?_established hmade
  have hposition : Contact.Position r.backoff r.now past s.ingestion := h.position
  rw [hseeking] at hposition
  rw [hmade]
  refine ⟨?_, ?_, ?_, ?_⟩
  · rintro - rfl
    rw [hd, hreconnecting]
    rfl
  · rintro - x before rfl
    cases hposition with
    | again hloss hover =>
      have hsignal : d = s.debouncer.signal r.now := by simp [hd, hreconnecting, hloss]
      refine ⟨hloss, hsignal, ?_⟩
      rw [hsignal]
      exact s.debouncer.isPending_signal r.now
  · intro x hx hloss
    cases hx
    cases hloss
  · intro x before hpast hloss hnone
    cases hnone

theorem noted_of_stands {past : List Episode} (hs : r.session? i = some s)
    (h : s.contact.Stands r.backoff r.now past) :
    ∃ s', (r.step (.ingest i)).1.session? i = some s' ∧
      Notes past (s.turnout? r.source) r.now s.debouncer s'.debouncer := by
  by_cases hmade : s.turnout? r.source = some .established
  · obtain ⟨s', hs', hd⟩ := debouncer_of_established hs hmade
    exact ⟨s', hs', notes_of_established h hmade hd⟩
  · by_cases hreads : ∃ id?, s.ingestion = .reading id? ∧ s.turnout? r.source = none
    · obtain ⟨id?, hreading, hnone⟩ := hreads
      obtain ⟨s', hs'⟩ := exists_session?_step hs (.ingest i)
      have hposition : Contact.Position r.backoff r.now past s.ingestion := h.position
      rw [hreading] at hposition
      rw [hnone]
      refine ⟨s', hs', by simp, by simp, by simp, ?_⟩
      -- whoever reads a subscription has lost nothing since it was established
      rintro x before rfl hloss -
      cases hposition with
      | reading id? hestablished =>
        rw [hestablished] at hloss
        cases hloss
    · obtain ⟨s', hs', hsame⟩ := debouncer_of_other hs hmade
        fun id? hreading hnone => hreads ⟨id?, hreading, hnone⟩
      exact ⟨s', hs', fun _ _ => hsame, fun hyes => absurd hyes hmade, fun _ _ _ => hsame,
        fun _ _ _ _ _ => hsame⟩

/-! ## When the wait is over -/

theorem exists_attempt (hs : r.session? i = some s) (hgoing : s.cancelled = false)
    (hseeking : s.ingestion = .subscribing) :
    ∃ y, r.episode? (.step (.ingest i)) = some y ∧ y.session = i ∧ y.time = r.now ∧
      y.turnout ≠ .closed := by
  rw [episode?_ingest hs]
  cases hmade : r.source.subscribe s.service with
  | error reason =>
    rw [Session.turnout?_refused hgoing hseeking hmade]
    exact ⟨_, rfl, rfl, rfl, by simp⟩
  | ok made =>
    rw [Session.turnout?_established hgoing hseeking hmade]
    exact ⟨_, rfl, rfl, rfl, by simp⟩

theorem attempt_of_stands {x : Episode} {before : List Episode} (hs : r.session? i = some s)
    (h : s.contact.Stands r.backoff r.now (x :: before)) (hgoing : s.cancelled = false)
    (hloss : x.isLoss = true) (hover : x.resumption r.backoff before ≤ r.now) :
    ∃ y, (r.episodes [.step (.ingest i), .step (.ingest i)]).head? = some y ∧
      y.session = i ∧ y.time = r.now ∧ y.turnout ≠ .closed := by
  have hposition : Contact.Position r.backoff r.now (x :: before) s.ingestion := h.position
  generalize hingestion : s.ingestion = g at hposition
  cases hposition with
  | again hloss hover =>
    obtain ⟨y, hy, hattempt⟩ := exists_attempt hs hgoing hingestion
    exact ⟨y, by simp [episodes, hy], hattempt⟩
  | reading id? hestablished =>
    rw [hestablished] at hloss
    cases hloss
  | backingOff hloss =>
    have hnone : r.episode? (.step (.ingest i)) = none := by
      rw [episode?_ingest hs]
      simp [Session.turnout?, hingestion]
    have hresumed : (r.react (.step (.ingest i))).1 =
        r.modify i fun s => { s with ingestion := .subscribing } := by
      rw [react, step_ingest hs, ingest_backingOff hgoing hingestion hover]
    obtain ⟨y, hy, hattempt⟩ := exists_attempt
      (session?_modify_self hs fun s => { s with ingestion := .subscribing }) hgoing rfl
    exact ⟨y, by simp [episodes, hnone, hresumed, hy], hattempt⟩
  | ended =>
    have hcancelled : s.cancelled = true := h.left hingestion
    rw [hgoing] at hcancelled
    cases hcancelled

end

variable (name : String) (config : ResolverConfig) (source : Source) (backoff : Backoff)
  (hooked : Bool) (stamp : String)

/-- Whatever happens to a resolver, every loss is counted and reported once, the next attempt is
made when the wait for so many losses in a row is over, and a subscription in the place of a lost
one counts as one signal, so that an evaluation is pending. -/
theorem subscriptions_recover (events : List Event) :
    Recovers (create name config source backoff hooked stamp) events := by
  have hkept := kept_exchange (kept_create name config source backoff hooked stamp) events
  have hsettled := (create name config source backoff hooked stamp).settled_run events
  rw [List.append_nil, List.nil_append] at hkept
  have hstands : ∀ i s, ((create name config source backoff hooked stamp).run events).1.session? i =
      some s → s.contact.Stands
        ((create name config source backoff hooked stamp).run events).1.backoff
        ((create name config source backoff hooked stamp).run events).1.now
        ((create name config source backoff hooked stamp).past events i) := by
    intro i s hs
    refine hkept.stands i s.contact ?_
    simp only [exchange, contacts]
    rw [map_sessions_getElem?, hs]
    rfl
  refine ⟨?_, ?_, ?_, ?_⟩
  · rw [← List.countP_reverse]
    exact hkept.counted
  · have hreported := hkept.reported
    rw [List.reverse_reverse] at hreported
    rw [hreported]
    exact congrArg (fun b : Bool => if b then _ else []) hsettled.2
  · intro i
    have hregular := hkept.regular i
    rw [show Exchange.backoff _ = backoff from hsettled.1] at hregular
    exact hregular
  · intro i s hs
    refine ⟨?_, noted_of_stands hs (hstands i s hs)⟩
    rintro hgoing x before hpast hloss hover
    have h := hstands i s hs
    rw [hpast] at h
    exact attempt_of_stands hs h hgoing hloss hover

def refusals : List Event :=
  [.watch "a" "w", .proceed "a", .change (.failSubscribes (some "down")), .step (.ingest 0),
    .pass 100000000, .step (.ingest 0), .step (.ingest 0), .change (.failSubscribes none),
    .pass 200000000, .step (.ingest 0)]

theorem subscriptions_recover_after_refusals :
    ((create "r" (.create "n" ["http"]) (.memory .empty) .standard true "").run
      refusals).1.metrics.failedSubscriptions = 2 ∧
    ((create "r" (.create "n" ["http"]) (.memory .empty) .standard true "").run
      refusals).2.filter Notice.isLoss =
        [.failed "a" (.subscribe "a" "down"), .failed "a" (.subscribe "a" "down")] ∧
    ∃ s, (((create "r" (.create "n" ["http"]) (.memory .empty) .standard true "").run
        refusals).1.step (.ingest 0)).1.session? 0 = some s ∧ s.debouncer.isPending = true := by
  obtain ⟨hcounted, hreported, -, hgoesOn⟩ := subscriptions_recover "r" (.create "n" ["http"])
    (.memory .empty) .standard true "" refusals
  have hepisodes : (create "r" (.create "n" ["http"]) (.memory .empty) .standard true "").episodes
      refusals = [⟨0, "a", 0, .refused "down"⟩, ⟨0, "a", 100000000, .refused "down"⟩] := by decide
  have hmade : (((create "r" (.create "n" ["http"]) (.memory .empty) .standard true "").run
      refusals).1.session? 0).bind (fun s => s.turnout? ((create "r" (.create "n" ["http"])
        (.memory .empty) .standard true "").run refusals).1.source) = some .established := by decide
  rw [hepisodes] at hcounted hreported
  refine ⟨hcounted, hreported, ?_⟩
  obtain ⟨s, hs, hturnout⟩ := Option.bind_eq_some_iff.1 hmade
  obtain ⟨s', hs', hnotes⟩ := (hgoesOn 0 s hs).noted
  have hpast : (create "r" (.create "n" ["http"]) (.memory .empty) .standard true "").past
      refusals 0 =
      [⟨0, "a", 100000000, .refused "down"⟩, ⟨0, "a", 0, .refused "down"⟩] := by
    rw [past, hepisodes]
    rfl
  obtain ⟨-, -, hpending⟩ := hnotes.restored hturnout _ _ hpast
  exact ⟨s', hs', hpending⟩

end Lookout.Resolver
