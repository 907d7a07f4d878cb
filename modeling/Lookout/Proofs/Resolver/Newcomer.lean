import Lookout.Proofs.Resolver.Mailbox

/-!
# Newcomers

Whoever comes to be registered for a service finds in its mailbox the snapshot that is current at
that moment, in the session that is joined. Nothing overtakes it there: it is the first snapshot
that the registration is handed, by the first step of its delivery task, unless it is taken out or
the resolver ends before. What is kept of an idle service is what was published last, however often
it has been watched in between and whether or not it was built then, but for what a session
publishes after its snapshot has been kept: that is neither kept nor handed over.
-/
set_option autoImplicit false

namespace Lookout

open Registry (Action ticketIs receivedBy)

namespace Resolver

section
variable {buffer : Nat} {ns : List Notice} {r : Resolver} {service : String} {w : WatcherId}

/-! ## Sessions that go on -/

/-- The registries of all sessions that count for their services go on. -/
def Lively (r : Resolver) : Prop :=
  ∀ service i d, r.ledger.post? service = some (i, d) → d.registry.cancelled = false

theorem Lively.of_old (hlively : Lively r) (h : Ledger.Reached buffer ns r.ledger) {e : Event}
    (hdrop : e ≠ .drop) {i : Nat} {d d' : Desk} (hpost : r.ledger.post? service = some (i, d))
    (hpost' : (r.react e).1.ledger.post? service = some (i, d')) :
    d'.registry.cancelled = false := by
  obtain ⟨hseat, hd⟩ := Ledger.of_post? hpost
  obtain ⟨hseat', hd'⟩ := Ledger.of_post? hpost'
  obtain ⟨actions, b, hb, hundergoes, hwarrants⟩ := affects_react h.orderly hd e
  obtain rfl := Option.some.inj (hb.symm.trans hd')
  have howner := h.orderly.service_of_seat hseat hd
  have hcancel : .cancel ∉ actions := by
    intro hcancel
    rcases hwarrants.cancelled hcancel with ⟨hfree, rfl | rfl⟩ | hcall
    · -- after a stop no session counts
      have hnone := (h.step (r.ledger_react .stop)).orderly.seat?_of_stopped
        (stopped_of_stop hfree) service
      exact absurd (hnone.symm.trans hseat') (by simp)
    · exact hdrop rfl
    · obtain ⟨hvacant, -⟩ : r.ledger.Vacant d.service i ∧ r.ledger.Fits := h.orderly.call _ hcall
      rw [Ledger.seat?_of_cancelling (g := r.ledger) hcall, ← howner, hvacant.unwatched] at hseat
      exact absurd hseat (by simp)
  refine Bool.eq_false_iff.2 ?_
  rw [hundergoes.registry, ne_eq, Registry.cancelled_run, hlively service i d hpost]
  simp [hcancel]

theorem Lively.react (hlively : Lively r) (h : Ledger.Reached buffer ns r.ledger) {e : Event}
    (hdrop : e ≠ .drop) : Lively (r.react e).1 := by
  intro service i d' hpost'
  have hstep := r.ledger_react e
  obtain ⟨-, ⟨d, hpost⟩ | ⟨-, hi, -⟩⟩ := (hstep.turn h.orderly service).origin hpost'
  · exact hlively.of_old h hdrop hpost hpost'
  · rcases hstep.origin (Ledger.of_post? hpost').2 with ⟨d, hd, -⟩ | ⟨a, w, -, -, rfl, -⟩
    · rw [hi, List.getElem?_eq_none (Nat.le_refl _)] at hd
      cases hd
    · rfl

theorem Lively.run (hlively : Lively r) (h : Ledger.Reached buffer ns r.ledger)
    {events : List Event} (hdrop : .drop ∉ events) : Lively (r.run events).1 := by
  induction events generalizing ns r with
  | nil => exact hlively
  | cons e rest ih =>
    simp only [List.mem_cons, not_or] at hdrop
    exact ih (hlively.react h (Ne.symm hdrop.1)) (h.step (r.ledger_react e)) hdrop.2

/-! ## Registration -/

/-- A call registers a watcher at the event, in session `i` whose desk is `b` right before. -/
structure Hosts (r : Resolver) (e : Event) (service : String) (w : WatcherId) (i : Nat) (b : Desk) :
    Prop where
  desk : r.ledger.desks[i]? = some b
  owner : b.service = service
  fits : r.ledger.Fits
  new : b.registry.has w = false
  desk' : (r.react e).1.ledger.desks[i]? = some { b with registry := (b.registry.add w).1 }
  watched : (r.react e).1.watched.find? service = some i
  free : (r.react e).1.call? = none
  silent : (r.react e).2 = []

theorem exists_hosts_watch (h : r.ledger.Orderly) (hnew : w ∉ r.ledger.members service)
    (hfree : r.call? = none) (hok : (r.addWatch service w).2 = some .ok) :
    ∃ i b, Hosts r (.watch service w) service w i b := by
  have hreact : (r.react (.watch service w)).1 = (r.addWatch service w).1 :=
    whenFree_of_free hfree fun r => (r.addWatch service w).1
  rcases r.addWatch_cases service w with ⟨f, -, heq⟩ | ⟨-, ⟨i, hwatched, heq⟩ | ⟨-, heq⟩⟩
  · rw [heq] at hok
    exact absurd hok (by simp)
  · obtain ⟨b, hb, howner⟩ := h.watched service i hwatched
    have hpost := Ledger.post?_of_seat (h.seat?_of_watched hwatched) hb
    rw [ledger_desks_getElem?] at hb
    obtain ⟨s, hs, rfl⟩ := Option.map_eq_some_iff.1 hb
    have hjoined := ledger_join hs w
    rw [heq] at hreact
    refine ⟨i, s.desk, ⟨by simp [hs], howner, h.fits service i hwatched, ?_, ?_, ?_, ?_, rfl⟩⟩
    · rw [Ledger.members_of_post? hpost, ← Registry.has_iff_mem] at hnew
      exact Bool.eq_false_iff.2 hnew
    · have hdesk : r.ledger.desks[i]? = some s.desk := by simp [hs]
      rw [hreact, hjoined, Ledger.modify_getElem?, if_pos rfl, hdesk]
      rfl
    · rw [hreact]
      exact (congrArg (·.watched.find? service) hjoined).trans hwatched
    · rw [hreact, call?_join]
      exact hfree
  · rw [heq] at hok
    exact absurd hok (by simp)

theorem exists_hosts_proceed (h : r.ledger.Orderly) {i : Nat}
    (hcall : r.call? = some (.joining service i w)) (hok : (r.proceed service).2 = some .ok) :
    ∃ i b, Hosts r (.proceed service) service w i b := by
  obtain ⟨b, hb, howner, hempty⟩ := (h.joining hcall).desk
  have hproceed : r.proceed service = r.register service i w := by
    simp only [proceed, hcall, if_true]
  have hreact : (r.react (.proceed service)).1 = (r.register service i w).1 := by
    simp only [react, hproceed]
  rw [hproceed] at hok
  rw [ledger_desks_getElem?] at hb
  obtain ⟨s, hs, rfl⟩ := Option.map_eq_some_iff.1 hb
  have hdesk : r.ledger.desks[i]? = some s.desk := by simp [hs]
  rcases r.register_cases service i w with ⟨-, heq⟩ | ⟨hfits, heq⟩
  · rw [heq] at hok
    exact absurd hok (by simp)
  · rw [heq] at hreact
    refine ⟨i, s.desk, ⟨hdesk, howner, ?_, by simp [Registry.has, hempty], ?_, ?_, ?_, rfl⟩⟩
    · refine h.fits_of_registered hcall fun d hd => ?_
      obtain rfl := Option.some.inj (hdesk.symm.trans hd)
      rw [join_added hs] at hfits
      exact hfits
    · rw [hreact]
      refine (congrArg (·.desks[i]?) (ledger_join hs w)).trans ?_
      rw [Ledger.modify_getElem?, if_pos rfl, hdesk]
      rfl
    · rw [hreact]
      exact Dict.find?_insert_self _ _ _
    · rw [hreact]

theorem exists_hosts (h : r.ledger.Orderly) (hnew : w ∉ r.ledger.members service) {e : Event}
    (hadds : Adds r service w e) : ∃ i b, Hosts r e service w i b := by
  rcases hadds with ⟨rfl, hfree, hok⟩ | ⟨rfl, ⟨i, hcall⟩, hok⟩
  · exact exists_hosts_watch h hnew hfree hok
  · exact exists_hosts_proceed h hcall hok

namespace Hosts

variable {e : Event} {i : Nat} {b : Desk} {c : Snapshot}

theorem capacity (h : Hosts r e service w i b) (horderly : r.ledger.Orderly) :
    b.registry.capacity = max r.ledger.buffer 1 := (horderly.desks i b h.desk).sized

theorem issued (h : Hosts r e service w i b) (horderly : r.ledger.Orderly) :
    (b.registry.add w).1.Issued b.registry.issued := by
  refine (horderly.desks i b h.desk).registry.issued_add ?_ h.new ?_
  · rw [h.capacity horderly]
    omega
  · rw [h.capacity horderly]
    exact h.fits

theorem registration? (h : Hosts r e service w i b) (horderly : r.ledger.Orderly) :
    (b.registry.add w).1.registration? (ticketIs b.registry.issued) =
      some (b.registry.newcomer w) := by
  refine Registry.registration?_add ?_ ?_ h.new
    (horderly.desks i b h.desk).registry.registration?_issued (by simp [ticketIs])
  · rw [h.capacity horderly]
    omega
  · rw [h.capacity horderly]
    exact h.fits

theorem currentState_eq (h : Hosts r e service w i b)
    (hreached : Ledger.Reached buffer ns r.ledger) :
    (r.react e).1.currentState service = b.registry.current? ∧
      r.answer (.session i) = b.registry.current? := by
  have horderly := (hreached.step (r.ledger_react e)).orderly
  refine ⟨?_, ?_⟩
  · rw [currentState_of_free h.free, Ledger.current_of_seat (horderly.seat?_of_watched h.watched),
      Ledger.currentOf_of_desk h.desk']
    exact Ledger.current_add _ w
  · rw [answer_session, Ledger.currentOf_of_desk h.desk]

theorem deliveries_eq_nil (h : Hosts r e service w i b)
    (hreached : Ledger.Reached buffer ns r.ledger) :
    deliveries service (registrationIs i b.registry.issued) ns = [] := by
  refine Decidable.byContradiction fun hsome => ?_
  obtain ⟨d, hd, hlt⟩ := hreached.ticket_lt hsome
  obtain rfl := Option.some.inj (h.desk.symm.trans hd)
  exact Nat.lt_irrefl _ hlt

end Hosts

end

/-- How a registration fares that a call makes at event `e`, after the events `before`: `c` is
current then and in its mailbox, is the first snapshot that it is handed, and is handed to it with
the first step of its delivery task unless it is taken out, or the resolver is stopped or let go,
before. -/
structure Greeted (start : Resolver) (before : List Event) (e : Event) (service : String)
    (w : WatcherId) (c : Snapshot) (session ticket : Nat) : Prop where
  current : (start.run before).1.answer (.session session) = some c
  watched : (start.run (before ++ [e])).1.watched.find? service = some session
  registered : ∃ s q, (start.run (before ++ [e])).1.session? session = some s ∧
    q ∈ s.registry.registrations ∧ q.ticket = ticket ∧ q.watcher = w ∧ q.unread = [c]
  fresh : deliveries service (registrationIs session ticket) (start.run before).2 = []
  first : ∀ after s, (deliveries service (registrationIs session ticket)
    (start.run (before ++ e :: after)).2).head? = some s → s = c
  own : ∀ after v s,
    .delivered session ticket service v s ∈ (start.run (before ++ e :: after)).2 → v = w
  handed : ∀ front back, .drop ∉ before ++ front →
    Stays (start.run (before ++ [e])).1 front service w →
    (deliveries service (registrationIs session ticket) (start.run (before ++ e ::
      (front ++ .step (.deliver session ticket) :: back))).2).head? = some c

section
variable {start : Resolver} {before : List Event} {e : Event} {service : String} {w : WatcherId}
  {c : Snapshot} {buffer i : Nat} {b : Desk}

namespace Hosts

theorem unread_newcomer {g : Registry} (hc : g.current? = some c) :
    (g.newcomer w).unread = [c] := by
  simp only [Registry.newcomer]
  rw [hc]
  rfl

theorem run_eq (h : Hosts (start.run before).1 e service w i b) (after : List Event) :
    start.run (before ++ e :: after) =
      ((((start.run before).1.react e).1.run after).1,
        (start.run before).2 ++ (((start.run before).1.react e).1.run after).2) := by
  rw [run_append, run_cons, h.silent]
  rfl

theorem deliveries_run (h : Hosts (start.run before).1 e service w i b)
    (hreached : Ledger.Reached buffer (start.run before).2 (start.run before).1.ledger)
    {after : List Event} {actions : List Action} {d' : Desk}
    (hundergoes : Desk.Undergoes i { b with registry := (b.registry.add w).1 } actions
      (((start.run before).1.react e).1.run after).2 d') :
    deliveries service (registrationIs i b.registry.issued) (start.run (before ++ e :: after)).2 =
      receivedBy b.registry.issued ((b.registry.add w).1.run actions).2 := by
  have hreceipts := hundergoes.receipts
  rw [h.owner] at hreceipts
  rw [h.run_eq, deliveries_append, h.deliveries_eq_nil hreached, List.nil_append,
    deliveries_eq_receivedBy, hreceipts]

theorem first (h : Hosts (start.run before).1 e service w i b)
    (hreached : Ledger.Reached buffer (start.run before).2 (start.run before).1.ledger)
    (hc : b.registry.current? = some c) (after : List Event) {s : Snapshot}
    (hs : (deliveries service (registrationIs i b.registry.issued)
      (start.run (before ++ e :: after)).2).head? = some s) : s = c := by
  obtain ⟨actions, d', -, hundergoes⟩ :=
    undergoes_run (hreached.step ((start.run before).1.ledger_react e)) h.desk' after
  rw [h.deliveries_run hreached hundergoes] at hs
  exact (h.issued hreached.orderly).head?_receivedBy (h.registration? hreached.orderly) rfl
    (unread_newcomer hc) hs

theorem own (h : Hosts (start.run before).1 e service w i b)
    (hreached : Ledger.Reached buffer (start.run before).2 (start.run before).1.ledger)
    {after : List Event} {v : WatcherId} {s : Snapshot}
    (hmem : .delivered i b.registry.issued service v s ∈ (start.run (before ++ e :: after)).2) :
    v = w := by
  rw [h.run_eq] at hmem
  rcases List.mem_append.1 hmem with hearly | hlate
  · have hnothing := h.deliveries_eq_nil hreached
    refine absurd (List.filterMap_eq_nil_iff.1 hnothing _ hearly) ?_
    simp [Notice.delivery?, registrationIs]
  · obtain ⟨actions, d', -, hundergoes⟩ :=
      undergoes_run (hreached.step ((start.run before).1.ledger_react e)) h.desk' after
    have hreceipts := hundergoes.receipts
    rw [h.owner] at hreceipts
    have hreceipt := mem_receiptsOf hlate
    rw [hreceipts] at hreceipt
    have hwatcher : ∀ q, (b.registry.add w).1.registration? (ticketIs b.registry.issued) = some q →
        q.watcher = w := by
      intro q hq
      obtain rfl := Option.some.inj ((h.registration? hreached.orderly).symm.trans hq)
      rfl
    exact Registry.watcher_of_received (h.issued hreached.orderly) hwatcher hreceipt rfl

theorem handed (h : Hosts (start.run before).1 e service w i b)
    (hreached : Ledger.Reached buffer (start.run before).2 (start.run before).1.ledger)
    (hlively : Lively ((start.run before).1.react e).1) (hc : b.registry.current? = some c)
    {front : List Event} (back : List Event) (hdrop : .drop ∉ front)
    (hstays : Stays ((start.run before).1.react e).1 front service w) :
    deliveries service (registrationIs i b.registry.issued) (start.run (before ++ e ::
      (front ++ .step (.deliver i b.registry.issued) :: back))).2 ≠ [] := by
  have hnext := hreached.step ((start.run before).1.ledger_react e)
  have hissued := h.issued hreached.orderly
  have hregistered := h.registration? hreached.orderly
  have hgoing : (b.registry.add w).1.cancelled = false :=
    hlively service i _ (Ledger.post?_of_seat (hnext.orderly.seat?_of_watched h.watched) h.desk')
  obtain ⟨early, d, hd, hearly, hremove, hclose, hcancel⟩ :=
    undergoes_run_of_kept hnext h.desk' (by rw [h.owner]; exact h.watched) hissued hregistered
      (by rw [h.owner]; exact hstays)
  -- the step of the delivery task, and what comes after it
  have hfront := hnext.run front
  obtain ⟨now, d', hd', hnow, hwarrants⟩ :=
    affects_react hfront.orderly hd (.step (.deliver i b.registry.issued))
  obtain rfl := hwarrants.delivered _ rfl
  obtain ⟨late, d'', -, hlate⟩ := undergoes_run (hfront.step (Resolver.ledger_react _ _)) hd' back
  have hundergoes : Desk.Undergoes i { b with registry := (b.registry.add w).1 }
      (early ++ .deliver b.registry.issued :: late)
      (((start.run before).1.react e).1.run
        (front ++ .step (.deliver i b.registry.issued) :: back)).2 d'' := by
    rw [run_append]
    exact hearly.trans (hnow.trans hlate)
  rw [h.deliveries_run hreached hundergoes]
  refine hissued.exists_received hregistered rfl hgoing ?_ hremove hclose (hcancel hdrop) _
  rw [unread_newcomer hc]
  simp

theorem greeted (h : Hosts (start.run before).1 e service w i b)
    (hstart : Ledger.Reached buffer [] start.ledger) (hlively : Lively start) (he : e ≠ .drop)
    (hc : b.registry.current? = some c) :
    Greeted start before e service w c i b.registry.issued := by
  have hreached := reached_run_of hstart before
  have hafter : (start.run (before ++ [e])).1 = ((start.run before).1.react e).1 := by
    rw [run_concat]
  refine ⟨(h.currentState_eq hreached).2.trans hc, by rw [hafter]; exact h.watched, ?_,
    h.deliveries_eq_nil hreached, fun after s hs => h.first hreached hc after hs,
    fun after v s hmem => h.own hreached hmem, ?_⟩
  · rw [hafter]
    have hd := h.desk'
    rw [ledger_desks_getElem?] at hd
    obtain ⟨s, hs, hdesk⟩ := Option.map_eq_some_iff.1 hd
    have hmem := (Registry.mem_of_registration? (h.registration? hreached.orderly)).1
    have hregistry : s.registry = (b.registry.add w).1 := congrArg Desk.registry hdesk
    rw [← hregistry] at hmem
    exact ⟨s, b.registry.newcomer w, hs, hmem, rfl, rfl, unread_newcomer hc⟩
  · intro front back hdrop hstays
    simp only [List.mem_append, not_or] at hdrop
    rw [hafter] at hstays
    have hgoing := (hlively.run hstart hdrop.1).react hreached he
    have hsome := h.handed hreached hgoing hc back hdrop.2 hstays
    obtain ⟨s, more, hs⟩ := List.exists_cons_of_ne_nil hsome
    have hhead := congrArg List.head? hs
    rw [hhead]
    rw [List.head?_cons] at hhead ⊢
    rw [h.first hreached hc _ hhead]

end Hosts

end

/-! ## Services that have been published -/

/-- What is current of a service at the end of a run is what was published last exactly if nothing
was published or what was is remembered. The converse is meant for as long as the counter of the
service does not wrap. -/
structure LastIff (r : Resolver) (service : String) (events : List Event) (remembered : Prop) :
    Prop where
  last : publications service (r.run events).2 = [] ∨ remembered →
    (r.run events).1.currentState service = (publications service (r.run events).2).getLast?
  remembered : (builds service (r.run events).2).length < UInt64.size →
    (r.run events).1.currentState service = (publications service (r.run events).2).getLast? →
    publications service (r.run events).2 = [] ∨ remembered

section
variable {r : Resolver} {buffer : Nat} {service : String} {events : List Event}

theorem lastIff_remembered (h : Ledger.Reached buffer [] r.ledger)
    (hfree : (r.run events).1.call? = none) :
    LastIff r service events (Remembered r service events events) := by
  have hback : events ++ [] = events := List.append_nil events
  refine ⟨fun hremembered => ?_, fun hfew hlast => ?_⟩
  · have hanswer : publications service (r.run (events ++ [])).2 = [] ∨
        Remembered r service events (events ++ []) := by rwa [hback]
    have hlast := answer_of_remembered h hfree hanswer
    rwa [hback] at hlast
  · have hanswer : (r.run (events ++ [])).1.answer ((r.run events).1.lookUp service) =
        (publications service (r.run (events ++ [])).2).getLast? := by rwa [hback]
    have hremembered := remembered_of_answer h hfree (by rwa [hback]) hanswer
    rwa [hback] at hremembered

theorem unwatched_of_idle (hidle : r.watchState service = .idle) :
    r.watched.find? service = none := by
  unfold watchState at hidle
  split at hidle
  · exact absurd hidle (by simp)
  · split at hidle
    · exact absurd hidle (by simp)
    · next hunwatched => simpa [Dict.contains] using hunwatched

theorem remembered_iff_of_unwatched (hunwatched : (r.run events).1.watched.find? service = none) :
    Remembered r service events events ↔ LastKept r service events := by
  simp only [Remembered, LastKept, hunwatched]
  simp

end

section

variable (name : String) (config : ResolverConfig) (source : Source) (backoff : Backoff)
  (hooked : Bool) (stamp : String)

theorem lively_create : Lively (create name config source backoff hooked stamp) := by
  intro service i d hpost
  exact absurd hpost (by simp [Ledger.post?, Ledger.seat?, create, ledger])

/-- A watcher that comes to be registered for a service first gets the snapshot that is current
then, if there is one, and that is current when the call has returned. It is what was published
last, and so is what is current while the service is idle, exactly if nothing was published at all
or what was is remembered: by the session that is joined, or because its session was kept since. -/
theorem newcomers_get_current (events : List Event) (service : String) :
    (∀ e w, Adds ((create name config source backoff hooked stamp).run events).1 service w e →
      ¬Registered (create name config source backoff hooked stamp) events service w →
      (∀ c, ((create name config source backoff hooked stamp).run
            (events ++ [e])).1.currentState service = some c →
        ∃ session ticket, Greeted (create name config source backoff hooked stamp) events e service
          w c session ticket) ∧
      LastIff (create name config source backoff hooked stamp) service (events ++ [e])
        (Remembered (create name config source backoff hooked stamp) service (events ++ [e])
          (events ++ [e]))) ∧
    (((create name config source backoff hooked stamp).run events).1.call? = none →
      ((create name config source backoff hooked stamp).run events).1.watchState service = .idle →
      LastIff (create name config source backoff hooked stamp) service events
        (LastKept (create name config source backoff hooked stamp) service events)) := by
  have hbegin : Ledger.Reached config.watcherBuffer.toNat []
      (create name config source backoff hooked stamp).ledger := .create
  have hlively := lively_create name config source backoff hooked stamp
  have hnobody : ∀ w, w ∉ (create name config source backoff hooked stamp).ledger.members service :=
    fun w hmember => absurd hmember (by simp [Ledger.members, Ledger.post?, Ledger.seat?, create,
      ledger])
  generalize create name config source backoff hooked stamp = start at hbegin hlively hnobody ⊢
  refine ⟨?_, ?_⟩
  · intro e w hadds hunregistered
    have hreached := reached_run_of hbegin events
    have hnew : w ∉ (start.run events).1.ledger.members service := by
      rw [mem_members_run hbegin]
      rintro (⟨hmember, -⟩ | hregistered)
      · exact hnobody w hmember
      · exact hunregistered hregistered
    obtain ⟨i, b, hhosts⟩ := exists_hosts hreached.orderly hnew hadds
    have hdrop : e ≠ .drop := by
      rintro rfl
      simp [Adds] at hadds
    refine ⟨fun c hc => ?_, lastIff_remembered hbegin (by rw [run_concat]; exact hhosts.free)⟩
    rw [run_concat, (hhosts.currentState_eq hreached).1] at hc
    exact ⟨i, b.registry.issued, hhosts.greeted hbegin hlively hdrop hc⟩
  · intro hfree hidle
    rw [← remembered_iff_of_unwatched (unwatched_of_idle hidle)]
    exact lastIff_remembered hbegin hfree

/-- A service is published and left, and watched once more while it cannot be listed. -/
def outages : List Event :=
  [.watch "a" "w", .proceed "a", .step (.evaluate 0), .step (.evaluate 0), .step (.evaluate 0),
    .unwatch "a" "w", .proceed "a", .proceed "a", .proceed "a", .change (.failLists (some "down")),
    .watch "a" "v", .proceed "a", .step (.evaluate 1), .step (.evaluate 1), .unwatch "a" "v",
    .proceed "a", .proceed "a", .proceed "a"]

theorem lastKept_outages :
    LastKept (create "r" (.create "n" ["http"]) (.memory .empty) .standard true "") "a"
      outages := by
  refine ⟨0, by decide, outages.take 6, outages.drop 7, rfl, rfl, ?_⟩
  rfl

theorem newcomers_get_current_in_outage :
    ∃ c, ((create "r" (.create "n" ["http"]) (.memory .empty) .standard true "").run
        outages).1.currentState "a" = some c ∧
      ((create "r" (.create "n" ["http"]) (.memory .empty) .standard true "").run
        outages).1.currentState "a" =
          (publications "a" ((create "r" (.create "n" ["http"]) (.memory .empty) .standard true
            "").run outages).2).getLast? ∧
      (deliveries "a" (registrationIs 2 0)
        ((create "r" (.create "n" ["http"]) (.memory .empty) .standard true "").run
          (outages ++ [.watch "a" "w"] ++ .proceed "a" ::
            ([.step (.evaluate 2), .step (.evaluate 2)] ++
              [.step (.deliver 2 0)]))).2).head? = some c := by
  obtain ⟨-, hidle⟩ := newcomers_get_current "r" (.create "n" ["http"]) (.memory .empty)
    .standard true "" outages "a"
  obtain ⟨hnew, -⟩ := newcomers_get_current "r" (.create "n" ["http"]) (.memory .empty)
    .standard true "" (outages ++ [.watch "a" "w"]) "a"
  have hlast := (hidle rfl rfl).last (.inr lastKept_outages)
  have hunregistered : ¬Registered
      (create "r" (.create "n" ["http"]) (.memory .empty) .standard true "")
      (outages ++ [.watch "a" "w"]) "a" "w" := by
    intro hregistered
    have hbegin : Ledger.Reached (ResolverConfig.create "n" ["http"]).watcherBuffer.toNat []
        (create "r" (.create "n" ["http"]) (.memory .empty) .standard true "").ledger := .create
    have hmember := (mem_members_run hbegin (outages ++ [.watch "a" "w"])).2 (Or.inr hregistered)
    revert hmember
    decide
  obtain ⟨hgreets, -⟩ := hnew (.proceed "a") "w" (.inr ⟨rfl, ⟨2, rfl⟩, rfl⟩) hunregistered
  have hcurrent : ∃ c, ((create "r" (.create "n" ["http"]) (.memory .empty) .standard true
      "").run outages).1.currentState "a" = some c ∧
      ((create "r" (.create "n" ["http"]) (.memory .empty) .standard true "").run
        (outages ++ [.watch "a" "w"] ++ [.proceed "a"])).1.currentState "a" = some c :=
    ⟨_, rfl, rfl⟩
  obtain ⟨c, hc, hlater⟩ := hcurrent
  obtain ⟨session, ticket, hgreeted⟩ := hgreets c hlater
  obtain rfl : session = 2 := Option.some.inj (hgreeted.watched.symm.trans (by decide))
  have hfirst : ∀ s q, ((create "r" (.create "n" ["http"]) (.memory .empty) .standard true
      "").run (outages ++ [.watch "a" "w"] ++ [.proceed "a"])).1.session? 2 = some s →
      q ∈ s.registry.registrations → q.ticket = 0 := by
    intro s q hs hq
    have hall : ∀ p ∈ (((create "r" (.create "n" ["http"]) (.memory .empty) .standard true
        "").run (outages ++ [.watch "a" "w"] ++ [.proceed "a"])).1.session? 2).toList.flatMap
          (·.registry.registrations), p.ticket = 0 := by
      decide
    exact hall q (by rw [hs]; simpa using hq)
  obtain ⟨s, q, hs, hq, hticket, -⟩ := hgreeted.registered
  rw [hfirst s q hs hq] at hticket
  subst hticket
  refine ⟨c, hc, hlast, hgreeted.handed [.step (.evaluate 2), .step (.evaluate 2)] [] ?_ ?_⟩
  · simp [outages]
  · intro front e back hsplit hremoves
    have hmem : e ∈ [Event.step (.evaluate 2), Event.step (.evaluate 2)] := by
      rw [hsplit]
      simp
    obtain ⟨-, rfl | rfl⟩ := hremoves
    · simp at hmem
    · simp at hmem

/-- What is published after the snapshot of its session has been kept is not kept any more. -/
theorem published_after_kept :
    ((create "r" (.create "n" ["http"]) (.memory .empty) .standard true "").run
      [.watch "a" "w", .proceed "a", .step (.evaluate 0), .step (.evaluate 0), .unwatch "a" "w",
        .proceed "a", .step (.evaluate 0), .proceed "a", .proceed "a"]).1.watchState "a" = .idle ∧
    ((create "r" (.create "n" ["http"]) (.memory .empty) .standard true "").run
      [.watch "a" "w", .proceed "a", .step (.evaluate 0), .step (.evaluate 0), .unwatch "a" "w",
        .proceed "a", .step (.evaluate 0), .proceed "a", .proceed "a"]).1.currentState "a" ≠
      (publications "a" ((create "r" (.create "n" ["http"]) (.memory .empty) .standard true "").run
        [.watch "a" "w", .proceed "a", .step (.evaluate 0), .step (.evaluate 0), .unwatch "a" "w",
          .proceed "a", .step (.evaluate 0), .proceed "a", .proceed "a"]).2).getLast? := by
  refine ⟨rfl, fun hlast => ?_⟩
  have hnone : (((create "r" (.create "n" ["http"]) (.memory .empty) .standard true "").run
      [.watch "a" "w", .proceed "a", .step (.evaluate 0), .step (.evaluate 0), .unwatch "a" "w",
        .proceed "a", .step (.evaluate 0), .proceed "a", .proceed "a"]).1.currentState "a").isNone =
      true := by
    decide
  rw [hlast] at hnone
  revert hnone
  decide

end

end Resolver

end Lookout
