import Lookout.Proofs.Registry.Acceptance
import Lookout.Proofs.Resolver.Delivery
import Lookout.Proofs.Resolver.Members

/-!
# Mailboxes of a session

Whatever happens to a resolver, the registry of each of its sessions goes through a run of actions,
and the resolver's notices tell what that run hands over. A watcher is removed by a call that says
so; a registry is closed, and its delivery tasks are told to end before, only when the last watcher
has left or the resolver stops. So all that is known of one mailbox in the run of a registry is
known of it in the run of a resolver.
-/
set_option autoImplicit false

namespace Lookout

open Registry (Action Receipt ticketIs receivedBy)

def Notice.receipt? (session : Nat) (service : String) : Notice → Option Receipt
  | .delivered i t owner w s => if i = session ∧ owner = service then some ⟨t, w, s⟩ else none
  | _ => none

/-- What the watchers of one session of a service were handed, in order. -/
def receiptsOf (session : Nat) (service : String) (ns : List Notice) : List Receipt :=
  ns.filterMap (·.receipt? session service)

@[simp]
theorem receiptsOf_nil (session : Nat) (service : String) : receiptsOf session service [] = [] :=
  rfl

@[simp]
theorem receiptsOf_append (session : Nat) (service : String) (ns ms : List Notice) :
    receiptsOf session service (ns ++ ms) =
      receiptsOf session service ns ++ receiptsOf session service ms :=
  List.filterMap_append

theorem receiptsOf_quiet {ns : List Notice} (h : ∀ n ∈ ns, n.isEntry = false) (session : Nat)
    (service : String) : receiptsOf session service ns = [] := by
  refine List.filterMap_eq_nil_iff.2 ?_
  intro n hn
  have hquiet := h n hn
  cases n <;> simp_all [Notice.isEntry, Notice.receipt?]

theorem mem_receiptsOf {session t : Nat} {service : String} {w : WatcherId} {s : Snapshot}
    {ns : List Notice} (h : .delivered session t service w s ∈ ns) :
    ⟨t, w, s⟩ ∈ receiptsOf session service ns :=
  List.mem_filterMap.2 ⟨_, h, by simp [Notice.receipt?]⟩

theorem deliveries_eq_receivedBy (service : String) (session t : Nat) (ns : List Notice) :
    deliveries service (registrationIs session t) ns =
      receivedBy t (receiptsOf session service ns) := by
  induction ns with
  | nil => rfl
  | cons n rest ih =>
    have hhead : deliveries service (registrationIs session t) [n] =
        receivedBy t (receiptsOf session service [n]) := by
      cases n with
      | delivered i u owner w s =>
        by_cases hi : i = session
        · by_cases howner : owner = service
          · by_cases hu : u = t
            · simp [deliveries, receiptsOf, Notice.delivery?, Notice.receipt?, registrationIs,
                receivedBy, hi, howner, hu]
            · simp [deliveries, receiptsOf, Notice.delivery?, Notice.receipt?, registrationIs,
                receivedBy, hi, howner, hu]
          · simp [deliveries, receiptsOf, Notice.delivery?, Notice.receipt?, receivedBy, howner]
        · simp [deliveries, receiptsOf, Notice.delivery?, Notice.receipt?, registrationIs,
            receivedBy, hi]
      | _ => rfl
    calc deliveries service (registrationIs session t) (n :: rest)
        = deliveries service (registrationIs session t) [n] ++
            deliveries service (registrationIs session t) rest := deliveries_append _ _ [n] rest
      _ = receivedBy t (receiptsOf session service [n]) ++
            receivedBy t (receiptsOf session service rest) := by rw [hhead, ih]
      _ = receivedBy t (receiptsOf session service (n :: rest)) := by
          rw [← Registry.receivedBy_append, ← receiptsOf_append]
          rfl

/-! ## Runs of a registry -/

namespace Registry

theorem Issued.run {g : Registry} {t : Nat} (h : g.Issued t) (actions : List Action) :
    (g.run actions).1.Issued t := by
  induction actions generalizing g with
  | nil => exact h
  | cons a rest ih => exact ih (h.react a)

theorem Issued.head?_receivedBy {g : Registry} {t : Nat} (h : g.Issued t) {q : Registration}
    (hq : g.registration? (ticketIs t) = some q) (hopen : q.closed = false) {c : Snapshot}
    {more : List Snapshot} (hunread : q.unread = c :: more) {actions : List Action}
    {s : Snapshot} (hs : (receivedBy t (g.run actions).2).head? = some s) : s = c := by
  have hcapacity : g.capacity = max g.capacity 1 := (Nat.max_eq_left h.room).symm
  obtain ⟨rest, hrest⟩ := (h.account hcapacity hq hopen actions).inOrder
  obtain ⟨tail, htail⟩ := List.head?_eq_some_iff.1 hs
  rw [htail, hunread] at hrest
  exact (List.cons.inj hrest).1

/-- It is handed it at the latest with the first step of its delivery task, if it stays and the
registry goes on until then. -/
theorem Issued.exists_received {g : Registry} {t : Nat} (h : g.Issued t) {q : Registration}
    (hq : g.registration? (ticketIs t) = some q) (hopen : q.closed = false)
    (hgoing : g.cancelled = false) (hunread : q.unread ≠ []) {before : List Action}
    (hremove : .remove q.watcher ∉ before) (hclose : .close ∉ before)
    (hcancel : .cancel ∉ before) (after : List Action) :
    receivedBy t (g.run (before ++ .deliver t :: after)).2 ≠ [] := by
  have hcapacity : g.capacity = max g.capacity 1 := (Nat.max_eq_left h.room).symm
  obtain ⟨hregistered, -⟩ := registered_run h hq before
  obtain ⟨p, hp⟩ := Option.isSome_iff_exists.1 (hregistered.2 ⟨hremove, hclose⟩)
  have hgoing' : (g.run before).1.cancelled = false := by
    refine Bool.eq_false_iff.2 ?_
    rw [ne_eq, cancelled_run, hgoing]
    simp [hcancel]
  have hopen' : p.closed = false := by
    refine Bool.eq_false_iff.2 ?_
    rw [ne_eq, closed_run h hq hp, hopen]
    rintro (hclosed | ⟨x, y, hsplit, hcancelled | hearly⟩)
    · cases hclosed
    · rw [hgoing] at hcancelled
      cases hcancelled
    · exact hcancel (by rw [hsplit]; simp [hearly])
  have hrunning : (g.run before).1.running? t = some p :=
    Option.filter_eq_some_iff.2 ⟨hp, by simp [hopen']⟩
  have hcomplete := (h.account hcapacity hq hopen before).complete p hrunning
  obtain ⟨hmem, hkey⟩ := mem_of_registration? hp
  have hticket : p.ticket = t := by simpa [ticketIs] using hkey
  rw [run_append, receivedBy_append, run_cons, receivedBy_append]
  intro hnothing
  obtain ⟨hearly, hrest⟩ := List.append_eq_nil_iff.1 hnothing
  obtain ⟨hstep, -⟩ := List.append_eq_nil_iff.1 hrest
  -- nothing has been handed over before, so what was unread still is
  rw [hearly, List.nil_append] at hcomplete
  have hleft : p.unread ≠ [] := by
    rw [hcomplete]
    simp [hunread]
  obtain ⟨s, more, hp'⟩ := List.exists_cons_of_ne_nil hleft
  have hreceived := receivedBy_react (h.run before).orderly hmem (.deliver p.ticket)
  rw [hticket, hstep] at hreceived
  simp [snapshotsFor, hticket, deliverOne, hopen', hgoing', hp', Delivery.handed] at hreceived

end Registry

/-- A desk goes through a run of actions, of which the notices tell what was handed over. -/
structure Desk.Undergoes (i : Nat) (d : Desk) (actions : List Action) (ns : List Notice)
    (d' : Desk) : Prop where
  service : d'.service = d.service
  registry : d'.registry = (d.registry.run actions).1
  receipts : receiptsOf i d.service ns = (d.registry.run actions).2

namespace Desk

variable {i : Nat} {d d' d'' : Desk} {actions later : List Action} {ns ms : List Notice}

theorem Undergoes.nothing (h : receiptsOf i d.service ns = []) : d.Undergoes i [] ns d :=
  ⟨rfl, rfl, h⟩

theorem Undergoes.trans (h : d.Undergoes i actions ns d') (hlater : d'.Undergoes i later ms d'') :
    d.Undergoes i (actions ++ later) (ns ++ ms) d'' := by
  have hreceipts := hlater.receipts
  rw [h.service, h.registry] at hreceipts
  refine ⟨hlater.service.trans h.service, ?_, ?_⟩
  · rw [hlater.registry, h.registry, Registry.run_append]
  · rw [receiptsOf_append, h.receipts, hreceipts, Registry.run_append]

end Desk

namespace Ledger

theorem Orderly.open_of_watched {g : Ledger} (h : g.Orderly) {service : String} {i : Nat}
    (hwatched : g.watched.find? service = some i) : g.stopped = false := by
  refine Bool.eq_false_iff.2 fun hstopped => ?_
  rw [h.stopped hstopped] at hwatched
  exact absurd hwatched (by simp)

theorem Step.watched_of_manned {g g' : Ledger} {ns : List Notice} (hstep : Step g ns g')
    (h : g.Orderly) {service : String} {i : Nat} (hwatched : g.watched.find? service = some i)
    {d' : Desk} (hd' : g'.desks[i]? = some d') (hmanned : d'.registry.registrations ≠ [])
    (hopen : g'.stopped = false) : g'.watched.find? service = some i := by
  cases hstep with
  | @registered a j w hcall hfits =>
    change (g.watched.insert a j).find? service = some i
    rw [Dict.find?_insert, if_neg ?_]
    · exact hwatched
    · rintro rfl
      exact absurd (hwatched.symm.trans (h.joining hcall).unwatched) (by simp)
  | @emptied a j d w hfree hj hd hleft =>
    change (g.watched.erase a).find? service = some i
    rw [Dict.find?_erase, if_neg ?_]
    · exact hwatched
    · rintro rfl
      obtain rfl := Option.some.inj (hwatched.symm.trans hj)
      have hdesk := (modify_getElem? g i (fun d => { d with registry := (d.registry.remove w).1 })
        i).symm.trans hd'
      rw [if_pos rfl, hd] at hdesk
      rw [← Option.some.inj hdesk] at hmanned
      exact hmanned hleft
  | stopped hfree hwas => exact Bool.noConfusion hopen
  | _ => exact hwatched

end Ledger

namespace Resolver

/-- An event asks for the actions that a registry goes through with it: for whoever is taken out,
for the end of the registry and of its delivery tasks, and for the step of a delivery task. -/
structure Event.Warrants (r : Resolver) (i : Nat) (d : Desk) (e : Event) (actions : List Action) :
    Prop where
  removed : ∀ v, .remove v ∈ actions → r.call? = none ∧ e = .unwatch d.service v
  closed : .close ∈ actions →
    ∃ sessions, r.call? = some (.closing sessions) ∧ sessions.find? d.service = some i
  cancelled : .cancel ∈ actions →
    (r.call? = none ∧ (e = .stop ∨ e = .drop)) ∨ r.call? = some (.cancelling d.service i)
  delivered : ∀ t, e = .step (.deliver i t) → actions = [.deliver t]

section
variable {r : Resolver} {i : Nat} {d : Desk} {e : Event}

theorem Event.Warrants.nothing (h : ∀ t, e ≠ .step (.deliver i t)) : e.Warrants r i d [] :=
  ⟨by simp, by simp, by simp, fun t ht => absurd ht (h t)⟩

/-- What an event does to the session with number `i`. -/
def Event.Affects (r : Resolver) (i : Nat) (d : Desk) (e : Event) : Prop :=
  ∃ actions d', (r.react e).1.ledger.desks[i]? = some d' ∧
    d.Undergoes i actions (r.react e).2 d' ∧ e.Warrants r i d actions

theorem affects_of_same (hd : (r.react e).1.ledger.desks[i]? = some d)
    (hns : receiptsOf i d.service (r.react e).2 = [])
    (he : ∀ t, e ≠ .step (.deliver i t)) : e.Affects r i d :=
  ⟨[], d, hd, .nothing hns, .nothing he⟩

theorem affects_of_modify (hd : r.ledger.desks[i]? = some d) {j : Nat} {f : Desk → Desk}
    (hdesks : (r.react e).1.ledger.desks = r.ledger.desks.modify j f) {a : Action}
    (hns : (r.react e).2 = []) (he : ∀ t, e ≠ .step (.deliver i t))
    (hf : (f d).service = d.service) (hg : (f d).registry = (d.registry.react a).1)
    (hquiet : (d.registry.react a).2 = []) (hwarrants : j = i → e.Warrants r i d [a]) :
    e.Affects r i d := by
  have hdesk : (r.react e).1.ledger.desks[i]? = if j = i then some (f d) else some d := by
    rw [hdesks, List.getElem?_modify, hd]
    split <;> rfl
  by_cases hij : j = i
  · refine ⟨[a], f d, by rw [hdesk, if_pos hij], ⟨hf, hg, ?_⟩, hwarrants hij⟩
    rw [hns, Registry.run_cons, hquiet]
    rfl
  · refine affects_of_same (by rw [hdesk, if_neg hij]) ?_ he
    rw [hns]
    rfl

theorem affects_call (hd : r.ledger.desks[i]? = some d) (call : Resolver → Resolver)
    (hreact : r.react e = (r.whenFree call, [])) (he : ∀ t, e ≠ .step (.deliver i t))
    (hfree : r.call? = none → r.react e = (call r, []) → e.Affects r i d) : e.Affects r i d := by
  rcases r.whenFree_cases call with heq | ⟨hnone, heq⟩
  · refine affects_of_same ?_ ?_ he
    · rw [hreact, heq]
      exact hd
    · rw [hreact]
      rfl
  · exact hfree hnone (by rw [hreact, heq])

theorem affects_watch (h : r.ledger.Orderly) (hd : r.ledger.desks[i]? = some d) (a : String)
    (w : WatcherId) : (Event.watch a w).Affects r i d := by
  have hother : ∀ t, Event.watch a w ≠ .step (.deliver i t) := fun t => by simp
  refine affects_call hd _ rfl hother fun hfree hreact => ?_
  rcases r.addWatch_cases a w with ⟨f, -, heq⟩ | ⟨hpermit, ⟨j, hwatched, heq⟩ | ⟨-, heq⟩⟩
  · refine affects_of_same ?_ rfl hother
    rw [hreact]
    simp only [heq]
    exact hd
  · obtain ⟨b, hb, -⟩ := h.watched a j hwatched
    rw [ledger_desks_getElem?] at hb
    obtain ⟨s, hs, rfl⟩ := Option.map_eq_some_iff.1 hb
    refine affects_of_modify (a := .add w) (j := j)
      (f := fun d => { d with registry := (d.registry.add w).1 }) hd ?_ rfl hother rfl rfl rfl ?_
    · rw [hreact]
      simp only [heq, ledger_join hs w]
      rfl
    · exact fun _ => ⟨by simp, by simp, by simp, fun t ht => absurd ht (hother t)⟩
  · -- the new session is another one
    refine affects_of_same ?_ rfl hother
    rw [hreact]
    simp only [heq, ledger_begin]
    exact append_getElem? hd _

theorem affects_unwatch (h : r.ledger.Orderly) (hd : r.ledger.desks[i]? = some d) (a : String)
    (w : WatcherId) : (Event.unwatch a w).Affects r i d := by
  have hother : ∀ t, Event.unwatch a w ≠ .step (.deliver i t) := fun t => by simp
  refine affects_call hd (·.delWatch a w) rfl hother fun hfree hreact => ?_
  have hleft : ∀ {j : Nat}, r.watched.find? a = some j →
      (r.delWatch a w).ledger.desks =
        r.ledger.desks.modify j (fun d => { d with registry := (d.registry.remove w).1 }) →
      (Event.unwatch a w).Affects r i d := by
    intro j hwatched hdesks
    refine affects_of_modify (a := .remove w) (j := j)
      (f := fun d => { d with registry := (d.registry.remove w).1 }) hd ?_ rfl hother rfl rfl rfl ?_
    · rw [hreact]
      exact hdesks
    · rintro rfl
      obtain rfl := h.service_of_watched hwatched hd
      refine ⟨fun v hv => ⟨hfree, ?_⟩, by simp, by simp, fun t ht => absurd ht (hother t)⟩
      rw [Action.remove.inj (List.mem_singleton.1 hv)]
  rcases r.ledger_delWatch_cases a w with
    ⟨-, heq⟩ | ⟨j, b, hwatched, -, ⟨-, heq⟩ | ⟨-, heq⟩⟩
  · refine affects_of_same ?_ rfl hother
    rw [hreact]
    simp only [heq]
    exact hd
  · exact hleft hwatched (congrArg Ledger.desks heq)
  · exact hleft hwatched (congrArg Ledger.desks heq)

theorem affects_cancel (hd : r.ledger.desks[i]? = some d)
    (hdesks : (r.react e).1.ledger.desks = r.ledger.desks.map Desk.cancel)
    (hns : (r.react e).2 = []) (hfree : r.call? = none) (he : e = .stop ∨ e = .drop) :
    e.Affects r i d := by
  have hother : ∀ t, e ≠ .step (.deliver i t) := by
    rintro t rfl
    simp at he
  refine ⟨[.cancel], d.cancel, ?_, ⟨rfl, rfl, by rw [hns]; rfl⟩, ?_⟩
  · rw [hdesks, List.getElem?_map, hd]
    rfl
  · exact ⟨by simp, by simp, fun _ => .inl ⟨hfree, he⟩, fun t ht => absurd ht (hother t)⟩

theorem affects_stop (hd : r.ledger.desks[i]? = some d) : Event.stop.Affects r i d := by
  have hother : ∀ t, Event.stop ≠ .step (.deliver i t) := fun t => by simp
  refine affects_call hd _ rfl hother fun hfree hreact => ?_
  cases hstopped : r.stopped with
  | true =>
    refine affects_of_same ?_ rfl hother
    rw [hreact, stop_of_stopped hstopped]
    exact hd
  | false =>
    refine affects_cancel hd ?_ rfl hfree (.inl rfl)
    rw [hreact]
    exact congrArg Ledger.desks (ledger_stop_of_open hstopped)

theorem affects_drop (hd : r.ledger.desks[i]? = some d) : Event.drop.Affects r i d := by
  refine affects_call hd _ rfl (by simp) fun hfree hreact => ?_
  refine affects_cancel hd ?_ rfl hfree (.inr rfl)
  rw [hreact]
  exact congrArg Ledger.desks r.ledger_cancelAll

theorem affects_proceed (h : r.ledger.Orderly) (hd : r.ledger.desks[i]? = some d) (a : String) :
    (Event.proceed a).Affects r i d := by
  have hother : ∀ t, Event.proceed a ≠ .step (.deliver i t) := fun t => by simp
  have hservice : ∀ {p : Desk → Prop},
      (∃ b, r.ledger.desks[i]? = some b ∧ b.service = a ∧ p b) → d.service = a := by
    rintro p ⟨b, hb, howner, -⟩
    rwa [Option.some.inj (hd.symm.trans hb)]
  rcases r.proceed_cases a with heq | ⟨j, w, hcall, heq⟩ | ⟨j, hcall, heq⟩ | ⟨j, hcall, heq⟩ |
    ⟨j, sessions, hcall, hfind, heq⟩
  · refine affects_of_same ?_ rfl hother
    simp only [react, heq]
    exact hd
  · obtain ⟨b, hb, -⟩ := (h.joining hcall).desk
    rw [ledger_desks_getElem?] at hb
    obtain ⟨s, hs, rfl⟩ := Option.map_eq_some_iff.1 hb
    refine affects_of_modify (a := .add w) (j := j)
      (f := fun d => { d with registry := (d.registry.add w).1 }) hd ?_ rfl hother rfl rfl rfl ?_
    · have hjoined := congrArg Ledger.desks (ledger_join hs w)
      simp only [react, heq]
      rcases r.register_cases a j w with ⟨-, hregister⟩ | ⟨-, hregister⟩
      · rw [hregister]
        exact hjoined
      · rw [hregister]
        exact hjoined
    · exact fun _ => ⟨by simp, by simp, by simp, fun t ht => absurd ht (hother t)⟩
  · refine affects_of_same ?_ rfl hother
    simp only [react, heq, ledger_keep]
    exact hd
  · obtain ⟨hvacant, -⟩ : r.ledger.Vacant a j ∧ r.ledger.Fits := h.call _ hcall
    refine affects_of_modify (a := .cancel) (j := j) (f := Desk.cancel) hd ?_ rfl hother rfl rfl
      rfl ?_
    · simp only [react, heq, ledger_cancelOne]
      rfl
    · rintro rfl
      obtain rfl := hservice hvacant.desk
      exact ⟨by simp, by simp, fun _ => .inr hcall, fun t ht => absurd ht (hother t)⟩
  · have hover : r.ledger.Over a j := h.call _ hcall a j hfind
    refine affects_of_modify (a := .close) (j := j) (f := Desk.close) hd ?_ rfl hother rfl rfl
      rfl ?_
    · simp only [react, heq, ledger_closeOne]
      rfl
    · rintro rfl
      obtain rfl := hservice hover.desk
      exact ⟨by simp, fun _ => ⟨sessions, hcall, hfind⟩, by simp,
        fun t ht => absurd ht (hother t)⟩

theorem receiptsOf_deliveryNotices (i t : Nat) (d : Desk) :
    receiptsOf i d.service (Ledger.deliveryNotices i t d.service (d.registry.deliver t).2) =
      (d.registry.react (.deliver t)).2 := by
  simp only [Registry.react]
  cases (d.registry.deliver t).2 with
  | none => rfl
  | some step =>
    obtain ⟨w, delivery⟩ := step
    cases delivery with
    | nothing => rfl
    | ended => rfl
    | delivered s =>
      simp [Ledger.deliveryNotices, Registry.receipts, receiptsOf, Notice.receipt?]

theorem receiptsOf_of_ne {i j t : Nat} (hij : j ≠ i) (service owner : String)
    (step? : Option (WatcherId × Registry.Delivery)) :
    receiptsOf i service (Ledger.deliveryNotices j t owner step?) = [] := by
  unfold Ledger.deliveryNotices
  split
  · simp [receiptsOf, Notice.receipt?, hij]
  · rfl

theorem undergoes_of_work {g g' : Ledger} {ns : List Notice} (h : Ledger.Work g ns g')
    (hd : g.desks[i]? = some d) :
    ∃ actions d', g'.desks[i]? = some d' ∧ d.Undergoes i actions ns d' ∧
      ∀ a ∈ actions, (∃ s, a = .notify s) ∨ ∃ t, a = .deliver t := by
  cases h with
  | quiet hns => exact ⟨[], d, hd, .nothing (receiptsOf_quiet hns _ _), by simp⟩
  | built s hb hcancelled hready hrevision => exact ⟨[], d, hd, .nothing rfl, by simp⟩
  | @published j b s hb hready =>
    by_cases hij : j = i
    · refine ⟨[.notify s], { d with registry := (d.registry.notify s).1 }, ?_,
        ⟨rfl, rfl, rfl⟩, by simp⟩
      exact (Ledger.modify_getElem? g j _ i).trans (by rw [if_pos hij, hd]; rfl)
    · refine ⟨[], d, ?_, .nothing rfl, by simp⟩
      exact (Ledger.modify_getElem? g j _ i).trans (by rw [if_neg hij, hd])
  | @delivered j b t hb =>
    by_cases hij : j = i
    · subst hij
      obtain rfl := Option.some.inj (hd.symm.trans hb)
      refine ⟨[.deliver t], { d with registry := (d.registry.deliver t).1 }, ?_,
        ⟨rfl, rfl, ?_⟩, by simp⟩
      · rw [Ledger.modify_getElem?, if_pos rfl, hd]
        rfl
      · rw [receiptsOf_deliveryNotices]
        simp
    · refine ⟨[], d, ?_, .nothing (receiptsOf_of_ne hij _ _ _), by simp⟩
      rw [Ledger.modify_getElem?, if_neg hij]
      exact hd

theorem affects_deliver (hd : r.ledger.desks[i]? = some d) (t : Nat) :
    (Event.step (.deliver i t)).Affects r i d := by
  rw [ledger_desks_getElem?] at hd
  obtain ⟨s, hs, rfl⟩ := Option.map_eq_some_iff.1 hd
  have hreact : r.react (.step (.deliver i t)) = r.deliver i s t := by
    simp only [react, step, Task.session, hs]
  refine ⟨[.deliver t], { s.desk with registry := (s.desk.registry.deliver t).1 }, ?_,
    ⟨rfl, rfl, ?_⟩, ⟨by simp, by simp, by simp, by simp⟩⟩
  · rw [hreact, ledger_desks_getElem?]
    simp only [deliver]
    rw [session?_modify_self hs]
    rfl
  · rw [hreact]
    have hreceipts := receiptsOf_deliveryNotices i t s.desk
    simp only [Registry.run_cons, Registry.run_nil, List.append_nil]
    rw [← hreceipts]
    rfl

theorem affects_step (hd : r.ledger.desks[i]? = some d) (t : Task) :
    (Event.step t).Affects r i d := by
  by_cases hown : ∃ u, t = .deliver i u
  · obtain ⟨u, rfl⟩ := hown
    exact affects_deliver hd u
  · obtain ⟨actions, d', hd', hundergoes, hwork⟩ := undergoes_of_work (r.ledger_step t) hd
    refine ⟨actions, d', hd', hundergoes, ?_, ?_, ?_, ?_⟩
    · intro v hv
      rcases hwork _ hv with ⟨s, hs⟩ | ⟨u, hu⟩
      · cases hs
      · cases hu
    · intro hclose
      rcases hwork _ hclose with ⟨s, hs⟩ | ⟨u, hu⟩
      · cases hs
      · cases hu
    · intro hcancel
      rcases hwork _ hcancel with ⟨s, hs⟩ | ⟨u, hu⟩
      · cases hs
      · cases hu
    · intro u hu
      exact absurd ⟨u, Event.step.inj hu⟩ hown

/-- Every event makes the registry of every session go through actions that it asks for. -/
theorem affects_react (h : r.ledger.Orderly) (hd : r.ledger.desks[i]? = some d) (e : Event) :
    e.Affects r i d := by
  cases e with
  | watch a w => exact affects_watch h hd a w
  | unwatch a w => exact affects_unwatch h hd a w
  | stop => exact affects_stop hd
  | drop => exact affects_drop hd
  | proceed a => exact affects_proceed h hd a
  | change c => exact affects_of_same hd rfl (by simp)
  | step t => exact affects_step hd t
  | pass nanos => exact affects_of_same hd rfl (by simp)

end

/-! ## Runs -/

section
variable {buffer : Nat} {ns : List Notice} {r : Resolver} {i t : Nat} {d : Desk}

theorem undergoes_run (h : Ledger.Reached buffer ns r.ledger) (hd : r.ledger.desks[i]? = some d)
    (events : List Event) :
    ∃ actions d', (r.run events).1.ledger.desks[i]? = some d' ∧
      d.Undergoes i actions (r.run events).2 d' := by
  induction events generalizing ns r d with
  | nil => exact ⟨[], d, hd, .nothing rfl⟩
  | cons e rest ih =>
    obtain ⟨first, b, hb, hfirst, -⟩ := affects_react h.orderly hd e
    obtain ⟨later, d', hd', hlater⟩ := ih (h.step (r.ledger_react e)) hb
    exact ⟨first ++ later, d', hd', hfirst.trans hlater⟩

/-- A service stays watched by its session while somebody is registered there, but for a stop. -/
theorem watched_react_of_manned (h : r.ledger.Orderly) {service : String} {w : WatcherId}
    (hwatched : r.watched.find? service = some i) {e : Event} (hstays : ¬Removes r service w e)
    {b : Desk} (hb : (r.react e).1.ledger.desks[i]? = some b)
    (hmanned : b.registry.registrations ≠ []) : (r.react e).1.watched.find? service = some i := by
  have hopen : (r.react e).1.stopped = false := by
    rcases r.stopped_react e with hsame | ⟨rfl, hfree, -⟩
    · exact hsame.trans (h.open_of_watched hwatched)
    · exact absurd ⟨hfree, .inr rfl⟩ hstays
  exact (r.ledger_react e).watched_of_manned h hwatched hb hmanned hopen

theorem Event.Warrants.stays {e : Event} {actions : List Action} (h : e.Warrants r i d actions)
    (horderly : r.ledger.Orderly) (hwatched : r.watched.find? d.service = some i) {w : WatcherId}
    (hstays : ¬Removes r d.service w e) :
    .remove w ∉ actions ∧ .close ∉ actions ∧ (e ≠ .drop → .cancel ∉ actions) := by
  have hunwatched : r.ledger.watched.find? d.service ≠ none := by
    rw [show r.ledger.watched.find? d.service = some i from hwatched]
    simp
  refine ⟨fun hremove => ?_, fun hclose => ?_, fun hdrop hcancel => ?_⟩
  · obtain ⟨hfree, hunwatch⟩ := h.removed w hremove
    exact hstays ⟨hfree, .inl hunwatch⟩
  · obtain ⟨sessions, hcall, hfind⟩ := h.closed hclose
    have hover : r.ledger.Over d.service i := horderly.call _ hcall _ _ hfind
    exact hunwatched hover.unwatched
  · rcases h.cancelled hcancel with ⟨hfree, hstop | hgone⟩ | hcall
    · exact hstays ⟨hfree, .inr hstop⟩
    · exact hdrop hgone
    · obtain ⟨hvacant, -⟩ : r.ledger.Vacant d.service i ∧ r.ledger.Fits := horderly.call _ hcall
      exact hunwatched hvacant.unwatched

theorem undergoes_run_of_kept (h : Ledger.Reached buffer ns r.ledger)
    (hd : r.ledger.desks[i]? = some d) (hwatched : r.watched.find? d.service = some i)
    (hissued : d.registry.Issued t) {q : Registration}
    (hq : d.registry.registration? (ticketIs t) = some q) {events : List Event}
    (hstays : Stays r events d.service q.watcher) :
    ∃ actions d', (r.run events).1.ledger.desks[i]? = some d' ∧
      d.Undergoes i actions (r.run events).2 d' ∧
      .remove q.watcher ∉ actions ∧ .close ∉ actions ∧ (.drop ∉ events → .cancel ∉ actions) := by
  induction events generalizing ns r d q with
  | nil => exact ⟨[], d, hd, .nothing rfl, by simp⟩
  | cons e rest ih =>
    obtain ⟨hnow, hlater⟩ := stays_cons.1 hstays
    obtain ⟨first, b, hb, hfirst, hwarrants⟩ := affects_react h.orderly hd e
    obtain ⟨hremove, hclose, hcancel⟩ := hwarrants.stays h.orderly hwatched hnow
    obtain ⟨hregistered, hsame⟩ := Registry.registered_run hissued hq first
    obtain ⟨p, hp⟩ := Option.isSome_iff_exists.1 (hregistered.2 ⟨hremove, hclose⟩)
    have hwatcher := hsame p hp
    rw [← hfirst.registry] at hp
    have hissued' : b.registry.Issued t := by
      rw [hfirst.registry]
      exact hissued.run first
    have hmanned : b.registry.registrations ≠ [] :=
      List.ne_nil_of_mem (Registry.mem_of_registration? hp).1
    have hwatched' : (r.react e).1.watched.find? d.service = some i :=
      watched_react_of_manned h.orderly hwatched hnow hb hmanned
    obtain ⟨later, d', hd', hafter, hremove', hclose', hcancel'⟩ :=
      ih (h.step (r.ledger_react e)) hb (by rw [hfirst.service]; exact hwatched') hissued' hp
        (by rw [hfirst.service, hwatcher]; exact hlater)
    rw [hwatcher] at hremove'
    refine ⟨first ++ later, d', hd', hfirst.trans hafter, ?_, ?_, ?_⟩
    · simp [hremove, hremove']
    · simp [hclose, hclose']
    · simp only [List.mem_cons, not_or, List.mem_append]
      exact fun hdrop => ⟨hcancel (Ne.symm hdrop.1), hcancel' hdrop.2⟩

end

end Resolver

end Lookout
