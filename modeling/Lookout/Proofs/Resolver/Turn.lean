import Lookout.Proofs.Resolver.Revision

/-!
# What a step means for one service

A step of a ledger is seen by one service at most: it changes the desk of the service, or what is
kept of it, and it gives notices of it. The desk of a service is that of the session whose snapshots
count for it: of the session by which it is watched, or is about to be watched, or whose snapshot is
still to be kept. `Ledger.Turn` lists what can happen; all that is said about the snapshots of a
service is proved from that list.
-/
set_option autoImplicit false

namespace Lookout

namespace Ledger

/-- The session of a service whose snapshots count for it. -/
def seat? (g : Ledger) (service : String) : Option Nat :=
  match g.call? with
  | some (.joining owner i _) => if owner = service then some i else g.watched.find? service
  | some (.keeping owner i) => if owner = service then some i else g.watched.find? service
  | _ => g.watched.find? service

/-- The desk of that session, with its number. -/
def post? (g : Ledger) (service : String) : Option (Nat × Desk) :=
  (g.seat? service).bind fun i => (g.desks[i]?).map fun d => (i, d)

/-- The snapshot that is kept of a service while nobody watches it. -/
def kept? (g : Ledger) (service : String) : Option Snapshot := (g.historyOf service).last?

/-- What a step can mean for a service. -/
inductive Turn (g : Ledger) (service : String) (ns : List Notice) (g' : Ledger) : Prop
  /-- The step is about something else. -/
  | aside (hpublished : publications service ns = [])
      (hdelivered : ∀ key, deliveries service key ns = [])
      (hpost : g'.post? service = g.post? service) (hkept : g'.kept? service = g.kept? service)
  | joined {i : Nat} {d : Desk} (w : WatcherId) (hns : ns = []) (hopen : g.stopped = false)
      (hpost : g.post? service = some (i, d))
      (hpost' : g'.post? service = some (i, { d with registry := (d.registry.add w).1 }))
      (hkept : g'.kept? service = g.kept? service)
  | begun (hns : ns = []) (hfree : g.call? = none) (hopen : g.stopped = false)
      (hpost : g.post? service = none)
      (hpost' : g'.post? service = some (g.desks.length, g.newDesk service))
      (hkept : g'.kept? service = g.kept? service)
  /-- The session that has begun is left to itself, for want of a mailbox. -/
  | abandoned {i : Nat} {d : Desk} (hns : ns = []) (hfits : ¬g.Fits)
      (hpost : g.post? service = some (i, d)) (hpost' : g'.post? service = none)
      (hkept : g'.kept? service = g.kept? service)
  /-- Some mailboxes are taken away. -/
  | thinned {i : Nat} {d e : Desk} (hns : ns = []) (hpost : g.post? service = some (i, d))
      (hpost' : g'.post? service = some (i, e))
      (hcurrent : e.registry.current? = d.registry.current?)
      (hunread : ∀ key, d.registry.Single key →
        e.registry.unread key <+: d.registry.unread key)
      (hkept : g'.kept? service = g.kept? service)
  | retired {i : Nat} {d : Desk} (hns : ns = []) (hcall : g.call? = some (.keeping service i))
      (hcall' : g'.call? = some (.cancelling service i)) (hpost : g.post? service = some (i, d))
      (hpost' : g'.post? service = none) (hkept : g'.kept? service = d.registry.current?)
  | stopped (hns : ns = []) (hfree : g.call? = none) (hopen : g.stopped = false)
      (hstopped : g'.stopped = true)
      (hpost' : g'.post? service = none) (hkept : g'.kept? service = g.kept? service)
  | offered {i : Nat} {d : Desk} (s : Snapshot) (hready : g.ready[i]? = some (service, some s))
      (hns : ns = [.published i service s (d.registry.notify s).2])
      (hpost : g.post? service = some (i, d))
      (hpost' : g'.post? service = some (i, { d with registry := (d.registry.notify s).1 }))
      (hkept : g'.kept? service = g.kept? service)
  /-- A session publishes that does not count for its service. -/
  | unheard {i : Nat} {report : Report} (s : Snapshot)
      (hready : g.ready[i]? = some (service, some s))
      (hns : ns = [.published i service s report]) (hseat : g.seat? service ≠ some i)
      (hpost : g'.post? service = g.post? service) (hkept : g'.kept? service = g.kept? service)
  | delivered {i : Nat} {d : Desk} (t : Nat)
      (hns : ns = deliveryNotices i t service (d.registry.deliver t).2)
      (hpost : g.post? service = some (i, d))
      (hpost' : g'.post? service = some (i, { d with registry := (d.registry.deliver t).1 }))
      (hkept : g'.kept? service = g.kept? service)

/-! ## Seats -/

theorem seat?_of_free {g : Ledger} (h : g.call? = none) (service : String) :
    g.seat? service = g.watched.find? service := by
  simp only [seat?, h]

theorem seat?_of_joining {g : Ledger} {service : String} {i : Nat} {w : WatcherId}
    (h : g.call? = some (.joining service i w)) (a : String) :
    g.seat? a = if service = a then some i else g.watched.find? a := by
  simp only [seat?, h]

theorem seat?_of_keeping {g : Ledger} {service : String} {i : Nat}
    (h : g.call? = some (.keeping service i)) (a : String) :
    g.seat? a = if service = a then some i else g.watched.find? a := by
  simp only [seat?, h]

theorem seat?_of_cancelling {g : Ledger} {service : String} {i : Nat}
    (h : g.call? = some (.cancelling service i)) (a : String) :
    g.seat? a = g.watched.find? a := by
  simp only [seat?, h]

theorem seat?_of_closing? {g : Ledger} (sessions : Dict Nat)
    (h : g.call? = Call.closing? sessions) (a : String) : g.seat? a = g.watched.find? a := by
  simp only [seat?, h, Call.closing?]
  split <;> simp_all

theorem seat?_of_closing {g : Ledger} {sessions : Dict Nat}
    (h : g.call? = some (.closing sessions)) (a : String) : g.seat? a = g.watched.find? a := by
  simp only [seat?, h]

theorem seat?_congr {g g' : Ledger} (hcall : g'.call? = g.call?) (hwatched : g'.watched = g.watched)
    (service : String) : g'.seat? service = g.seat? service := by
  simp only [seat?, hcall, hwatched]

/-- A seat belongs to a watched service, or to the service that a call is about. -/
theorem seat?_cases {g : Ledger} {service : String} {i : Nat} (h : g.seat? service = some i) :
    g.watched.find? service = some i ∨ (∃ w, g.call? = some (.joining service i w)) ∨
      g.call? = some (.keeping service i) := by
  unfold seat? at h
  split at h
  · next owner j w hcall =>
    split at h
    · next howner =>
      obtain rfl := Option.some.inj h
      exact .inr (.inl ⟨w, howner ▸ hcall⟩)
    · exact .inl h
  · next owner j hcall =>
    split at h
    · next howner =>
      obtain rfl := Option.some.inj h
      exact .inr (.inr (howner ▸ hcall))
    · exact .inl h
  · exact .inl h

theorem Orderly.desk_of_seat {g : Ledger} (h : g.Orderly) {service : String} {i : Nat}
    (hseat : g.seat? service = some i) : ∃ d, g.desks[i]? = some d ∧ d.service = service := by
  rcases seat?_cases hseat with hwatched | ⟨w, hcall⟩ | hcall
  · exact h.watched service i hwatched
  · obtain ⟨d, hd, hservice, -⟩ := (h.joining hcall).desk
    exact ⟨d, hd, hservice⟩
  · obtain ⟨hvacant, -⟩ : g.Vacant service i ∧ g.Fits := h.call _ hcall
    obtain ⟨d, hd, hservice, -⟩ := hvacant.desk
    exact ⟨d, hd, hservice⟩

theorem Orderly.seat_inj {g : Ledger} (h : g.Orderly) {a b : String} {i : Nat}
    (ha : g.seat? a = some i) (hb : g.seat? b = some i) : a = b := by
  obtain ⟨d, hd, hservice⟩ := h.desk_of_seat ha
  obtain ⟨e, he, hservice'⟩ := h.desk_of_seat hb
  obtain rfl := Option.some.inj (hd.symm.trans he)
  rw [← hservice, ← hservice']

theorem Orderly.service_of_seat {g : Ledger} (h : g.Orderly) {service : String} {i : Nat} {d : Desk}
    (hseat : g.seat? service = some i) (hd : g.desks[i]? = some d) : d.service = service := by
  obtain ⟨e, he, hservice⟩ := h.desk_of_seat hseat
  rw [Option.some.inj (hd.symm.trans he), hservice]

theorem Orderly.seat?_of_watched {g : Ledger} (h : g.Orderly) {service : String} {i : Nat}
    (hwatched : g.watched.find? service = some i) : g.seat? service = some i := by
  have hvacant : ∀ {owner : String} {j : Nat}, g.Vacant owner j → owner ≠ service := by
    rintro owner j hvacant rfl
    rw [hvacant.unwatched] at hwatched
    exact absurd hwatched (by simp)
  unfold seat?
  split
  · next owner j w hcall => rw [if_neg (hvacant (h.joining hcall)), hwatched]
  · next owner j hcall =>
    rw [if_neg (hvacant (show g.Vacant owner j ∧ g.Fits from h.call _ hcall).1), hwatched]
  · exact hwatched

theorem Orderly.seat_ne {g : Ledger} (h : g.Orderly) {a : String} {i : Nat} {d : Desk}
    (hd : g.desks[i]? = some d) (ha : a ≠ d.service) : g.seat? a ≠ some i :=
  fun hseat => ha (h.service_of_seat hseat hd).symm

theorem Orderly.seat?_of_stopped {g : Ledger} (h : g.Orderly) (hstopped : g.stopped = true)
    (service : String) : g.seat? service = none := by
  cases hseat : g.seat? service with
  | none => rfl
  | some i =>
    rcases seat?_cases hseat with hwatched | ⟨w, hcall⟩ | hcall
    · rw [h.stopped hstopped] at hwatched
      exact absurd hwatched (by simp)
    · exact not_stopped_of_open (h.joining hcall).opened hstopped
    · exact not_stopped_of_open (show g.Vacant service i ∧ g.Fits from h.call _ hcall).1.opened
        hstopped

theorem Orderly.seat_of_going {g : Ledger} (h : g.Orderly) {i : Nat} {d : Desk}
    (hd : g.desks[i]? = some d) (hgoing : d.cancelled = false) (hfits : g.Fits) :
    g.seat? d.service = some i ∨ g.call? = some (.cancelling d.service i) := by
  rcases (h.desks i d hd).going hgoing hfits with hwatched | hsession
  · exact .inl (h.seat?_of_watched hwatched)
  · unfold session? at hsession
    split at hsession
    · next owner j w hcall =>
      split at hsession
      · next howner =>
        obtain rfl := Option.some.inj hsession
        exact .inl (by rw [seat?_of_joining hcall, if_pos howner])
      · exact absurd hsession (by simp)
    · next owner j hcall =>
      split at hsession
      · next howner =>
        obtain rfl := Option.some.inj hsession
        exact .inl (by rw [seat?_of_keeping hcall, if_pos howner])
      · exact absurd hsession (by simp)
    · next owner j hcall =>
      split at hsession
      · next howner =>
        obtain rfl := Option.some.inj hsession
        exact .inr (howner ▸ hcall)
      · exact absurd hsession (by simp)
    · exact absurd hsession (by simp)

/-! ## Posts -/

theorem post?_of_seat {g : Ledger} {service : String} {i : Nat} {d : Desk}
    (hseat : g.seat? service = some i) (hd : g.desks[i]? = some d) :
    g.post? service = some (i, d) := by
  simp only [post?]
  rw [hseat, Option.bind_some, hd, Option.map_some]

theorem post?_of_no_seat {g : Ledger} {service : String} (hseat : g.seat? service = none) :
    g.post? service = none := by
  simp only [post?]
  rw [hseat, Option.bind_none]

theorem of_post? {g : Ledger} {service : String} {i : Nat} {d : Desk}
    (h : g.post? service = some (i, d)) : g.seat? service = some i ∧ g.desks[i]? = some d := by
  simp only [post?] at h
  obtain ⟨j, hj, h⟩ := Option.bind_eq_some_iff.1 h
  obtain ⟨e, he, h⟩ := Option.map_eq_some_iff.1 h
  cases h
  exact ⟨hj, he⟩

theorem Orderly.seat?_of_post?_none {g : Ledger} (h : g.Orderly) {service : String}
    (hpost : g.post? service = none) : g.seat? service = none := by
  cases hseat : g.seat? service with
  | none => rfl
  | some i =>
    obtain ⟨d, hd, -⟩ := h.desk_of_seat hseat
    exact absurd ((post?_of_seat hseat hd).symm.trans hpost) (by simp)

theorem Orderly.service_of_post? {g : Ledger} (h : g.Orderly) {service : String} {i : Nat}
    {d : Desk} (hpost : g.post? service = some (i, d)) : d.service = service :=
  h.service_of_seat (of_post? hpost).1 (of_post? hpost).2

theorem post?_modify {g g' : Ledger} {service : String} {i : Nat} {f : Desk → Desk}
    (hdesks : g'.desks = g.desks.modify i f) (hseat : g'.seat? service = g.seat? service) :
    g'.post? service = (g.post? service).map fun p => (p.1, if i = p.1 then f p.2 else p.2) := by
  simp only [post?, hseat, hdesks]
  cases g.seat? service with
  | none => rfl
  | some j =>
    simp only [Option.bind_some, List.getElem?_modify]
    by_cases hij : i = j
    · subst hij
      cases g.desks[i]? <;> simp
    · cases g.desks[j]? <;> simp [hij]

theorem post?_modify_self {g g' : Ledger} {service : String} {i : Nat} {d : Desk}
    {f : Desk → Desk} (hdesks : g'.desks = g.desks.modify i f)
    (hseat : g'.seat? service = g.seat? service) (hpost : g.post? service = some (i, d)) :
    g'.post? service = some (i, f d) := by
  rw [post?_modify hdesks hseat, hpost]
  simp

theorem post?_modify_of_ne {g g' : Ledger} {service : String} {i : Nat} {f : Desk → Desk}
    (hdesks : g'.desks = g.desks.modify i f) (hseat : g'.seat? service = g.seat? service)
    (hne : g.seat? service ≠ some i) : g'.post? service = g.post? service := by
  rw [post?_modify hdesks hseat]
  cases hpost : g.post? service with
  | none => rfl
  | some p =>
    obtain ⟨j, d⟩ := p
    have hij : i ≠ j := by
      rintro rfl
      exact hne (of_post? hpost).1
    simp [hij]

theorem post?_congr {g g' : Ledger} {service : String} (hdesks : g'.desks = g.desks)
    (hseat : g'.seat? service = g.seat? service) : g'.post? service = g.post? service := by
  simp only [post?, hseat, hdesks]

theorem Orderly.post?_of_stopped {g : Ledger} (h : g.Orderly) (hstopped : g.stopped = true)
    (service : String) : g.post? service = none :=
  post?_of_no_seat (h.seat?_of_stopped hstopped service)

theorem Orderly.open_of_post? {g : Ledger} (h : g.Orderly) {service : String} {i : Nat} {d : Desk}
    (hpost : g.post? service = some (i, d)) : g.stopped = false := by
  cases hstopped : g.stopped with
  | false => rfl
  | true => exact absurd (hpost.symm.trans (h.post?_of_stopped hstopped service)) (by simp)

theorem kept?_insert {g g' : Ledger} {service : String} {revision : UInt64}
    (hinsert : g'.histories = g.histories.insert service { g.historyOf service with revision })
    (a : String) : g'.kept? a = g.kept? a := by
  simp only [kept?]
  rw [historyOf_insert hinsert]
  split
  · next ha => rw [ha]
  · rfl

/-- Where the session that counts for a service comes from: it counted before the step, or the step
began it. -/
theorem Turn.origin {g g' : Ledger} {service : String} {ns : List Notice}
    (h : Turn g service ns g') {i : Nat} {d : Desk} (hpost : g'.post? service = some (i, d)) :
    g'.kept? service = g.kept? service ∧
      ((∃ e, g.post? service = some (i, e)) ∨
        (g.post? service = none ∧ i = g.desks.length ∧ ns = [] ∧ g.stopped = false)) := by
  cases h with
  | aside hpublished hdelivered hsame hkept => exact ⟨hkept, .inl ⟨d, hsame.symm.trans hpost⟩⟩
  | @joined j e w hns hopen hbefore hafter hkept =>
    obtain ⟨rfl, -⟩ := Prod.mk.inj (Option.some.inj (hafter.symm.trans hpost))
    exact ⟨hkept, .inl ⟨e, hbefore⟩⟩
  | begun hns hfree hopen hbefore hafter hkept =>
    obtain ⟨rfl, -⟩ := Prod.mk.inj (Option.some.inj (hafter.symm.trans hpost))
    exact ⟨hkept, .inr ⟨hbefore, rfl, hns, hopen⟩⟩
  | @thinned j e e' hns hbefore hafter hcurrent hunread hkept =>
    obtain ⟨rfl, -⟩ := Prod.mk.inj (Option.some.inj (hafter.symm.trans hpost))
    exact ⟨hkept, .inl ⟨e, hbefore⟩⟩
  | @offered j e s hready hns hbefore hafter hkept =>
    obtain ⟨rfl, -⟩ := Prod.mk.inj (Option.some.inj (hafter.symm.trans hpost))
    exact ⟨hkept, .inl ⟨e, hbefore⟩⟩
  | @delivered j e t hns hbefore hafter hkept =>
    obtain ⟨rfl, -⟩ := Prod.mk.inj (Option.some.inj (hafter.symm.trans hpost))
    exact ⟨hkept, .inl ⟨e, hbefore⟩⟩
  | unheard s hready hns hseat hsame hkept => exact ⟨hkept, .inl ⟨d, hsame.symm.trans hpost⟩⟩
  | abandoned hns hfits hbefore hafter hkept => exact absurd (hpost.symm.trans hafter) (by simp)
  | retired hns hcall hcall' hbefore hafter hkept =>
    exact absurd (hpost.symm.trans hafter) (by simp)
  | stopped hns hfree hopen hstopped hafter hkept =>
    exact absurd (hpost.symm.trans hafter) (by simp)

/-! ## Steps -/

theorem post?_append {g g' : Ledger} (h : g.Orderly) {a : String} {new : Desk}
    (hdesks : g'.desks = g.desks ++ [new]) (hseat : g'.seat? a = g.seat? a) :
    g'.post? a = g.post? a := by
  cases hold : g.seat? a with
  | none => rw [post?_of_no_seat hold, post?_of_no_seat (hseat.trans hold)]
  | some i =>
    obtain ⟨d, hd, -⟩ := h.desk_of_seat hold
    have hd' : g'.desks[i]? = some d := by
      rw [hdesks]
      exact append_getElem? hd _
    rw [post?_of_seat hold hd, post?_of_seat (hseat.trans hold) hd']

theorem Step.turn_begun {g : Ledger} (h : g.Orderly) {service : String} (w : WatcherId)
    (hfree : g.call? = none) (hopen : g.stopped = false)
    (hwatched : g.watched.find? service = none) (a : String) :
    Turn g a [] (g.begin service w) := by
  have hseat : (g.begin service w).seat? a =
      if service = a then some g.desks.length else g.watched.find? a := seat?_of_joining rfl a
  by_cases ha : service = a
  · subst ha
    rw [if_pos rfl] at hseat
    refine .begun rfl hfree hopen (post?_of_no_seat ((seat?_of_free hfree _).trans hwatched)) ?_
      (kept?_insert rfl _)
    exact post?_of_seat hseat List.getElem?_concat_length
  · rw [if_neg ha, ← seat?_of_free hfree] at hseat
    exact .aside rfl (fun _ => rfl) (post?_append h rfl hseat) (kept?_insert rfl a)

theorem Step.turn_registered {g : Ledger} (h : g.Orderly) {service : String} {i : Nat}
    {w : WatcherId} (hcall : g.call? = some (.joining service i w)) (a : String) :
    Turn g a [] (g.register service i w) := by
  have hseat : (g.register service i w).seat? a = g.seat? a := by
    rw [seat?_of_free rfl, seat?_of_joining hcall]
    change (g.watched.insert service i).find? a = _
    rw [Dict.find?_insert]
    by_cases ha : service = a
    · rw [if_pos ha, if_pos ha.symm]
    · rw [if_neg ha, if_neg fun heq => ha heq.symm]
  have hvacant := h.joining hcall
  obtain ⟨d, hd, hservice, -⟩ := hvacant.desk
  by_cases ha : service = a
  · subst ha
    have hpost : g.post? service = some (i, d) :=
      post?_of_seat (by rw [seat?_of_joining hcall, if_pos rfl]) hd
    exact .joined w rfl hvacant.opened hpost (post?_modify_self rfl hseat hpost) rfl
  · have hne : g.seat? a ≠ some i := h.seat_ne hd fun heq => ha (heq.trans hservice).symm
    exact .aside rfl (fun _ => rfl) (post?_modify_of_ne rfl hseat hne) rfl

theorem Step.turn_orphaned {g : Ledger} (h : g.Orderly) {service : String} {i : Nat}
    {w : WatcherId} {d : Desk} (hcall : g.call? = some (.joining service i w))
    (hd : g.desks[i]? = some d) (hfits : ¬g.Fits) (a : String) :
    Turn g a [] { g with call? := none } := by
  have hseat : seat? { g with call? := none } a = g.watched.find? a := seat?_of_free rfl a
  by_cases ha : service = a
  · subst ha
    refine .abandoned rfl hfits (post?_of_seat (by rw [seat?_of_joining hcall, if_pos rfl]) hd) ?_
      rfl
    exact post?_of_no_seat (hseat.trans (h.joining hcall).unwatched)
  · refine .aside rfl (fun _ => rfl) (post?_congr rfl (hseat.trans ?_)) rfl
    rw [seat?_of_joining hcall, if_neg ha]

theorem Step.turn_emptied {g : Ledger} (h : g.Orderly) {service : String} {i : Nat} {d : Desk}
    (w : WatcherId) (hfree : g.call? = none) (hwatched : g.watched.find? service = some i)
    (hd : g.desks[i]? = some d) (a : String) : Turn g a [] (g.empty service i w) := by
  have hseat : (g.empty service i w).seat? a = g.seat? a := by
    rw [seat?_of_keeping (g := g.empty service i w) rfl, seat?_of_free hfree]
    change (if service = a then some i else (g.watched.erase service).find? a) = _
    by_cases ha : service = a
    · rw [if_pos ha, ← ha, hwatched]
    · rw [if_neg ha, Dict.find?_erase_of_ne _ fun heq => ha heq.symm]
  by_cases ha : service = a
  · subst ha
    have hpost := post?_of_seat ((seat?_of_free hfree _).trans hwatched) hd
    exact .thinned rfl hpost (post?_modify_self rfl hseat hpost) rfl
      (fun key hkey => Registry.unread_remove hkey w) rfl
  · have hservice := h.service_of_watched hwatched hd
    have hne : g.seat? a ≠ some i := h.seat_ne hd fun heq => ha (heq.trans hservice).symm
    exact .aside rfl (fun _ => rfl) (post?_modify_of_ne rfl hseat hne) rfl

theorem Step.turn_kept {g : Ledger} (h : g.Orderly) {service : String} {i : Nat}
    (hcall : g.call? = some (.keeping service i)) (a : String) :
    Turn g a [] (g.keep service i) := by
  obtain ⟨hvacant, -⟩ : g.Vacant service i ∧ g.Fits := h.call _ hcall
  obtain ⟨d, hd, -⟩ := hvacant.desk
  have hseat : (g.keep service i).seat? a = g.watched.find? a :=
    seat?_of_cancelling (g := g.keep service i) rfl a
  have hkept : (g.keep service i).kept? a =
      if a = service then (g.desks[i]?).bind (·.registry.current?) else g.kept? a := by
    simp only [kept?]
    rw [historyOf_insert (g := g) rfl]
    split <;> rfl
  by_cases ha : service = a
  · subst ha
    rw [if_pos rfl, hd] at hkept
    exact .retired rfl hcall rfl (post?_of_seat (by rw [seat?_of_keeping hcall, if_pos rfl]) hd)
      (post?_of_no_seat (hseat.trans hvacant.unwatched)) hkept
  · rw [if_neg fun heq => ha heq.symm] at hkept
    refine .aside rfl (fun _ => rfl) (post?_congr rfl (hseat.trans ?_)) hkept
    rw [seat?_of_keeping hcall, if_neg ha]

theorem turn_ended {g g' : Ledger} {i : Nat} {d : Desk} {f : Desk → Desk}
    (hdesks : g'.desks = g.desks.modify i f) (hhistories : g'.histories = g.histories)
    (hseat : ∀ a, g'.seat? a = g.seat? a) (h : g.Orderly) (hd : g.desks[i]? = some d)
    (hnone : g.seat? d.service = none) (a : String) : Turn g a [] g' := by
  have hne : g.seat? a ≠ some i := by
    intro hi
    rw [h.service_of_seat hi hd, hi] at hnone
    exact absurd hnone (by simp)
  refine .aside rfl (fun _ => rfl) (post?_modify_of_ne hdesks (hseat a) hne) ?_
  simp only [kept?, historyOf, hhistories]

theorem Step.turn_published {g : Ledger} (h : g.Orderly) {i : Nat} {d : Desk} {s : Snapshot}
    (hd : g.desks[i]? = some d) (hready : g.ready[i]? = some (d.service, some s)) (a : String) :
    Turn g a [.published i d.service s (d.registry.notify s).2] (g.publish i d s) := by
  have hseat : (g.publish i d s).seat? a = g.seat? a := seat?_congr rfl rfl a
  by_cases ha : d.service = a
  · subst ha
    by_cases hi : g.seat? d.service = some i
    · have hpost := post?_of_seat hi hd
      exact .offered s hready rfl hpost (post?_modify_self rfl hseat hpost) rfl
    · exact .unheard s hready rfl hi (post?_modify_of_ne rfl hseat hi) rfl
  · refine .aside ?_ (fun _ => rfl) ?_ rfl
    · rw [publications_published, if_neg ha]
    · exact post?_modify_of_ne rfl hseat (h.seat_ne hd fun heq => ha heq.symm)

theorem handed_of_cancelled {g : Registry} (h : g.cancelled = true) (key : Registry.Key) (t : Nat) :
    Registry.handed key t (g.deliver t).2 = [] := by
  simp only [Registry.deliver]
  split
  · rfl
  · next r hr =>
    simp only [Registry.deliverOne, h, Registry.handed]
    by_cases hclosed : r.closed = true <;> simp [hclosed, Registry.Delivery.handed]

theorem Orderly.seat_of_manned {g : Ledger} (h : g.Orderly) {i : Nat} {d : Desk}
    (hd : g.desks[i]? = some d) (hmanned : d.registry.registrations ≠ []) :
    g.seat? d.service = some i ∨ d.registry.cancelled = true := by
  rcases (h.desks i d hd).manned hmanned with hwatched | hunclosed
  · exact .inl (h.seat?_of_watched hwatched)
  · refine .inr ((h.desks i d hd).halted ?_)
    unfold unclosed? at hunclosed
    split at hunclosed
    · next sessions hcall =>
      obtain ⟨e, he, -, hover⟩ :=
        ((show ∀ a j, sessions.find? a = some j → g.Over a j from h.call _ hcall) _ _
          hunclosed).desk
      rw [Option.some.inj (hd.symm.trans he)]
      exact hover
    · exact absurd hunclosed (by simp)

theorem Step.turn_delivered {g : Ledger} (h : g.Orderly) {i : Nat} {d : Desk} (t : Nat)
    (hd : g.desks[i]? = some d) (a : String) :
    Turn g a (deliveryNotices i t d.service (d.registry.deliver t).2)
      (g.modify i fun d => { d with registry := (d.registry.deliver t).1 }) := by
  have hseat : (g.modify i fun d => { d with registry := (d.registry.deliver t).1 }).seat? a =
      g.seat? a := seat?_congr rfl rfl a
  by_cases hi : g.seat? a = some i
  · obtain rfl := h.service_of_seat hi hd
    have hpost := post?_of_seat hi hd
    exact .delivered t rfl hpost (post?_modify_self rfl hseat hpost) rfl
  · refine .aside (publications_deliveryNotices _ _ _ _ _) ?_ (post?_modify_of_ne rfl hseat hi) rfl
    intro key
    rw [deliveries_deliveryNotices]
    split
    · next ha =>
      subst ha
      by_cases hmanned : d.registry.registrations = []
      · rw [deliver_unmanned hmanned t]
        rfl
      · exact handed_of_cancelled ((h.seat_of_manned hd hmanned).resolve_left hi) (key i) t
    · rfl

/-- Every step is one of the listed turns for every service. -/
theorem Step.turn {g g' : Ledger} {ns : List Notice} (hstep : Step g ns g') (h : g.Orderly)
    (a : String) : Turn g a ns g' := by
  cases hstep with
  | quiet hns =>
    exact .aside (publications_quiet hns a) (deliveries_quiet hns a) rfl rfl
  | @joined service i w hfree hopen hwatched =>
    obtain ⟨d, hd, hservice⟩ := h.watched service i hwatched
    have hseat : (g.modify i fun d => { d with registry := (d.registry.add w).1 }).seat? a =
        g.seat? a := seat?_congr rfl rfl a
    by_cases ha : service = a
    · subst ha
      have hpost := post?_of_seat (h.seat?_of_watched hwatched) hd
      exact .joined w rfl hopen hpost (post?_modify_self rfl hseat hpost) rfl
    · have hne : g.seat? a ≠ some i := h.seat_ne hd fun heq => ha (heq.trans hservice).symm
      exact .aside rfl (fun _ => rfl) (post?_modify_of_ne rfl hseat hne) rfl
  | begun service w hfree hopen hwatched => exact Step.turn_begun h w hfree hopen hwatched a
  | registered hcall hfits => exact Step.turn_registered h hcall a
  | orphaned hcall hd hlarge =>
    exact Step.turn_orphaned h hcall hd (h.not_fits_of_orphaned hcall hd hlarge) a
  | @left service i d w hfree hwatched hd hleft =>
    have hseat : (g.modify i fun d => { d with registry := (d.registry.remove w).1 }).seat? a =
        g.seat? a := seat?_congr rfl rfl a
    by_cases ha : service = a
    · subst ha
      have hpost := post?_of_seat (h.seat?_of_watched hwatched) hd
      exact .thinned rfl hpost (post?_modify_self rfl hseat hpost) rfl
        (fun key hkey => Registry.unread_remove hkey w) rfl
    · have hservice := h.service_of_watched hwatched hd
      have hne : g.seat? a ≠ some i := h.seat_ne hd fun heq => ha (heq.trans hservice).symm
      exact .aside rfl (fun _ => rfl) (post?_modify_of_ne rfl hseat hne) rfl
  | emptied w hfree hwatched hd hleft => exact Step.turn_emptied h w hfree hwatched hd a
  | kept hcall => exact Step.turn_kept h hcall a
  | @cancelled service i hcall =>
    obtain ⟨hvacant, -⟩ : g.Vacant service i ∧ g.Fits := h.call _ hcall
    obtain ⟨d, hd, hservice, -⟩ := hvacant.desk
    have hdesks : (g.cancelOne service i).desks = g.desks.modify i Desk.cancel := rfl
    refine turn_ended hdesks rfl ?_ h hd ?_ a
    · intro b
      rw [seat?_of_cancelling hcall]
      exact seat?_of_closing? (g := g.cancelOne service i) (Dict.empty.insert service i) rfl b
    · rw [seat?_of_cancelling hcall, hservice, hvacant.unwatched]
  | @closed service i sessions hcall hfind =>
    have hover := (show ∀ a j, sessions.find? a = some j → g.Over a j from h.call _ hcall) _ _ hfind
    obtain ⟨d, hd, hservice, -⟩ := hover.desk
    have hdesks : (g.closeOne service i sessions).desks = g.desks.modify i Desk.close := rfl
    refine turn_ended hdesks rfl ?_ h hd ?_ a
    · intro b
      rw [seat?_of_closing hcall]
      exact seat?_of_closing? (g := g.closeOne service i sessions) (sessions.erase service) rfl b
    · rw [seat?_of_closing hcall, hservice, hover.unwatched]
  | stopped hfree hopen =>
    refine .stopped rfl hfree hopen rfl (post?_of_no_seat ?_) rfl
    exact seat?_of_closing? (g := g.stop) g.watched rfl a
  | dropped hfree =>
    have hseat : ({ g with desks := g.desks.map Desk.cancel } : Ledger).seat? a = g.seat? a :=
      seat?_congr rfl rfl a
    cases hold : g.seat? a with
    | none =>
      refine .aside rfl (fun _ => rfl) ?_ rfl
      rw [post?_of_no_seat hold, post?_of_no_seat (hseat.trans hold)]
    | some i =>
      obtain ⟨d, hd, -⟩ := h.desk_of_seat hold
      refine .thinned (e := d.cancel) rfl (post?_of_seat hold hd) ?_ rfl ?_ rfl
      · refine post?_of_seat (hseat.trans hold) ?_
        rw [List.getElem?_map, hd]
        rfl
      · intro key _
        exact List.prefix_rfl
  | built s hd hcancelled hready hrevision =>
    exact .aside (publications_built _ _ _ _) (fun _ => rfl)
      (post?_congr rfl (seat?_congr rfl rfl a)) (kept?_insert rfl a)
  | published hd hready => exact Step.turn_published h hd hready a
  | delivered t hd => exact Step.turn_delivered h t hd a

end Ledger

end Lookout
