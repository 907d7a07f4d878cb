import Lookout.Proofs.Registry.Accounts
import Lookout.Proofs.Resolver.Calls

/-!
# Who watches a service

The members of a service are the watchers that are registered with its session. A call that watches
the service adds its watcher when it returns, a call to leave it takes its watcher out, stopping
takes out all, and nothing else makes a difference. So the members after a run are told from its
calls alone.
-/
set_option autoImplicit false

namespace Lookout

namespace Ledger

def members (g : Ledger) (service : String) : List WatcherId :=
  ((g.post? service).map fun p => p.2.registry.watchers).getD []

section
variable {g : Ledger} {service : String}

theorem members_of_post? {i : Nat} {d : Desk} (h : g.post? service = some (i, d)) :
    g.members service = d.registry.watchers := by
  simp only [members]
  rw [h]
  rfl

theorem members_of_none (h : g.post? service = none) : g.members service = [] := by
  simp only [members]
  rw [h]
  rfl

theorem members_congr {g' : Ledger} (h : g'.post? service = g.post? service) :
    g'.members service = g.members service := by
  simp only [members]
  rw [h]

theorem Orderly.members_nodup (h : g.Orderly) (service : String) :
    (g.members service).Nodup := by
  cases hpost : g.post? service with
  | none =>
    rw [members_of_none hpost]
    exact List.nodup_nil
  | some p =>
    obtain ⟨i, d⟩ := p
    rw [members_of_post? hpost]
    exact (h.desks i d (of_post? hpost).2).registry.watchers

theorem members_modify {g' : Ledger} {i : Nat} {f : Desk → Desk}
    (hdesks : g'.desks = g.desks.modify i f) (hseat : g'.seat? service = g.seat? service)
    (hf : ∀ d, g.desks[i]? = some d → (f d).registry.watchers = d.registry.watchers) :
    g'.members service = g.members service := by
  cases hpost : g.post? service with
  | none =>
    rw [members_of_none hpost]
    exact members_of_none (by rw [post?_modify hdesks hseat, hpost]; rfl)
  | some p =>
    obtain ⟨j, d⟩ := p
    have hpost' := post?_modify hdesks hseat
    rw [hpost, Option.map_some] at hpost'
    rw [members_of_post? hpost, members_of_post? hpost']
    split
    · next hij =>
      subst hij
      exact hf d (of_post? hpost).2
    · rfl

theorem members_cancel {g' : Ledger} (hdesks : g'.desks = g.desks.map Desk.cancel)
    (hseat : g'.seat? service = g.seat? service) : g'.members service = g.members service := by
  simp only [members, post?, hseat, hdesks, List.getElem?_map]
  cases g.seat? service with
  | none => rfl
  | some i =>
    simp only [Option.bind_some]
    cases g.desks[i]? <;> rfl

/-- A session without watchers is as good as none. -/
theorem members_of_unmanned {i : Nat} {d : Desk} (hseat : g.seat? service = some i)
    (hd : g.desks[i]? = some d) (hnobody : d.registry.registrations = []) :
    g.members service = [] := by
  rw [members_of_post? (post?_of_seat hseat hd), Registry.watchers, hnobody, List.map_nil]

theorem Work.members {g' : Ledger} {ns : List Notice} (h : Work g ns g') (service : String) :
    g'.members service = g.members service := by
  obtain ⟨hcall, hwatched, -⟩ := h.steady
  have hseat := seat?_congr hcall hwatched service
  cases h with
  | quiet hns => rfl
  | built s hd hcancelled hready hrevision => exact members_congr (post?_congr rfl hseat)
  | @published i d s hd hready =>
    refine members_modify rfl hseat ?_
    intro e _
    exact e.registry.watchers_notify s
  | @delivered i d t hd =>
    refine members_modify rfl hseat ?_
    intro e _
    exact e.registry.watchers_deliver t

/-! ## Steps of calls -/

variable {g' : Ledger} {a : String} {i : Nat} {d : Desk} {v w : WatcherId}

theorem Orderly.mem_members_added (h : g.Orderly) (hi : g.seat? a = some i)
    (hd : g.desks[i]? = some d) (hseat : g'.seat? service = g.seat? service)
    (hdesks : g'.desks = g.desks.modify i fun d => { d with registry := (d.registry.add w).1 }) :
    v ∈ g'.members service ↔
      v ∈ g.members service ∨ service = a ∧ v = w ∧ (d.registry.add w).2 ≠ .tooLarge := by
  by_cases ha : service = a
  · subst ha
    have hpost := post?_of_seat hi hd
    rw [members_of_post? hpost, members_of_post? (post?_modify_self hdesks hseat hpost)]
    simpa using Registry.mem_watchers_add
  · have hne : g.seat? service ≠ some i := fun hseat => ha (h.seat_inj hseat hi)
    rw [members_congr (post?_modify_of_ne hdesks hseat hne)]
    simp [ha]

theorem Orderly.mem_members_removed (h : g.Orderly) (hi : g.seat? a = some i)
    (hd : g.desks[i]? = some d) (hseat : g'.seat? service = g.seat? service)
    (hdesks : g'.desks =
      g.desks.modify i fun d => { d with registry := (d.registry.remove w).1 }) :
    v ∈ g'.members service ↔ v ∈ g.members service ∧ ¬(service = a ∧ v = w) := by
  by_cases ha : service = a
  · subst ha
    have hpost := post?_of_seat hi hd
    rw [members_of_post? hpost, members_of_post? (post?_modify_self hdesks hseat hpost)]
    simpa using Registry.mem_watchers_remove
  · have hne : g.seat? service ≠ some i := fun hseat => ha (h.seat_inj hseat hi)
    rw [members_congr (post?_modify_of_ne hdesks hseat hne)]
    simp [ha]

theorem seat?_register (hcall : g.call? = some (.joining a i w)) (service : String) :
    (g.register a i w).seat? service = g.seat? service := by
  rw [seat?_of_free (g := g.register a i w) rfl, seat?_of_joining hcall]
  change (g.watched.insert a i).find? service = _
  rw [Dict.find?_insert]
  by_cases ha : a = service
  · rw [if_pos ha, if_pos ha.symm]
  · rw [if_neg ha, if_neg fun heq => ha heq.symm]

/-- A session that is to be ended keeps its seat. -/
theorem seat?_empty (hfree : g.call? = none) (hwatched : g.watched.find? a = some i)
    (service : String) : (g.empty a i w).seat? service = g.seat? service := by
  rw [seat?_of_keeping (g := g.empty a i w) rfl, seat?_of_free hfree]
  change (if a = service then some i else (g.watched.erase a).find? service) = _
  by_cases ha : a = service
  · rw [if_pos ha, ← ha]
    exact hwatched.symm
  · rw [if_neg ha, Dict.find?_erase_of_ne _ fun heq => ha heq.symm]

/-- Nobody is missed when a session loses its seat that has nobody registered. -/
theorem members_of_vacated (hi : g.seat? a = some i) (hd : g.desks[i]? = some d)
    (hnobody : d.registry.registrations = []) (hdesks : g'.desks = g.desks)
    (hseat : g'.seat? service = if a = service then none else g.seat? service) :
    g'.members service = g.members service := by
  by_cases ha : a = service
  · subst ha
    rw [if_pos rfl] at hseat
    rw [members_of_unmanned hi hd hnobody, members_of_none (post?_of_no_seat hseat)]
  · rw [if_neg ha] at hseat
    exact members_congr (post?_congr hdesks hseat)

theorem Orderly.members_unjoined (h : g.Orderly) (hcall : g.call? = some (.joining a i w)) :
    Ledger.members { g with call? := none } service = g.members service := by
  have hvacant := h.joining hcall
  obtain ⟨d, hd, -, hnobody⟩ := hvacant.desk
  have hseatOf := seat?_of_joining hcall
  refine members_of_vacated (by rw [hseatOf, if_pos rfl]) hd hnobody rfl ?_
  rw [seat?_of_free (g := { g with call? := none }) rfl, hseatOf]
  split
  · next ha => exact ha ▸ hvacant.unwatched
  · rfl

theorem Orderly.members_keep (h : g.Orderly) (hcall : g.call? = some (.keeping a i)) :
    (g.keep a i).members service = g.members service := by
  obtain ⟨hvacant, -⟩ : g.Vacant a i ∧ g.Fits := h.call _ hcall
  obtain ⟨d, hd, -, hnobody⟩ := hvacant.desk
  have hseatOf := seat?_of_keeping hcall
  refine members_of_vacated (by rw [hseatOf, if_pos rfl]) hd hnobody rfl ?_
  rw [seat?_of_cancelling (g := g.keep a i) rfl, hseatOf]
  split
  · next ha => exact ha ▸ hvacant.unwatched
  · rfl

theorem members_cancelOne (hcall : g.call? = some (.cancelling a i)) :
    (g.cancelOne a i).members service = g.members service := by
  have hdesks : (g.cancelOne a i).desks = g.desks.modify i Desk.cancel := rfl
  refine members_modify hdesks ?_ fun _ _ => rfl
  rw [seat?_of_cancelling hcall]
  exact seat?_of_closing? (g := g.cancelOne a i) (Dict.empty.insert a i) rfl service

theorem Orderly.members_closeOne (h : g.Orderly) {sessions : Dict Nat}
    (hcall : g.call? = some (.closing sessions)) (hfind : sessions.find? a = some i) :
    (g.closeOne a i sessions).members service = g.members service := by
  have hseatOf := seat?_of_closing hcall
  have hseat : (g.closeOne a i sessions).seat? service = g.seat? service := by
    rw [hseatOf]
    exact seat?_of_closing? (g := g.closeOne a i sessions) (sessions.erase a) rfl service
  have hover := (show ∀ b j, sessions.find? b = some j → g.Over b j from h.call _ hcall) _ _ hfind
  obtain ⟨d, hd, hservice, -⟩ := hover.desk
  have hne : g.seat? service ≠ some i := by
    intro hi
    have hown := h.service_of_seat hi hd
    rw [hseatOf, ← hown, hservice, hover.unwatched] at hi
    cases hi
  have hdesks : (g.closeOne a i sessions).desks = g.desks.modify i Desk.close := rfl
  exact members_congr (post?_modify_of_ne hdesks hseat hne)

end

end Ledger

namespace Resolver

/-! ## Outcomes -/

theorem WatchOutcome.ofAdded_eq_ok_iff {added : Registry.Added} :
    WatchOutcome.ofAdded added = .ok ↔ added ≠ .tooLarge := by
  cases added <;> simp [WatchOutcome.ofAdded]

/-- A call to watch the service returns, with success, at the event. -/
def Adds (r : Resolver) (service : String) (v : WatcherId) (e : Event) : Prop :=
  (e = .watch service v ∧ r.call? = none ∧ (r.addWatch service v).2 = some .ok) ∨
  (e = .proceed service ∧ (∃ i, r.call? = some (.joining service i v)) ∧
    (r.proceed service).2 = some .ok)

/-- A call takes out the watcher at the event. -/
def Removes (r : Resolver) (service : String) (v : WatcherId) (e : Event) : Prop :=
  r.call? = none ∧ (e = .unwatch service v ∨ e = .stop)

/-! ## Calls -/

section
variable {r : Resolver} {service : String} {v : WatcherId}

theorem adds_iff_of_free {a : String} {w : WatcherId} (hfree : r.call? = none) :
    Adds r service v (.watch a w) ↔
      service = a ∧ v = w ∧ (r.addWatch a w).2 = some .ok := by
  simp only [Adds, Event.watch.injEq, reduceCtorEq, false_and, or_false, hfree, true_and]
  constructor
  · rintro ⟨⟨rfl, rfl⟩, hok⟩
    exact ⟨rfl, rfl, hok⟩
  · rintro ⟨rfl, rfl, hok⟩
    exact ⟨⟨rfl, rfl⟩, hok⟩

theorem mem_members_addWatch (h : r.ledger.Orderly) (hfree : r.call? = none) (a : String)
    (w : WatcherId) :
    v ∈ (r.addWatch a w).1.ledger.members service ↔
      v ∈ r.ledger.members service ∨
        service = a ∧ v = w ∧ (r.addWatch a w).2 = some .ok := by
  rcases r.addWatch_cases a w with ⟨f, -, heq⟩ | ⟨-, ⟨i, hwatched, heq⟩ | ⟨hwatched, heq⟩⟩
  · rw [heq]
    simp
  · obtain ⟨d, hd, -⟩ := h.watched a i hwatched
    rw [ledger_desks_getElem?] at hd
    obtain ⟨s, hs, rfl⟩ := Option.map_eq_some_iff.1 hd
    have hdesk : r.ledger.desks[i]? = some s.desk := by simp [hs]
    rw [heq, ledger_join hs, join_added hs, Option.some_inj, WatchOutcome.ofAdded_eq_ok_iff]
    exact h.mem_members_added (h.seat?_of_watched hwatched) hdesk
      (Ledger.seat?_congr rfl rfl service) rfl
  · rw [heq, ledger_begin]
    simp only [reduceCtorEq, and_false, or_false]
    have hseat := Ledger.seat?_of_joining (g := r.ledger.begin a w) rfl service
    by_cases ha : a = service
    · subst ha
      rw [if_pos rfl] at hseat
      rw [Ledger.members_of_unmanned hseat (d := r.ledger.newDesk a)
          List.getElem?_concat_length rfl,
        Ledger.members_of_none (Ledger.post?_of_no_seat
          ((Ledger.seat?_of_free (g := r.ledger) hfree a).trans hwatched))]
    · rw [if_neg ha] at hseat
      rw [Ledger.members_congr (Ledger.post?_append h rfl
        (hseat.trans (Ledger.seat?_of_free (g := r.ledger) hfree service).symm))]

theorem mem_members_delWatch (h : r.ledger.Orderly) (hfree : r.call? = none) (a : String)
    (w : WatcherId) :
    v ∈ (r.delWatch a w).ledger.members service ↔
      v ∈ r.ledger.members service ∧ ¬(service = a ∧ v = w) := by
  have hseatOf := Ledger.seat?_of_free (g := r.ledger) hfree
  rcases r.ledger_delWatch_cases a w with
    ⟨hnobody, heq⟩ | ⟨i, d, hwatched, hd, ⟨-, heq⟩ | ⟨-, heq⟩⟩
  · rw [heq]
    refine ⟨fun hv => ⟨hv, ?_⟩, And.left⟩
    rintro ⟨rfl, -⟩
    have hpost : r.ledger.post? service = none := by
      cases hpost : r.ledger.post? service with
      | none => rfl
      | some p =>
        obtain ⟨hseat, hd⟩ := Ledger.of_post? hpost
        rw [ledger_desks_getElem?, hnobody _ ((hseatOf service).symm.trans hseat)] at hd
        cases hd
    rw [Ledger.members_of_none hpost] at hv
    exact absurd hv List.not_mem_nil
  · rw [heq]
    exact h.mem_members_removed ((hseatOf a).trans hwatched) hd (Ledger.seat?_congr rfl rfl service)
      rfl
  · rw [heq]
    exact h.mem_members_removed ((hseatOf a).trans hwatched) hd
      (Ledger.seat?_empty hfree hwatched service) rfl

theorem members_stop (h : r.ledger.Orderly) (service : String) :
    r.stop.ledger.members service = [] := by
  cases hstopped : r.stopped with
  | true =>
    rw [stop_of_stopped hstopped]
    exact Ledger.members_of_none (h.post?_of_stopped hstopped service)
  | false =>
    rw [ledger_stop_of_open hstopped]
    exact Ledger.members_of_none (Ledger.post?_of_no_seat
      (Ledger.seat?_of_closing? (g := r.ledger.stop) r.ledger.watched rfl service))

theorem mem_members_proceed (h : r.ledger.Orderly) (a : String) :
    v ∈ (r.proceed a).1.ledger.members service ↔
      v ∈ r.ledger.members service ∨
        service = a ∧ (∃ i, r.call? = some (.joining a i v)) ∧ (r.proceed a).2 = some .ok := by
  rcases r.proceed_cases a with heq | ⟨i, w, hcall, heq⟩ | ⟨i, hcall, heq⟩ |
    ⟨i, hcall, heq⟩ | ⟨i, sessions, hcall, hfind, heq⟩
  · rw [heq]
    simp
  · rw [heq]
    obtain ⟨d, hd, -⟩ := (h.joining hcall).desk
    rcases r.register_cases a i w with ⟨hlarge, hregister⟩ | ⟨hroom, hregister⟩
    · rw [hregister]
      change v ∈ Ledger.members { (r.join i w).1.ledger with call? := none } service ↔ _
      rw [(ledger_join_of_tooLarge hlarge).1, h.members_unjoined hcall]
      simp
    · obtain ⟨s, hs, rfl⟩ := Option.map_eq_some_iff.1 ((ledger_desks_getElem? r i).symm.trans hd)
      rw [join_added hs] at hroom
      have hledger : (r.register a i w).1.ledger = r.ledger.register a i w := by
        rw [hregister]
        change { (r.join i w).1.ledger with
          watched := (r.join i w).1.watched.insert a i, call? := none } = _
        have hjoined := ledger_join hs w
        rw [hjoined, show (r.join i w).1.watched = r.watched from congrArg Ledger.watched hjoined]
        rfl
      have hi : r.ledger.seat? a = some i := by
        rw [Ledger.seat?_of_joining (g := r.ledger) hcall, if_pos rfl]
      rw [hledger, show (r.register a i w).2 = some .ok by rw [hregister],
        h.mem_members_added hi hd (Ledger.seat?_register hcall service) rfl]
      simp [hcall, Session.desk, hroom, eq_comm]
  · rw [heq, ledger_keep, h.members_keep hcall]
    simp
  · rw [heq, ledger_cancelOne, Ledger.members_cancelOne hcall]
    simp
  · rw [heq, ledger_closeOne, h.members_closeOne hcall hfind]
    simp

theorem mem_members_react (h : r.ledger.Orderly) (e : Event) :
    v ∈ (r.react e).1.ledger.members service ↔
      Adds r service v e ∨ v ∈ r.ledger.members service ∧ ¬Removes r service v e := by
  cases e with
  | watch a w =>
    change v ∈ (r.whenFree fun r => (r.addWatch a w).1).ledger.members service ↔ _
    rcases hcall : r.call? with _ | c
    · rw [whenFree_of_free hcall, mem_members_addWatch h hcall, adds_iff_of_free hcall]
      simp [Removes, or_comm]
    · rw [whenFree_of_held hcall]
      simp [Adds, Removes, hcall]
  | unwatch a w =>
    change v ∈ (r.whenFree (·.delWatch a w)).ledger.members service ↔ _
    rcases hcall : r.call? with _ | c
    · rw [whenFree_of_free hcall, mem_members_delWatch h hcall]
      simp [Adds, Removes, hcall, eq_comm]
    · rw [whenFree_of_held hcall]
      simp [Adds, Removes, hcall]
  | stop =>
    change v ∈ (r.whenFree stop).ledger.members service ↔ _
    rcases hcall : r.call? with _ | c
    · rw [whenFree_of_free hcall, members_stop h]
      simp [Adds, Removes, hcall]
    · rw [whenFree_of_held hcall]
      simp [Adds, Removes, hcall]
  | drop =>
    change v ∈ (r.whenFree drop).ledger.members service ↔ _
    rcases r.whenFree_cases drop with heq | ⟨-, heq⟩
    · rw [heq]
      simp [Adds, Removes]
    · have hsame : Ledger.members { r.ledger with desks := r.ledger.desks.map Desk.cancel }
          service = r.ledger.members service :=
        Ledger.members_cancel rfl (Ledger.seat?_congr rfl rfl service)
      rw [heq, drop, ledger_cancelAll, hsame]
      simp [Adds, Removes]
  | proceed a =>
    change v ∈ (r.proceed a).1.ledger.members service ↔ _
    rw [mem_members_proceed h]
    simp only [Adds, Removes, reduceCtorEq, false_and, false_or, or_false, and_false,
      not_false_eq_true, and_true, Event.proceed.injEq]
    rw [or_comm]
    refine or_congr (and_congr_left' eq_comm |>.trans ?_) Iff.rfl
    refine ⟨?_, ?_⟩ <;> rintro ⟨rfl, hrest⟩ <;> exact ⟨rfl, hrest⟩
  | change c =>
    change v ∈ r.ledger.members service ↔ _
    simp [Adds, Removes]
  | step t =>
    change v ∈ (r.step t).1.ledger.members service ↔ _
    rw [(r.ledger_step t).members]
    simp [Adds, Removes]
  | pass nanos =>
    change v ∈ r.ledger.members service ↔ _
    simp [Adds, Removes]

/-! ## Runs -/

/-- No call in the run takes out the watcher. -/
def Stays (r : Resolver) (events : List Event) (service : String) (v : WatcherId) : Prop :=
  ∀ front e back, events = front ++ e :: back → ¬Removes (r.run front).1 service v e

/-- The watcher was added to the service in the run, and not removed since. -/
def Registered (r : Resolver) (events : List Event) (service : String) (v : WatcherId) : Prop :=
  ∃ front e back, events = front ++ e :: back ∧ Adds (r.run front).1 service v e ∧
    Stays ((r.run front).1.react e).1 back service v

theorem stays_nil : Stays r [] service v := by
  intro front e back hsplit
  exact absurd hsplit (by simp)

theorem stays_cons {e : Event} {rest : List Event} :
    Stays r (e :: rest) service v ↔
      ¬Removes r service v e ∧ Stays (r.react e).1 rest service v := by
  constructor
  · intro h
    exact ⟨h [] e rest rfl, fun front f back hsplit => h (e :: front) f back (by rw [hsplit]; rfl)⟩
  · rintro ⟨hnow, hlater⟩ front f back hsplit
    cases front with
    | nil =>
      obtain ⟨rfl, -⟩ := List.cons.inj hsplit
      exact hnow
    | cons b front =>
      obtain ⟨rfl, rfl⟩ := List.cons.inj hsplit
      exact hlater front f back rfl

theorem registered_cons {e : Event} {rest : List Event} :
    Registered r (e :: rest) service v ↔
      (Adds r service v e ∧ Stays (r.react e).1 rest service v) ∨
        Registered (r.react e).1 rest service v := by
  constructor
  · rintro ⟨front, f, back, hsplit, hadds, hstays⟩
    cases front with
    | nil =>
      obtain ⟨rfl, rfl⟩ := List.cons.inj hsplit
      exact Or.inl ⟨hadds, hstays⟩
    | cons b front =>
      obtain ⟨rfl, rfl⟩ := List.cons.inj hsplit
      exact Or.inr ⟨front, f, back, rfl, hadds, hstays⟩
  · rintro (⟨hadds, hstays⟩ | ⟨front, f, back, rfl, hadds, hstays⟩)
    · exact ⟨[], e, rest, rfl, hadds, hstays⟩
    · exact ⟨e :: front, f, back, rfl, hadds, hstays⟩

/-- The members after a run are those from before that stayed, and those that were added. -/
theorem mem_members_run {buffer : Nat} {ns : List Notice}
    (h : Ledger.Reached buffer ns r.ledger) (events : List Event) :
    v ∈ (r.run events).1.ledger.members service ↔
      (v ∈ r.ledger.members service ∧ Stays r events service v) ∨
        Registered r events service v := by
  induction events generalizing r ns with
  | nil => simp [Registered, stays_nil]
  | cons e rest ih =>
    rw [run_cons, ih (h.step (r.ledger_react e)), mem_members_react h.orderly, registered_cons,
      stays_cons, or_and_right, and_assoc, or_assoc]
    exact or_left_comm

end

end Resolver

end Lookout
