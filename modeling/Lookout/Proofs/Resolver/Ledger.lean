import Lookout.Proofs.Registry
import Lookout.Resolver.Run

/-!
# The ledger of a resolver

The ledger is what calls, builds and publications change: the registry of every session, the
snapshots that are built and not yet published, who is watched, what is kept of every service, and
what the call in progress has left to do. How far the tasks of a session have come otherwise is left
out, so most of what tasks do leaves the ledger as it is. `Resolver.ledger_react` lists all that one
event can do to it; what holds of every reachable ledger is proved from that list.
-/
set_option autoImplicit false

namespace Lookout

/-- A session without the progress of its tasks. -/
structure Desk where
  service : String
  registry : Registry
  cancelled : Bool

def Session.desk (s : Session) : Desk := ⟨s.service, s.registry, s.cancelled⟩

def Desk.cancel (d : Desk) : Desk := { d with cancelled := true, registry := d.registry.cancel }

def Desk.close (d : Desk) : Desk := { d with registry := d.registry.close }

/-- What a session has built and not published. -/
def Evaluation.ready? : Evaluation → Option Snapshot
  | .publishing s => some s
  | _ => none

def Session.product (s : Session) : String × Option Snapshot := (s.service, s.evaluation.ready?)

structure Ledger where
  /-- How many snapshots the settings want a mailbox to hold. -/
  buffer : Nat
  desks : List Desk
  /-- The service of each session, and what the session has built and not published. -/
  ready : List (String × Option Snapshot)
  watched : Dict Nat
  histories : Dict History
  stopped : Bool
  call? : Option Call

namespace Notice

/-- Whether a notice is about snapshots. -/
def isEntry : Notice → Bool
  | .built _ _ _ => true
  | .published _ _ _ _ => true
  | .delivered _ _ _ _ _ => true
  | _ => false

def build? (service : String) : Notice → Option Snapshot
  | .built _ owner s => if owner = service then some s else none
  | _ => none

def publication? (service : String) : Notice → Option Snapshot
  | .published _ owner s _ => if owner = service then some s else none
  | _ => none

def delivery? (service : String) (key : Nat → Registry.Key) : Notice → Option Snapshot
  | .delivered i t owner w s => if owner = service ∧ key i t w = true then some s else none
  | _ => none

end Notice

/-- The snapshots of a service that were built, in order. -/
def builds (service : String) (ns : List Notice) : List Snapshot :=
  ns.filterMap (·.build? service)

/-- The snapshots of a service that were published, in order. -/
def publications (service : String) (ns : List Notice) : List Snapshot :=
  ns.filterMap (·.publication? service)

/-- The snapshots of a service that were handed to registrations, in order. The key chooses the
registrations by session, ticket and watcher. -/
def deliveries (service : String) (key : Nat → Registry.Key) (ns : List Notice) : List Snapshot :=
  ns.filterMap (·.delivery? service key)

@[simp]
theorem builds_nil (service : String) : builds service [] = [] := rfl

@[simp]
theorem publications_nil (service : String) : publications service [] = [] := rfl

@[simp]
theorem deliveries_nil (service : String) (key : Nat → Registry.Key) :
    deliveries service key [] = [] := rfl

@[simp]
theorem builds_append (service : String) (ns ms : List Notice) :
    builds service (ns ++ ms) = builds service ns ++ builds service ms :=
  List.filterMap_append

theorem builds_few_before {service : String} {ns ms : List Notice}
    (hfew : (builds service (ns ++ ms)).length < UInt64.size) :
    (builds service ns).length < UInt64.size := by
  rw [builds_append, List.length_append] at hfew
  omega

@[simp]
theorem publications_append (service : String) (ns ms : List Notice) :
    publications service (ns ++ ms) = publications service ns ++ publications service ms :=
  List.filterMap_append

@[simp]
theorem deliveries_append (service : String) (key : Nat → Registry.Key) (ns ms : List Notice) :
    deliveries service key (ns ++ ms) = deliveries service key ns ++ deliveries service key ms :=
  List.filterMap_append

theorem builds_quiet {ns : List Notice} (h : ∀ n ∈ ns, n.isEntry = false)
    (service : String) : builds service ns = [] := by
  refine List.filterMap_eq_nil_iff.2 ?_
  intro n hn
  have hquiet := h n hn
  cases n <;> simp_all [Notice.isEntry, Notice.build?]

theorem publications_quiet {ns : List Notice} (h : ∀ n ∈ ns, n.isEntry = false)
    (service : String) : publications service ns = [] := by
  refine List.filterMap_eq_nil_iff.2 ?_
  intro n hn
  have hquiet := h n hn
  cases n <;> simp_all [Notice.isEntry, Notice.publication?]

theorem deliveries_quiet {ns : List Notice} (h : ∀ n ∈ ns, n.isEntry = false)
    (service : String) (key : Nat → Registry.Key) : deliveries service key ns = [] := by
  refine List.filterMap_eq_nil_iff.2 ?_
  intro n hn
  have hquiet := h n hn
  cases n <;> simp_all [Notice.isEntry, Notice.delivery?]

theorem builds_built (service : String) (i : Nat) (owner : String) (s : Snapshot) :
    builds service [.built i owner s] = if owner = service then [s] else [] := by
  unfold builds Notice.build?
  split <;> simp_all

theorem publications_built (service : String) (i : Nat) (owner : String) (s : Snapshot) :
    publications service [.built i owner s] = [] := rfl

theorem builds_published (service : String) (i : Nat) (owner : String) (s : Snapshot)
    (report : Report) : builds service [.published i owner s report] = [] := rfl

theorem publications_published (service : String) (i : Nat) (owner : String) (s : Snapshot)
    (report : Report) :
    publications service [.published i owner s report] = if owner = service then [s] else [] := by
  unfold publications Notice.publication?
  split <;> simp_all

theorem deliveries_published (service : String) (key : Nat → Registry.Key) (i : Nat)
    (owner : String) (s : Snapshot) (report : Report) :
    deliveries service key [.published i owner s report] = [] := rfl

namespace Ledger

def historyOf (g : Ledger) (service : String) : History :=
  (g.histories.find? service).getD .empty

def modify (g : Ledger) (i : Nat) (f : Desk → Desk) : Ledger :=
  { g with desks := g.desks.modify i f }

/-- A mailbox of the wanted size can be made. -/
def Fits (g : Ledger) : Prop := max g.buffer 1 ≤ Mailbox.maxCapacity

instance (g : Ledger) : Decidable g.Fits :=
  inferInstanceAs (Decidable (max g.buffer 1 ≤ Mailbox.maxCapacity))

/-- A desk as its session begins, with nobody registered. -/
def newDesk (g : Ledger) (service : String) : Desk :=
  { service
    registry := .create service g.buffer (g.historyOf service).last?
    cancelled := false }

/-- The desk of a new session is taken, for a watcher who is still to be registered. -/
def begin (g : Ledger) (service : String) (w : WatcherId) : Ledger :=
  { g with
    desks := g.desks ++ [g.newDesk service]
    ready := g.ready ++ [(service, none)]
    histories := g.histories.insert service (g.historyOf service)
    call? := some (.joining service g.desks.length w) }

def register (g : Ledger) (service : String) (i : Nat) (w : WatcherId) : Ledger :=
  { g.modify i fun d => { d with registry := (d.registry.add w).1 } with
    watched := g.watched.insert service i
    call? := none }

def empty (g : Ledger) (service : String) (i : Nat) (w : WatcherId) : Ledger :=
  { g.modify i fun d => { d with registry := (d.registry.remove w).1 } with
    watched := g.watched.erase service
    call? := some (.keeping service i) }

def keep (g : Ledger) (service : String) (i : Nat) : Ledger :=
  { g with
    histories := g.histories.insert service
      { g.historyOf service with last? := (g.desks[i]?).bind (·.registry.current?) }
    call? := some (.cancelling service i) }

def cancelOne (g : Ledger) (service : String) (i : Nat) : Ledger :=
  { g.modify i Desk.cancel with call? := Call.closing? (Dict.empty.insert service i) }

def closeOne (g : Ledger) (service : String) (i : Nat) (sessions : Dict Nat) : Ledger :=
  { g.modify i Desk.close with call? := Call.closing? (sessions.erase service) }

def stop (g : Ledger) : Ledger :=
  { g with
    stopped := true
    watched := ∅
    desks := g.desks.map Desk.cancel
    call? := Call.closing? g.watched }

def build (g : Ledger) (i : Nat) (d : Desk) (s : Snapshot) : Ledger :=
  { g with
    ready := g.ready.set i (d.service, some s)
    histories := g.histories.insert d.service
      { g.historyOf d.service with revision := s.revision } }

def publish (g : Ledger) (i : Nat) (d : Desk) (s : Snapshot) : Ledger :=
  { g.modify i fun d => { d with registry := (d.registry.notify s).1 } with
    ready := g.ready.set i (d.service, none) }

/-- The notice of a step of a delivery task. -/
def deliveryNotices (i ticket : Nat) (service : String) :
    Option (WatcherId × Registry.Delivery) → List Notice
  | some (w, .delivered s) => [.delivered i ticket service w s]
  | _ => []

theorem builds_deliveryNotices (service : String) (i t : Nat) (owner : String)
    (step? : Option (WatcherId × Registry.Delivery)) :
    builds service (deliveryNotices i t owner step?) = [] := by
  unfold deliveryNotices
  split <;> rfl

theorem publications_deliveryNotices (service : String) (i t : Nat) (owner : String)
    (step? : Option (WatcherId × Registry.Delivery)) :
    publications service (deliveryNotices i t owner step?) = [] := by
  unfold deliveryNotices
  split <;> rfl

theorem deliveries_deliveryNotices (service : String) (key : Nat → Registry.Key) (i t : Nat)
    (owner : String) (step? : Option (WatcherId × Registry.Delivery)) :
    deliveries service key (deliveryNotices i t owner step?) =
      if owner = service then Registry.handed (key i) t step? else [] := by
  cases step? with
  | none => simp [deliveryNotices, Registry.handed]
  | some step =>
    obtain ⟨w, step⟩ := step
    cases step with
    | nothing => simp [deliveryNotices, Registry.handed, Registry.Delivery.handed]
    | ended => simp [deliveryNotices, Registry.handed, Registry.Delivery.handed]
    | delivered s =>
      by_cases howner : owner = service
      · by_cases hkey : key i t w = true
        · simp [deliveryNotices, deliveries, Notice.delivery?, Registry.handed,
            Registry.Delivery.handed, howner, hkey]
        · simp [deliveryNotices, deliveries, Notice.delivery?, Registry.handed,
            howner, hkey]
      · simp [deliveryNotices, deliveries, Notice.delivery?, howner]

/-- What a step of a task does to a ledger. -/
inductive Work (g : Ledger) : List Notice → Ledger → Prop
  | quiet {ns : List Notice} (hns : ∀ n ∈ ns, n.isEntry = false) : Work g ns g
  | built {i : Nat} {d : Desk} (s : Snapshot) (hd : g.desks[i]? = some d)
      (hcancelled : d.cancelled = false) (hready : g.ready[i]? = some (d.service, none))
      (hrevision : s.revision = (g.historyOf d.service).revision + 1) :
      Work g [.built i d.service s] (g.build i d s)
  | published {i : Nat} {d : Desk} {s : Snapshot} (hd : g.desks[i]? = some d)
      (hready : g.ready[i]? = some (d.service, some s)) :
      Work g [.published i d.service s (d.registry.notify s).2] (g.publish i d s)
  | delivered {i : Nat} {d : Desk} (t : Nat) (hd : g.desks[i]? = some d) :
      Work g (deliveryNotices i t d.service (d.registry.deliver t).2)
        (g.modify i fun d => { d with registry := (d.registry.deliver t).1 })

/-- What one event does to a ledger. -/
inductive Step (g : Ledger) : List Notice → Ledger → Prop
  | quiet {ns : List Notice} (hns : ∀ n ∈ ns, n.isEntry = false) : Step g ns g
  /-- A watcher joins a session. -/
  | joined {service : String} {i : Nat} (w : WatcherId) (hfree : g.call? = none)
      (hopen : g.stopped = false) (hwatched : g.watched.find? service = some i) :
      Step g [] (g.modify i fun d => { d with registry := (d.registry.add w).1 })
  /-- The first watcher of a service begins a session. -/
  | begun (service : String) (w : WatcherId) (hfree : g.call? = none)
      (hopen : g.stopped = false) (hwatched : g.watched.find? service = none) :
      Step g [] (g.begin service w)
  | registered {service : String} {i : Nat} {w : WatcherId}
      (hcall : g.call? = some (.joining service i w))
      (hfits : ∀ d, g.desks[i]? = some d → (d.registry.add w).2 ≠ .tooLarge) :
      Step g [] (g.register service i w)
  /-- Nobody can be registered in the session that has begun, for want of a mailbox. -/
  | orphaned {service : String} {i : Nat} {w : WatcherId} {d : Desk}
      (hcall : g.call? = some (.joining service i w)) (hd : g.desks[i]? = some d)
      (hlarge : (d.registry.add w).2 = .tooLarge) : Step g [] { g with call? := none }
  /-- A watcher leaves others behind. -/
  | left {service : String} {i : Nat} {d : Desk} (w : WatcherId) (hfree : g.call? = none)
      (hwatched : g.watched.find? service = some i) (hd : g.desks[i]? = some d)
      (hleft : (d.registry.remove w).1.registrations ≠ []) :
      Step g [] (g.modify i fun d => { d with registry := (d.registry.remove w).1 })
  /-- The last watcher leaves. -/
  | emptied {service : String} {i : Nat} {d : Desk} (w : WatcherId) (hfree : g.call? = none)
      (hwatched : g.watched.find? service = some i) (hd : g.desks[i]? = some d)
      (hleft : (d.registry.remove w).1.registrations = []) : Step g [] (g.empty service i w)
  | kept {service : String} {i : Nat} (hcall : g.call? = some (.keeping service i)) :
      Step g [] (g.keep service i)
  | cancelled {service : String} {i : Nat} (hcall : g.call? = some (.cancelling service i)) :
      Step g [] (g.cancelOne service i)
  | closed {service : String} {i : Nat} {sessions : Dict Nat}
      (hcall : g.call? = some (.closing sessions)) (hfind : sessions.find? service = some i) :
      Step g [] (g.closeOne service i sessions)
  | stopped (hfree : g.call? = none) (hopen : g.stopped = false) : Step g [] g.stop
  | dropped (hfree : g.call? = none) : Step g [] { g with desks := g.desks.map Desk.cancel }
  | built {i : Nat} {d : Desk} (s : Snapshot) (hd : g.desks[i]? = some d)
      (hcancelled : d.cancelled = false) (hready : g.ready[i]? = some (d.service, none))
      (hrevision : s.revision = (g.historyOf d.service).revision + 1) :
      Step g [.built i d.service s] (g.build i d s)
  | published {i : Nat} {d : Desk} {s : Snapshot} (hd : g.desks[i]? = some d)
      (hready : g.ready[i]? = some (d.service, some s)) :
      Step g [.published i d.service s (d.registry.notify s).2] (g.publish i d s)
  | delivered {i : Nat} {d : Desk} (t : Nat) (hd : g.desks[i]? = some d) :
      Step g (deliveryNotices i t d.service (d.registry.deliver t).2)
        (g.modify i fun d => { d with registry := (d.registry.deliver t).1 })

theorem Work.step {g g' : Ledger} {ns : List Notice} (h : Work g ns g') : Step g ns g' := by
  cases h with
  | quiet hns => exact .quiet hns
  | built s hd hcancelled hready hrevision => exact .built s hd hcancelled hready hrevision
  | published hd hready => exact .published hd hready
  | delivered t hd => exact .delivered t hd

end Ledger

namespace Resolver

def ledger (r : Resolver) : Ledger :=
  { buffer := r.config.watcherBuffer.toNat
    desks := r.sessions.map Session.desk
    ready := r.sessions.map Session.product
    watched := r.watched
    histories := r.histories
    stopped := r.stopped
    call? := r.call? }

@[simp]
theorem ledger_desks_getElem? (r : Resolver) (i : Nat) :
    r.ledger.desks[i]? = (r.session? i).map Session.desk := by
  simp [ledger, session?]

@[simp]
theorem ledger_ready_getElem? (r : Resolver) (i : Nat) :
    r.ledger.ready[i]? = (r.session? i).map Session.product := by
  simp [ledger, session?]

theorem ledger_modify_ready {r : Resolver} {i : Nat} {s : Session} (hs : r.session? i = some s)
    {f : Session → Session} {F : Desk → Desk} (h : (f s).desk = F s.desk) :
    (r.modify i f).ledger =
      { r.ledger.modify i F with ready := r.ledger.ready.set i (f s).product } := by
  obtain ⟨hlt, -⟩ := List.getElem?_eq_some_iff.1 (show r.sessions[i]? = some s from hs)
  have hdesks : (r.sessions.modify i f).map Session.desk =
      (r.sessions.map Session.desk).modify i F := by
    apply List.ext_getElem?
    intro j
    rw [List.getElem?_map, List.getElem?_modify, List.getElem?_modify, List.getElem?_map]
    by_cases hij : i = j
    · subst hij
      have hs' : r.sessions[i]? = some s := hs
      simp [hs', h]
    · simp [hij]
  have hready : (r.sessions.modify i f).map Session.product =
      (r.sessions.map Session.product).set i (f s).product := by
    apply List.ext_getElem?
    intro j
    rw [List.getElem?_map, List.getElem?_modify, List.getElem?_set, List.getElem?_map]
    by_cases hij : i = j
    · subst hij
      rw [show r.sessions[i]? = some s from hs]
      simp [hlt]
    · simp [hij]
  simp only [ledger, modify, Ledger.modify, hdesks, hready]

theorem ledger_modify {r : Resolver} {i : Nat} {s : Session} (hs : r.session? i = some s)
    {f : Session → Session} {F : Desk → Desk} (h : (f s).desk = F s.desk)
    (hready : (f s).product = s.product) : (r.modify i f).ledger = r.ledger.modify i F := by
  have hsame : r.ledger.ready.set i s.product = r.ledger.ready := by
    apply List.ext_getElem?
    intro j
    rw [List.getElem?_set]
    by_cases hij : i = j
    · subst hij
      have hi : r.ledger.ready[i]? = some s.product := by simp [hs]
      rw [if_pos rfl, if_pos (List.getElem?_eq_some_iff.1 hi).1, hi]
    · rw [if_neg hij]
  rw [ledger_modify_ready hs h, hready, hsame]
  rfl

theorem ledger_modify_self {r : Resolver} {i : Nat} {s : Session} (hs : r.session? i = some s)
    {f : Session → Session} (h : (f s).desk = s.desk) (hready : (f s).product = s.product) :
    (r.modify i f).ledger = r.ledger := by
  rw [ledger_modify (F := id) hs h hready]
  simp [Ledger.modify]

theorem modify_session? (r : Resolver) (i : Nat) (f : Session → Session) (j : Nat) :
    (r.modify i f).session? j = if i = j then (r.session? j).map f else r.session? j := by
  simp only [session?, modify, List.getElem?_modify]
  split <;> simp

theorem session?_modify_self {r : Resolver} {i : Nat} {s : Session} (hs : r.session? i = some s)
    (f : Session → Session) : (r.modify i f).session? i = some (f s) := by
  rw [modify_session?, if_pos rfl, hs]
  rfl

theorem modify_of_none {r : Resolver} {i : Nat} (hs : r.session? i = none)
    (f : Session → Session) : r.modify i f = r := by
  have hsessions : r.sessions.modify i f = r.sessions := by
    apply List.ext_getElem?
    intro j
    rw [List.getElem?_modify]
    by_cases hij : i = j
    · subst hij
      rw [show r.sessions[i]? = none from hs]
      rfl
    · simp [hij]
  rw [modify, hsessions]

theorem ledger_modify_desk (r : Resolver) (i : Nat) {f : Session → Session} {F : Desk → Desk}
    (h : ∀ s, (f s).desk = F s.desk)
    (hready : ∀ s, (f s).product = s.product) :
    (r.modify i f).ledger = r.ledger.modify i F := by
  cases hs : r.session? i with
  | some s => exact ledger_modify hs (h s) (hready s)
  | none =>
    have hlength : r.ledger.desks.length ≤ i := by
      rw [← List.getElem?_eq_none_iff, ledger_desks_getElem?, hs]
      rfl
    rw [modify_of_none hs, Ledger.modify, List.modify_eq_self hlength]

/-! ## Calls -/

theorem stopped_eq_false_of_permit {r : Resolver} {service : String}
    (h : r.permit service = .ok ()) : r.stopped = false := by
  cases hstopped : r.stopped with
  | false => rfl
  | true => simp [permit, hstopped, throw, throwThe, MonadExceptOf.throw, bind, Except.bind] at h

theorem ledger_join {r : Resolver} {i : Nat} {s : Session} (hs : r.session? i = some s)
    (w : WatcherId) :
    (r.join i w).1.ledger =
      r.ledger.modify i fun d => { d with registry := (d.registry.add w).1 } := by
  simp only [join, hs]
  exact ledger_modify hs rfl rfl

theorem join_added {r : Resolver} {i : Nat} {s : Session} (hs : r.session? i = some s)
    (w : WatcherId) : (r.join i w).2 = (s.registry.add w).2 := by
  simp only [join, hs]

theorem join_of_none {r : Resolver} {i : Nat} (hs : r.session? i = none) (w : WatcherId) :
    r.join i w = (r, .already) := by
  simp only [join, hs]

/-- What a call to watch a service does at once: it is refused, joins the session of the service, or
begins one. -/
theorem addWatch_cases (r : Resolver) (service : String) (w : WatcherId) :
    (∃ f, r.permit service = .error f ∧ r.addWatch service w = (r, some (.refused f))) ∨
    r.permit service = .ok () ∧
      ((∃ i, r.watched.find? service = some i ∧
          r.addWatch service w = ((r.join i w).1, some (.ofAdded (r.join i w).2))) ∨
        (r.watched.find? service = none ∧ r.addWatch service w =
          ({ (r.begin service).1 with call? := some (.joining service r.sessions.length w) },
            none))) := by
  cases hpermit : r.permit service with
  | error f => exact Or.inl ⟨f, rfl, by simp only [addWatch, hpermit]⟩
  | ok _ =>
    refine Or.inr ⟨rfl, ?_⟩
    cases hwatched : r.watched.find? service with
    | some i =>
      exact Or.inl ⟨i, rfl, by simp only [addWatch, hpermit, hwatched]⟩
    | none =>
      refine Or.inr ⟨rfl, ?_⟩
      simp only [addWatch, hpermit, hwatched]
      rfl

theorem whenFree_cases (r : Resolver) (call : Resolver → Resolver) :
    r.whenFree call = r ∨ r.call? = none ∧ r.whenFree call = call r := by
  unfold whenFree
  cases r.call? with
  | none => exact Or.inr ⟨rfl, rfl⟩
  | some _ => exact Or.inl rfl

theorem whenFree_of_free {r : Resolver} (h : r.call? = none) (call : Resolver → Resolver) :
    r.whenFree call = call r := by
  simp only [whenFree, h]

theorem whenFree_of_held {r : Resolver} {c : Call} (h : r.call? = some c)
    (call : Resolver → Resolver) : r.whenFree call = r := by
  simp only [whenFree, h]

theorem ledger_join_known {r : Resolver} {service : String} {i : Nat} (hfree : r.call? = none)
    (hopen : r.ledger.stopped = false) (hwatched : r.watched.find? service = some i)
    (w : WatcherId) : Ledger.Step r.ledger [] (r.join i w).1.ledger := by
  cases hs : r.session? i with
  | none =>
    rw [join_of_none hs]
    exact .quiet (by simp)
  | some s =>
    rw [ledger_join hs]
    exact .joined w hfree hopen hwatched

theorem ledger_begin (r : Resolver) (service : String) (w : WatcherId) :
    { (r.begin service).1 with call? := some (.joining service r.sessions.length w) }.ledger =
      r.ledger.begin service w := by
  have hlength : r.sessions.length = r.ledger.desks.length := by simp [ledger]
  have hdesk : (r.newSession service (r.historyOf service)).desk = r.ledger.newDesk service := rfl
  simp only [Ledger.begin, ← hdesk, ← hlength]
  simp only [ledger, begin, List.map_append, List.map_cons, List.map_nil]
  rfl

theorem ledger_addWatch {r : Resolver} (hfree : r.call? = none) (service : String)
    (w : WatcherId) : Ledger.Step r.ledger [] (r.addWatch service w).1.ledger := by
  rcases r.addWatch_cases service w with ⟨f, -, heq⟩ | ⟨hpermit, ⟨i, hwatched, heq⟩ |
    ⟨hwatched, heq⟩⟩
  · rw [heq]
    exact .quiet (by simp)
  · rw [heq]
    exact ledger_join_known hfree (stopped_eq_false_of_permit hpermit) hwatched w
  · rw [heq, ledger_begin]
    exact .begun service w hfree (stopped_eq_false_of_permit hpermit) hwatched

theorem ledger_delWatch_cases (r : Resolver) (service : String) (w : WatcherId) :
    ((∀ i, r.watched.find? service = some i → r.session? i = none) ∧
      r.delWatch service w = r) ∨
    ∃ i d, r.watched.find? service = some i ∧ r.ledger.desks[i]? = some d ∧
      (((d.registry.remove w).1.registrations ≠ [] ∧ (r.delWatch service w).ledger =
          r.ledger.modify i fun d => { d with registry := (d.registry.remove w).1 }) ∨
        ((d.registry.remove w).1.registrations = [] ∧ (r.delWatch service w).ledger =
          r.ledger.empty service i w)) := by
  cases hwatched : r.watched.find? service with
  | none =>
    refine Or.inl ⟨by simp, ?_⟩
    simp only [delWatch, hwatched]
  | some i =>
    cases hs : r.session? i with
    | none =>
      refine Or.inl ⟨by simp [hs], ?_⟩
      simp only [delWatch, hwatched, hs]
    | some s =>
      have hd : r.ledger.desks[i]? = some s.desk := by simp [hs]
      have hmodify := ledger_modify hs
        (f := fun q => { q with registry := (s.registry.remove w).1 })
        (F := fun d => { d with registry := (d.registry.remove w).1 }) rfl rfl
      have hkept : r.delWatch service w = if (s.registry.remove w).2 = 0 then
            { r.modify i fun q => { q with registry := (s.registry.remove w).1 } with
              watched := r.watched.erase service, call? := some (.keeping service i) }
          else r.modify i fun q => { q with registry := (s.registry.remove w).1 } := by
        simp only [delWatch, hwatched, hs]
        rfl
      refine Or.inr ⟨i, s.desk, rfl, hd, ?_⟩
      rw [hkept]
      by_cases hnone : (s.registry.remove w).2 = 0
      · rw [if_pos hnone]
        refine Or.inr ⟨List.length_eq_zero_iff.1 hnone, ?_⟩
        rw [Ledger.empty, ← hmodify]
        rfl
      · rw [if_neg hnone, hmodify]
        refine Or.inl ⟨?_, rfl⟩
        intro hnil
        exact hnone (List.length_eq_zero_iff.2 hnil)

theorem ledger_delWatch {r : Resolver} (hfree : r.call? = none) (service : String)
    (w : WatcherId) : Ledger.Step r.ledger [] (r.delWatch service w).ledger := by
  rcases r.ledger_delWatch_cases service w with
    ⟨-, heq⟩ | ⟨i, d, hwatched, hd, ⟨hleft, heq⟩ | ⟨hleft, heq⟩⟩
  · rw [heq]
    exact .quiet (by simp)
  · rw [heq]
    exact .left w hfree hwatched hd hleft
  · rw [heq]
    exact .emptied w hfree hwatched hd hleft

theorem ledger_cancelAll (r : Resolver) :
    r.cancelAll.ledger = { r.ledger with desks := r.ledger.desks.map Desk.cancel } := by
  simp only [ledger, cancelAll, List.map_map]
  rfl

theorem ledger_stop {r : Resolver} (hfree : r.call? = none) :
    Ledger.Step r.ledger [] r.stop.ledger := by
  unfold stop
  by_cases hstopped : r.stopped = true
  · rw [if_pos hstopped]
    exact .quiet (by simp)
  · rw [if_neg hstopped]
    have hopen : r.ledger.stopped = false := by simpa [ledger] using hstopped
    have hcancelled : { r.cancelAll with
        stopped := true, watched := ∅, call? := Call.closing? r.watched }.ledger =
        r.ledger.stop := by
      have hdesks := congrArg Ledger.desks r.ledger_cancelAll
      have hready := congrArg Ledger.ready r.ledger_cancelAll
      simp only [ledger, Ledger.stop] at hdesks hready ⊢
      rw [hdesks, hready]
      rfl
    rw [hcancelled]
    exact .stopped hfree hopen

theorem ledger_drop {r : Resolver} (hfree : r.call? = none) :
    Ledger.Step r.ledger [] r.drop.ledger := by
  rw [drop, ledger_cancelAll]
  exact .dropped hfree

/-! ## Calls that go on -/

theorem join_free (r : Resolver) (i : Nat) (w : WatcherId) :
    { r with call? := none }.join i w =
      ({ (r.join i w).1 with call? := none }, (r.join i w).2) := by
  cases hs : r.session? i with
  | none =>
    have hfree : { r with call? := none }.session? i = none := hs
    rw [join_of_none hfree, join_of_none hs]
  | some s =>
    have hfree : { r with call? := none }.session? i = some s := hs
    simp only [join, hs, hfree]
    rfl

theorem register_cases (r : Resolver) (service : String) (i : Nat) (w : WatcherId) :
    ((r.join i w).2 = .tooLarge ∧ r.register service i w =
      ({ (r.join i w).1 with call? := none }, some .mailboxTooLarge)) ∨
    ((r.join i w).2 ≠ .tooLarge ∧ r.register service i w =
      ({ (r.join i w).1 with
          watched := (r.join i w).1.watched.insert service i, call? := none }, some .ok)) := by
  simp only [register, join_free]
  generalize r.join i w = joined
  obtain ⟨q, added⟩ := joined
  cases added with
  | tooLarge => exact Or.inl ⟨rfl, rfl⟩
  | already => exact Or.inr ⟨Registry.Added.noConfusion, rfl⟩
  | registered handover => exact Or.inr ⟨Registry.Added.noConfusion, rfl⟩

theorem ledger_join_of_tooLarge {r : Resolver} {i : Nat} {w : WatcherId}
    (hlarge : (r.join i w).2 = .tooLarge) :
    (r.join i w).1.ledger = r.ledger ∧
      ∃ d, r.ledger.desks[i]? = some d ∧ (d.registry.add w).2 = .tooLarge := by
  cases hs : r.session? i with
  | none =>
    rw [join_of_none hs] at hlarge
    exact Registry.Added.noConfusion hlarge
  | some s =>
    rw [join_added hs] at hlarge
    refine ⟨?_, s.desk, by simp [hs], hlarge⟩
    simp only [join, hs]
    refine ledger_modify_self hs ?_ rfl
    rcases s.registry.add_cases w with ⟨heq, -⟩ | ⟨heq, -⟩ | ⟨filled, -, -, -, hnew, -⟩
    · rw [heq]
    · rw [heq]
    · rw [Registry.add_eq_tooLarge_iff hnew] at hlarge
      simp only [Registry.add, hnew]
      simp [hlarge, Session.desk]

theorem ledger_register {r : Resolver} {service : String} {i : Nat} {w : WatcherId}
    (hcall : r.call? = some (.joining service i w)) :
    Ledger.Step r.ledger [] (r.register service i w).1.ledger := by
  rcases r.register_cases service i w with ⟨hlarge, heq⟩ | ⟨hfits, heq⟩
  · obtain ⟨hsame, d, hd, hlarge⟩ := ledger_join_of_tooLarge hlarge
    rw [heq]
    change Ledger.Step r.ledger [] { (r.join i w).1.ledger with call? := none }
    rw [hsame]
    exact .orphaned hcall hd hlarge
  · have hjoined : (r.join i w).1.ledger =
        r.ledger.modify i fun d => { d with registry := (d.registry.add w).1 } := by
      cases hs : r.session? i with
      | some s => exact ledger_join hs w
      | none =>
        have hlength : r.ledger.desks.length ≤ i := by
          rw [← List.getElem?_eq_none_iff, ledger_desks_getElem?, hs]
          rfl
        rw [join_of_none hs, Ledger.modify, List.modify_eq_self hlength]
    have hwatched : (r.join i w).1.watched = r.watched := congrArg Ledger.watched hjoined
    rw [heq]
    change Ledger.Step r.ledger [] { (r.join i w).1.ledger with
      watched := (r.join i w).1.watched.insert service i, call? := none }
    rw [hjoined, hwatched]
    refine .registered hcall ?_
    intro d hd
    rw [ledger_desks_getElem?] at hd
    obtain ⟨s, hs, rfl⟩ := Option.map_eq_some_iff.1 hd
    rw [join_added hs] at hfits
    exact hfits

theorem ledger_keep (r : Resolver) (service : String) (i : Nat) :
    (r.keep service i).ledger = r.ledger.keep service i := by
  have hcurrent : (r.ledger.desks[i]?).bind (·.registry.current?) =
      (r.session? i).bind (·.registry.current?) := by
    rw [ledger_desks_getElem?]
    cases r.session? i <;> rfl
  simp only [Ledger.keep, hcurrent]
  rfl

theorem ledger_cancelOne (r : Resolver) (service : String) (i : Nat) :
    (r.cancelOne service i).ledger = r.ledger.cancelOne service i := by
  have hmodify := r.ledger_modify_desk i (f := Session.cancel) (F := Desk.cancel)
    (fun _ => rfl) (fun _ => rfl)
  rw [Ledger.cancelOne, ← hmodify]
  rfl

theorem ledger_closeOne (r : Resolver) (service : String) (i : Nat) (sessions : Dict Nat) :
    (r.closeOne service i sessions).ledger = r.ledger.closeOne service i sessions := by
  have hmodify := r.ledger_modify_desk i
    (f := fun s => { s with registry := s.registry.close }) (F := Desk.close)
    (fun _ => rfl) (fun _ => rfl)
  rw [Ledger.closeOne, ← hmodify]
  rfl

theorem proceed_cases (r : Resolver) (service : String) :
    r.proceed service = (r, none) ∨
    (∃ i w, r.call? = some (.joining service i w) ∧
      r.proceed service = r.register service i w) ∨
    (∃ i, r.call? = some (.keeping service i) ∧ r.proceed service = (r.keep service i, none)) ∨
    (∃ i, r.call? = some (.cancelling service i) ∧
      r.proceed service = (r.cancelOne service i, none)) ∨
    ∃ i sessions, r.call? = some (.closing sessions) ∧ sessions.find? service = some i ∧
      r.proceed service = (r.closeOne service i sessions, none) := by
  unfold proceed
  split
  · exact .inl rfl
  · next owner i w hcall =>
    split
    · next howner => exact .inr (.inl ⟨i, w, howner ▸ hcall, rfl⟩)
    · exact .inl rfl
  · next owner i hcall =>
    split
    · next howner => exact .inr (.inr (.inl ⟨i, howner ▸ hcall, rfl⟩))
    · exact .inl rfl
  · next owner i hcall =>
    split
    · next howner => exact .inr (.inr (.inr (.inl ⟨i, howner ▸ hcall, rfl⟩)))
    · exact .inl rfl
  · next sessions hcall =>
    split
    · exact .inl rfl
    · next i hfind => exact .inr (.inr (.inr (.inr ⟨i, sessions, hcall, hfind, rfl⟩)))

theorem ledger_proceed (r : Resolver) (service : String) :
    Ledger.Step r.ledger [] (r.proceed service).1.ledger := by
  rcases r.proceed_cases service with heq | ⟨i, w, hcall, heq⟩ | ⟨i, hcall, heq⟩ |
    ⟨i, hcall, heq⟩ | ⟨i, sessions, hcall, hfind, heq⟩
  · rw [heq]
    exact .quiet (by simp)
  · rw [heq]
    exact ledger_register hcall
  · rw [heq, ledger_keep]
    exact .kept hcall
  · rw [heq, ledger_cancelOne]
    exact .cancelled hcall
  · rw [heq, ledger_closeOne]
    exact .closed hcall hfind

/-! ## Tasks -/

theorem ledger_modify_of_eq {r q : Resolver} (h : q.ledger = r.ledger) {i : Nat} {s : Session}
    (hs : q.session? i = some s) {f : Session → Session} (hf : (f s).desk = s.desk)
    (hready : (f s).product = s.product) : (q.modify i f).ledger = r.ledger := by
  rw [ledger_modify_self hs hf hready]
  exact h

theorem eq_of_mem_report {r : Resolver} {service : String} {f : Failure} {n : Notice}
    (h : n ∈ r.report service f) : n = .failed service f := by
  unfold report at h
  split at h
  · exact List.mem_singleton.1 h
  · exact absurd h List.not_mem_nil

theorem report_isEntry (r : Resolver) (service : String) (f : Failure) :
    ∀ n ∈ r.report service f, n.isEntry = false := by
  intro n hn
  rw [eq_of_mem_report hn]
  rfl

theorem ledger_beginBuild {r : Resolver} {i : Nat} {s : Session} (hs : r.session? i = some s)
    (hready : s.product = (s.service, none)) (d : Debouncer) (trigger : Trigger) :
    (r.beginBuild i s d trigger).1.ledger = r.ledger := by
  unfold beginBuild
  exact ledger_modify_of_eq (q := { r with
      source := (r.builder.start r.source r.now s.service s.policy).1
      metrics := r.metrics.count .evaluation }) rfl hs rfl hready.symm

theorem revision_of_outcome? {b : Builder} {build : Builder.Build} {now : Instant} {src : Source}
    {revision : UInt64} {snapshot : Snapshot}
    (h : b.outcome? build now src revision = some (.ok snapshot)) :
    snapshot.revision = revision + 1 := by
  simp only [Builder.outcome?] at h
  obtain ⟨result, -, hresult⟩ := Option.map_eq_some_iff.1 h
  cases result with
  | error fault => simp at hresult
  | ok records =>
    simp only [Except.ok.injEq] at hresult
    rw [← hresult]
    rfl

theorem ledger_finishBuild {r : Resolver} {i : Nat} {s : Session} (hs : r.session? i = some s)
    (snapshot : Snapshot) :
    (r.finishBuild i s snapshot).1.ledger = r.ledger.build i s.desk snapshot := by
  have hmodify := ledger_modify_ready (r := { r.count (.build true) with
      histories := r.histories.insert s.service
        { r.historyOf s.service with revision := snapshot.revision } })
    hs (f := fun q => { q with evaluation := .publishing snapshot }) (F := id) rfl
  refine hmodify.trans ?_
  simp only [Ledger.modify, List.modify_id]
  rfl

theorem ledger_publish {r : Resolver} {i : Nat} {s : Session} (hs : r.session? i = some s)
    (snapshot : Snapshot) :
    (r.publish i s snapshot).1.ledger = r.ledger.publish i s.desk snapshot :=
  ledger_modify_ready (r := { r with
      metrics := (s.registry.notify snapshot).2.countIn r.metrics })
    hs (f := fun q => Session.endEvaluation { q with registry := (s.registry.notify snapshot).1 })
    (F := fun d => { d with registry := (d.registry.notify snapshot).1 }) rfl

theorem ledger_evaluate {r : Resolver} {i : Nat} {s : Session} (hs : r.session? i = some s) :
    Ledger.Work r.ledger (r.evaluate i s).2 (r.evaluate i s).1.ledger := by
  have hd : r.ledger.desks[i]? = some s.desk := by simp [hs]
  have hready : r.ledger.ready[i]? = some s.product := by simp [hs]
  unfold evaluate
  split
  · exact .quiet (by simp)
  · next w heval =>
    have hnone : s.product = (s.service, none) := by
      simp [Session.product, heval, Evaluation.ready?]
    split
    · rw [ledger_modify_self hs ?_ ?_]
      · exact .quiet (by simp)
      · rfl
      · exact hnone.symm
    · split
      · next d trigger _ =>
        rw [ledger_beginBuild hs hnone]
        refine .quiet ?_
        intro n hn
        rw [List.mem_singleton.1 hn]
        rfl
      · rw [ledger_modify_self hs ?_ ?_]
        · exact .quiet (by simp)
        · rfl
        · exact hnone.symm
  · next build heval =>
    have hnone : s.product = (s.service, none) := by
      simp [Session.product, heval, Evaluation.ready?]
    split
    · rw [ledger_modify_self hs ?_ ?_]
      · exact .quiet (by simp)
      · rfl
      · exact hnone.symm
    · next hcancelled =>
      split
      · exact .quiet (by simp)
      · next snapshot hbuilt =>
        rw [ledger_finishBuild hs]
        rw [hnone] at hready
        have hgoing : s.desk.cancelled = false := Bool.eq_false_iff.2 hcancelled
        exact .built snapshot hd hgoing hready (revision_of_outcome? hbuilt)
      · have hcount : ((r.count (.build false)).modify i Session.endEvaluation).ledger =
            r.ledger := ledger_modify_of_eq (q := r.count (.build false)) rfl hs rfl hnone.symm
        rw [hcount]
        exact .quiet (r.report_isEntry _ _)
  · next snapshot heval =>
    have hsome : s.product = (s.service, some snapshot) := by
      simp [Session.product, heval, Evaluation.ready?]
    rw [hsome] at hready
    rw [ledger_publish hs]
    exact .published hd hready

theorem ledger_failSubscription {r q : Resolver} (h : q.ledger = r.ledger) {i : Nat}
    {s : Session} (hs : q.session? i = some s) (reason : String) :
    Ledger.Work r.ledger (q.failSubscription i s reason).2
      (q.failSubscription i s reason).1.ledger := by
  simp only [failSubscription]
  have hcount : (q.count .subscriptionFailure).ledger = r.ledger := h
  rw [ledger_modify_of_eq hcount hs rfl rfl]
  exact .quiet (q.report_isEntry _ _)

theorem ledger_subscribe {r : Resolver} {i : Nat} {s : Session} (hs : r.session? i = some s) :
    Ledger.Work r.ledger (r.subscribe i s).2 (r.subscribe i s).1.ledger := by
  unfold subscribe
  split
  · exact ledger_failSubscription rfl hs _
  · next source id? _ =>
    rw [ledger_modify_of_eq (q := { r with source }) rfl hs rfl rfl]
    exact .quiet (by simp)

theorem ledger_read {r : Resolver} {i : Nat} {s : Session} (hs : r.session? i = some s)
    (id? : Option SubscriptionId) :
    Ledger.Work r.ledger (r.read i s id?).2 (r.read i s id?).1.ledger := by
  unfold read
  split
  · exact .quiet (by simp)
  · exact ledger_failSubscription (q := { r with source := r.source.release id? }) rfl hs _
  · next source _ =>
    have hcount : (({ r with source }.count .signal).modify i fun q =>
        { q with debouncer := q.debouncer.signal r.now }).ledger = r.ledger :=
      ledger_modify_of_eq (q := { r with source }.count .signal) rfl hs rfl rfl
    exact hcount.symm ▸ .quiet (by simp)
  · next source _ =>
    have hcount : (({ r with source }.count .resync).modify i fun q =>
        { q with debouncer := q.debouncer.force .resync }).ledger = r.ledger :=
      ledger_modify_of_eq (q := { r with source }.count .resync) rfl hs rfl rfl
    exact hcount.symm ▸ .quiet (by simp)

theorem ledger_ingest {r : Resolver} {i : Nat} {s : Session} (hs : r.session? i = some s) :
    Ledger.Work r.ledger (r.ingest i s).2 (r.ingest i s).1.ledger := by
  unfold ingest
  split
  · exact .quiet (by simp)
  · split
    · rw [ledger_modify_self hs rfl rfl]
      exact .quiet (by simp)
    · exact ledger_subscribe hs
  · next id? _ =>
    split
    · rw [ledger_modify_of_eq (q := { r with source := r.source.release id? }) rfl hs rfl rfl]
      exact .quiet (by simp)
    · exact ledger_read hs id?
  · split
    · rw [ledger_modify_self hs rfl rfl]
      exact .quiet (by simp)
    · split
      · rw [ledger_modify_self hs rfl rfl]
        exact .quiet (by simp)
      · exact .quiet (by simp)

theorem ledger_resync {r : Resolver} {i : Nat} {s : Session} (hs : r.session? i = some s) :
    Ledger.Work r.ledger (r.resync i s).2 (r.resync i s).1.ledger := by
  unfold resync
  split
  · split
    · rw [ledger_modify_self hs rfl rfl]
      exact .quiet (by simp)
    · split
      · rw [ledger_modify_of_eq (q := r.count .resync) rfl hs rfl rfl]
        exact .quiet (by simp)
      · exact .quiet (by simp)
  · exact .quiet (by simp)

theorem ledger_deliver {r : Resolver} {i : Nat} {s : Session} (hs : r.session? i = some s)
    (t : Nat) : Ledger.Work r.ledger (r.deliver i s t).2 (r.deliver i s t).1.ledger := by
  have hd : r.ledger.desks[i]? = some s.desk := by simp [hs]
  have hstep := Ledger.Work.delivered t hd
  rw [← ledger_modify hs (f := fun q => { q with registry := (s.registry.deliver t).1 }) rfl rfl]
    at hstep
  unfold deliver
  exact hstep

theorem ledger_step (r : Resolver) (t : Task) :
    Ledger.Work r.ledger (r.step t).2 (r.step t).1.ledger := by
  unfold step
  cases hs : r.session? t.session with
  | none => exact .quiet (by simp)
  | some s =>
    cases t with
    | evaluate i => exact ledger_evaluate hs
    | ingest i => exact ledger_ingest hs
    | resync i => exact ledger_resync hs
    | deliver i ticket => exact ledger_deliver hs ticket

/-- Whatever happens to a resolver is one of the steps that its ledger can take. -/
theorem ledger_react (r : Resolver) (e : Event) :
    Ledger.Step r.ledger (r.react e).2 (r.react e).1.ledger := by
  have hcall : ∀ call : Resolver → Resolver,
      (r.call? = none → Ledger.Step r.ledger [] (call r).ledger) →
      Ledger.Step r.ledger [] (r.whenFree call).ledger := by
    intro call hstep
    rcases r.whenFree_cases call with hheld | ⟨hfree, hcalled⟩
    · rw [hheld]
      exact .quiet (by simp)
    · rw [hcalled]
      exact hstep hfree
  cases e with
  | watch service w => exact hcall _ fun hfree => ledger_addWatch hfree service w
  | unwatch service w => exact hcall _ fun hfree => ledger_delWatch hfree service w
  | stop => exact hcall _ ledger_stop
  | drop => exact hcall _ ledger_drop
  | proceed service => exact r.ledger_proceed service
  | change c => exact .quiet (by simp [react])
  | step t => exact (r.ledger_step t).step
  | pass nanos => exact .quiet (by simp [react])

end Resolver

end Lookout
