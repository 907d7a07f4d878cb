import Lookout.Proofs.Resolver.Calls
import Lookout.Proofs.Resolver.Share

/-!
# What other services do

A step of a session changes that session, what is kept of its service, and what the source holds for
its service; a call about a service does no more. So neither shows in the share of another service,
while a call about the service itself does to the share what it does to the resolver.
-/
set_option autoImplicit false

namespace Lookout

/-- What a step of a session of the service `b` does to the source, as others see it. -/
structure Source.Aside (b : String) (src src' : Source) : Prop where
  others : ∀ {a}, b ≠ a → src'.only a = src.only a
  ranks : ∀ {a id}, id ≤ src.owners.length → rank a src'.owners id = rank a src.owners id

namespace Source.Aside

section
variable {b : String} {m : Memory} {id : SubscriptionId} {s : Subscription}

theorem refl (b : String) (src : Source) : Source.Aside b src src := ⟨fun _ => rfl, fun _ => rfl⟩

theorem countList (b : String) (m : Memory) :
    Source.Aside b (.memory m) (.memory (m.countList b)) where
  others hab := congrArg Source.memory (Memory.only_countList_of_ne hab)
  ranks _ := rfl

theorem opened (b : String) (m : Memory) : Source.Aside b (.memory m) (.memory (m.opened b)) where
  others hab := congrArg Source.memory (Memory.only_opened_of_ne hab m)
  ranks := by
    intro a id hid
    refine Memory.rank_opened ?_ a b
    rw [Source.owners, Memory.owners, List.length_map] at hid
    exact hid

theorem modify (h : m.Holds b id s) (f : Subscription → Subscription) :
    Source.Aside b (.memory m) (.memory (m.modify id f)) where
  others hab := congrArg Source.memory (Memory.only_modify_of_ne h hab f)
  ranks _ := by
    simp only [Source.owners]
    rw [Memory.owners_modify]

theorem receive (h : m.Holds b id s) :
    Source.Aside b (.memory m) (.memory (m.receive id).2) where
  others hab := congrArg Source.memory (Memory.receive_only_of_ne h hab)
  ranks _ := by
    simp only [Source.owners]
    rw [Memory.owners_receive]

end

end Source.Aside

/-- Whether a notice is of a session and its service. -/
def Notice.Of (i : Nat) (service : String) : Notice → Prop
  | .triggered j _ => j = i
  | .built j owner _ => j = i ∧ owner = service
  | .published j owner _ _ => j = i ∧ owner = service
  | .failed owner _ => owner = service
  | .delivered j _ owner _ _ => j = i ∧ owner = service

namespace Resolver

section
variable {r : Resolver} {a b : String} {i : Nat} {s : Session} {k : Metrics}

/-! ## Steps of other sessions -/

/-- All that a step of a session can do. -/
inductive Confined (r : Resolver) (i : Nat) (s : Session) : Resolver × List Notice → Prop
  | idle : Confined r i s (r, [])
  | moved {f : Session → Session} {src : Source} {k : Metrics} {h : Dict History}
      {ns : List Notice} (hf : (f s).service = s.service)
      (hsrc : Source.Aside s.service r.source src)
      (hh : ∀ a, s.service ≠ a → h.find? a = r.histories.find? a)
      (hns : ∀ n ∈ ns, n.Of i s.service) :
      Confined r i s ({ r.modify i f with source := src, metrics := k, histories := h }, ns)

theorem report_of (r : Resolver) (i : Nat) (service : String) (f : Failure) :
    ∀ n ∈ r.report service f, n.Of i service := by
  intro n hn
  rw [eq_of_mem_report hn]
  rfl

theorem confined_modify {f : Session → Session} (hf : (f s).service = s.service) (k : Metrics) :
    Confined r i s ({ r.modify i f with metrics := k }, []) :=
  .moved hf (.refl _ _) (fun _ _ => rfl) (by simp)

theorem confined_failSubscription (reason : String) {src : Source}
    (hsrc : Source.Aside s.service r.source src) :
    Confined r i s (failSubscription { r with source := src } i s reason) :=
  .moved (by rfl) hsrc (fun _ _ => rfl) (report_of _ i s.service _)

theorem confined_finishBuild (snapshot : Snapshot) :
    Confined r i s (r.finishBuild i s snapshot) := by
  refine .moved (by rfl) (.refl _ _) ?_ ?_
  · intro a ha
    exact Dict.find?_insert_of_ne _ _ ha.symm
  · intro n hn
    rw [List.mem_singleton.1 hn]
    exact ⟨rfl, rfl⟩

theorem confined_publish (snapshot : Snapshot) : Confined r i s (r.publish i s snapshot) := by
  refine .moved (by rfl) (.refl _ _) (fun _ _ => rfl) ?_
  intro n hn
  rw [List.mem_singleton.1 hn]
  exact ⟨rfl, rfl⟩

theorem confined_beginBuild {m : Memory} (hm : r.source = .memory m) (d : Debouncer)
    (trigger : Trigger) : Confined r i s (r.beginBuild i s d trigger) := by
  rw [beginBuild_eq hm]
  refine .moved (by rfl) ?_ (fun _ _ => rfl) ?_
  · rw [hm]
    exact .countList s.service m
  · intro n hn
    rw [List.mem_singleton.1 hn]
    rfl

theorem confined_evaluate {m : Memory} (hm : r.source = .memory m) :
    Confined r i s (r.evaluate i s) := by
  unfold evaluate
  split
  · exact .idle
  · next w _ =>
    split
    · exact confined_modify (by rfl) r.metrics
    · rcases s.debouncer.poll r.now w with ⟨d, trigger | v⟩
      · exact confined_beginBuild hm d trigger
      · exact confined_modify (by rfl) r.metrics
  · next build _ =>
    split
    · exact confined_modify (by rfl) r.metrics
    · split
      · exact .idle
      · exact confined_finishBuild _
      · exact .moved (by rfl) (.refl _ _) (fun _ _ => rfl) (report_of r i s.service _)
  · exact confined_publish _

theorem confined_heed {src dropped : Source} (hsrc : Source.Aside s.service r.source src)
    (hdropped : Source.Aside s.service r.source dropped) (received : Received) :
    Confined r i s (r.heed i s received src dropped) := by
  cases received with
  | pending => exact .idle
  | closed => exact confined_failSubscription _ hdropped
  | signal signal =>
    cases signal with
    | changed => exact .moved (by rfl) hsrc (fun _ _ => rfl) (by simp)
    | resync => exact .moved (by rfl) hsrc (fun _ _ => rfl) (by simp)

theorem confined_subscribe {m : Memory} (hm : r.source = .memory m) :
    Confined r i s (r.subscribe i s) := by
  cases hfailure : m.subscribeFailure? with
  | some reason =>
    rw [subscribe_of_some hm hfailure]
    exact confined_failSubscription reason (.refl _ _)
  | none =>
    rw [subscribe_of_none hm hfailure]
    refine .moved (by rfl) ?_ (fun _ _ => rfl) (by simp)
    rw [hm]
    exact .opened s.service m

theorem confined_ingest {m : Memory} (h : r.Served m) (hs : r.session? i = some s) :
    Confined r i s (r.ingest i s) := by
  unfold ingest
  split
  · exact .idle
  · split
    · exact confined_modify (by rfl) r.metrics
    · exact confined_subscribe h.source
  · next id? hreading =>
    cases id? with
    | none => exact absurd hreading (h.identified hs)
    | some id =>
      obtain ⟨sub, hsub⟩ := h.holds hs hreading
      split
      · refine .moved (by rfl) ?_ (fun _ _ => rfl) (by simp)
        rw [h.source]
        exact .modify hsub Subscription.drop
      · rw [read_eq h.source]
        refine confined_heed ?_ ?_ _
        · rw [h.source]
          exact .receive hsub
        · rw [h.source]
          exact .modify hsub Subscription.drop
  · split
    · exact confined_modify (by rfl) r.metrics
    · split
      · exact confined_modify (by rfl) r.metrics
      · exact .idle

theorem confined_resync : Confined r i s (r.resync i s) := by
  unfold resync
  split
  · split
    · exact confined_modify (by rfl) r.metrics
    · split
      · exact confined_modify (by rfl) _
      · exact .idle
  · exact .idle

theorem confined_deliver (ticket : Nat) : Confined r i s (r.deliver i s ticket) := by
  refine .moved (by rfl) (.refl _ _) (fun _ _ => rfl) ?_
  intro n hn
  split at hn
  · rw [List.mem_singleton.1 hn]
    exact ⟨rfl, rfl⟩
  · exact absurd hn List.not_mem_nil

theorem confined_step {m : Memory} (h : r.Served m) {t : Task}
    (hs : r.session? t.session = some s) : Confined r t.session s (r.step t) := by
  simp only [step]
  rw [hs]
  cases t with
  | evaluate i => exact confined_evaluate h.source
  | ingest i => exact confined_ingest h hs
  | resync i => exact confined_resync
  | deliver i ticket => exact confined_deliver ticket

theorem Confined.notices {after : Resolver × List Notice} (h : r.Confined i s after) :
    ∀ n ∈ after.2, n.Of i s.service := by
  cases h with
  | idle => simp
  | moved hf hsrc hh hns => exact hns

theorem Confined.owners_eq {after : Resolver × List Notice} (h : r.Confined i s after)
    (hs : r.session? i = some s) : after.1.owners = r.owners := by
  cases h with
  | idle => rfl
  | moved hf hsrc hh hns => exact owners_modify hs hf

/-- A step of a session does not show in the share of another service. -/
theorem Confined.only_of_ne {m : Memory} {after : Resolver × List Notice}
    (h : r.Confined i s after) (hserved : r.Served m) (hs : r.session? i = some s)
    (ha : s.service ≠ a) (k : Metrics) : after.1.only a k = r.only a k := by
  cases h with
  | idle => rfl
  | @moved f src j histories ns hf hsrc hh hns =>
    have hsource : Resolver.only { r with source := src } a k = r.only a k := by
      rw [only_source src ?_ k, hsrc.others ha]
      · rfl
      · intro j p id hp hservice hreading
        obtain ⟨sub, hsub⟩ := hserved.holds hp hreading
        refine hsrc.ranks ?_
        rw [hserved.source, Source.owners, Memory.owners, List.length_map]
        exact Nat.le_of_lt hsub.lt_length
    have hmodify := only_modify_of_ne (r := { r with source := src }) hs ha hf k
    have hhistories : histories.only a id = r.histories.only a id :=
      Dict.only_congr (by rw [hh a ha])
    rw [hsource] at hmodify
    simp only [only] at hmodify ⊢
    rw [hhistories]
    exact hmodify

/-! ## What calls change around the sessions -/

def enlist (r : Resolver) (a : String) (i : Nat) : Resolver :=
  { r with watched := r.watched.insert a i }

def delist (r : Resolver) (a : String) : Resolver := { r with watched := r.watched.erase a }

def note (r : Resolver) (a : String) (history : History) : Resolver :=
  { r with histories := r.histories.insert a history }

def enroll (r : Resolver) (s : Session) : Resolver := { r with sessions := r.sessions ++ [s] }

def hold (r : Resolver) (call? : Option Call) : Resolver := { r with call? }

theorem begin_eq (r : Resolver) (a : String) :
    r.begin a =
      ((r.enroll (r.newSession a (r.historyOf a))).note a (r.historyOf a), r.sessions.length) :=
  rfl

theorem keep_eq (r : Resolver) (a : String) (i : Nat) :
    r.keep a i = (r.note a { r.historyOf a with
      last? := (r.session? i).bind (·.registry.current?) }).hold (some (.cancelling a i)) := rfl

theorem cancelOne_eq (r : Resolver) (a : String) (i : Nat) :
    r.cancelOne a i =
      (r.modify i Session.cancel).hold (Call.closing? ((∅ : Dict Nat).insert a i)) := rfl

theorem closeOne_eq (r : Resolver) (a : String) (i : Nat) (sessions : Dict Nat) :
    r.closeOne a i sessions = (r.modify i fun s => { s with registry := s.registry.close }).hold
      (Call.closing? (sessions.erase a)) := rfl

theorem only_enlist (r : Resolver) (a : String) (i : Nat) (k : Metrics) :
    (r.enlist a i).only a k = (r.only a k).enlist a (rank a r.owners i) :=
  congrArg (fun d : Dict Nat => { r.only a k with watched := d })
    (Dict.only_insert_self r.watched a i (rank a r.owners))

theorem only_enlist_of_ne (hab : b ≠ a) (r : Resolver) (i : Nat) (k : Metrics) :
    (r.enlist b i).only a k = r.only a k :=
  congrArg (fun d : Dict Nat => { r.only a k with watched := d })
    (Dict.only_insert_of_ne i hab.symm)

theorem only_delist (r : Resolver) (a : String) (k : Metrics) :
    (r.delist a).only a k = (r.only a k).delist a :=
  congrArg (fun d : Dict Nat => { r.only a k with watched := d })
    (Dict.only_erase_self r.watched a (rank a r.owners))

theorem only_delist_of_ne (hab : b ≠ a) (r : Resolver) (k : Metrics) :
    (r.delist b).only a k = r.only a k :=
  congrArg (fun d : Dict Nat => { r.only a k with watched := d }) (Dict.only_erase_of_ne hab.symm)

theorem only_note (r : Resolver) (a : String) (history : History) (k : Metrics) :
    (r.note a history).only a k = (r.only a k).note a history :=
  congrArg (fun d : Dict History => { r.only a k with histories := d })
    (Dict.only_insert_self r.histories a history id)

theorem only_note_of_ne (hab : b ≠ a) (r : Resolver) (history : History) (k : Metrics) :
    (r.note b history).only a k = r.only a k :=
  congrArg (fun d : Dict History => { r.only a k with histories := d })
    (Dict.only_insert_of_ne history hab.symm)

theorem only_hold (r : Resolver) (call? : Option Call) (a : String) (k : Metrics) :
    (r.hold call?).only a k =
      (r.only a k).hold (call?.bind (Call.only? a (rank a r.owners))) := rfl

theorem only_hold_same {call? : Option Call}
    (hsame : call?.bind (Call.only? a (rank a r.owners)) =
      r.call?.bind (Call.only? a (rank a r.owners))) (k : Metrics) :
    (r.hold call?).only a k = r.only a k := by
  rw [only_hold, hsame]
  rfl

theorem only_hold_aside {call? : Option Call}
    (hbefore : ∀ f, r.call?.bind (Call.only? a f) = none)
    (hafter : ∀ f, call?.bind (Call.only? a f) = none) (k : Metrics) :
    (r.hold call?).only a k = r.only a k :=
  only_hold_same ((hafter _).trans (hbefore _).symm) k

/-! ## What is left to be closed -/

section
variable {f : Nat → Nat} {d : Dict Nat}

theorem closing?_empty : Call.closing? ∅ = none := rfl

theorem closing?_of_find? (h : d.find? a = some i) : Call.closing? d = some (.closing d) := by
  unfold Call.closing?
  rw [if_neg]
  intro hempty
  simp [Dict.find?, List.isEmpty_iff.1 hempty] at h

theorem only_of_find?_none (h : d.find? a = none) : d.only a f = ∅ := by
  unfold Dict.only
  rw [h]

theorem closing?_only (d : Dict Nat) (a : String) (f : Nat → Nat) :
    (Call.closing? d).bind (Call.only? a f) = Call.closing? (d.only a f) := by
  cases hfind : d.find? a with
  | some i =>
    rw [closing?_of_find? hfind]
    rfl
  | none =>
    rw [only_of_find?_none hfind]
    rw [closing?_empty, Call.closing?]
    split
    · rfl
    · rw [Option.bind_some, Call.only?, only_of_find?_none hfind, closing?_empty]

theorem closing?_one (a : String) (i : Nat) (f : Nat → Nat) :
    (Call.closing? ((∅ : Dict Nat).insert a i)).bind (Call.only? a f) =
      Call.closing? ((∅ : Dict Nat).insert a (f i)) := by
  rw [closing?_only, Dict.only_insert_self]
  rfl

theorem closing?_one_of_ne (hab : b ≠ a) (i : Nat) (f : Nat → Nat) :
    (Call.closing? ((∅ : Dict Nat).insert b i)).bind (Call.only? a f) = none := by
  rw [closing?_only, Dict.only_insert_of_ne _ hab.symm]
  rfl

end

/-! ## Sessions that calls are about -/

theorem session_of_desk {d : Desk} (hd : r.ledger.desks[i]? = some d) (hservice : d.service = b) :
    ∃ s, r.session? i = some s ∧ s.service = b := by
  rw [ledger_desks_getElem?] at hd
  obtain ⟨s, hs, rfl⟩ := Option.map_eq_some_iff.1 hd
  exact ⟨s, hs, hservice⟩

theorem session_of_watched (h : r.ledger.Orderly) (hwatched : r.watched.find? b = some i) :
    ∃ s, r.session? i = some s ∧ s.service = b := by
  obtain ⟨d, hd, hservice⟩ := h.watched b i hwatched
  exact session_of_desk hd hservice

theorem session_of_vacant (h : r.ledger.Vacant b i) :
    ∃ s, r.session? i = some s ∧ s.service = b := by
  obtain ⟨d, hd, hservice, -⟩ := h.desk
  exact session_of_desk hd hservice

theorem session_of_joining (h : r.ledger.Orderly) {w : WatcherId}
    (hcall : r.call? = some (.joining b i w)) : ∃ s, r.session? i = some s ∧ s.service = b :=
  session_of_vacant (h.call _ hcall)

theorem session_of_keeping (h : r.ledger.Orderly) (hcall : r.call? = some (.keeping b i)) :
    ∃ s, r.session? i = some s ∧ s.service = b :=
  session_of_vacant (h.call _ hcall).1

theorem session_of_cancelling (h : r.ledger.Orderly) (hcall : r.call? = some (.cancelling b i)) :
    ∃ s, r.session? i = some s ∧ s.service = b :=
  session_of_vacant (h.call _ hcall).1

theorem session_of_closing (h : r.ledger.Orderly) {sessions : Dict Nat}
    (hcall : r.call? = some (.closing sessions)) (hfind : sessions.find? b = some i) :
    ∃ s, r.session? i = some s ∧ s.service = b := by
  obtain ⟨d, hd, hservice, -⟩ := (h.call _ hcall b i hfind).desk
  exact session_of_desk hd hservice

/-! ## Whose sessions there are -/

theorem owners_addWatch (r : Resolver) (b : String) (w : WatcherId) :
    (r.addWatch b w).1.owners = r.owners ∨ (r.addWatch b w).1.owners = r.owners ++ [b] :=
  map_sessions_addWatch aspect_service r b w

theorem owners_join (r : Resolver) (i : Nat) (w : WatcherId) :
    (r.join i w).1.owners = r.owners := map_sessions_join aspect_service r i w

theorem owners_delWatch (r : Resolver) (b : String) (w : WatcherId) :
    (r.delWatch b w).owners = r.owners := map_sessions_delWatch aspect_service r b w

theorem owners_proceed (r : Resolver) (b : String) : (r.proceed b).1.owners = r.owners := by
  obtain ⟨hit, hall⟩ := map_sessions_proceed aspect_service r b
  rw [halted_id] at hall
  exact hall

theorem owners_cancelAll (r : Resolver) : r.cancelAll.owners = r.owners := by
  have hall := map_sessions_cancelAll aspect_service r
  rw [halted_id] at hall
  exact hall

theorem owners_stop (r : Resolver) : r.stop.owners = r.owners := by
  obtain ⟨hit, hall⟩ := map_sessions_stop aspect_service r
  rw [halted_id] at hall
  exact hall

theorem lt_length_of_session? (hs : r.session? i = some s) : i < r.owners.length := by
  have hlt := (List.getElem?_eq_some_iff.1 hs).1
  rw [owners, List.length_map]
  exact hlt

theorem owners_enroll (r : Resolver) (s : Session) :
    (r.enroll s).owners = r.owners ++ [s.service] := by
  simp [owners, enroll]

theorem watched_only_append (h : r.ledger.Orderly) (a : String) (more : List String) :
    r.watched.only a (rank a (r.owners ++ more)) = r.watched.only a (rank a r.owners) := by
  refine Dict.only_congr ?_
  cases hwatched : r.watched.find? a with
  | none => rfl
  | some i =>
    obtain ⟨s, hs, -⟩ := session_of_watched h hwatched
    rw [Option.map_some, Option.map_some, rank_append (Nat.le_of_lt (lt_length_of_session? hs))]

/-- Only a resolver that is free begins a session. -/
theorem only_enroll (h : r.ledger.Orderly) (hfree : r.call? = none) (s : Session) (k : Metrics) :
    (r.enroll s).only s.service k =
      (r.only s.service k).enroll (s.renumber (rank s.service r.source.owners)) := by
  have hnew : share Session.service s.service [s] = [s] := share_cons_self rfl
  have howners := r.owners_enroll s
  simp only [only]
  rw [howners]
  simp only [enroll]
  rw [watched_only_append h, share_append, hnew, List.map_append, hfree]
  rfl

theorem only_enroll_of_ne (h : r.ledger.Orderly) (hfree : r.call? = none) (hab : s.service ≠ a)
    (k : Metrics) : (r.enroll s).only a k = r.only a k := by
  have hnew : share Session.service a [s] = [] := share_cons_of_ne hab
  have howners := r.owners_enroll s
  simp only [only]
  rw [howners]
  simp only [enroll]
  rw [watched_only_append h, share_append, hnew, List.append_nil, hfree]
  rfl

/-! ## Calls about other services -/

theorem only_join_of_ne (hs : r.session? i = some s) (ha : s.service ≠ a) (w : WatcherId)
    (k : Metrics) : (r.join i w).1.only a k = r.only a k := by
  have hmodify := only_modify_of_ne (f := fun q => { q with registry := (s.registry.add w).1 })
    hs ha rfl k
  simp only [join]
  rw [hs]
  exact hmodify

theorem only_addWatch_of_ne (h : r.ledger.Orderly) (hfree : r.call? = none) (hab : b ≠ a)
    (w : WatcherId) (k : Metrics) : (r.addWatch b w).1.only a k = r.only a k := by
  rcases r.addWatch_cases b w with ⟨f, -, heq⟩ | ⟨-, ⟨i, hwatched, heq⟩ | ⟨-, heq⟩⟩
  · rw [heq]
  · obtain ⟨s, hs, rfl⟩ := session_of_watched h hwatched
    rw [heq]
    exact only_join_of_ne hs hab w k
  · have hbegin : (r.begin b).1.only a k = r.only a k := by
      rw [begin_eq, only_note_of_ne hab, only_enroll_of_ne h hfree hab]
    have hidle : (r.begin b).1.call? = none := hfree
    have hafter : ∀ f, (some (Call.joining b r.sessions.length w)).bind (Call.only? a f) = none :=
      fun f => if_neg hab
    rw [heq]
    exact (only_hold_aside (fun f => by rw [hidle]; rfl) hafter k).trans hbegin

theorem only_delWatch_of_ne (h : r.ledger.Orderly) (hfree : r.call? = none) (hab : b ≠ a)
    (w : WatcherId) (k : Metrics) : (r.delWatch b w).only a k = r.only a k := by
  cases hwatched : r.watched.find? b with
  | none =>
    simp only [delWatch]
    rw [hwatched]
  | some i =>
    obtain ⟨s, hs, rfl⟩ := session_of_watched h hwatched
    have hmodify := only_modify_of_ne
      (f := fun q => { q with registry := (s.registry.remove w).1 }) hs hab rfl k
    simp only [delWatch]
    rw [hwatched]
    dsimp only
    rw [hs]
    dsimp only
    split
    · have hafter : ∀ f, (some (Call.keeping s.service i)).bind (Call.only? a f) = none :=
        fun f => if_neg hab
      refine (only_hold_aside (r := delist _ _) ?_ hafter k).trans
        ((only_delist_of_ne hab _ k).trans hmodify)
      intro f
      change r.call?.bind _ = none
      rw [hfree]
      rfl
    · exact hmodify

theorem only_proceed_of_ne (h : r.ledger.Orderly) (hab : b ≠ a) (k : Metrics) :
    (r.proceed b).1.only a k = r.only a k := by
  rcases r.proceed_cases b with heq | ⟨i, w, hcall, heq⟩ | ⟨i, hcall, heq⟩ | ⟨i, hcall, heq⟩ |
    ⟨i, sessions, hcall, hfind, heq⟩
  · rw [heq]
  · obtain ⟨s, hs, rfl⟩ := session_of_joining h hcall
    have hjoin := only_join_of_ne hs hab w k
    have hbefore : ∀ f, (r.join i w).1.call?.bind (Call.only? a f) = none := by
      intro f
      rw [call?_join, hcall]
      exact if_neg hab
    rw [heq]
    rcases r.register_cases s.service i w with ⟨-, hregister⟩ | ⟨-, hregister⟩
    · rw [hregister]
      exact (only_hold_aside hbefore (fun _ => rfl) k).trans hjoin
    · rw [hregister]
      exact (only_hold_aside (r := (r.join i w).1.enlist s.service i) hbefore
        (fun _ => rfl) k).trans ((only_enlist_of_ne hab _ i k).trans hjoin)
  · have hbefore : ∀ f, r.call?.bind (Call.only? a f) = none := by
      intro f
      rw [hcall]
      exact if_neg hab
    have hafter : ∀ f, (some (Call.cancelling b i)).bind (Call.only? a f) = none :=
      fun f => if_neg hab
    rw [heq, keep_eq]
    exact (only_hold_aside (r := r.note b _) hbefore hafter k).trans (only_note_of_ne hab r _ k)
  · obtain ⟨s, hs, rfl⟩ := session_of_cancelling h hcall
    have hbefore : ∀ f, r.call?.bind (Call.only? a f) = none := by
      intro f
      rw [hcall]
      exact if_neg hab
    rw [heq, cancelOne_eq]
    exact (only_hold_aside (r := r.modify i Session.cancel) hbefore (closing?_one_of_ne hab i)
      k).trans (only_modify_of_ne hs hab rfl k)
  · obtain ⟨s, hs, rfl⟩ := session_of_closing h hcall hfind
    rw [heq, closeOne_eq]
    refine (only_hold_same (r := r.modify i _) ?_ k).trans (only_modify_of_ne hs hab rfl k)
    change _ = r.call?.bind _
    rw [closing?_only, Dict.only_erase_of_ne hab.symm, hcall]
    rfl

/-! ## Calls about the service -/

theorem only_begin (h : r.ledger.Orderly) (hfree : r.call? = none) (a : String) (k : Metrics) :
    (r.begin a).1.only a k = ((r.only a k).begin a).1 := by
  have henroll := only_enroll h hfree (r.newSession a (r.historyOf a)) k
  rw [begin_eq, begin_eq, only_note, historyOf_only]
  exact congrArg (note · a (r.historyOf a)) henroll

theorem rank_begin (r : Resolver) (a : String) (k : Metrics) :
    rank a (r.begin a).1.owners r.sessions.length = (r.only a k).sessions.length := by
  have howners : (r.begin a).1.owners = r.owners ++ [a] :=
    r.owners_enroll (r.newSession a (r.historyOf a))
  rw [howners, rank_append (by simp [owners])]
  simp only [only, List.length_map]
  exact rank_length _

theorem only_join (hs : r.session? i = some s) (w : WatcherId) (k : Metrics) :
    ∃ k', (r.only s.service k).join (rank s.service r.owners i) w =
      ((r.join i w).1.only s.service k', (r.join i w).2) := by
  have hfound := session?_only hs rfl k
  have hmodify := only_modify (f := fun q => { q with registry := (s.registry.add w).1 })
    (g := fun q => { q with registry := (s.registry.add w).1 }) hs rfl rfl
    ((s.registry.add w).2.report.countIn k)
  refine ⟨(s.registry.add w).2.report.countIn k, ?_⟩
  simp only [join]
  rw [hs, hfound]
  exact Prod.ext hmodify.symm rfl

theorem only_watched (hwatched : r.watched.find? a = some i) (k : Metrics) :
    (r.only a k).watched.find? a = some (rank a r.owners i) := by
  simp only [only]
  rw [Dict.find?_only_self, hwatched]
  rfl

theorem only_watched_none (hwatched : r.watched.find? a = none) (k : Metrics) :
    (r.only a k).watched.find? a = none := by
  simp only [only]
  rw [Dict.find?_only_self, hwatched]
  rfl

theorem only_call {c : Call} (hcall : r.call? = some c) (k : Metrics) :
    (r.only a k).call? = c.only? a (rank a r.owners) := by
  change r.call?.bind _ = _
  rw [hcall]
  rfl

theorem only_free (hfree : r.call? = none) (k : Metrics) : (r.only a k).call? = none := by
  change r.call?.bind _ = none
  rw [hfree]
  rfl

theorem only_addWatch (h : r.ledger.Orderly) (hfree : r.call? = none) (a : String)
    (w : WatcherId) (k : Metrics) :
    ∃ k', (r.only a k).addWatch a w = ((r.addWatch a w).1.only a k', (r.addWatch a w).2) := by
  have hpermit : (r.only a k).permit a = r.permit a := rfl
  simp only [addWatch]
  rw [hpermit]
  cases r.permit a with
  | error f => exact ⟨k, rfl⟩
  | ok _ =>
    cases hwatched : r.watched.find? a with
    | some i =>
      obtain ⟨s, hs, rfl⟩ := session_of_watched h hwatched
      obtain ⟨k', hjoin⟩ := only_join hs w k
      rw [only_watched hwatched]
      dsimp only
      rw [hjoin]
      exact ⟨k', rfl⟩
    | none =>
      have hbegin := only_begin h hfree a k
      have hhold := only_hold (r.begin a).1 (some (.joining a r.sessions.length w)) a k
      rw [Option.bind_some, Call.only?, if_pos rfl, rank_begin r a k, hbegin] at hhold
      rw [only_watched_none hwatched]
      exact ⟨k, Prod.ext hhold.symm rfl⟩

theorem only_delWatch (h : r.ledger.Orderly) (a : String) (w : WatcherId) (k : Metrics) :
    (r.delWatch a w).only a k = (r.only a k).delWatch a w := by
  cases hwatched : r.watched.find? a with
  | none =>
    simp only [delWatch]
    rw [hwatched, only_watched_none hwatched]
  | some i =>
    obtain ⟨s, hs, rfl⟩ := session_of_watched h hwatched
    have hmodify := only_modify (f := fun q => { q with registry := (s.registry.remove w).1 })
      (g := fun q => { q with registry := (s.registry.remove w).1 }) hs rfl rfl k
    have howners : ((r.modify i fun q =>
        { q with registry := (s.registry.remove w).1 }).delist s.service).owners = r.owners :=
      owners_modify hs rfl
    have hhold := only_hold ((r.modify i fun q =>
        { q with registry := (s.registry.remove w).1 }).delist s.service)
      (some (.keeping s.service i)) s.service k
    rw [only_delist, hmodify, howners, Option.bind_some, Call.only?, if_pos rfl] at hhold
    simp only [delWatch]
    rw [hwatched, only_watched hwatched]
    dsimp only
    rw [hs, session?_only hs rfl k]
    dsimp only
    rw [Session.renumber_registry]
    split
    · exact hhold
    · exact hmodify

/-! ### Calls that go on -/

theorem only_register (hs : r.session? i = some s) (w : WatcherId) (k : Metrics) :
    ∃ k', (r.only s.service k).register s.service (rank s.service r.owners i) w =
      ((r.register s.service i w).1.only s.service k', (r.register s.service i w).2) := by
  obtain ⟨k', hjoin⟩ := only_join hs w k
  have henlist := only_enlist (r.join i w).1 s.service i k'
  rw [owners_join] at henlist
  refine ⟨k', ?_⟩
  have hadded := congrArg Prod.snd hjoin
  have hjoined := congrArg Prod.fst hjoin
  rcases r.register_cases s.service i w with ⟨hlarge, heq⟩ | ⟨hroom, heq⟩
  · rcases (r.only s.service k).register_cases s.service (rank s.service r.owners i) w with
      ⟨-, hsole⟩ | ⟨hsole, -⟩
    · rw [heq, hsole, hjoined]
      rfl
    · exact absurd (hadded.trans hlarge) hsole
  · rcases (r.only s.service k).register_cases s.service (rank s.service r.owners i) w with
      ⟨hsole, -⟩ | ⟨-, hsole⟩
    · exact absurd (hadded.symm.trans hsole) hroom
    · rw [heq, hsole, hjoined]
      exact Prod.ext (congrArg (hold · none) henlist).symm rfl

theorem only_keep (hs : r.session? i = some s) (k : Metrics) :
    (r.keep s.service i).only s.service k =
      (r.only s.service k).keep s.service (rank s.service r.owners i) := by
  have hcall : (some (Call.cancelling s.service i)).bind
      (Call.only? s.service (rank s.service r.owners)) =
        some (.cancelling s.service (rank s.service r.owners i)) := if_pos rfl
  rw [keep_eq, keep_eq, only_hold, only_note, historyOf_only, session?_only hs rfl, hs]
  exact congrArg (hold _) hcall

theorem only_cancelOne (hs : r.session? i = some s) (k : Metrics) :
    (r.cancelOne s.service i).only s.service k =
      (r.only s.service k).cancelOne s.service (rank s.service r.owners i) := by
  have hmodify := only_modify (f := Session.cancel) (g := Session.cancel) hs rfl rfl k
  have howners := owners_modify (f := Session.cancel) hs rfl
  rw [cancelOne_eq, cancelOne_eq, only_hold, closing?_one, hmodify, howners]

theorem only_closeOne (hs : r.session? i = some s) (sessions : Dict Nat) (k : Metrics) :
    (r.closeOne s.service i sessions).only s.service k =
      (r.only s.service k).closeOne s.service (rank s.service r.owners i)
        (sessions.only s.service (rank s.service r.owners)) := by
  have hmodify := only_modify (f := fun q => { q with registry := q.registry.close })
    (g := fun q => { q with registry := q.registry.close }) hs rfl rfl k
  have howners := owners_modify (f := fun q => { q with registry := q.registry.close }) hs rfl
  rw [closeOne_eq, closeOne_eq, only_hold, closing?_only, hmodify, howners,
    Dict.only_erase_self]

theorem proceed_of_free (hfree : r.call? = none) (b : String) : r.proceed b = (r, none) := by
  simp only [proceed, hfree]

theorem only_proceed (h : r.ledger.Orderly) (a : String) (k : Metrics) :
    ∃ k', (r.only a k).proceed a = ((r.proceed a).1.only a k', (r.proceed a).2) := by
  cases hcall : r.call? with
  | none =>
    rw [proceed_of_free hcall, proceed_of_free (only_free hcall k)]
    exact ⟨k, rfl⟩
  | some c =>
    have hsole := only_call (a := a) hcall k
    cases c with
    | joining owner i w =>
      obtain ⟨s, hs, rfl⟩ := session_of_joining h hcall
      by_cases howner : s.service = a
      · subst howner
        rw [Call.only?, if_pos rfl] at hsole
        simp only [proceed, hcall, hsole, if_true]
        exact only_register hs w k
      · rw [Call.only?, if_neg howner] at hsole
        rw [proceed_of_free hsole]
        simp only [proceed, hcall, if_neg howner]
        exact ⟨k, rfl⟩
    | keeping owner i =>
      obtain ⟨s, hs, rfl⟩ := session_of_keeping h hcall
      by_cases howner : s.service = a
      · subst howner
        rw [Call.only?, if_pos rfl] at hsole
        simp only [proceed, hcall, hsole, if_true]
        exact ⟨k, Prod.ext (only_keep hs k).symm rfl⟩
      · rw [Call.only?, if_neg howner] at hsole
        rw [proceed_of_free hsole]
        simp only [proceed, hcall, if_neg howner]
        exact ⟨k, rfl⟩
    | cancelling owner i =>
      obtain ⟨s, hs, rfl⟩ := session_of_cancelling h hcall
      by_cases howner : s.service = a
      · subst howner
        rw [Call.only?, if_pos rfl] at hsole
        simp only [proceed, hcall, hsole, if_true]
        exact ⟨k, Prod.ext (only_cancelOne hs k).symm rfl⟩
      · rw [Call.only?, if_neg howner] at hsole
        rw [proceed_of_free hsole]
        simp only [proceed, hcall, if_neg howner]
        exact ⟨k, rfl⟩
    | closing sessions =>
      rw [Call.only?] at hsole
      cases hfind : sessions.find? a with
      | none =>
        rw [only_of_find?_none hfind, closing?_empty] at hsole
        rw [proceed_of_free hsole]
        simp only [proceed, hcall, hfind]
        exact ⟨k, rfl⟩
      | some i =>
        obtain ⟨s, hs, rfl⟩ := session_of_closing h hcall hfind
        have hkept : (sessions.only s.service (rank s.service r.owners)).find? s.service =
            some (rank s.service r.owners i) := by
          rw [Dict.find?_only_self, hfind]
          rfl
        rw [closing?_of_find? hkept] at hsole
        simp only [proceed, hcall, hfind, hsole, hkept]
        exact ⟨k, Prod.ext (only_closeOne hs sessions k).symm rfl⟩

/-! ## Calls about all services -/

theorem only_cancelAll (r : Resolver) (a : String) (k : Metrics) :
    r.cancelAll.only a k = (r.only a k).cancelAll := by
  have hshare := share_map (o := Session.service) (a := a) (f := Session.cancel) (fun _ => rfl)
    r.sessions
  have howners := r.owners_cancelAll
  simp only [only]
  rw [howners]
  simp only [cancelAll]
  rw [hshare, List.map_map, List.map_map]
  rfl

theorem only_stop (r : Resolver) (a : String) (k : Metrics) :
    r.stop.only a k = (r.only a k).stop := by
  by_cases hstopped : r.stopped = true
  · have hstopped' : (r.only a k).stopped = true := hstopped
    unfold stop
    rw [if_pos hstopped, if_pos hstopped']
  · have hstopped' : ¬(r.only a k).stopped = true := hstopped
    have hcancelled := congrArg (fun q : Resolver => { q with stopped := true, watched := ∅ })
      (only_cancelAll r a k)
    have hclosing := closing?_only r.watched a (rank a r.cancelAll.owners)
    have hhold := only_hold { r.cancelAll with stopped := true, watched := ∅ }
      (Call.closing? r.watched) a k
    rw [show Resolver.owners { r.cancelAll with stopped := true, watched := ∅ } =
      r.cancelAll.owners from rfl, hclosing, owners_cancelAll] at hhold
    unfold stop
    rw [if_neg hstopped, if_neg hstopped']
    exact hhold.trans (congrArg (hold · (Call.closing? (r.only a k).watched)) hcancelled)

/-! ## Calls to the source -/

theorem only_changeSource_of_ne {m : Memory} (hm : r.source = .memory m) {c : Memory.Change}
    (hc : c.about? = some b) (hab : b ≠ a) (k : Metrics) :
    (r.changeSource c).only a k = r.only a k := by
  have happly : r.source.apply c = .memory (m.apply c) := by
    rw [hm]
    rfl
  have hsource := only_source_of_owners (r := r) (a := a) (.memory (m.apply c))
    (by rw [hm]; exact m.owners_apply c) k
  have hshare : Source.only (.memory (m.apply c)) a = r.source.only a := by
    rw [hm]
    exact congrArg Source.memory (Memory.only_apply_of_ne hc hab m)
  rw [hshare] at hsource
  simp only [changeSource]
  rw [happly]
  exact hsource

theorem only_changeSource {m : Memory} (hm : r.source = .memory m) {c : Memory.Change}
    (hc : ∀ b, c.about? = some b → b = a) (k : Metrics) :
    (r.changeSource c).only a k = (r.only a k).changeSource c := by
  have happly : r.source.apply c = .memory (m.apply c) := by
    rw [hm]
    rfl
  have hsource := only_source_of_owners (r := r) (a := a) (.memory (m.apply c))
    (by rw [hm]; exact m.owners_apply c) k
  have hshare : Source.only (.memory (m.apply c)) a = .memory ((m.only a).apply c) :=
    congrArg Source.memory (Memory.only_apply hc m)
  rw [hshare] at hsource
  simp only [changeSource]
  rw [happly, source_only hm]
  exact hsource

end

end Resolver

end Lookout
