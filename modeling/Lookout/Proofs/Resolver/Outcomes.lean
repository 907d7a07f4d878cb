import Lookout.Proofs.Backoff
import Lookout.Proofs.Resolver.Contact
import Lookout.Proofs.Source.Memory

/-!
# Courses of outcomes

A try to read signals has an outcome: it is refused, or a subscription is established and closed
after some signals. Whatever the outcomes of the tries of a session, in whatever order, there is a
run of a resolver with a registry in memory in which they come about. So what holds of every run
holds whatever becomes of the subscriptions.
-/
set_option autoImplicit false

namespace Lookout

namespace Resolver

inductive Outcome where
  | refused (reason : String)
  | closed (signals : List Signal)

namespace Outcome

def turnouts : Outcome → List Turnout
  | .refused reason => [.refused reason]
  | .closed _ => [.established, .closed]

/-- Waits as long as the reader can wait at most, and lets it go on. -/
def wait (b : Backoff) : List Event := [.pass b.ceiling.nanos, .step (.ingest 0)]

def signalling (service : String) (signals : List Signal) : List Event :=
  signals.flatMap fun x => [.change (.publish service x), .step (.ingest 0)]

/-- Events that bring the outcome about for the first session, which is that of the service. -/
def script (b : Backoff) (service : String) : Outcome → List Event
  | .refused reason => [.change (.failSubscribes (some reason)), .step (.ingest 0)] ++ wait b
  | .closed signals =>
    [.change (.failSubscribes none), .step (.ingest 0)] ++ (signalling service signals ++
      ([.change (.closeSubscriptions service), .step (.ingest 0)] ++ wait b))

end Outcome

def turnouts (r : Resolver) (events : List Event) : List Turnout :=
  (Episode.ofSession 0 (r.episodes events)).map Episode.turnout

theorem turnouts_append (r : Resolver) (front back : List Event) :
    r.turnouts (front ++ back) = r.turnouts front ++ (r.run front).1.turnouts back := by
  induction front generalizing r with
  | nil => rfl
  | cons e rest ih =>
    have hrest := ih (r.react e).1
    simp only [turnouts, Episode.ofSession, List.cons_append, episodes, List.filter_append,
      List.map_append, List.append_assoc] at hrest ⊢
    rw [hrest]
    rfl

section
variable {r : Resolver} {s : Session}

theorem turnouts_ingest (hs : r.session? 0 = some s) :
    r.turnouts [.step (.ingest 0)] = (s.turnout? r.source).toList := by
  have hepisodes : r.episodes [.step (.ingest 0)] = (r.episode? (.step (.ingest 0))).toList :=
    List.append_nil _
  rw [turnouts, hepisodes, episode?_ingest hs]
  cases s.turnout? r.source <;> rfl

theorem run_ingest (hs : r.session? 0 = some s) :
    (r.run [.step (.ingest 0)]).1 = (r.ingest 0 s).1 := by
  rw [run_cons, react, step_ingest hs]
  rfl

end

/-- From wherever the one holds, the events lead to where the other holds, with these turnouts. -/
def Brings (events : List Event) (ts : List Turnout) (before after : Resolver → Prop) : Prop :=
  ∀ r, before r → r.turnouts events = ts ∧ after (r.run events).1

section
variable {front back : List Event} {ts us : List Turnout} {P Q R : Resolver → Prop}

theorem brings_nil : Brings [] [] P P := fun _ h => ⟨rfl, h⟩

theorem Brings.append (hfront : Brings front ts P Q) (hback : Brings back us Q R) :
    Brings (front ++ back) (ts ++ us) P R := by
  intro r h
  obtain ⟨hts, hmiddle⟩ := hfront r h
  obtain ⟨hus, hafter⟩ := hback _ hmiddle
  rw [turnouts_append, run_append, hts, hus]
  exact ⟨rfl, hafter⟩

end

/-- The first session is that of the service and goes on, and its reader has come so far with a
registry of some kind. -/
structure Stage (b : Backoff) (service : String) (g : Ingestion) (C : Memory → Prop)
    (r : Resolver) : Prop where
  backoff : r.backoff = b
  source : ∃ m, r.source = .memory m ∧ C m
  session : ∃ s, r.session? 0 = some s ∧ s.service = service ∧ s.cancelled = false ∧
    s.ingestion = g

section
variable {b : Backoff} {service : String} {g : Ingestion} {C D : Memory → Prop}

theorem brings_change (c : Memory.Change) (h : ∀ m, C m → D (m.apply c)) :
    Brings [.change c] [] (Stage b service g C) (Stage b service g D) := by
  rintro r ⟨hbackoff, ⟨m, hsource, hm⟩, hsession⟩
  refine ⟨rfl, hbackoff, ⟨m.apply c, ?_, h m hm⟩, hsession⟩
  simp [react, changeSource, hsource, Source.apply]

/-- A subscription is lost, and the reader waits no longer than can be waited at most. -/
def Losing (b : Backoff) (service : String) (r : Resolver) : Prop :=
  ∃ t, t ≤ r.now + b.ceiling.nanos ∧ Stage b service (.backingOff t) (fun _ => True) r

theorem losing_failSubscription {q : Resolver} {s : Session} {m : Memory}
    (hs : q.session? 0 = some s) (hbackoff : q.backoff = b) (hsource : q.source = .memory m)
    (hgoing : s.cancelled = false) (reason : String) :
    Losing b s.service (q.failSubscription 0 s reason).1 := by
  refine ⟨q.now + (q.backoff.delay s.attempt).nanos, ?_, ?_⟩
  · rw [hbackoff]
    exact Nat.add_le_add_left (b.delay_le _) _
  · exact ⟨hbackoff, ⟨m, hsource, trivial⟩, _,
      session?_modify_self (r := q.count .subscriptionFailure) hs _, rfl, hgoing, rfl⟩

theorem brings_refusal (reason : String) :
    Brings [.step (.ingest 0)] [.refused reason]
      (Stage b service .subscribing fun m => m.subscribeFailure? = some reason)
      (Losing b service) := by
  rintro r ⟨hbackoff, ⟨m, hsource, hm⟩, s, hs, rfl, hgoing, hseeking⟩
  have hrefused : r.source.subscribe s.service = .error reason := by
    rw [hsource]
    simp [Source.subscribe, Memory.subscribe, hm, Except.map]
  refine ⟨?_, ?_⟩
  · rw [turnouts_ingest hs, Session.turnout?_refused hgoing hseeking hrefused]
    rfl
  · rw [run_ingest hs, ingest_subscribing hgoing hseeking, subscribe, hrefused]
    exact losing_failSubscription hs hbackoff hsource hgoing reason

/-- The reader reads a subscription that has been told nothing yet. -/
def Listening (b : Backoff) (service : String) (r : Resolver) : Prop :=
  ∃ id, Stage b service (.reading (some id)) (fun m => m.Holds service id .opened) r

theorem brings_subscription :
    Brings [.step (.ingest 0)] [.established]
      (Stage b service .subscribing fun m => m.subscribeFailure? = none)
      (Listening b service) := by
  rintro r ⟨hbackoff, ⟨m, hsource, hm⟩, s, hs, rfl, hgoing, hseeking⟩
  have hmade : r.source.subscribe s.service =
      .ok (.memory { m with subscriptions := m.subscriptions ++ [(s.service, .opened)] },
        some m.subscriptions.length) := by
    rw [hsource]
    simp [Source.subscribe, Memory.subscribe, hm, Except.map]
  refine ⟨?_, m.subscriptions.length, ?_⟩
  · rw [turnouts_ingest hs, Session.turnout?_established hgoing hseeking hmade]
    rfl
  · rw [run_ingest hs, ingest_subscribing hgoing hseeking, subscribe, hmade]
    refine ⟨hbackoff, ⟨_, rfl, ?_⟩, _, session?_modify_self (r := { r with source := _ }) hs _,
      rfl, hgoing, rfl⟩
    simp [Memory.Holds]

theorem brings_reading {id : SubscriptionId} (x : Signal) :
    Brings [.step (.ingest 0)] []
      (Stage b service (.reading (some id)) fun m =>
        m.Holds service id { Subscription.opened with unread := [x] })
      (Stage b service (.reading (some id)) fun m => m.Holds service id .opened) := by
  rintro r ⟨hbackoff, ⟨m, hsource, hm⟩, s, hs, rfl, hgoing, hreading⟩
  have heard : r.source.receive (some id) =
      (.signal x, .memory (m.modify id fun s => s.receive.2)) := by
    rw [hsource]
    simp [Source.receive, Memory.receive, hm.subscription?, Subscription.receive]
  have hafter : (m.modify id fun s => s.receive.2).Holds s.service id .opened :=
    hm.modify_self fun s => s.receive.2
  have hnone : s.turnout? r.source = none := Session.turnout?_open hreading (by rw [heard]; simp)
  refine ⟨?_, ?_⟩
  · rw [turnouts_ingest hs, hnone]
    rfl
  · rw [run_ingest hs, ingest_reading hgoing hreading, read, heard]
    cases x with
    | changed =>
      refine ⟨hbackoff, ⟨_, rfl, hafter⟩, _,
        session?_modify_self (r := { r with source := _ }.count .signal) hs _, ?_⟩
      exact ⟨rfl, hgoing, hreading⟩
    | resync =>
      refine ⟨hbackoff, ⟨_, rfl, hafter⟩, _,
        session?_modify_self (r := { r with source := _ }.count .resync) hs _, ?_⟩
      exact ⟨rfl, hgoing, hreading⟩

theorem brings_closing {id : SubscriptionId} :
    Brings [.step (.ingest 0)] [.closed]
      (Stage b service (.reading (some id)) fun m =>
        m.Holds service id Subscription.opened.detach)
      (Losing b service) := by
  rintro r ⟨hbackoff, ⟨m, hsource, hm⟩, s, hs, rfl, hgoing, hreading⟩
  have hclosed : r.source.receive (some id) =
      (.closed, .memory (m.modify id fun s => s.receive.2)) := by
    rw [hsource]
    simp [Source.receive, Memory.receive, hm.subscription?, Subscription.receive,
      Subscription.opened, Subscription.detach]
  have hturnout : s.turnout? r.source = some .closed :=
    Session.turnout?_closed hgoing hreading (by rw [hclosed])
  have hreleased : r.source.release (some id) = .memory (m.modify id Subscription.drop) := by
    rw [hsource]
    rfl
  refine ⟨?_, ?_⟩
  · rw [turnouts_ingest hs, hturnout]
    rfl
  · rw [run_ingest hs, ingest_reading hgoing hreading, read, hclosed]
    dsimp only
    rw [hreleased]
    exact losing_failSubscription (q := { r with source := .memory _ }) hs hbackoff rfl hgoing _

/-! ## Outcomes -/

/-- The reader tries to subscribe. -/
def Seeking (b : Backoff) (service : String) (r : Resolver) : Prop :=
  Stage b service .subscribing (fun _ => True) r

theorem brings_passing :
    Brings [.pass b.ceiling.nanos] [] (Losing b service)
      (fun r => ∃ t, t ≤ r.now ∧ Stage b service (.backingOff t) (fun _ => True) r) := by
  rintro r ⟨t, ht, hstage⟩
  exact ⟨rfl, t, ht, hstage.backoff, hstage.source, hstage.session⟩

theorem brings_resumption :
    Brings [.step (.ingest 0)] []
      (fun r => ∃ t, t ≤ r.now ∧ Stage b service (.backingOff t) (fun _ => True) r)
      (Seeking b service) := by
  rintro r ⟨t, ht, hbackoff, hsource, s, hs, rfl, hgoing, hwaiting⟩
  have hnone : s.turnout? r.source = none := by simp [Session.turnout?, hwaiting]
  refine ⟨?_, ?_⟩
  · rw [turnouts_ingest hs, hnone]
    rfl
  · rw [run_ingest hs, ingest_backingOff hgoing hwaiting ht]
    exact ⟨hbackoff, hsource, _, session?_modify_self hs _, rfl, hgoing, rfl⟩

theorem brings_wait : Brings (Outcome.wait b) [] (Losing b service) (Seeking b service) :=
  brings_passing.append brings_resumption

theorem brings_signal {id : SubscriptionId} (x : Signal) :
    Brings [.change (.publish service x), .step (.ingest 0)] []
      (Stage b service (.reading (some id)) fun m => m.Holds service id .opened)
      (Stage b service (.reading (some id)) fun m => m.Holds service id .opened) := by
  refine Brings.append (brings_change _ ?_) (brings_reading x)
  intro m hm
  have hpublished := hm.publish service x
  change (m.publish service x).Holds service id _
  simpa [Memory.publishTo_mk, Subscription.opened, Subscription.isLive, Subscription.offer,
    Subscription.capacity] using hpublished

theorem brings_signals {id : SubscriptionId} (signals : List Signal) :
    Brings (Outcome.signalling service signals) []
      (Stage b service (.reading (some id)) fun m => m.Holds service id .opened)
      (Stage b service (.reading (some id)) fun m => m.Holds service id .opened) := by
  induction signals with
  | nil => exact brings_nil
  | cons x rest ih => exact (brings_signal x).append ih

theorem brings_end (signals : List Signal) :
    Brings (Outcome.signalling service signals ++
        ([.change (.closeSubscriptions service), .step (.ingest 0)] ++ Outcome.wait b))
      [.closed] (Listening b service) (Seeking b service) := by
  rintro r ⟨id, hlistening⟩
  have hclosed : Brings [.change (.closeSubscriptions service)] []
      (Stage b service (.reading (some id)) fun m => m.Holds service id .opened)
      (Stage b service (.reading (some id)) fun m =>
        m.Holds service id Subscription.opened.detach) := by
    refine brings_change _ ?_
    intro m hm
    have hid : m.subscriptions[id]? = some (service, .opened) := hm
    simp [Memory.Holds, Memory.apply, Memory.closeSubscriptions, hid]
  exact (brings_signals signals).append ((hclosed.append brings_closing).append brings_wait) r
    hlistening

theorem brings_outcome (o : Outcome) :
    Brings (o.script b service) o.turnouts (Seeking b service) (Seeking b service) := by
  have hseeking : ∀ reason? : Option String, Brings [.change (.failSubscribes reason?)] []
      (Seeking b service)
      (Stage b service .subscribing fun m => m.subscribeFailure? = reason?) :=
    fun reason? => brings_change _ fun _ _ => rfl
  cases o with
  | refused reason =>
    exact ((hseeking (some reason)).append (brings_refusal reason)).append brings_wait
  | closed signals =>
    exact ((hseeking none).append brings_subscription).append (brings_end signals)

theorem brings_outcomes (os : List Outcome) :
    Brings (os.flatMap (·.script b service)) (os.flatMap (·.turnouts)) (Seeking b service)
      (Seeking b service) := by
  induction os with
  | nil => exact brings_nil
  | cons o rest ih => exact (brings_outcome o).append ih

theorem seeking_join {q : Resolver} {s : Session} {m : Memory} (hs : q.session? 0 = some s)
    (hsource : q.source = .memory m) (hbackoff : q.backoff = b) (howner : s.service = service)
    (hgoing : s.cancelled = false) (hseeking : s.ingestion = .subscribing) (w : WatcherId) :
    Seeking b service (q.join 0 w).1 := by
  rw [join, hs]
  exact ⟨hbackoff, ⟨m, hsource, trivial⟩, _, session?_modify_self hs _, howner, hgoing, hseeking⟩

/-- A resolver that has begun no session begins one, whether its mailboxes can be made or not. -/
theorem seeking_watch {r : Resolver} {m : Memory} (hsource : r.source = .memory m)
    (hfree : r.call? = none) (hnew : r.sessions = []) (hwatched : r.watched.find? service = none)
    (hpermit : r.permit service = .ok ()) (w : WatcherId) :
    Seeking r.backoff service (r.run [.watch service w, .proceed service]).1 := by
  have hwatch : (r.react (.watch service w)).1 =
      { (r.begin service).1 with call? := some (.joining service 0 w) } := by
    have haddWatch : (r.react (.watch service w)).1 = (r.addWatch service w).1 :=
      whenFree_of_free hfree fun r => (r.addWatch service w).1
    rcases r.addWatch_cases service w with ⟨f, hrefused, -⟩ | ⟨-, ⟨i, hfind, -⟩ | ⟨-, heq⟩⟩
    · rw [hpermit] at hrefused
      cases hrefused
    · rw [hwatched] at hfind
      cases hfind
    · rw [haddWatch, heq, hnew, List.length_nil]
  have hsession : Resolver.session?
      { (r.begin service).1 with call? := some (.joining service 0 w) } 0 =
        some (r.newSession service (r.historyOf service)) := by
    simp [begin, session?, hnew]
  have hjoined : Seeking r.backoff service
      (Resolver.join { (r.begin service).1 with call? := some (.joining service 0 w) } 0 w).1 :=
    seeking_join hsession hsource rfl rfl rfl rfl w
  have hproceed : (r.run [.watch service w, .proceed service]).1 =
      (Resolver.register { (r.begin service).1 with call? := some (.joining service 0 w) }
        service 0 w).1 := by
    rw [run_cons, run_cons, run_nil, hwatch]
    simp [react, proceed]
  rw [hproceed]
  rcases Resolver.register_cases { (r.begin service).1 with call? := some (.joining service 0 w) }
    service 0 w with ⟨-, heq⟩ | ⟨-, heq⟩
  · rw [heq]
    exact ⟨hjoined.backoff, hjoined.source, hjoined.session⟩
  · rw [heq]
    exact ⟨hjoined.backoff, hjoined.source, hjoined.session⟩

end

/-- Whatever is to become of the subscriptions of a session, there is a run in which it does. -/
theorem every_course_happens (name : String) (config : ResolverConfig) (m : Memory)
    (backoff : Backoff) (hooked : Bool) (stamp service : String) (w : WatcherId)
    (hpermit : (create name config (.memory m) backoff hooked stamp).permit service = .ok ())
    (course : List Outcome) :
    (create name config (.memory m) backoff hooked stamp).turnouts
      ([.watch service w, .proceed service] ++ course.flatMap (·.script backoff service)) =
        course.flatMap (·.turnouts) := by
  rw [turnouts_append]
  exact (brings_outcomes course _ (seeking_watch rfl rfl rfl rfl hpermit w)).1

/-- A session is refused twice, hears two signals, loses its subscription and is refused again. -/
example :
    (create "r" (.create "n" ["http"]) (.memory .empty) .standard true "").turnouts
      ([.watch "a" "w", .proceed "a"] ++
        [Outcome.refused "down", .refused "down", .closed [.changed, .resync],
          .refused "late"].flatMap (·.script .standard "a")) =
      [.refused "down", .refused "down", .established, .closed, .refused "late"] := by
  decide

end Resolver

end Lookout
