import Lookout.Proofs.Resolver.Aspect

/-!
# How sessions keep in contact with the source

The reader of a session tries to subscribe until it succeeds, reads the subscription until that is
closed, and begins anew. What it learns on the way are episodes: an attempt is refused, a
subscription is established, a subscription is closed. `Resolver.episodes` gathers them from a run,
by what the source answers.

The reader itself keeps a count of losses in a row, a mark that there has been one, and the instant
until which it waits. All of them are functions of its episodes (`Contact.Stands`), and so are the
failures that are counted and reported (`Exchange.Kept`).
-/
set_option autoImplicit false

namespace Lookout

/-! ## Episodes -/

/-- What becomes of an attempt to subscribe, or of a subscription. -/
inductive Turnout where
  | refused (reason : String)
  | established
  | closed
deriving DecidableEq

namespace Turnout

/-- The reason that is given for a loss. -/
def reason? : Turnout → Option String
  | .refused reason => some reason
  | .established => none
  | .closed => some "signal stream closed"

def isLoss (x : Turnout) : Bool := x.reason?.isSome

end Turnout

structure Episode where
  session : Nat
  service : String
  time : Instant
  turnout : Turnout
deriving DecidableEq

/-- Whether a notice is a call of the error hook for a subscription. -/
def Notice.isLoss : Notice → Bool
  | .failed _ (.subscribe _ _) => true
  | _ => false

namespace Episode

def isLoss (x : Episode) : Bool := x.turnout.isLoss

/-- How a loss is reported. -/
def notice? (x : Episode) : Option Notice :=
  x.turnout.reason?.map fun reason => .failed x.service (.subscribe x.service reason)

/-- How many losses there are since a subscription was established, or since the beginning, in
episodes of which the newest comes first. -/
def lossesInARow (past : List Episode) : Nat := (past.takeWhile isLoss).length

theorem lossesInARow_loss {x : Episode} (h : x.isLoss = true) (past : List Episode) :
    lossesInARow (x :: past) = lossesInARow past + 1 := by
  simp [lossesInARow, h]

theorem lossesInARow_established {x : Episode} (h : x.isLoss = false) (past : List Episode) :
    lossesInARow (x :: past) = 0 := by
  simp [lossesInARow, h]

theorem isLoss_notice {x : Episode} {n : Notice} (h : x.notice? = some n) : n.isLoss = true := by
  obtain ⟨reason, -, rfl⟩ := Option.map_eq_some_iff.1 h
  rfl

/-- When the wait after a loss is over. -/
def resumption (b : Backoff) (x : Episode) (before : List Episode) : Instant :=
  x.time + (b.delay (lossesInARow before)).nanos

/-- What can come after some episodes, the newest of which comes first: a subscription that is
established is closed, and after a loss there is another attempt as soon as the wait is over, or
later. -/
def Follows (b : Backoff) (y : Episode) : List Episode → Prop
  | [] => y.turnout ≠ .closed
  | x :: before =>
    if x.isLoss then y.turnout ≠ .closed ∧ x.resumption b before ≤ y.time
    else y.turnout = .closed

/-- Every episode follows those before it. -/
def Regular (b : Backoff) : List Episode → Prop
  | [] => True
  | y :: before => y.Follows b before ∧ Regular b before

def ofSession (i : Nat) (log : List Episode) : List Episode := log.filter (·.session == i)

theorem ofSession_self {i : Nat} {x? : Option Episode} (h : ∀ x, x? = some x → x.session = i)
    (log : List Episode) : ofSession i (x?.toList ++ log) = x?.toList ++ ofSession i log := by
  cases x? with
  | none => rfl
  | some x => exact List.filter_cons_of_pos (by simpa using h x rfl)

theorem ofSession_of_ne {i : Nat} {x? : Option Episode} (h : ∀ x, x? = some x → x.session ≠ i)
    (log : List Episode) : ofSession i (x?.toList ++ log) = ofSession i log := by
  cases x? with
  | none => rfl
  | some x => exact List.filter_cons_of_neg (by simpa using h x rfl)

end Episode

/-! ## One session -/

/-- What the reader of a session keeps. -/
structure Contact where
  cancelled : Bool
  ingestion : Ingestion
  attempt : Nat
  reconnecting : Bool

def Session.contact (s : Session) : Contact :=
  ⟨s.cancelled, s.ingestion, s.attempt, s.reconnecting⟩

namespace Contact

def first : Contact := ⟨false, .subscribing, 0, false⟩

def halt (c : Contact) : Contact := { c with cancelled := true }

def fail (b : Backoff) (now : Instant) (c : Contact) : Contact :=
  { c with
    ingestion := .backingOff (now + (b.delay c.attempt).nanos)
    attempt := c.attempt + 1
    reconnecting := true }

/-- What a step of its reader does to a session, and what the reader learns. -/
inductive Step (b : Backoff) (now : Instant) (c : Contact) : Option Episode → Contact → Prop
  | idle : Step b now c none c
  | ended (hcancelled : c.cancelled = true) : Step b now c none { c with ingestion := .ended }
  | resumed {t : Instant} (hwaiting : c.ingestion = .backingOff t) (hover : t ≤ now) :
      Step b now c none { c with ingestion := .subscribing }
  | refused {x : Episode} {reason : String} (hseeking : c.ingestion = .subscribing)
      (htime : x.time = now) (hx : x.turnout = .refused reason) :
      Step b now c (some x) (c.fail b now)
  | established {x : Episode} (id? : Option SubscriptionId) (hseeking : c.ingestion = .subscribing)
      (htime : x.time = now) (hx : x.turnout = .established) :
      Step b now c (some x) { c with ingestion := .reading id?, attempt := 0 }
  | closed {x : Episode} {id? : Option SubscriptionId} (hreading : c.ingestion = .reading id?)
      (htime : x.time = now) (hx : x.turnout = .closed) :
      Step b now c (some x) (c.fail b now)

open Episode

/-- How far a reader has come after its episodes. -/
inductive Position (b : Backoff) (now : Instant) : List Episode → Ingestion → Prop
  | first : Position b now [] .subscribing
  | again {x : Episode} {before : List Episode} (hloss : x.isLoss = true)
      (hover : x.resumption b before ≤ now) : Position b now (x :: before) .subscribing
  | reading {x : Episode} {before : List Episode} (id? : Option SubscriptionId)
      (hestablished : x.isLoss = false) : Position b now (x :: before) (.reading id?)
  | backingOff {x : Episode} {before : List Episode} (hloss : x.isLoss = true) :
      Position b now (x :: before) (.backingOff (x.resumption b before))
  | ended (past : List Episode) : Position b now past .ended

section
variable {b : Backoff} {now : Instant} {past : List Episode} {y : Episode}

theorem Position.later {g : Ingestion} (h : Position b now past g) {t : Instant} (ht : now ≤ t) :
    Position b t past g := by
  cases h with
  | first => exact .first
  | again hloss hover => exact .again hloss (Nat.le_trans hover ht)
  | reading id? hestablished => exact .reading id? hestablished
  | backingOff hloss => exact .backingOff hloss
  | ended => exact .ended past

theorem Position.follows_attempt (h : Position b now past .subscribing) (htime : y.time = now)
    (hy : y.turnout ≠ .closed) : y.Follows b past := by
  cases h with
  | first => exact hy
  | again hloss hover =>
    rw [Follows, if_pos hloss, htime]
    exact ⟨hy, hover⟩

theorem Position.follows_closed {id? : Option SubscriptionId}
    (h : Position b now past (.reading id?)) (hy : y.turnout = .closed) : y.Follows b past := by
  cases h with
  | reading id? hestablished =>
    rw [Follows, if_neg (Bool.eq_false_iff.1 hestablished)]
    exact hy

/-- What a reader keeps is settled by its episodes. -/
structure Stands (b : Backoff) (now : Instant) (past : List Episode) (c : Contact) : Prop where
  attempt : c.attempt = lossesInARow past
  reconnecting : c.reconnecting = past.any isLoss
  position : Position b now past c.ingestion
  regular : Regular b past
  /-- A reader ends only with its session. -/
  left : c.ingestion = .ended → c.cancelled = true

theorem stands_first : first.Stands b now [] := by
  refine ⟨rfl, rfl, .first, trivial, ?_⟩
  intro hended
  cases hended

section
variable {c c' : Contact}

theorem Stands.later (h : c.Stands b now past) {t : Instant} (ht : now ≤ t) :
    c.Stands b t past :=
  ⟨h.attempt, h.reconnecting, h.position.later ht, h.regular, h.left⟩

theorem Stands.halt (h : c.Stands b now past) : c.halt.Stands b now past :=
  ⟨h.attempt, h.reconnecting, h.position, h.regular, fun _ => rfl⟩

theorem Stands.fail (h : c.Stands b now past) (hfollows : y.Follows b past) (htime : y.time = now)
    (hloss : y.isLoss = true) : (c.fail b now).Stands b now (y :: past) := by
  refine ⟨?_, ?_, ?_, ⟨hfollows, h.regular⟩, by simp [Contact.fail]⟩
  · rw [lossesInARow_loss hloss, ← h.attempt]
    rfl
  · simp [Contact.fail, hloss]
  · have hposition : Position b now (y :: past) (.backingOff (y.resumption b past)) :=
      .backingOff hloss
    rw [resumption, htime, ← h.attempt] at hposition
    exact hposition

theorem Stands.step (h : c.Stands b now past) {x? : Option Episode} (hstep : Step b now c x? c') :
    c'.Stands b now (x?.toList ++ past) := by
  have hposition := h.position
  cases hstep with
  | idle => exact h
  | ended hcancelled =>
    exact ⟨h.attempt, h.reconnecting, .ended past, h.regular, fun _ => hcancelled⟩
  | resumed hwaiting hover =>
    rw [hwaiting] at hposition
    cases hposition with
    | backingOff hloss =>
      exact ⟨h.attempt, h.reconnecting, .again hloss hover, h.regular, by simp⟩
  | refused hseeking htime hx =>
    rw [hseeking] at hposition
    have hfollows := hposition.follows_attempt htime (by simp [hx])
    exact h.fail hfollows htime (by simp [isLoss, hx, Turnout.isLoss, Turnout.reason?])
  | @established x id? hseeking htime hx =>
    have hestablished : x.isLoss = false := by
      simp [isLoss, hx, Turnout.isLoss, Turnout.reason?]
    rw [hseeking] at hposition
    have hfollows := hposition.follows_attempt htime (by simp [hx])
    refine ⟨?_, ?_, .reading id? hestablished, ⟨hfollows, h.regular⟩, by simp⟩
    · exact (lossesInARow_established hestablished past).symm
    · simpa [hestablished] using h.reconnecting
  | closed hreading htime hx =>
    rw [hreading] at hposition
    have hfollows := hposition.follows_closed hx
    exact h.fail hfollows htime (by simp [isLoss, hx, Turnout.isLoss, Turnout.reason?])

end

end

end Contact

/-! ## All sessions -/

/-- What the readers of all sessions keep, and what is counted of their losses. -/
structure Exchange where
  backoff : Backoff
  hooked : Bool
  now : Instant
  losses : UInt64
  contacts : List Contact

namespace Exchange

/-- What is said of an episode, if there is a hook for failures. -/
def told (g : Exchange) (x? : Option Episode) : List Notice :=
  if g.hooked then x?.toList.filterMap Episode.notice? else []

/-- What one event does to the readers of all sessions, and what one of them learns. -/
inductive Step (g : Exchange) : Option Episode → List Notice → Exchange → Prop
  | quiet {ns : List Notice} (hns : ∀ n ∈ ns, n.isLoss = false) : Step g none ns g
  | passed (nanos : Nat) : Step g none [] { g with now := g.now + nanos }
  | begun : Step g none [] { g with contacts := g.contacts ++ [.first] }
  | halted (hit : Nat → Bool) :
      Step g none [] { g with contacts := Lookout.halted Contact.halt hit g.contacts }
  | read {i : Nat} {c c' : Contact} {x? : Option Episode} (hc : g.contacts[i]? = some c)
      (hown : ∀ x, x? = some x → x.session = i) (hstep : Contact.Step g.backoff g.now c x? c') :
      Step g x? (g.told x?)
        { g with
          losses := g.losses + UInt64.ofNat (x?.toList.countP Episode.isLoss)
          contacts := g.contacts.set i c' }

/-- What is kept, counted and reported after the episodes of a log, the newest of which comes
first. -/
structure Kept (log : List Episode) (ns : List Notice) (g : Exchange) : Prop where
  known : ∀ x ∈ log, x.session < g.contacts.length
  counted : g.losses = UInt64.ofNat (log.countP Episode.isLoss)
  reported : ns.filter Notice.isLoss =
    if g.hooked then log.reverse.filterMap Episode.notice? else []
  stands : ∀ (i : Nat) (c : Contact), g.contacts[i]? = some c →
    c.Stands g.backoff g.now (Episode.ofSession i log)

section
variable {log : List Episode} {ns ms : List Notice} {g g' : Exchange}

@[simp]
theorem told_none (g : Exchange) : g.told none = [] := by
  unfold told
  split <;> rfl

theorem filter_told (g : Exchange) (x? : Option Episode) :
    (g.told x?).filter Notice.isLoss = g.told x? := by
  refine List.filter_eq_self.2 ?_
  intro n hn
  unfold told at hn
  split at hn
  · obtain ⟨x, -, hx⟩ := List.mem_filterMap.1 hn
    exact Episode.isLoss_notice hx
  · exact absurd hn List.not_mem_nil

theorem Step.settled {x? : Option Episode} (h : Step g x? ns g') :
    g'.backoff = g.backoff ∧ g'.hooked = g.hooked := by
  cases h <;> exact ⟨rfl, rfl⟩

theorem Kept.quiet (h : Kept log ns g) (hms : ∀ n ∈ ms, n.isLoss = false) :
    Kept log (ns ++ ms) g := by
  refine ⟨h.known, h.counted, ?_, h.stands⟩
  have hnone : ms.filter Notice.isLoss = [] := List.filter_eq_nil_iff.2 (by simpa using hms)
  rw [List.filter_append, hnone, List.append_nil]
  exact h.reported

theorem Kept.ofSession_eq_nil (h : Kept log ns g) {i : Nat} (hi : g.contacts.length ≤ i) :
    Episode.ofSession i log = [] := by
  refine List.filter_eq_nil_iff.2 ?_
  intro x hx heq
  have hlt := h.known x hx
  have hsession : x.session = i := by simpa using heq
  omega

theorem Kept.regular (h : Kept log ns g) (i : Nat) :
    Episode.Regular g.backoff (Episode.ofSession i log) := by
  cases hc : g.contacts[i]? with
  | none =>
    rw [h.ofSession_eq_nil (List.getElem?_eq_none_iff.1 hc)]
    trivial
  | some c => exact (h.stands i c hc).regular

theorem Kept.begun (h : Kept log ns g) :
    Kept log ns { g with contacts := g.contacts ++ [.first] } := by
  refine ⟨?_, h.counted, h.reported, ?_⟩
  · intro x hx
    have hlt := h.known x hx
    rw [List.length_append]
    exact Nat.lt_add_right _ hlt
  · intro i c hc
    rcases Nat.lt_or_ge i g.contacts.length with hlt | hge
    · rw [List.getElem?_append_left hlt] at hc
      exact h.stands i c hc
    · rw [List.getElem?_append_right hge] at hc
      obtain rfl := List.mem_singleton.1 (List.mem_of_getElem? hc)
      rw [h.ofSession_eq_nil hge]
      exact Contact.stands_first

theorem Kept.halted (h : Kept log ns g) (hit : Nat → Bool) :
    Kept log ns { g with contacts := Lookout.halted Contact.halt hit g.contacts } := by
  refine ⟨?_, h.counted, h.reported, ?_⟩
  · intro x hx
    have hlt := h.known x hx
    simpa [Lookout.halted] using hlt
  · intro i c hc
    simp only [halted_getElem?] at hc
    obtain ⟨d, hd, rfl⟩ := Option.map_eq_some_iff.1 hc
    split
    · exact (h.stands i d hd).halt
    · exact h.stands i d hd

theorem Kept.read (h : Kept log ns g) {i : Nat} {c c' : Contact} {x? : Option Episode}
    (hc : g.contacts[i]? = some c) (hown : ∀ x, x? = some x → x.session = i)
    (hstep : Contact.Step g.backoff g.now c x? c') :
    Kept (x?.toList ++ log) (ns ++ g.told x?)
      { g with
        losses := g.losses + UInt64.ofNat (x?.toList.countP Episode.isLoss)
        contacts := g.contacts.set i c' } := by
  have hi : i < g.contacts.length := (List.getElem?_eq_some_iff.1 hc).1
  refine ⟨?_, ?_, ?_, ?_⟩
  · intro x hx
    rw [List.length_set]
    rcases List.mem_append.1 hx with hnew | hold
    · rw [hown x (Option.mem_toList.1 hnew)]
      exact hi
    · exact h.known x hold
  · rw [List.countP_append, UInt64.ofNat_add, ← h.counted]
    exact UInt64.add_comm _ _
  · have hone : x?.toList.reverse = x?.toList := by cases x? <;> rfl
    rw [List.filter_append, h.reported, filter_told, List.reverse_append, hone, told]
    cases g.hooked <;> simp
  · intro j d hd
    by_cases hij : i = j
    · subst hij
      obtain rfl : c' = d := by simpa [hi] using hd
      rw [Episode.ofSession_self hown]
      exact (h.stands i c hc).step hstep
    · rw [List.getElem?_set_ne hij] at hd
      rw [Episode.ofSession_of_ne fun x hx => hown x hx ▸ hij]
      exact h.stands j d hd

theorem Kept.step (h : Kept log ns g) {x? : Option Episode} (hstep : Step g x? ms g') :
    Kept (x?.toList ++ log) (ns ++ ms) g' := by
  cases hstep with
  | quiet hms => exact h.quiet hms
  | passed nanos =>
    rw [List.append_nil]
    exact ⟨h.known, h.counted, h.reported,
      fun i c hc => (h.stands i c hc).later (Nat.le_add_right _ _)⟩
  | begun =>
    rw [List.append_nil]
    exact h.begun
  | halted hit =>
    rw [List.append_nil]
    exact h.halted hit
  | read hc hown hstep => exact h.read hc hown hstep

end

end Exchange

/-! ## Resolvers -/

/-- What the next step of the reader of a session brings to light. -/
def Session.turnout? (s : Session) (src : Source) : Option Turnout :=
  if s.cancelled then none
  else
    match s.ingestion with
    | .subscribing =>
      match src.subscribe s.service with
      | .error reason => some (.refused reason)
      | .ok _ => some .established
    | .reading id? => if (src.receive id?).1 = .closed then some .closed else none
    | _ => none

section
variable {s : Session} {src : Source}

theorem Session.turnout?_of_cancelled (h : s.cancelled = true) : s.turnout? src = none := by
  rw [turnout?, if_pos h]

theorem Session.turnout?_refused (hgoing : s.cancelled = false)
    (hseeking : s.ingestion = .subscribing) {reason : String}
    (h : src.subscribe s.service = .error reason) : s.turnout? src = some (.refused reason) := by
  simp [turnout?, hgoing, hseeking, h]

theorem Session.turnout?_established (hgoing : s.cancelled = false)
    (hseeking : s.ingestion = .subscribing) {made : Source × Option SubscriptionId}
    (h : src.subscribe s.service = .ok made) : s.turnout? src = some .established := by
  simp [turnout?, hgoing, hseeking, h]

theorem Session.turnout?_closed (hgoing : s.cancelled = false) {id? : Option SubscriptionId}
    (hreading : s.ingestion = .reading id?) (h : (src.receive id?).1 = .closed) :
    s.turnout? src = some .closed := by
  simp [turnout?, hgoing, hreading, h]

theorem Session.turnout?_open {id? : Option SubscriptionId} (hreading : s.ingestion = .reading id?)
    (h : (src.receive id?).1 ≠ .closed) : s.turnout? src = none := by
  simp [turnout?, hreading, h]

end

namespace Resolver

def episode? (r : Resolver) : Event → Option Episode
  | .step (.ingest i) =>
    (r.session? i).bind fun s => (s.turnout? r.source).map fun x => ⟨i, s.service, r.now, x⟩
  | _ => none

/-- The episodes of a run, the oldest first. -/
def episodes (r : Resolver) : List Event → List Episode
  | [] => []
  | e :: rest => (r.episode? e).toList ++ episodes (r.react e).1 rest

def contacts (r : Resolver) : List Contact := r.sessions.map Session.contact

def exchange (r : Resolver) : Exchange :=
  ⟨r.backoff, r.hooked, r.now, r.metrics.failedSubscriptions, r.contacts⟩

theorem aspect_contact : Session.Aspect Session.contact Contact.halt :=
  ⟨fun _ _ => rfl, fun _ => rfl⟩

theorem exchange_eq {r q : Resolver} (hcontacts : q.contacts = r.contacts)
    (hrest : q.exchange = { r.exchange with contacts := q.contacts }) :
    q.exchange = r.exchange := by
  rw [hrest, hcontacts]
  rfl

/-! ### Calls -/

theorem exchange_call (r : Resolver) {e : Event} (he : e.isCall = true) :
    Exchange.Step r.exchange none (r.react e).2 (r.react e).1.exchange := by
  obtain ⟨halike, hquiet⟩ := r.alike_call he
  obtain ⟨report, hmetrics⟩ := halike.metrics
  have hrest : (r.react e).1.exchange = { r.exchange with contacts := (r.react e).1.contacts } := by
    simp only [exchange, halike.backoff, halike.hooked, halike.now, hmetrics, Report.countIn]
  rw [hquiet, hrest]
  rcases map_sessions_call aspect_contact r he with ⟨hit, hall⟩ | ⟨service, hbegun⟩
  · rw [show (r.react e).1.contacts = _ from hall]
    exact .halted hit
  · rw [show (r.react e).1.contacts = _ from hbegun]
    exact .begun

/-! ### Tasks -/

theorem exchange_modify_self {r : Resolver} {i : Nat} {f : Session → Session}
    (hf : ∀ s, (f s).contact = s.contact) : (r.modify i f).exchange = r.exchange :=
  exchange_eq (r.map_sessions_modify_self i fun s _ => hf s) rfl

theorem exchange_quiet {r q : Resolver} {ns : List Notice} (h : q.exchange = r.exchange)
    (hns : ∀ n ∈ ns, n.isLoss = false) : Exchange.Step r.exchange none ns q.exchange := by
  rw [h]
  exact .quiet hns

theorem exchange_beginBuild (r : Resolver) (i : Nat) (s : Session) (d : Debouncer)
    (trigger : Trigger) : (r.beginBuild i s d trigger).1.exchange = r.exchange := by
  unfold beginBuild
  dsimp only
  refine exchange_modify_self (r := { r with source := _ }.count .evaluation) ?_
  exact fun _ => rfl

theorem exchange_finishBuild (r : Resolver) (i : Nat) (s : Session) (snapshot : Snapshot) :
    (r.finishBuild i s snapshot).1.exchange = r.exchange := by
  unfold finishBuild
  dsimp only
  refine exchange_modify_self (r := { r.count (.build true) with histories := _ }) ?_
  exact fun _ => rfl

theorem exchange_publish (r : Resolver) (i : Nat) (s : Session) (snapshot : Snapshot) :
    (r.publish i s snapshot).1.exchange = r.exchange := by
  unfold publish
  dsimp only
  refine exchange_modify_self (r := { r with metrics := _ }) ?_
  exact fun _ => rfl

theorem isLoss_of_outcome? {b : Builder} {build : Builder.Build} {now : Instant} {src : Source}
    {revision : UInt64} {f : Failure} (h : b.outcome? build now src revision = some (.error f))
    (service : String) : (Notice.failed service f).isLoss = false := by
  unfold Builder.outcome? at h
  obtain ⟨result, -, hresult⟩ := Option.map_eq_some_iff.1 h
  cases result with
  | ok records => cases hresult
  | error fault =>
    cases hresult
    cases fault <;> rfl

theorem exchange_evaluate (r : Resolver) (i : Nat) (s : Session) :
    Exchange.Step r.exchange none (r.evaluate i s).2 (r.evaluate i s).1.exchange := by
  have hended : (r.modify i fun s => { s with evaluation := .ended }).exchange = r.exchange :=
    exchange_modify_self fun _ => rfl
  unfold evaluate
  split
  · exact .quiet (by simp)
  · split
    · exact exchange_quiet hended (by simp)
    · split
      · next d trigger _ =>
        exact exchange_quiet (r.exchange_beginBuild i s d trigger)
          (by simp [beginBuild, Notice.isLoss])
      · exact exchange_quiet (exchange_modify_self fun _ => rfl) (by simp)
  · split
    · exact exchange_quiet hended (by simp)
    · split
      · exact .quiet (by simp)
      · next snapshot _ =>
        exact exchange_quiet (r.exchange_finishBuild i s snapshot)
          (by simp [finishBuild, Notice.isLoss])
      · next f hfailed =>
        refine exchange_quiet (exchange_modify_self (r := r.count (.build false)) fun _ => rfl) ?_
        intro n hn
        rw [eq_of_mem_report hn]
        exact isLoss_of_outcome? hfailed s.service
  · next snapshot _ =>
    exact exchange_quiet (r.exchange_publish i s snapshot) (by simp [publish, Notice.isLoss])

theorem exchange_resync (r : Resolver) (i : Nat) (s : Session) :
    Exchange.Step r.exchange none (r.resync i s).2 (r.resync i s).1.exchange := by
  unfold resync
  split
  · split
    · exact exchange_quiet (exchange_modify_self fun _ => rfl) (by simp)
    · split
      · exact exchange_quiet (exchange_modify_self (r := r.count .resync) fun _ => rfl) (by simp)
      · exact .quiet (by simp)
  · exact .quiet (by simp)

theorem exchange_deliver (r : Resolver) (i : Nat) (s : Session) (t : Nat) :
    Exchange.Step r.exchange none (r.deliver i s t).2 (r.deliver i s t).1.exchange := by
  refine exchange_quiet (exchange_modify_self fun _ => rfl) ?_
  intro n hn
  unfold deliver at hn
  dsimp only at hn
  split at hn
  · rw [List.mem_singleton.1 hn]
    rfl
  · exact absurd hn List.not_mem_nil

/-! ### Readers -/

section
variable {r : Resolver} {i : Nat} {s : Session}

theorem step_ingest (hs : r.session? i = some s) : r.step (.ingest i) = r.ingest i s := by
  simp [step, Task.session, hs]

theorem ingest_subscribing (hgoing : s.cancelled = false) (hseeking : s.ingestion = .subscribing) :
    r.ingest i s = r.subscribe i s := by
  simp [ingest, hseeking, hgoing]

theorem ingest_reading (hgoing : s.cancelled = false) {id? : Option SubscriptionId}
    (hreading : s.ingestion = .reading id?) : r.ingest i s = r.read i s id? := by
  simp [ingest, hreading, hgoing]

theorem ingest_backingOff (hgoing : s.cancelled = false) {t : Instant}
    (hwaiting : s.ingestion = .backingOff t) (hover : t ≤ r.now) :
    r.ingest i s = (r.modify i fun s => { s with ingestion := .subscribing }, []) := by
  simp [ingest, hwaiting, hgoing, hover]

theorem episode?_ingest (hs : r.session? i = some s) :
    r.episode? (.step (.ingest i)) =
      (s.turnout? r.source).map fun x => ⟨i, s.service, r.now, x⟩ := by
  simp [episode?, hs]

theorem exchange_read {q : Resolver} (x? : Option Episode) (hs : q.session? i = some s)
    (hq : q.exchange =
      { r.exchange with
        losses := r.exchange.losses + UInt64.ofNat (x?.toList.countP Episode.isLoss) })
    (hown : ∀ x, x? = some x → x.session = i) {f : Session → Session}
    (hstep : Contact.Step r.backoff r.now s.contact x? (f s).contact) :
    Exchange.Step r.exchange x? (r.exchange.told x?) (q.modify i f).exchange := by
  have hcontacts : q.contacts = r.contacts := congrArg Exchange.contacts hq
  have hafter : (q.modify i f).exchange =
      { r.exchange with
        losses := r.exchange.losses + UInt64.ofNat (x?.toList.countP Episode.isLoss)
        contacts := r.contacts.set i (f s).contact } := by
    change { q.exchange with contacts := (q.modify i f).contacts } = _
    rw [contacts, map_sessions_modify hs, ← contacts, hcontacts, hq]
  rw [hafter]
  refine .read ?_ hown hstep
  change r.contacts[i]? = some s.contact
  rw [← hcontacts, contacts, map_sessions_getElem?, hs]
  rfl

theorem exchange_silent {q : Resolver} (hs : q.session? i = some s) (hq : q.exchange = r.exchange)
    {f : Session → Session} (hstep : Contact.Step r.backoff r.now s.contact none (f s).contact) :
    Exchange.Step r.exchange none [] (q.modify i f).exchange := by
  have hcount : q.exchange = { r.exchange with
      losses := r.exchange.losses + UInt64.ofNat ((none : Option Episode).toList.countP
        Episode.isLoss) } := by
    rw [hq]
    simp
  have hread := exchange_read (r := r) none hs hcount (by simp) hstep
  rwa [Exchange.told_none] at hread

theorem exchange_failSubscription {q : Resolver} (hs : q.session? i = some s)
    (hq : q.exchange = r.exchange) {turnout : Turnout} {reason : String}
    (hreason : turnout.reason? = some reason)
    (hstep : Contact.Step r.backoff r.now s.contact (some ⟨i, s.service, r.now, turnout⟩)
      (s.contact.fail r.backoff r.now)) :
    Exchange.Step r.exchange (some ⟨i, s.service, r.now, turnout⟩)
      (q.failSubscription i s reason).2 (q.failSubscription i s reason).1.exchange := by
  have hbackoff : q.backoff = r.backoff := congrArg Exchange.backoff hq
  have hhooked : q.hooked = r.hooked := congrArg Exchange.hooked hq
  have hnow : q.now = r.now := congrArg Exchange.now hq
  have hcount : (q.count .subscriptionFailure).exchange =
      { r.exchange with
        losses := r.exchange.losses + UInt64.ofNat
          ((some (⟨i, s.service, r.now, turnout⟩ : Episode)).toList.countP Episode.isLoss) } := by
    have hone : (some (⟨i, s.service, r.now, turnout⟩ : Episode)).toList.countP Episode.isLoss =
        1 := by
      simp [Episode.isLoss, Turnout.isLoss, hreason]
    rw [hone, ← hq]
    rfl
  have htold : r.exchange.told (some ⟨i, s.service, r.now, turnout⟩) =
      q.report s.service (.subscribe s.service reason) := by
    simp [Exchange.told, Episode.notice?, hreason, report, hhooked, exchange]
  unfold failSubscription
  dsimp only
  rw [← htold, hbackoff, hnow]
  exact exchange_read (q := q.count .subscriptionFailure) _ hs hcount (by simp) hstep

theorem exchange_subscribe (hs : r.session? i = some s) (hgoing : s.cancelled = false)
    (hseeking : s.ingestion = .subscribing) :
    Exchange.Step r.exchange (r.episode? (.step (.ingest i))) (r.subscribe i s).2
      (r.subscribe i s).1.exchange := by
  rw [episode?_ingest hs]
  unfold subscribe
  split
  · next reason hrefused =>
    rw [Session.turnout?_refused hgoing hseeking hrefused]
    exact exchange_failSubscription hs rfl rfl (.refused hseeking rfl rfl)
  · next source id? hmade =>
    rw [Session.turnout?_established hgoing hseeking hmade]
    have hcount : Resolver.exchange { r with source } = { r.exchange with
        losses := r.exchange.losses + UInt64.ofNat
          ((some (⟨i, s.service, r.now, .established⟩ : Episode)).toList.countP
            Episode.isLoss) } := by
      simp [exchange, contacts, Episode.isLoss, Turnout.isLoss, Turnout.reason?]
    have hread := exchange_read (r := r) (q := { r with source })
      (some ⟨i, s.service, r.now, .established⟩) hs hcount (by simp)
      (f := fun q => { q with
        ingestion := .reading id?
        attempt := 0
        debouncer := if q.reconnecting then q.debouncer.signal r.now else q.debouncer })
      (.established id? hseeking rfl rfl)
    have htold : r.exchange.told (some ⟨i, s.service, r.now, .established⟩) = [] := by
      simp [Exchange.told, Episode.notice?, Turnout.reason?]
    rw [htold] at hread
    exact hread

theorem exchange_receive (hs : r.session? i = some s) (hgoing : s.cancelled = false)
    {id? : Option SubscriptionId} (hreading : s.ingestion = .reading id?) :
    Exchange.Step r.exchange (r.episode? (.step (.ingest i))) (r.read i s id?).2
      (r.read i s id?).1.exchange := by
  rw [episode?_ingest hs]
  unfold read
  split
  · next hpending =>
    rw [Session.turnout?_open hreading (by simp [hpending])]
    exact .quiet (by simp)
  · next hclosed =>
    rw [Session.turnout?_closed hgoing hreading (by simp [hclosed])]
    exact exchange_failSubscription (q := { r with source := r.source.release id? }) hs rfl rfl
      (.closed hreading rfl rfl)
  · next source heard =>
    rw [Session.turnout?_open hreading (by simp [heard])]
    refine exchange_silent (r := r) (q := { r with source }.count .signal) hs rfl ?_
    exact .idle
  · next source heard =>
    rw [Session.turnout?_open hreading (by simp [heard])]
    refine exchange_silent (r := r) (q := { r with source }.count .resync) hs rfl ?_
    exact .idle

theorem exchange_ingest (hs : r.session? i = some s) :
    Exchange.Step r.exchange (r.episode? (.step (.ingest i))) (r.ingest i s).2
      (r.ingest i s).1.exchange := by
  unfold ingest
  cases hcancelled : s.cancelled with
  | true =>
    have hnone : r.episode? (.step (.ingest i)) = none := by
      rw [episode?_ingest hs, Session.turnout?_of_cancelled hcancelled]
      rfl
    rw [hnone]
    split
    · exact .quiet (by simp)
    · exact exchange_silent hs rfl (.ended hcancelled)
    · next id? _ =>
      exact exchange_silent (q := { r with source := r.source.release id? }) hs rfl
        (.ended hcancelled)
    · exact exchange_silent hs rfl (.ended hcancelled)
  | false =>
    split
    · next hended =>
      have hnone : r.episode? (.step (.ingest i)) = none := by
        rw [episode?_ingest hs]
        simp [Session.turnout?, hended]
      rw [hnone]
      exact .quiet (by simp)
    · next hseeking => exact exchange_subscribe hs hcancelled hseeking
    · next id? hreading => exact exchange_receive hs hcancelled hreading
    · next t hwaiting =>
      have hnone : r.episode? (.step (.ingest i)) = none := by
        rw [episode?_ingest hs]
        simp [Session.turnout?, hwaiting]
      rw [hnone]
      dsimp only
      split
      · contradiction
      · split
        · next hover => exact exchange_silent hs rfl (.resumed hwaiting hover)
        · exact .quiet (by simp)

theorem exchange_step (r : Resolver) (t : Task) :
    Exchange.Step r.exchange (r.episode? (.step t)) (r.step t).2 (r.step t).1.exchange := by
  unfold step
  cases hs : r.session? t.session with
  | none =>
    have hnone : r.episode? (.step t) = none := by
      cases t with
      | ingest i => simp [episode?, show r.session? i = none from hs]
      | _ => rfl
    rw [hnone]
    exact .quiet (by simp)
  | some s =>
    cases t with
    | evaluate i => exact r.exchange_evaluate i s
    | ingest i => exact exchange_ingest hs
    | resync i => exact r.exchange_resync i s
    | deliver i ticket => exact r.exchange_deliver i s ticket

/-- Whatever happens to a resolver is one of the steps that the exchange can take. -/
theorem exchange_react (r : Resolver) (e : Event) :
    Exchange.Step r.exchange (r.episode? e) (r.react e).2 (r.react e).1.exchange := by
  cases e with
  | change c => exact exchange_quiet rfl (by simp [react])
  | step t => exact r.exchange_step t
  | pass nanos => exact .passed nanos
  | _ => exact r.exchange_call rfl

theorem settled_run (r : Resolver) (events : List Event) :
    (r.run events).1.backoff = r.backoff ∧ (r.run events).1.hooked = r.hooked := by
  induction events generalizing r with
  | nil => exact ⟨rfl, rfl⟩
  | cons e rest ih =>
    obtain ⟨hbackoff, hhooked⟩ := (r.exchange_react e).settled
    obtain ⟨hbackoff', hhooked'⟩ := ih (r.react e).1
    exact ⟨hbackoff'.trans hbackoff, hhooked'.trans hhooked⟩

theorem kept_exchange {log : List Episode} {ns : List Notice} (h : r.exchange.Kept log ns)
    (events : List Event) :
    (r.run events).1.exchange.Kept ((r.episodes events).reverse ++ log)
      (ns ++ (r.run events).2) := by
  induction events generalizing r log ns with
  | nil => simpa [episodes] using h
  | cons e rest ih =>
    have hnext := ih (h.step (r.exchange_react e))
    have hone : (r.episode? e).toList.reverse = (r.episode? e).toList := by
      cases r.episode? e <;> rfl
    rw [List.append_assoc] at hnext
    rw [episodes, List.reverse_append, hone, List.append_assoc]
    exact hnext

end

theorem kept_create (name : String) (config : ResolverConfig) (source : Source)
    (backoff : Backoff) (hooked : Bool) (stamp : String) :
    (create name config source backoff hooked stamp).exchange.Kept [] [] := by
  refine ⟨by simp, rfl, ?_, ?_⟩
  · simp
  · intro i c hc
    cases hc

end Resolver

end Lookout
