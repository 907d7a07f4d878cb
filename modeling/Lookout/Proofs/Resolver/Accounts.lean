import Lookout.Proofs.Debouncer.Timeline
import Lookout.Proofs.Resolver.Activity
import Lookout.Proofs.Resolver.Lifecycle
import Mathlib.Data.UInt

/-!
# What the counters add up to

Every evaluation is charged to something that asked for it: the beginning of its session, a signal,
a resync, or a subscription that was lost. A request that no evaluation has met is still owed, and
so is the one that will be made when a lost subscription is restored, so what was asked for covers
the evaluations that have begun and those that are owed. And every evaluation that has begun is in
hand, or has ended in one way or the other, or was given up with its session.

The counters start again from zero when they leave 64 bits. So the sums are about how often a
counter has been advanced, which is what the counter shows as long as it has not started again.
-/
set_option autoImplicit false

namespace Lookout

namespace Metrics

def counter (m : Metrics) : Count → UInt64
  | .signal => m.signals
  | .resync => m.resyncs
  | .evaluation => m.evaluations
  | .build true => m.builds
  | .build false => m.failedBuilds
  | .subscriptionFailure => m.failedSubscriptions
  | .delivery true => m.deliveries
  | .delivery false => m.dropped

/-- Whether a count is about the work of a resolver, which never makes two at a time. -/
def Count.isWork : Count → Bool
  | .delivery _ => false
  | _ => true

/-- How often a counter has been advanced from one state to the next. -/
def tick (m m' : Metrics) (k : Count) : Nat := if m'.counter k = m.counter k then 0 else 1

theorem tick_self (m : Metrics) (k : Count) : tick m m k = 0 := if_pos rfl

theorem counter_count (m : Metrics) (j k : Count) :
    (m.count j).counter k = m.counter k + if k = j then 1 else 0 := by
  obtain _ | _ | _ | (_ | _) | _ | (_ | _) := j <;>
    obtain _ | _ | _ | (_ | _) | _ | (_ | _) := k <;> simp [count, counter]

theorem tick_count (m : Metrics) (j k : Count) :
    tick m (m.count j) k = if k = j then 1 else 0 := by
  unfold tick
  rw [counter_count]
  by_cases hkj : k = j
  · rw [if_pos hkj, if_pos hkj, if_neg]
    simp
  · simp [hkj]

@[simp]
theorem counter_work (m : Metrics) {k : Count} (hk : k.isWork = true) :
    m.work.counter k = m.counter k := by
  obtain _ | _ | _ | (_ | _) | _ | (_ | _) := k <;> first | rfl | exact Bool.noConfusion hk

end Metrics

namespace Course

/-- How many requests no evaluation has met: the one that the debouncer keeps, and the one that a
subscription in the place of a lost one will make. -/
def owed (c : Course) : Nat := c.debouncer.isPending.toNat + c.adrift.toNat

/-- How many evaluations have begun and not ended. -/
def inHand (c : Course) : Nat :=
  match c.evaluation with
  | .building _ => 1
  | _ => 0

/-- How many evaluations may have been given up. -/
def givenUp (c : Course) : Nat :=
  match c.evaluation with
  | .ended => 1
  | _ => 0

end Course

namespace Notice

def isBuilt : Notice → Bool
  | .built _ _ _ => true
  | _ => false

def isFailure : Notice → Bool
  | .failed _ _ => true
  | _ => false

end Notice

theorem Debouncer.isPending_of_due? {d : Debouncer} {now : Instant} {trigger : Trigger}
    (h : d.due? now = some trigger) : d.isPending = true := by
  unfold due? at h
  unfold isPending
  split at h
  · next hforced => simp [hforced]
  · split at h
    · next hcatchUp => simp [hcatchUp]
    · split at h
      · next hdeadline =>
        obtain ⟨t, ht, -⟩ := (Option.any_eq_true _ _).1 hdeadline
        simp [ht]
      · contradiction

theorem Debouncer.isPending_of_fired {d e : Debouncer} {now : Instant} {w : Waiter}
    {trigger : Trigger} (h : d.poll now w = (e, .fired trigger)) :
    d.isPending = true ∧ e.isPending = false := by
  rcases d.poll_cases now w with ⟨-, hpoll⟩ | ⟨-, -, hpoll⟩ | ⟨found, -, hdue, hpoll⟩
  · exact absurd (hpoll.symm.trans h) (by simp)
  · exact absurd (hpoll.symm.trans h) (by simp)
  · obtain ⟨rfl, -⟩ := Prod.mk.inj (hpoll.symm.trans h)
    exact ⟨isPending_of_due? hdue, rfl⟩

namespace Effort

def total (g : Effort) (f : Course → Nat) : Nat := (g.courses.map f).sum

theorem sum_set {cs : List Course} {i : Nat} {c : Course} (hc : cs[i]? = some c) (c' : Course)
    (f : Course → Nat) : ((cs.set i c').map f).sum + f c = (cs.map f).sum + f c' := by
  induction cs generalizing i with
  | nil => simp at hc
  | cons head rest ih =>
    cases i with
    | zero =>
      have hhead : head = c := by simpa using hc
      subst hhead
      simp only [List.set_cons_zero, List.map_cons, List.sum_cons]
      omega
    | succ i =>
      have hrest := ih (i := i) (by simpa using hc)
      simp only [List.set_cons_succ, List.map_cons, List.sum_cons]
      omega

theorem total_halt (g : Effort) (hit : Nat → Bool) {f : Course → Nat}
    (hf : ∀ (c : Course) (hit : Bool), f (c.halt hit) = f c) :
    (g.halt hit).total f = g.total f := by
  have hcourses : (g.halt hit).courses.map f = g.courses.map f := by
    apply List.ext_getElem?
    intro j
    simp only [halt, List.getElem?_map, List.getElem?_mapIdx, Option.map_map]
    congr 1
    funext c
    exact hf c (hit j)
  simp only [total]
  rw [hcourses]

theorem inHand_add_givenUp_le (c : Course) : c.inHand + c.givenUp ≤ 1 := by
  unfold Course.inHand Course.givenUp
  cases c.evaluation <;> simp

/-- Every session has one evaluation at most that has not ended with a build. -/
theorem total_inHand_add_total_givenUp_le (g : Effort) :
    g.total Course.inHand + g.total Course.givenUp ≤ g.courses.length := by
  unfold total
  induction g.courses with
  | nil => simp
  | cons c rest ih =>
    have hone := inHand_add_givenUp_le c
    simp only [List.map_cons, List.sum_cons, List.length_cons]
    omega

/-- How often the counters have been advanced, by kinds. -/
abbrev Tally := Metrics.Count → Nat

/-- How things stand after the notices `ns`, when the counters have been advanced as often as `n`
says. -/
structure Balanced (n : Tally) (ns : List Notice) (g : Effort) : Prop where
  counted : ∀ k : Metrics.Count, k.isWork = true → g.metrics.counter k = UInt64.ofNat (n k)
  charged : n .evaluation + g.total Course.owed ≤ g.courses.length +
    n .signal + n .resync + n .subscriptionFailure
  begun : n (.build true) + n (.build false) + g.total Course.inHand ≤ n .evaluation
  ended : n .evaluation ≤ n (.build true) + n (.build false) +
    g.total Course.inHand + g.total Course.givenUp
  built : ns.countP Notice.isBuilt = n (.build true)
  failed : ns.countP Notice.isFailure =
    if g.hooked then n (.build false) + n .subscriptionFailure else 0

/-! ## Steps -/

theorem isBuilt_report (g : Effort) (service : String) (f : Failure) :
    (g.report service f).countP Notice.isBuilt = 0 := by
  unfold report
  split <;> rfl

theorem isFailure_report (g : Effort) (service : String) (f : Failure) :
    (g.report service f).countP Notice.isFailure = if g.hooked then 1 else 0 := by
  unfold report
  split <;> rfl

section
variable {g : Effort} {i : Nat} {c c' : Course} {ns : List Notice} {m : Metrics}

theorem Move.counts (h : Move g i c ns m c') (k : Metrics.Count) :
    m.counter k = g.metrics.counter k + UInt64.ofNat (g.metrics.tick m k) := by
  have hcount : ∀ j : Metrics.Count, (g.metrics.count j).counter k =
      g.metrics.counter k + UInt64.ofNat (g.metrics.tick (g.metrics.count j) k) := by
    intro j
    rw [Metrics.tick_count, Metrics.counter_count]
    split <;> rfl
  have hsame : g.metrics.counter k =
      g.metrics.counter k + UInt64.ofNat (g.metrics.tick g.metrics k) := by
    rw [Metrics.tick_self]
    exact (UInt64.add_zero _).symm
  cases h with
  | triggered b hgoing hwaiting hpoll => exact hcount _
  | built s hgoing hbuilding => exact hcount _
  | failed f hgoing hbuilding => exact hcount _
  | interrupted f hgoing => exact hcount _
  | signalled hgoing => exact hcount _
  | resynced hgoing => exact hcount _
  | _ => exact hsame

/-- An evaluation meets a request that was owed, and whatever is owed more has been asked for. -/
theorem Move.charges (h : Move g i c ns m c') :
    g.metrics.tick m .evaluation + c'.owed ≤ c.owed + g.metrics.tick m .signal +
      g.metrics.tick m .resync + g.metrics.tick m .subscriptionFailure := by
  have hpending := Bool.toNat_le c.debouncer.isPending
  have hadrift := Bool.toNat_le c.adrift
  cases h with
  | ended hcancelled hunready => simp [Course.owed, Metrics.tick_self]
  | looked hgoing hwaiting hpoll =>
    simp [Course.owed, Metrics.tick_self, Debouncer.isPending_of_poll hpoll]
  | triggered b hgoing hwaiting hpoll =>
    obtain ⟨hbefore, hafter⟩ := Debouncer.isPending_of_fired hpoll
    simp [Course.owed, Metrics.tick_count, hbefore, hafter]
  | built s hgoing hbuilding => simp [Course.owed, Metrics.tick_count]
  | published report hpublishing =>
    have hkept : c.debouncer.complete.isPending = c.debouncer.isPending := rfl
    simp [Course.owed, Metrics.tick_self, hkept]
  | failed f hgoing hbuilding =>
    have hkept : c.debouncer.complete.isPending = c.debouncer.isPending := rfl
    simp [Course.owed, Metrics.tick_count, hkept]
  | deafened hcancelled => simp [Course.owed, Metrics.tick_self]
  | interrupted f hgoing =>
    simp only [Course.owed, Metrics.tick_count, reduceCtorEq, if_false, if_true, Bool.toNat_true]
    omega
  | subscribed hgoing =>
    -- the signal that was owed for the lost subscription is owed by the debouncer now
    cases hlost : c.adrift with
    | false => simp [Course.owed, Metrics.tick_self, hlost]
    | true => simp [Course.owed, Metrics.tick_self, hlost, Debouncer.isPending_signal]
  | signalled hgoing =>
    simp only [Course.owed, Metrics.tick_count, reduceCtorEq, if_false, if_true,
      Debouncer.isPending_signal, Bool.toNat_true]
    omega
  | resynced hgoing =>
    simp only [Course.owed, Metrics.tick_count, reduceCtorEq, if_false, if_true,
      Debouncer.isPending_force, Bool.toNat_true]
    omega

theorem Move.begins (h : Move g i c ns m c') :
    g.metrics.tick m (.build true) + g.metrics.tick m (.build false) + c'.inHand ≤
      c.inHand + g.metrics.tick m .evaluation := by
  cases h with
  | looked hgoing hwaiting hpoll => simp [Course.inHand, Metrics.tick_self, hwaiting]
  | triggered b hgoing hwaiting hpoll => simp [Course.inHand, Metrics.tick_count, hwaiting]
  | built s hgoing hbuilding => simp [Course.inHand, Metrics.tick_count, hbuilding]
  | published report hpublishing => simp [Course.inHand, Metrics.tick_self, hpublishing]
  | failed f hgoing hbuilding => simp [Course.inHand, Metrics.tick_count, hbuilding]
  | _ => simp [Course.inHand, Metrics.tick_self, Metrics.tick_count]

theorem Move.ends (h : Move g i c ns m c') :
    g.metrics.tick m .evaluation + (c.inHand + c.givenUp) ≤
      g.metrics.tick m (.build true) + g.metrics.tick m (.build false) +
        (c'.inHand + c'.givenUp) := by
  cases h with
  | ended hcancelled hunready =>
    have hshare := inHand_add_givenUp_le c
    simpa [Course.inHand, Course.givenUp, Metrics.tick_self] using hshare
  | looked hgoing hwaiting hpoll =>
    simp [Course.inHand, Course.givenUp, Metrics.tick_self, hwaiting]
  | triggered b hgoing hwaiting hpoll =>
    simp [Course.inHand, Course.givenUp, Metrics.tick_count, hwaiting]
  | built s hgoing hbuilding =>
    simp [Course.inHand, Course.givenUp, Metrics.tick_count, hbuilding]
  | published report hpublishing =>
    simp [Course.inHand, Course.givenUp, Metrics.tick_self, hpublishing]
  | failed f hgoing hbuilding =>
    simp [Course.inHand, Course.givenUp, Metrics.tick_count, hbuilding]
  | _ => simp [Course.inHand, Course.givenUp, Metrics.tick_self, Metrics.tick_count]

theorem Move.builds (h : Move g i c ns m c') :
    ns.countP Notice.isBuilt = g.metrics.tick m (.build true) := by
  cases h with
  | triggered b hgoing hwaiting hpoll => rw [Metrics.tick_count]; rfl
  | built s hgoing hbuilding => rw [Metrics.tick_count]; rfl
  | failed f hgoing hbuilding => rw [isBuilt_report, Metrics.tick_count]; rfl
  | interrupted f hgoing => rw [isBuilt_report, Metrics.tick_count]; rfl
  | signalled hgoing => rw [Metrics.tick_count]; rfl
  | resynced hgoing => rw [Metrics.tick_count]; rfl
  | _ => rw [Metrics.tick_self]; rfl

theorem Move.reports (h : Move g i c ns m c') :
    ns.countP Notice.isFailure = if g.hooked then
      g.metrics.tick m (.build false) + g.metrics.tick m .subscriptionFailure else 0 := by
  cases h with
  | failed f hgoing hbuilding => rw [isFailure_report, Metrics.tick_count, Metrics.tick_count]; rfl
  | interrupted f hgoing => rw [isFailure_report, Metrics.tick_count, Metrics.tick_count]; rfl
  | triggered b hgoing hwaiting hpoll => simp [Metrics.tick_count, Notice.isFailure]
  | built s hgoing hbuilding => simp [Metrics.tick_count, Notice.isFailure]
  | published report hpublishing => simp [Metrics.tick_self, Notice.isFailure]
  | _ => simp [Metrics.tick_self, Metrics.tick_count]

end

theorem Step.hooked {g g' : Effort} {ns : List Notice} (h : Step g ns g') :
    g'.hooked = g.hooked := by
  cases h <;> rfl

def Tally.advance (n : Tally) (m m' : Metrics) : Tally := fun k => n k + m.tick m' k

theorem Tally.advance_self (n : Tally) (m : Metrics) : n.advance m m = n := by
  funext k
  simp [advance, Metrics.tick_self]

theorem Balanced.moved {n : Tally} {ns ms : List Notice} {g : Effort} (h : Balanced n ns g)
    {i : Nat} {c c' : Course} {m : Metrics} (hc : g.courses[i]? = some c)
    (hmove : Move g i c ms m c') :
    Balanced (n.advance g.metrics m) (ns ++ ms)
      { g with metrics := m, courses := g.courses.set i c' } := by
  have howed := sum_set hc c' Course.owed
  have hinHand := sum_set hc c' Course.inHand
  have hgivenUp := sum_set hc c' Course.givenUp
  obtain ⟨hcounted, hcharged, hbegun, hended, hbuilt, hfailed⟩ := h
  refine ⟨?_, ?_, ?_, ?_, ?_, ?_⟩
  · intro k hk
    rw [hmove.counts k, hcounted k hk, ← UInt64.ofNat_add]
    rfl
  · have hpaid := hmove.charges
    simp only [total, List.length_set, Tally.advance] at hcharged ⊢
    omega
  · have hpaid := hmove.begins
    simp only [total, Tally.advance] at hbegun ⊢
    omega
  · have hpaid := hmove.ends
    simp only [total, Tally.advance] at hended ⊢
    omega
  · rw [List.countP_append, hbuilt, hmove.builds]
    rfl
  · rw [List.countP_append, hfailed, hmove.reports]
    simp only [Tally.advance]
    split
    · omega
    · rfl

theorem Balanced.uncounted {n : Tally} {ns ms : List Notice} {g g' : Effort}
    (h : Balanced n (ns ++ ms) g') (hsame : g'.metrics = g.metrics) :
    Balanced (n.advance g.metrics g'.metrics) (ns ++ ms) g' := by
  rw [hsame, Tally.advance_self]
  exact h

theorem Balanced.step {n : Tally} {ns ms : List Notice} {g g' : Effort} (h : Balanced n ns g)
    (hstep : Step g ms g') : Balanced (n.advance g.metrics g'.metrics) (ns ++ ms) g' := by
  cases hstep with
  | quiet hns =>
    refine .uncounted ?_ rfl
    have hnone : ∀ p : Notice → Bool, (∀ n : Notice, n.isEffort = false → p n = false) →
        ms.countP p = 0 := by
      intro p hp
      refine List.countP_eq_zero.2 fun n hn => ?_
      simp [hp n (hns n hn)]
    have hbuilt := hnone Notice.isBuilt fun n hn => by cases n <;> first | rfl | exact hn
    have hfailed := hnone Notice.isFailure fun n hn => by cases n <;> first | rfl | exact hn
    refine ⟨h.counted, h.charged, h.begun, h.ended, ?_, ?_⟩
    · rw [List.countP_append, hbuilt]
      exact h.built
    · rw [List.countP_append, hfailed]
      exact h.failed
  | passed nanos =>
    refine .uncounted ?_ rfl
    rw [List.append_nil]
    exact ⟨h.counted, h.charged, h.begun, h.ended, h.built, h.failed⟩
  | begun service =>
    -- what a session owes as it begins is charged to its beginning
    refine .uncounted ?_ rfl
    have howed : (g.fresh service).owed = 1 := rfl
    rw [List.append_nil]
    refine ⟨h.counted, ?_, ?_, ?_, h.built, h.failed⟩
    · have hcharged := h.charged
      simp only [total, List.map_append, List.sum_append, List.length_append] at hcharged ⊢
      simp only [List.map_cons, List.map_nil, List.sum_cons, List.sum_nil, howed,
        List.length_singleton]
      omega
    · simpa [total, Course.inHand, fresh] using h.begun
    · simpa [total, Course.inHand, Course.givenUp, fresh] using h.ended
  | halted hit =>
    refine .uncounted ?_ rfl
    have hlength : (g.halt hit).courses.length = g.courses.length := List.length_mapIdx
    have howed := total_halt g hit (f := Course.owed) fun _ _ => rfl
    have hinHand := total_halt g hit (f := Course.inHand) fun _ _ => rfl
    have hgivenUp := total_halt g hit (f := Course.givenUp) fun _ _ => rfl
    rw [List.append_nil]
    refine ⟨h.counted, ?_, ?_, ?_, h.built, h.failed⟩
    · rw [howed, hlength]
      exact h.charged
    · rw [hinHand]
      exact h.begun
    · rw [hinHand, hgivenUp]
      exact h.ended
  | moved hc hmove => exact h.moved hc hmove

end Effort

/-! ## Sessions -/

namespace Resolver

/-- Whether an event begins a session: a call that is let watch a service that nobody watches. -/
def beginsSession (r : Resolver) : Event → Bool
  | .watch service _ =>
    r.call?.isNone && (r.permit service).toBool && (r.watched.find? service).isNone
  | _ => false

def sessionsBegun (r : Resolver) : List Event → Nat
  | [] => 0
  | e :: rest => (r.beginsSession e).toNat + sessionsBegun (r.react e).1 rest

/-- How often a counter is advanced in a run. -/
def ticks (k : Metrics.Count) (r : Resolver) : List Event → Nat
  | [] => 0
  | e :: rest => r.metrics.tick (r.react e).1.metrics k + ticks k (r.react e).1 rest

theorem length_addWatch (r : Resolver) (service : String) (w : WatcherId) :
    (r.addWatch service w).1.sessions.length = r.sessions.length +
      ((r.permit service).toBool && (r.watched.find? service).isNone).toNat := by
  rcases r.addWatch_cases service w with ⟨f, hpermit, heq⟩ | ⟨hpermit, ⟨i, hwatched, heq⟩ |
    ⟨hwatched, heq⟩⟩
  · rw [heq]
    simp [hpermit, Except.toBool]
  · rw [heq]
    have hservices := map_sessions_join aspect_service r i w
    simpa [hwatched] using congrArg List.length hservices
  · rw [heq]
    simp [begin, hpermit, hwatched, Except.toBool]

theorem length_react (r : Resolver) (e : Event) :
    (r.react e).1.sessions.length = r.sessions.length + (r.beginsSession e).toNat := by
  have hcall : ∀ call : Resolver → Resolver,
      (∃ hit, (call r).sessions.map Session.service =
        halted id hit (r.sessions.map Session.service)) →
      (r.whenFree call).sessions.length = r.sessions.length := by
    rintro call ⟨hit, hsame⟩
    rcases r.whenFree_cases call with heq | ⟨-, heq⟩
    · rw [heq]
    · rw [heq]
      simpa [halted_id] using congrArg List.length hsame
  have haspect : Session.Aspect Session.service id := ⟨fun _ _ => rfl, fun _ => rfl⟩
  cases e with
  | watch service w =>
    change (r.whenFree fun r => (r.addWatch service w).1).sessions.length = _
    cases hheld : r.call? with
    | none =>
      rw [whenFree_of_free hheld, length_addWatch]
      simp [beginsSession, hheld]
    | some c =>
      rw [whenFree_of_held hheld]
      simp [beginsSession, hheld]
  | unwatch service w =>
    exact hcall (·.delWatch service w)
      ⟨fun _ => false, by rw [map_sessions_delWatch haspect, halted_id]⟩
  | stop => exact hcall stop (map_sessions_stop haspect r)
  | drop => exact hcall drop ⟨_, map_sessions_cancelAll haspect r⟩
  | proceed service =>
    obtain ⟨hit, hsame⟩ := map_sessions_proceed haspect r service
    rw [halted_id] at hsame
    simpa [react, beginsSession] using congrArg List.length hsame
  | change c => rfl
  | step t => exact r.length_step t
  | pass nanos => rfl

theorem length_run (r : Resolver) (events : List Event) :
    (r.run events).1.sessions.length = r.sessions.length + r.sessionsBegun events := by
  induction events generalizing r with
  | nil => rfl
  | cons e rest ih =>
    have hrest := ih (r.react e).1
    rw [length_react] at hrest
    simp only [run_cons, sessionsBegun]
    omega

theorem hooked_run (r : Resolver) (events : List Event) :
    (r.run events).1.hooked = r.hooked := by
  induction events generalizing r with
  | nil => rfl
  | cons e rest ih =>
    exact (ih (r.react e).1).trans (r.effort_react e).hooked

theorem tick_work {k : Metrics.Count} (hk : k.isWork = true) (q r : Resolver) :
    r.effort.metrics.tick q.effort.metrics k = r.metrics.tick q.metrics k := by
  simp only [Metrics.tick, effort, Metrics.counter_work _ hk]

theorem balanced_congr {n n' : Effort.Tally} {ns : List Notice} {g : Effort}
    (h : Effort.Balanced n ns g) (hsame : ∀ k : Metrics.Count, k.isWork = true → n' k = n k) :
    Effort.Balanced n' ns g := by
  obtain ⟨hcounted, hcharged, hbegun, hended, hbuilt, hfailed⟩ := h
  rw [← hsame _ rfl, ← hsame _ rfl, ← hsame _ rfl, ← hsame _ rfl] at hcharged
  rw [← hsame _ rfl, ← hsame _ rfl, ← hsame _ rfl] at hbegun hended
  rw [← hsame _ rfl] at hbuilt
  rw [← hsame _ rfl, ← hsame _ rfl] at hfailed
  exact ⟨fun k hk => (hcounted k hk).trans (by rw [hsame k hk]), hcharged, hbegun, hended, hbuilt,
    hfailed⟩

theorem balanced_run {r : Resolver} {n : Effort.Tally} {ns : List Notice}
    (h : Effort.Balanced n ns r.effort) (events : List Event) :
    Effort.Balanced (fun k => n k + r.ticks k events) (ns ++ (r.run events).2)
      (r.run events).1.effort := by
  induction events generalizing r n ns with
  | nil => simpa [ticks] using h
  | cons e rest ih =>
    have hnext := ih (h.step (r.effort_react e))
    rw [List.append_assoc] at hnext
    refine balanced_congr hnext fun k hk => ?_
    simp only [ticks, Effort.Tally.advance, tick_work hk]
    omega

end Resolver

/-! ## Revisions -/

theorem sum_map_indicator {services : List String} (hnodup : services.Nodup) {owner : String}
    (howner : owner ∈ services) (f : String → Nat) :
    (services.map fun a => (if owner = a then 1 else 0) + f a).sum = 1 + (services.map f).sum := by
  induction services with
  | nil => exact absurd howner List.not_mem_nil
  | cons a rest ih =>
    obtain ⟨ha, hrest⟩ := List.nodup_cons.1 hnodup
    simp only [List.map_cons, List.sum_cons]
    by_cases heq : owner = a
    · have hothers : (rest.map fun b => (if owner = b then 1 else 0) + f b) = rest.map f := by
        refine List.map_congr_left ?_
        intro b hb
        have hne : owner ≠ b := fun h => ha (heq ▸ h ▸ hb)
        rw [if_neg hne, Nat.zero_add]
      rw [hothers, if_pos heq]
      omega
    · have hmem : owner ∈ rest := (List.mem_cons.1 howner).resolve_left heq
      rw [ih hrest hmem, if_neg heq]
      omega

theorem builds_cons (service : String) (n : Notice) (ns : List Notice) :
    builds service (n :: ns) = builds service [n] ++ builds service ns :=
  builds_append service [n] ns

theorem countP_isBuilt {services : List String} (hnodup : services.Nodup)
    {ns : List Notice} (hknown : ∀ service, builds service ns ≠ [] → service ∈ services) :
    ns.countP Notice.isBuilt =
      (services.map fun service => (builds service ns).length).sum := by
  induction ns with
  | nil =>
    simp only [builds_nil, List.countP_nil, List.length_nil, List.map_const',
      List.sum_replicate_nat, Nat.mul_zero]
  | cons n rest ih =>
    have hrest := ih fun service hservice => hknown service (by
      rw [builds_cons]
      simp [hservice])
    cases n with
    | built i owner s =>
      have howner : owner ∈ services := by
        refine hknown owner ?_
        rw [builds_cons, builds_built, if_pos rfl]
        simp
      have hlength : ∀ service, (builds service
          (.built i owner s :: rest)).length =
            (if owner = service then 1 else 0) + (builds service rest).length := by
        intro service
        rw [builds_cons, builds_built, List.length_append]
        split <;> rfl
      simp only [hlength]
      rw [sum_map_indicator hnodup howner, ← hrest, List.countP_cons_of_pos rfl, Nat.add_comm]
    | _ => exact hrest

namespace Ledger

theorem Reached.known {buffer : Nat} {ns : List Notice} {g : Ledger} (h : Reached buffer ns g)
    {service : String} (hbuilt : builds service ns ≠ []) :
    (g.histories.find? service).isSome = true := by
  induction h with
  | create => exact absurd rfl hbuilt
  | @step ns ms g g' hreached hstep ih =>
    by_cases hbefore : builds service ns = []
    · rw [builds_append, hbefore, List.nil_append] at hbuilt
      cases hstep with
      | quiet hns => exact absurd (builds_quiet hns service) hbuilt
      | delivered t hd => exact absurd (builds_deliveryNotices _ _ _ _ _) hbuilt
      | @built i d s hd hcancelled hready hrevision =>
        rw [builds_built] at hbuilt
        split at hbuilt
        · next hservice =>
          subst hservice
          exact Option.isSome_iff_exists.2 ⟨_, Dict.find?_insert_self _ _ _⟩
        · exact absurd rfl hbuilt
      | _ => exact absurd rfl hbuilt
    · exact hstep.isSome_history (ih hbefore)

theorem Reached.revision_entries {buffer : Nat} {ns : List Notice} {g : Ledger}
    (h : Reached buffer ns g) :
    g.histories.entries.map (·.2.revision) =
      g.histories.keys.map fun service => UInt64.ofNat (builds service ns).length := by
  simp only [Dict.keys, List.map_map]
  refine List.map_congr_left ?_
  rintro ⟨service, history⟩ hmem
  have hfound := g.histories.find?_eq_some_of_mem hmem
  have hrevision := (h.revisions service).2
  simpa [historyOf, hfound] using hrevision

theorem Reached.countP_isBuilt {buffer : Nat} {ns : List Notice} {g : Ledger}
    (h : Reached buffer ns g) :
    ns.countP Notice.isBuilt =
      (g.histories.keys.map fun service => (builds service ns).length).sum :=
  Lookout.countP_isBuilt g.histories.keys_nodup fun _ hbuilt =>
    g.histories.mem_keys.2 (h.known hbuilt)

end Ledger

theorem sum_map_ofNat (xs : List String) (f : String → Nat) :
    (xs.map fun a => UInt64.ofNat (f a)).sum = UInt64.ofNat (xs.map f).sum := by
  induction xs with
  | nil => rfl
  | cons a rest ih =>
    rw [List.map_cons, List.sum_cons, List.map_cons, List.sum_cons, ih, UInt64.ofNat_add]

namespace Resolver

/-- How the counters of a resolver add up after a run. -/
structure AddsUp (start : Resolver) (events : List Event) : Prop where
  /-- A counter shows how often it has been advanced, up to where it starts again. -/
  counted : ∀ k : Metrics.Count, k.isWork = true →
    (start.run events).1.metrics.counter k = UInt64.ofNat (start.ticks k events)
  exact : ∀ k : Metrics.Count, k.isWork = true → start.ticks k events < UInt64.size →
    ((start.run events).1.metrics.counter k).toNat = start.ticks k events
  asked : start.ticks .evaluation events ≤ start.sessionsBegun events +
    start.ticks .signal events + start.ticks .resync events +
    start.ticks .subscriptionFailure events
  begun : start.ticks (.build true) events + start.ticks (.build false) events ≤
    start.ticks .evaluation events
  ended : start.ticks .evaluation events ≤ start.ticks (.build true) events +
    start.ticks (.build false) events + start.sessionsBegun events
  /-- Revisions have 64 bits as the counter has, and so has their sum. -/
  numbered : (start.run events).1.metrics.builds =
    ((start.run events).1.histories.entries.map (·.2.revision)).sum
  /-- While no revision has wrapped, the sum is one of numbers. -/
  unwrapped : (∀ service, (builds service (start.run events).2).length < UInt64.size) →
    start.ticks (.build true) events =
      ((start.run events).1.histories.entries.map (·.2.revision.toNat)).sum
  reported : (start.run events).2.countP Notice.isFailure = if start.hooked then
    start.ticks (.build false) events + start.ticks .subscriptionFailure events else 0

variable (name : String) (config : ResolverConfig) (source : Source) (backoff : Backoff)
  (hooked : Bool) (stamp : String)

/-- Whatever happens to a resolver, its evaluations are covered by what asked for them, all but one
for each session have ended with a build that succeeded or failed, the revisions of its services
count the builds that succeeded, and its hook has been called for every failure. -/
theorem counters_add_up (events : List Event) :
    AddsUp (create name config source backoff hooked stamp) events := by
  have hreached := Ledger.reached_run name config source backoff hooked stamp events
  have hlength := (create name config source backoff hooked stamp).length_run events
  have hhooked := (create name config source backoff hooked stamp).hooked_run events
  have hstart : Effort.Balanced (fun _ => 0) []
      (create name config source backoff hooked stamp).effort := by
    refine ⟨?_, Nat.le_refl _, Nat.le_refl _, Nat.le_refl _, rfl, by cases hooked <;> rfl⟩
    intro k hk
    obtain _ | _ | _ | (_ | _) | _ | (_ | _) := k <;> rfl
  have hbalanced := balanced_run hstart events
  rw [List.nil_append] at hbalanced
  have hnone : (create name config source backoff hooked stamp).sessions.length = 0 := rfl
  generalize create name config source backoff hooked stamp = start at *
  have hticks : ∀ k : Metrics.Count, k.isWork = true →
      start.ticks k events = 0 + start.ticks k events := fun k _ => (Nat.zero_add _).symm
  replace hbalanced := balanced_congr hbalanced hticks
  have hstarts : (start.run events).1.effort.courses.length = start.sessionsBegun events := by
    simpa [effort, courses, hnone] using hlength
  have hcounted : ∀ k : Metrics.Count, k.isWork = true →
      (start.run events).1.metrics.counter k = UInt64.ofNat (start.ticks k events) := by
    intro k hk
    rw [← hbalanced.counted k hk]
    exact (Metrics.counter_work _ hk).symm
  have hbuilt : start.ticks (.build true) events =
      ((start.run events).1.histories.keys.map fun service =>
        (builds service (start.run events).2).length).sum :=
    hbalanced.built.symm.trans hreached.countP_isBuilt
  have hentries : (start.run events).1.histories.entries.map (·.2.revision) =
      (start.run events).1.histories.keys.map fun service =>
        UInt64.ofNat (builds service (start.run events).2).length := hreached.revision_entries
  refine ⟨hcounted, ?_, ?_, ?_, ?_, ?_, ?_, ?_⟩
  · intro k hk hfew
    rw [hcounted k hk]
    exact UInt64.toNat_ofNat_of_lt hfew
  · have hcharged := hbalanced.charged
    rw [hstarts] at hcharged
    exact Nat.le_trans (Nat.le_add_right _ _) hcharged
  · exact Nat.le_trans (Nat.le_add_right _ _) hbalanced.begun
  · have hone := (start.run events).1.effort.total_inHand_add_total_givenUp_le
    rw [hstarts] at hone
    refine Nat.le_trans hbalanced.ended ?_
    rw [Nat.add_assoc]
    exact Nat.add_le_add_left hone _
  · rw [hentries, sum_map_ofNat, ← hbuilt]
    exact hcounted (.build true) rfl
  · intro hfew
    have hnumbers := congrArg (List.map UInt64.toNat) hentries
    rw [List.map_map, List.map_map] at hnumbers
    rw [hbuilt]
    refine congrArg List.sum (hnumbers.trans ?_).symm
    refine List.map_congr_left ?_
    intro service _
    exact UInt64.toNat_ofNat_of_lt (hfew service)
  · rw [← show (start.run events).1.effort.hooked = start.hooked from hhooked]
    exact hbalanced.failed

/-- A build that fails, a subscription that is lost and made again, and a second session. -/
def setbacks : List Event :=
  [.watch "a" "w", .proceed "a", .change (.failLists (some "down")), .step (.evaluate 0),
    .step (.evaluate 0), .step (.ingest 0), .change (.closeSubscriptions "a"), .step (.ingest 0),
    .change (.failLists none), .pass 100000000, .step (.ingest 0), .step (.ingest 0),
    .pass 200000000, .step (.evaluate 0), .step (.evaluate 0), .step (.evaluate 0),
    .unwatch "a" "w", .proceed "a", .proceed "a", .proceed "a", .watch "a" "v", .proceed "a",
    .step (.evaluate 1), .step (.evaluate 1)]

theorem counters_add_up_over_sessions :
    (((create "r" (.create "n" ["http"]) (.memory .empty) .standard true "").run
      setbacks).1.histories.entries.map (·.2.revision.toNat)).sum = 2 ∧
    ((create "r" (.create "n" ["http"]) (.memory .empty) .standard true "").run
      setbacks).2.countP Notice.isFailure = 2 := by
  have hadds := counters_add_up "r" (.create "n" ["http"]) (.memory .empty) .standard true ""
    setbacks
  refine ⟨?_, ?_⟩
  · rw [← hadds.unwrapped]
    · decide
    · intro service
      exact Nat.lt_of_le_of_lt (List.length_filterMap_le _ _) (by decide)
  · rw [hadds.reported]
    decide

end Resolver

end Lookout
