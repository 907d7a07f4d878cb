import Lookout.Proofs.Debouncer.Waiting

/-!
# Many calls, few evaluations

Something is pending exactly when an evaluation has been asked for since the last trigger, so no
request is lost, and no more triggers are returned than requests were made.

In a time shorter than the window all triggers but the first are forced or catch-ups, and a catch-up
answers signals that came during the evaluation just before it. Evaluations that are overrun one
after the other therefore follow each other without a pause (`catch_ups_in_a_row`).
-/
set_option autoImplicit false

namespace Lookout.Debouncer

/-! ## Requests -/

theorem Past.isRequested_of_due? {p : Past} {window : Duration} {now : Instant} {trigger : Trigger}
    (h : p.due? window now = some trigger) : p.isRequested = true := by
  unfold due? at h
  split at h
  · next hforce =>
    rw [isRequested_eq, hforce]
    exact Bool.or_true _
  · split at h
    · next hover => exact isRequested_of_isOverrun hover
    · rw [isRequested_eq]
      cases hsignal : p.lastSignal? with
      | some t => rfl
      | none =>
        rw [hsignal] at h
        simp at h

def Event.isRequest : Event → Bool
  | .call c => c.isRequest
  | _ => false

namespace Scene

variable {window : Duration} {s : Scene}

/-- The triggers that were returned and the requests since the last of them. -/
def charge (s : Scene) : Nat := s.rounds.length + s.past.calls.countP fun c => c.2.isRequest

theorem charge_react (h : Sound window s) (e : Event) :
    (s.react e).charge ≤ s.charge + [e].countP Event.isRequest := by
  cases e with
  | call c =>
    simp only [charge, react, Past.add, List.countP_append, Nat.add_assoc]
    exact Nat.le_refl _
  | wait => exact Nat.le_add_right _ _
  | giveUp => exact Nat.le_add_right _ _
  | pass nanos => exact Nat.le_add_right _ _
  | look =>
    simp only [react]
    rcases s.look_cases with hlook | ⟨_, _, -, -, hlook⟩ | ⟨_, _, trigger, -, hdue, hlook⟩
    · rw [hlook]
      exact Nat.le_add_right _ _
    · rw [hlook]
      exact Nat.le_add_right _ _
    · rw [hlook]
      rw [h.recalls.due?_eq] at hdue
      have hrequested := Past.isRequested_of_due? hdue
      have hpaid : 0 < s.past.calls.countP fun c => c.2.isRequest :=
        List.countP_pos_iff.2 (List.any_eq_true.1 hrequested)
      simp only [charge, List.length_append, List.length_singleton, List.countP_nil]
      omega

theorem charge_run (h : Sound window s) (events : List Event) :
    (s.run events).charge ≤ s.charge + events.countP Event.isRequest := by
  induction events generalizing s with
  | nil => exact Nat.le_refl _
  | cons e rest ih =>
    have hfirst := charge_react h e
    have hrest := ih (h.react e)
    have hsplit : (e :: rest).countP Event.isRequest =
        [e].countP Event.isRequest + rest.countP Event.isRequest := by
      rw [← List.countP_append]
      rfl
    rw [run_cons, hsplit]
    omega

/-! ## Rounds -/

structure Ordered (s : Scene) : Prop where
  apart : s.rounds.Pairwise fun r q => ∀ c ∈ q.past.calls, r.time ≤ c.1
  reached : ∀ r ∈ s.rounds, r.time ≤ s.now
  since : ∀ r ∈ s.rounds, ∀ c ∈ s.past.calls, r.time ≤ c.1

theorem ordered_start (window : Duration) : Ordered (start window) where
  apart := List.Pairwise.nil
  reached := by simp [start]
  since := by simp [start]

theorem Ordered.look (h : Ordered s) : Ordered s.look.1 := by
  rcases s.look_cases with hlook | ⟨_, _, -, -, hlook⟩ | ⟨_, _, trigger, -, -, hlook⟩
  · rw [hlook]
    exact h
  · rw [hlook]
    exact ⟨h.apart, h.reached, h.since⟩
  · rw [hlook]
    refine ⟨?_, ?_, by simp⟩
    · refine List.pairwise_append.2 ⟨h.apart, List.pairwise_singleton _ _, ?_⟩
      intro r hr q hq
      rw [List.mem_singleton.1 hq]
      exact h.since r hr
    · intro r hr
      rcases List.mem_append.1 hr with hold | hnew
      · exact h.reached r hold
      · cases List.mem_singleton.1 hnew
        exact Nat.le_refl _

theorem Ordered.react (h : Ordered s) (e : Event) : Ordered (s.react e) := by
  cases e with
  | call c =>
    refine ⟨h.apart, h.reached, ?_⟩
    intro r hr call hcall
    rcases List.mem_append.1 hcall with hold | hnew
    · exact h.since r hr call hold
    · rw [List.mem_singleton.1 hnew]
      exact h.reached r hr
  | wait => exact ⟨h.apart, h.reached, h.since⟩
  | giveUp => exact ⟨h.apart, h.reached, h.since⟩
  | pass nanos =>
    exact ⟨h.apart, fun r hr => Nat.le_add_right_of_le (h.reached r hr), h.since⟩
  | look => exact h.look

theorem ordered_run (window : Duration) (events : List Event) :
    Ordered ((start window).run events) :=
  run_keeps (fun _ e h => h.react e) (ordered_start window) events

end Scene

/-- Something is pending exactly when a signal or a force came since the last trigger. There was one
before every trigger since the one before it, so there are no more triggers than such calls. -/
theorem pending_iff_requested (window : Duration) (events : List Event) :
    let s := (Scene.start window).run events
    s.debouncer.isPending = s.past.isRequested ∧
    (∀ r ∈ s.rounds, r.past.isRequested = true) ∧
    s.rounds.length ≤ events.countP Event.isRequest := by
  intro s
  have hsound : Scene.Sound window s := Scene.sound_run window events
  refine ⟨hsound.recalls.isPending_eq, ?_, ?_⟩
  · intro r hr
    exact Past.isRequested_of_due? (hsound.due r hr)
  · have hcharge : s.charge ≤ 0 + events.countP Event.isRequest :=
      Scene.charge_run (Scene.sound_start window) events
    simp only [Scene.charge] at hcharge
    omega

/-! ## Triggers within a window -/

namespace Round

def isForced (r : Round) : Bool := r.past.firstForce?.isSome

def isWithin (a b : Instant) (r : Round) : Bool := a ≤ r.time && r.time ≤ b

/-- A trigger that comes less than a window after another is forced or a catch-up. -/
theorem catchUp_of_close {window : Duration} {r q : Round}
    (hdue : q.past.due? window q.time = some q.trigger)
    (hafter : ∀ c ∈ q.past.calls, r.time ≤ c.1) (hclose : q.time < r.time + window.nanos)
    (hfree : q.isForced = false) : q.trigger = .catchUp ∧ q.past.isOverrun = true := by
  have hforce : q.past.firstForce? = none := by
    simpa [isForced] using hfree
  simp only [Past.due?, hforce] at hdue
  split at hdue
  · next hover => exact ⟨(Option.some.inj hdue).symm, hover⟩
  · -- a debounced trigger is a window away from its last signal
    exfalso
    split at hdue
    · next hreached =>
      obtain ⟨t, hsignal, hold⟩ := (Option.any_eq_true _ _).1 hreached
      obtain ⟨c, hlast, rfl⟩ := Option.map_eq_some_iff.1 hsignal
      have hmem : c ∈ q.past.calls := (List.mem_filter.1 (List.mem_of_getLast? hlast)).1
      have hwindow : c.1 + window.nanos ≤ q.time := of_decide_eq_true hold
      have hapart : r.time + window.nanos ≤ q.time :=
        Nat.le_trans (Nat.add_le_add_right (hafter c hmem) _) hwindow
      exact Nat.not_lt.2 hapart hclose
    · contradiction

end Round

theorem Scene.catchUp_of_within {window : Duration} {s : Scene} (hsound : Scene.Sound window s)
    (hordered : Scene.Ordered s) {a b : Instant} (hshort : b < a + window.nanos) :
    ∀ q ∈ (s.rounds.filter (Round.isWithin a b)).tail, q.isForced = false →
      q.trigger = .catchUp ∧ q.past.isOverrun = true := by
  have hmem : ∀ r ∈ s.rounds.filter (Round.isWithin a b),
      r ∈ s.rounds ∧ a ≤ r.time ∧ r.time ≤ b := by
    intro r hr
    obtain ⟨hround, hwithin⟩ := List.mem_filter.1 hr
    simp only [Round.isWithin, Bool.and_eq_true, decide_eq_true_eq] at hwithin
    exact ⟨hround, hwithin⟩
  have hapart := hordered.apart.filter (Round.isWithin a b)
  cases hwithin : s.rounds.filter (Round.isWithin a b) with
  | nil => simp
  | cons r rest =>
    rw [hwithin] at hmem hapart
    obtain ⟨-, hfrom, -⟩ := hmem r List.mem_cons_self
    intro q hq hfree
    obtain ⟨hround, -, hupTo⟩ := hmem q (List.mem_cons_of_mem r hq)
    have hafter : ∀ c ∈ q.past.calls, r.time ≤ c.1 := (List.pairwise_cons.1 hapart).1 q hq
    have hclose : q.time < r.time + window.nanos :=
      Nat.lt_of_le_of_lt hupTo (Nat.lt_of_lt_of_le hshort (Nat.add_le_add_right hfrom _))
    exact Round.catchUp_of_close (hsound.due q hround) hafter hclose hfree

theorem countP_le_of_tail {α : Type} {p q : α → Bool} {xs : List α}
    (h : ∀ x ∈ xs.tail, p x = true → q x = true) : xs.countP p ≤ 1 + xs.tail.countP q := by
  cases xs with
  | nil => exact Nat.zero_le _
  | cons x rest =>
    have hrest : rest.countP p ≤ rest.countP q := List.countP_mono_left h
    have hfirst : (x :: rest).countP p ≤ rest.countP p + 1 := by
      rw [List.countP_cons]
      split <;> omega
    rw [List.tail_cons]
    omega

/-- In a time shorter than the window all triggers but the first are forced, or catch-ups for
signals during the evaluation just before. So there is at most one trigger that is not forced, and
one more for every evaluation that was overrun. -/
theorem unforced_within_window (window : Duration) (events : List Event) {a b : Instant}
    (hshort : b < a + window.nanos) :
    let within := ((Scene.start window).run events).rounds.filter (Round.isWithin a b)
    (∀ r ∈ within.tail, r.isForced = false → r.trigger = .catchUp ∧ r.past.isOverrun = true) ∧
    within.countP (fun r => !r.isForced) ≤ 1 + within.tail.countP fun r => r.past.isOverrun := by
  intro within
  have hcatchUp : ∀ r ∈ within.tail, r.isForced = false →
      r.trigger = .catchUp ∧ r.past.isOverrun = true :=
    Scene.catchUp_of_within (Scene.sound_run window events) (Scene.ordered_run window events) hshort
  refine ⟨hcatchUp, countP_le_of_tail ?_⟩
  intro r hr hfree
  exact (hcatchUp r hr (by simpa using hfree)).2

/-- Every trigger is followed by a completion before the next wait. -/
def Scene.Completes : Scene → List Event → Prop
  | _, [] => True
  | s, .wait :: rest => s.past.isInFlight = false ∧ Completes (s.react .wait) rest
  | s, e :: rest => Completes (s.react e) rest

def overruns : List Event :=
  [.call .signal, .wait, .look, .look, .pass 200000000, .look,
    .pass 10000000, .call .signal, .pass 10000000, .call .complete, .wait, .look,
    .pass 10000000, .call .signal, .pass 10000000, .call .complete, .wait, .look]

/-- Three triggers within 40 milliseconds, two of them for evaluations that were overrun. -/
theorem unforced_within_window_of_overruns :
    let within := ((Scene.start (.ofMillis 200)).run overruns).rounds.filter
      (Round.isWithin 200000000 240000000)
    within.countP (fun r => !r.isForced) = 3 ∧
      within.countP (fun r => !r.isForced) ≤ 1 + within.tail.countP fun r => r.past.isOverrun := by
  have hshort : 240000000 < 200000000 + (Duration.ofMillis 200).nanos := by decide +kernel
  exact ⟨by decide +kernel, (unforced_within_window (.ofMillis 200) overruns hshort).2⟩

/-- A time shorter than the window can hold more than two triggers that are not forced, even when
every evaluation is completed before the next wait and nobody is late. -/
theorem catch_ups_in_a_row :
    ¬∀ (window : Duration) (events : List Event) (a b : Instant),
      (Scene.start window).Prompt events → (Scene.start window).Completes events →
      b < a + window.nanos →
      (((Scene.start window).run events).rounds.filter (Round.isWithin a b)).countP
        (fun r => !r.isForced) ≤ 2 := by
  intro hall
  have hthree := hall (.ofMillis 200) overruns 200000000 240000000 (by decide +kernel)
    (by refine ⟨?_, ?_, ?_, trivial⟩ <;> decide +kernel) (by decide +kernel)
  revert hthree
  decide +kernel

end Lookout.Debouncer
