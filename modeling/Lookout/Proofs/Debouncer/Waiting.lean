import Lookout.Proofs.Debouncer.Timeline

/-!
# Waiting for a trigger

A wait ends at the first time at which a trigger is due, and with that trigger. What it rests on is
that no wake-up is lost: a waiter that sleeps although the bell has not rung since it looked waits
for the very deadline that is set (`Alert`). So it is awake whenever something is due, and time does
not pass over a waiter that is awake (`Scene.Prompt`).
-/
set_option autoImplicit false

namespace Lookout.Debouncer

/-! ## No wake-up is lost -/

/-- Whatever has become due since the waiter looked wakes it. -/
def Alert (d : Debouncer) : Waiter → Prop
  | .fresh => True
  | .parked until? =>
    d.bell = true ∨ (d.forced? = none ∧ d.catchUp = false ∧ d.deadline? = until?)

theorem Alert.apply {d : Debouncer} {w : Waiter} (h : Alert d w) (now : Instant) (c : Call) :
    Alert (d.apply now c) w := by
  cases w with
  | fresh => trivial
  | parked until? =>
    cases c with
    | signal =>
      refine Or.inl ?_
      simp only [Debouncer.apply, signal]
      split <;> rfl
    | force trigger => exact Or.inl rfl
    | complete =>
      rcases h with hbell | hasleep
      · refine Or.inl ?_
        simp [Debouncer.apply, complete, hbell]
      · exact Or.inr hasleep

theorem quiet_of_due?_eq_none {d : Debouncer} {now : Instant} (h : d.due? now = none) :
    d.forced? = none ∧ d.catchUp = false := by
  unfold due? at h
  split at h
  · contradiction
  · next hforced =>
    refine ⟨hforced, ?_⟩
    split at h
    · contradiction
    · next hcatchUp => exact Bool.eq_false_iff.2 hcatchUp

/-- When nothing is due but for the deadline, the deadline alone says from when on something is. -/
theorem isSome_due?_of_quiet {d : Debouncer} (hforced : d.forced? = none)
    (hcatchUp : d.catchUp = false) (t : Instant) :
    (d.due? t).isSome = d.deadline?.any (· ≤ t) := by
  simp only [due?, hforced, hcatchUp]
  cases hdeadline : d.deadline?.any (· ≤ t) <;> simp

theorem Alert.due?_eq_none {d : Debouncer} {w : Waiter} (h : Alert d w) {t : Instant}
    (hasleep : d.wakes t w = false) : d.due? t = none := by
  cases w with
  | fresh => contradiction
  | parked until? =>
    simp only [Debouncer.wakes, Bool.or_eq_false_iff] at hasleep
    obtain ⟨hbell, hearly⟩ := hasleep
    rcases h with hrung | ⟨hforced, hcatchUp, hdeadline⟩
    · rw [hbell] at hrung
      contradiction
    · have hnone := isSome_due?_of_quiet hforced hcatchUp t
      rw [hdeadline, hearly] at hnone
      exact Option.isNone_iff_eq_none.1 (Option.isSome_eq_false_iff.1 hnone)

theorem alert_hear {d : Debouncer} {now : Instant} (hdue : d.due? now = none) (w : Waiter) :
    Alert (d.hear w) (.parked d.deadline?) := by
  obtain ⟨hforced, hcatchUp⟩ := quiet_of_due?_eq_none hdue
  cases w with
  | fresh => exact Or.inr ⟨hforced, hcatchUp, rfl⟩
  | parked until? => exact Or.inr ⟨hforced, hcatchUp, rfl⟩

namespace Scene

variable {window : Duration} {s : Scene}

/-- What every event keeps, however late the waiter looks. -/
structure Sound (window : Duration) (s : Scene) : Prop where
  recalls : Recalls window s.debouncer s.past
  alert : ∀ began w, s.wait? = some (began, w) → Alert s.debouncer w
  times : ∀ c ∈ s.past.calls, c.1 ≤ s.now
  due : ∀ r ∈ s.rounds, r.past.due? window r.time = some r.trigger

theorem Sound.look (h : Sound window s) : Sound window s.look.1 := by
  rcases s.look_cases with hlook | ⟨began, w, -, hdue, hlook⟩ | ⟨began, w, trigger, -, hdue, hlook⟩
  · rw [hlook]
    exact h
  · rw [hlook]
    refine ⟨h.recalls.hear w, ?_, h.times, h.due⟩
    intro began' w' hwait
    obtain ⟨-, rfl⟩ := Prod.mk.inj (Option.some.inj hwait)
    exact alert_hear hdue w
  · rw [hlook]
    refine ⟨(h.recalls.hear w).fire, by simp, by simp, ?_⟩
    intro r hr
    rcases List.mem_append.1 hr with hold | hnew
    · exact h.due r hold
    · rw [List.mem_singleton.1 hnew, ← h.recalls.due?_eq]
      exact hdue

theorem Sound.react (h : Sound window s) (e : Event) : Sound window (s.react e) := by
  cases e with
  | call c =>
    refine ⟨h.recalls.apply s.now c, fun began w hwait => (h.alert began w hwait).apply s.now c,
      ?_, h.due⟩
    intro call hcall
    rcases List.mem_append.1 hcall with hold | hnew
    · exact h.times call hold
    · rw [List.mem_singleton.1 hnew]
      exact Nat.le_refl _
  | wait =>
    refine ⟨h.recalls, ?_, h.times, h.due⟩
    intro began w hwait
    obtain ⟨-, rfl⟩ := Prod.mk.inj (Option.some.inj hwait)
    trivial
  | giveUp => exact ⟨h.recalls, by simp [Scene.react], h.times, h.due⟩
  | pass nanos =>
    exact ⟨h.recalls, h.alert, fun c hc => Nat.le_add_right_of_le (h.times c hc), h.due⟩
  | look => exact h.look

theorem sound_start (window : Duration) : Sound window (start window) :=
  ⟨recalls_create window, by simp [start], by simp [start], by simp [start]⟩

theorem sound_run (window : Duration) (events : List Event) :
    Sound window ((start window).run events) :=
  run_keeps (fun _ e h => h.react e) (sound_start window) events

theorem Sound.look_eq (h : Sound window s) {began : Instant} {w : Waiter}
    (hwait : s.wait? = some (began, w)) : s.look.2 = s.past.due? window s.now := by
  rw [← h.recalls.due?_eq]
  rcases s.debouncer.poll_cases s.now w with ⟨hasleep, hpoll⟩ | ⟨-, hdue, hpoll⟩ |
    ⟨trigger, -, hdue, hpoll⟩
  · have hdue := (h.alert began w hwait).due?_eq_none hasleep
    simp [Scene.look, hwait, hpoll, hdue]
  · simp [Scene.look, hwait, hpoll, hdue]
  · simp [Scene.look, hwait, hpoll, hdue]

/-! ## Time does not pass over a waiter that is awake -/

def isAwakeAt (s : Scene) (t : Instant) : Bool :=
  s.wait?.any fun wait => s.debouncer.wakes t wait.2

/-- Whether an event can come when the clock goes on only while the waiter sleeps. -/
def Lets (s : Scene) : Event → Prop
  | .pass nanos => ∀ t, s.now ≤ t → t < s.now + nanos → s.isAwakeAt t = false
  | _ => True

/-- Every waiter looks before time goes on, once it is awake. -/
def Prompt : Scene → List Event → Prop
  | _, [] => True
  | s, e :: rest => s.Lets e ∧ Prompt (s.react e) rest

theorem isAwakeAt_mono {t u : Instant} (h : s.isAwakeAt t = true) (hle : t ≤ u) :
    s.isAwakeAt u = true := by
  obtain ⟨⟨began, w⟩, hwait, hawake⟩ := (Option.any_eq_true _ _).1 h
  refine (Option.any_eq_true _ _).2 ⟨(began, w), hwait, ?_⟩
  cases w with
  | fresh => rfl
  | parked until? =>
    simp only [Debouncer.wakes, Bool.or_eq_true] at hawake ⊢
    refine hawake.imp_right ?_
    intro hreached
    obtain ⟨deadline, hdeadline, hle'⟩ := (Option.any_eq_true _ _).1 hreached
    refine (Option.any_eq_true _ _).2 ⟨deadline, hdeadline, ?_⟩
    exact decide_eq_true (Nat.le_trans (of_decide_eq_true hle') hle)

/-- It is enough that the waiter sleeps at the last of the instants that pass. -/
theorem lets_pass_iff (s : Scene) (nanos : Nat) :
    s.Lets (.pass (nanos + 1)) ↔ s.isAwakeAt (s.now + nanos) = false := by
  constructor
  · intro h
    exact h (s.now + nanos) (Nat.le_add_right _ _) (Nat.lt_succ_self _)
  · intro hlast t _ hbefore
    refine Bool.eq_false_iff.2 fun hawake => ?_
    have hlater : s.isAwakeAt (s.now + nanos) = true :=
      isAwakeAt_mono hawake (Nat.le_of_lt_succ hbefore)
    rw [hlast] at hlater
    contradiction

instance (s : Scene) : (e : Event) → Decidable (s.Lets e)
  | .pass 0 => isTrue fun _ hfrom hbefore => absurd hbefore (Nat.not_lt.2 hfrom)
  | .pass (nanos + 1) => decidable_of_iff _ (s.lets_pass_iff nanos).symm
  | .call _ => isTrue trivial
  | .wait => isTrue trivial
  | .giveUp => isTrue trivial
  | .look => isTrue trivial

instance decidablePrompt : (s : Scene) → (events : List Event) → Decidable (s.Prompt events)
  | _, [] => isTrue trivial
  | s, e :: rest =>
    have := decidablePrompt (s.react e) rest
    inferInstanceAs (Decidable (s.Lets e ∧ (s.react e).Prompt rest))

/-- No wait, going on or over, has let a time pass at which something was due. -/
structure Vigilant (window : Duration) (s : Scene) : Prop where
  waiting : ∀ began w, s.wait? = some (began, w) →
    ∀ t, began ≤ t → t < s.now → (s.past.upTo t).due? window t = none
  ended : ∀ r ∈ s.rounds, ∀ t, r.began ≤ t → t < r.time → (r.past.upTo t).due? window t = none

end Scene

theorem Past.upTo_add {p : Past} {t now : Instant} (h : t < now) (c : Call) :
    (p.add now c).upTo t = p.upTo t := by
  simp [upTo, add, Nat.not_le.2 h]

theorem Past.upTo_eq_self {p : Past} {t : Instant} (h : ∀ c ∈ p.calls, c.1 ≤ t) :
    p.upTo t = p := by
  have hall : ∀ c ∈ p.calls, decide (c.1 ≤ t) = true := fun c hc => decide_eq_true (h c hc)
  simp only [upTo, List.filter_eq_self.2 hall]

namespace Scene

variable {window : Duration} {s : Scene}

theorem Sound.due?_eq_none_of_asleep (h : Sound window s) {began : Instant} {w : Waiter}
    (hwait : s.wait? = some (began, w)) {t : Instant} (hasleep : s.isAwakeAt t = false) :
    s.past.due? window t = none := by
  rw [← h.recalls.due?_eq]
  refine (h.alert began w hwait).due?_eq_none ?_
  simpa [isAwakeAt, hwait] using hasleep

theorem Vigilant.pass (h : Vigilant window s) (hsound : Sound window s) {nanos : Nat}
    (hlets : s.Lets (.pass nanos)) : Vigilant window (s.react (.pass nanos)) := by
  refine ⟨?_, h.ended⟩
  intro began w hwait t hfrom hbefore
  by_cases hold : t < s.now
  · exact h.waiting began w hwait t hfrom hold
  · -- the waiter slept at this time, and all calls had been made by then
    have hnow : s.now ≤ t := Nat.not_lt.1 hold
    have hupTo : s.past.upTo t = s.past :=
      Past.upTo_eq_self fun c hc => Nat.le_trans (hsound.times c hc) hnow
    simp only [Scene.react, hupTo]
    exact hsound.due?_eq_none_of_asleep hwait (hlets t hnow hbefore)

theorem Vigilant.look (h : Vigilant window s) : Vigilant window s.look.1 := by
  rcases s.look_cases with hlook | ⟨began', w', hwait', -, hlook⟩ |
    ⟨began', w', _, hwait', -, hlook⟩
  · rw [hlook]
    exact h
  · rw [hlook]
    refine ⟨?_, h.ended⟩
    intro began w hwait
    obtain ⟨rfl, -⟩ := Prod.mk.inj (Option.some.inj hwait)
    exact h.waiting began' w' hwait'
  · rw [hlook]
    refine ⟨by simp, ?_⟩
    intro r hr
    rcases List.mem_append.1 hr with hold | hnew
    · exact h.ended r hold
    · rw [List.mem_singleton.1 hnew]
      exact h.waiting began' w' hwait'

theorem Vigilant.react (h : Vigilant window s) (hsound : Sound window s) {e : Event}
    (hlets : s.Lets e) : Vigilant window (s.react e) := by
  cases e with
  | call c =>
    refine ⟨?_, h.ended⟩
    intro began w hwait t hfrom hbefore
    have hupTo : (s.past.add s.now c).upTo t = s.past.upTo t := Past.upTo_add hbefore c
    simp only [Scene.react, hupTo]
    exact h.waiting began w hwait t hfrom hbefore
  | wait =>
    refine ⟨?_, h.ended⟩
    intro began w hwait t hfrom hbefore
    obtain ⟨rfl, -⟩ := Prod.mk.inj (Option.some.inj hwait)
    exact absurd hbefore (Nat.not_lt.2 hfrom)
  | giveUp => exact ⟨by simp [Scene.react], h.ended⟩
  | pass nanos => exact h.pass hsound hlets
  | look => exact h.look

theorem vigilant_start (window : Duration) : Vigilant window (start window) :=
  ⟨by simp [start], by simp [start]⟩

theorem Vigilant.run (h : Vigilant window s) (hsound : Sound window s) {events : List Event}
    (hprompt : s.Prompt events) : Vigilant window (s.run events) := by
  induction events generalizing s with
  | nil => exact h
  | cons e rest ih => exact ih (h.react hsound hprompt.1) (hsound.react e) hprompt.2

/-! ## How a waiter falls asleep -/

/-- The waiter sleeps, and it is the deadline or the next call that wakes it. -/
structure Asleep (s : Scene) : Prop where
  parked : ∃ began, s.wait? = some (began, .parked s.debouncer.deadline?)
  hushed : s.debouncer.bell = false
  quiet : s.debouncer.forced? = none ∧ s.debouncer.catchUp = false

theorem Asleep.isAwakeAt_eq (h : Asleep s) (hrecalls : Recalls window s.debouncer s.past)
    (t : Instant) : s.isAwakeAt t = (s.past.due? window t).isSome := by
  obtain ⟨began, hwait⟩ := h.parked
  rw [← hrecalls.due?_eq, isSome_due?_of_quiet h.quiet.1 h.quiet.2]
  simp [isAwakeAt, hwait, Debouncer.wakes, h.hushed]

theorem asleep_look (h : Sound window s) {began : Instant} {until? : Option Instant}
    (hwait : s.wait? = some (began, .parked until?)) (hdue : s.debouncer.due? s.now = none) :
    Asleep s.look.1 ∧ s.look.1.past = s.past := by
  have hquiet := quiet_of_due?_eq_none hdue
  rcases s.debouncer.poll_cases s.now (.parked until?) with ⟨hasleep, hpoll⟩ | ⟨-, -, hpoll⟩ |
    ⟨trigger, -, hfired, -⟩
  · have hbell : s.debouncer.bell = false := by
      simp only [Debouncer.wakes, Bool.or_eq_false_iff] at hasleep
      exact hasleep.1
    have hdeadline : s.debouncer.deadline? = until? := by
      rcases h.alert began _ hwait with hrung | ⟨-, -, hdeadline⟩
      · rw [hbell] at hrung
        contradiction
      · exact hdeadline
    have hlook : s.look.1 = { s with wait? := some (began, .parked until?) } := by
      simp [look, hwait, hpoll]
    rw [hlook]
    exact ⟨⟨⟨began, by rw [hdeadline]⟩, hbell, hquiet⟩, rfl⟩
  · have hlook : s.look.1 = { s with
        debouncer := s.debouncer.hear (.parked until?)
        wait? := some (began, .parked s.debouncer.deadline?) } := by
      simp [look, hwait, hpoll]
    rw [hlook]
    exact ⟨⟨⟨began, rfl⟩, rfl, hquiet⟩, rfl⟩
  · rw [hdue] at hfired
    contradiction

/-- Two looks in vain leave any waiter asleep: the second uses up a wake-up that came before the
wait. -/
theorem asleep_looks (h : Sound window s) {began : Instant} {w : Waiter}
    (hwait : s.wait? = some (began, w)) (hdue : s.debouncer.due? s.now = none) :
    Asleep (s.run [.look, .look]) ∧ (s.run [.look, .look]).past = s.past := by
  have hnext : Sound window s.look.1 := h.react .look
  change Asleep s.look.1.look.1 ∧ s.look.1.look.1.past = s.past
  rcases s.debouncer.poll_cases s.now w with ⟨hasleep, hpoll⟩ | ⟨-, -, hpoll⟩ |
    ⟨trigger, -, hfired, -⟩
  · cases w with
    | fresh => contradiction
    | parked until? =>
      have hlook : s.look.1 = { s with wait? := some (began, .parked until?) } := by
        simp [look, hwait, hpoll]
      rw [hlook] at hnext ⊢
      exact asleep_look hnext rfl hdue
  · have hlook : s.look.1 = { s with
        debouncer := s.debouncer.hear w
        wait? := some (began, .parked s.debouncer.deadline?) } := by
      simp [look, hwait, hpoll]
    rw [hlook] at hnext ⊢
    exact asleep_look hnext rfl ((s.debouncer.hear_due? w s.now).trans hdue)
  · rw [hdue] at hfired
    contradiction

end Scene

/-! ## When a wait ends -/

/-- A wait ends with the trigger that is due by the calls since the last one, at the first time of
the wait at which one is. Until then it goes on: no such time has passed, a look returns nothing
else, and once nothing is due the waiter sleeps until the first time at which something is. -/
theorem wait_ends_when_due (window : Duration) (events : List Event)
    (hprompt : (Scene.start window).Prompt events) :
    let s := (Scene.start window).run events
    (∀ r ∈ s.rounds, r.past.due? window r.time = some r.trigger ∧
      ∀ t, r.began ≤ t → t < r.time → (r.past.upTo t).due? window t = none) ∧
    ∀ began w, s.wait? = some (began, w) →
      (∀ t, began ≤ t → t < s.now → (s.past.upTo t).due? window t = none) ∧
      s.look.2 = s.past.due? window s.now ∧
      (s.past.due? window s.now = none →
        ∀ t, (s.run [.look, .look]).isAwakeAt t = (s.past.due? window t).isSome) := by
  intro s
  have hsound : Scene.Sound window s := Scene.sound_run window events
  have hvigilant : Scene.Vigilant window s :=
    (Scene.vigilant_start window).run (Scene.sound_start window) hprompt
  refine ⟨fun r hr => ⟨hsound.due r hr, hvigilant.ended r hr⟩, ?_⟩
  intro began w hwait
  refine ⟨hvigilant.waiting began w hwait, hsound.look_eq hwait, ?_⟩
  intro hdue t
  rw [← hsound.recalls.due?_eq] at hdue
  obtain ⟨hasleep, hpast⟩ := Scene.asleep_looks hsound hwait hdue
  rw [← hpast]
  exact hasleep.isAwakeAt_eq ((hsound.react .look).react .look).recalls t

/-- A second signal, 150 milliseconds after the first, moves the end of the window, and the wait
ends 200 milliseconds after the second. -/
theorem wait_ends_after_last_signal :
    let events : List Event :=
      [.call .signal, .wait, .look, .look, .pass 150000000, .call .signal, .look, .pass 200000000,
        .look]
    let s := (Scene.start (.ofMillis 200)).run events
    s.rounds.map (fun r => (r.began, r.trigger, r.time)) = [(0, .debounced, 350000000)] ∧
      ∀ r ∈ s.rounds, ∀ t, r.began ≤ t → t < r.time →
        (r.past.upTo t).due? (.ofMillis 200) t = none := by
  intro events s
  have hprompt : (Scene.start (.ofMillis 200)).Prompt events := by decide +kernel
  have hrounds := (wait_ends_when_due (.ofMillis 200) events hprompt).1
  exact ⟨by decide +kernel, fun r hr => (hrounds r hr).2⟩

end Lookout.Debouncer
