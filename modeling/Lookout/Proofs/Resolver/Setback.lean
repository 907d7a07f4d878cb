import Lookout.Proofs.Debouncer.Waiting
import Lookout.Proofs.Resolver.Accounts
import Lookout.Proofs.Resolver.Answers

/-!
# Evaluations without a snapshot

A list can fail or take too long, and a session can be cancelled while it builds. Such an evaluation
leaves the snapshot that is current, the revision and all mailboxes as they are. After a failure the
session waits again, and since no wake-up of the debouncer is lost on the way, whatever signal or
resync comes while the evaluation fails or after it leads to the next one. A session that is
cancelled when it has built already is left with a snapshot to publish, and begins nothing either.
-/
set_option autoImplicit false

namespace Lookout

/-! ## Debouncers -/

namespace Debouncer

/-- The call by which a session takes a signal in. -/
def Call.ofSignal : Signal → Call
  | .changed => .signal
  | .resync => .force .resync

/-- The evaluation that is wanted does not wait for the window. -/
def isUrgent (d : Debouncer) : Bool := d.forced?.isSome || d.catchUp

/-- No deadline is further away than a window. -/
structure Timely (window : Duration) (now : Instant) (d : Debouncer) : Prop where
  width : d.window = window
  deadline : ∀ t, d.deadline? = some t → t ≤ now + window.nanos

section
variable {window : Duration} {now : Instant} {d : Debouncer}

theorem Timely.apply (h : Timely window now d) (c : Call) : Timely window now (d.apply now c) := by
  cases c with
  | signal =>
    simp only [Debouncer.apply, signal]
    split
    · exact ⟨h.width, h.deadline⟩
    · refine ⟨h.width, ?_⟩
      intro t ht
      have hwidth : t = now + window.nanos := by rw [← Option.some.inj ht, h.width]
      exact Nat.le_of_eq hwidth
  | force trigger => exact ⟨h.width, h.deadline⟩
  | complete => exact ⟨h.width, h.deadline⟩

theorem Timely.hear (h : Timely window now d) (w : Waiter) : Timely window now (d.hear w) := by
  cases w with
  | fresh => exact h
  | parked until? => exact ⟨h.width, h.deadline⟩

theorem Timely.fire (h : Timely window now d) : Timely window now d.fire :=
  ⟨h.width, by simp [Debouncer.fire]⟩

theorem Timely.later (h : Timely window now d) (nanos : Nat) :
    Timely window (now + nanos) d := by
  refine ⟨h.width, ?_⟩
  intro t ht
  exact Nat.le_trans (h.deadline t ht) (Nat.add_le_add_right (Nat.le_add_right _ _) _)

theorem timely_create (window : Duration) (now : Instant) : Timely window now (create window) :=
  ⟨rfl, by simp [create]⟩

theorem inFlight_apply (d : Debouncer) (now : Instant) {c : Call} (hc : c.isCompletion = false) :
    (d.apply now c).inFlight = d.inFlight := by
  cases c with
  | signal =>
    simp only [Debouncer.apply, signal]
    split <;> rfl
  | force trigger => rfl
  | complete => cases hc

theorem isPending_apply (h : d.isPending = true) (now : Instant) (c : Call) :
    (d.apply now c).isPending = true := by
  cases c with
  | signal => exact d.isPending_signal now
  | force trigger => exact d.isPending_force trigger
  | complete => exact h

theorem isPending_hear (h : d.isPending = true) (w : Waiter) : (d.hear w).isPending = true := by
  cases w <;> exact h

theorem isUrgent_apply (h : d.isUrgent = true) (now : Instant) (c : Call) :
    (d.apply now c).isUrgent = true := by
  cases c with
  | signal =>
    simp only [Debouncer.apply, signal]
    split
    · simp [isUrgent]
    · exact h
  | force trigger => simp [Debouncer.apply, Debouncer.force, isUrgent]
  | complete => exact h

theorem isUrgent_hear (h : d.isUrgent = true) (w : Waiter) : (d.hear w).isUrgent = true := by
  cases w <;> exact h

/-- What is urgent is due, and what is pending is due when a window has passed. -/
theorem exists_due?_of_isUrgent (h : d.isUrgent = true) (now : Instant) :
    ∃ trigger, d.due? now = some trigger := by
  unfold due?
  cases hforced : d.forced? with
  | some trigger => exact ⟨trigger, rfl⟩
  | none =>
    have hcatchUp : d.catchUp = true := by simpa [isUrgent, hforced] using h
    exact ⟨.catchUp, by simp [hcatchUp]⟩

theorem Timely.exists_due? (h : Timely window now d) (hpending : d.isPending = true)
    {t : Instant} (ht : now + window.nanos ≤ t) : ∃ trigger, d.due? t = some trigger := by
  cases hurgent : d.isUrgent with
  | true => exact exists_due?_of_isUrgent hurgent t
  | false =>
    obtain ⟨hforced, hcatchUp⟩ : d.forced?.isSome = false ∧ d.catchUp = false := by
      simpa [isUrgent] using hurgent
    obtain ⟨deadline, hdeadline⟩ : ∃ deadline, d.deadline? = some deadline := by
      refine Option.isSome_iff_exists.1 ?_
      simpa [isPending, hforced, hcatchUp] using hpending
    have hreached : deadline ≤ t := Nat.le_trans (h.deadline deadline hdeadline) ht
    refine ⟨.debounced, ?_⟩
    unfold due?
    rw [Option.isSome_eq_false_iff.1 hforced |> Option.isNone_iff_eq_none.1]
    simp [hcatchUp, hdeadline, hreached]

theorem Alert.exists_fired {w : Waiter} (h : Alert d w) {t : Instant} {trigger : Trigger}
    (hdue : d.due? t = some trigger) : d.poll t w = ((d.hear w).fire, .fired trigger) := by
  rcases d.poll_cases t w with ⟨hasleep, -⟩ | ⟨-, hnone, -⟩ | ⟨found, -, hfound, hpoll⟩
  · rw [h.due?_eq_none hasleep] at hdue
    contradiction
  · rw [hnone] at hdue
    contradiction
  · rw [hdue] at hfound
    cases hfound
    exact hpoll

end

end Debouncer

/-! ## Courses -/

namespace Evaluation

/-- It builds, or has built and not published. -/
def isUnderWay : Evaluation → Bool
  | .building _ => true
  | .publishing _ => true
  | _ => false

/-- What has become of an evaluation that has not ended. -/
inductive Lasts : Evaluation → Evaluation → Prop
  | building (b : Builder.Build) : Lasts (.building b) (.building b)
  | built (b : Builder.Build) (s : Snapshot) : Lasts (.building b) (.publishing s)
  | publishing (s : Snapshot) : Lasts (.publishing s) (.publishing s)

theorem Lasts.refl {e : Evaluation} (h : e.isUnderWay = true) : Lasts e e := by
  cases e with
  | building b => exact .building b
  | publishing s => exact .publishing s
  | _ => cases h

theorem Lasts.trans {e e' e'' : Evaluation} (h : Lasts e e') (hlater : Lasts e' e'') :
    Lasts e e'' := by
  cases h with
  | building b => exact hlater
  | built b s =>
    cases hlater with
    | publishing => exact .built b s
  | publishing s => exact hlater

theorem Lasts.isUnderWay {e e' : Evaluation} (h : Lasts e e') : e.isUnderWay = true := by
  cases h <;> rfl

end Evaluation

/-- How the debouncer of a session stands to its evaluation. -/
structure Course.Sound (window : Duration) (now : Instant) (c : Course) : Prop where
  timely : c.debouncer.Timely window now
  alert : ∀ w, c.evaluation = .waiting w → Debouncer.Alert c.debouncer w
  inFlight : c.evaluation.isUnderWay = true → c.debouncer.inFlight = true
  ended : c.evaluation = .ended → c.cancelled = true

namespace Effort

open Debouncer

section
variable {g : Effort} {i : Nat} {c c' : Course} {ns : List Notice} {m : Metrics}

theorem sound_apply (h : c.Sound g.window g.now) (call : Debouncer.Call)
    (hcall : call.isCompletion = false) {adrift : Bool} :
    Course.Sound g.window g.now
      { c with debouncer := c.debouncer.apply g.now call, adrift } where
  timely := h.timely.apply call
  alert := fun w hw => (h.alert w hw).apply g.now call
  inFlight := fun hb => (inFlight_apply _ _ hcall).trans (h.inFlight hb)
  ended := h.ended

theorem sound_complete (h : c.Sound g.window g.now) :
    Course.Sound g.window g.now
      { c with debouncer := c.debouncer.complete, evaluation := .waiting .fresh } where
  timely := h.timely.apply .complete
  alert := by
    intro w hw
    cases hw
    trivial
  inFlight := by simp [Evaluation.isUnderWay]
  ended := by simp

theorem Move.sound (hmove : Move g i c ns m c') (h : c.Sound g.window g.now) :
    c'.Sound g.window g.now := by
  cases hmove with
  | ended hcancelled hunready =>
    exact ⟨h.timely, by simp, by simp [Evaluation.isUnderWay], fun _ => hcancelled⟩
  | @looked w v d hgoing hwaiting hpoll =>
    rcases c.debouncer.poll_cases g.now w with ⟨-, heq⟩ | ⟨-, hdue, heq⟩ | ⟨trigger, -, -, heq⟩
    · obtain ⟨rfl, hv⟩ := Prod.mk.inj (heq.symm.trans hpoll)
      cases hv
      refine ⟨h.timely, ?_, by simp [Evaluation.isUnderWay], by simp⟩
      intro v hv
      cases hv
      exact h.alert _ hwaiting
    · obtain ⟨rfl, hv⟩ := Prod.mk.inj (heq.symm.trans hpoll)
      cases hv
      refine ⟨h.timely.hear w, ?_, by simp [Evaluation.isUnderWay], by simp⟩
      intro v hv
      cases hv
      exact alert_hear hdue w
    · exact absurd (heq.symm.trans hpoll) (by simp)
  | @triggered w d trigger b hgoing hwaiting hpoll =>
    rcases c.debouncer.poll_cases g.now w with ⟨-, heq⟩ | ⟨-, -, heq⟩ | ⟨found, -, -, heq⟩
    · exact absurd (heq.symm.trans hpoll) (by simp)
    · exact absurd (heq.symm.trans hpoll) (by simp)
    · obtain ⟨rfl, -⟩ := Prod.mk.inj (heq.symm.trans hpoll)
      exact ⟨(h.timely.hear w).fire, by simp, fun _ => rfl, by simp⟩
  | built s hgoing hbuilding =>
    exact ⟨h.timely, by simp, fun _ => h.inFlight (by rw [hbuilding]; rfl), by simp⟩
  | published report hpublishing => exact sound_complete h
  | failed f hgoing hbuilding => exact sound_complete h
  | deafened hcancelled => exact ⟨h.timely, h.alert, h.inFlight, h.ended⟩
  | interrupted f hgoing => exact ⟨h.timely, h.alert, h.inFlight, h.ended⟩
  | subscribed hgoing =>
    cases hlost : c.adrift with
    | false => exact ⟨h.timely, h.alert, h.inFlight, h.ended⟩
    | true => exact sound_apply h Debouncer.Call.signal rfl
  | signalled hgoing => exact sound_apply h Debouncer.Call.signal rfl
  | resynced hgoing => exact sound_apply h (.force .resync) rfl

theorem Move.kept {P : Debouncer → Prop} (happly : ∀ d now c, P d → P (d.apply now c))
    (hhear : ∀ d w, P d → P (d.hear w)) (h : Move g i c ns m c') (hP : P c.debouncer) :
    (∃ trigger, .triggered i trigger ∈ ns) ∨ P c'.debouncer := by
  cases h with
  | @looked w v d hgoing hwaiting hpoll =>
    refine Or.inr ?_
    rcases c.debouncer.poll_cases g.now w with ⟨-, heq⟩ | ⟨-, -, heq⟩ | ⟨trigger, -, -, heq⟩
    · obtain ⟨rfl, -⟩ := Prod.mk.inj (heq.symm.trans hpoll)
      exact hP
    · obtain ⟨rfl, -⟩ := Prod.mk.inj (heq.symm.trans hpoll)
      exact hhear _ w hP
    · exact absurd (heq.symm.trans hpoll) (by simp)
  | @triggered w d trigger b hgoing hwaiting hpoll =>
    exact Or.inl ⟨trigger, List.mem_singleton_self _⟩
  | published report hpublishing => exact Or.inr (happly _ g.now .complete hP)
  | failed f hgoing hbuilding => exact Or.inr (happly _ g.now .complete hP)
  | subscribed hgoing =>
    refine Or.inr ?_
    cases hlost : c.adrift with
    | false => exact hP
    | true => exact happly _ g.now Debouncer.Call.signal hP
  | signalled hgoing => exact Or.inr (happly _ g.now Debouncer.Call.signal hP)
  | resynced hgoing => exact Or.inr (happly _ g.now (.force .resync) hP)
  | _ => exact Or.inr hP

end

/-- All sessions are as they should be. -/
def Sound (g : Effort) : Prop :=
  ∀ (i : Nat) (c : Course), g.courses[i]? = some c → c.Sound g.window g.now

theorem sound_fresh (g : Effort) (service : String) : (g.fresh service).Sound g.window g.now where
  timely := (timely_create g.window g.now).apply (.force .initial)
  alert := by
    intro w hw
    cases hw
    trivial
  inFlight := by simp [fresh, Evaluation.isUnderWay]
  ended := by simp [fresh]

theorem sound_halt {window : Duration} {now : Instant} {c : Course} (h : c.Sound window now)
    (hit : Bool) : (c.halt hit).Sound window now :=
  ⟨h.timely, h.alert, h.inFlight, fun hended => by simp [Course.halt, h.ended hended]⟩

theorem Step.window {g g' : Effort} {ns : List Notice} (h : Step g ns g') :
    g'.window = g.window := by
  cases h <;> rfl

theorem Step.now {g g' : Effort} {ns : List Notice} (h : Step g ns g') :
    ∃ nanos, g'.now = g.now + nanos := by
  cases h with
  | passed nanos => exact ⟨nanos, rfl⟩
  | _ => exact ⟨0, rfl⟩

theorem Sound.step {g g' : Effort} {ns : List Notice} (h : g.Sound) (hstep : Step g ns g') :
    g'.Sound := by
  intro i c' hc'
  obtain ⟨nanos, hnow⟩ := hstep.now
  rw [hstep.window, hnow]
  have hlater : ∀ {c : Course}, c.Sound g.window g.now → c.Sound g.window (g.now + nanos) :=
    fun hsound => ⟨hsound.timely.later nanos, hsound.alert, hsound.inFlight, hsound.ended⟩
  rcases hstep.origin hc' with ⟨c, hit, hc, rfl⟩ | ⟨service, rfl⟩ | ⟨c, m, hc, hmove⟩
  · exact hlater (sound_halt (h i c hc) hit)
  · exact hlater (g.sound_fresh service)
  · exact hlater (hmove.sound (h i c hc))

theorem Step.kept {P : Debouncer → Prop} (happly : ∀ d now c, P d → P (d.apply now c))
    (hhear : ∀ d w, P d → P (d.hear w)) {g g' : Effort} {ns : List Notice} (h : Step g ns g')
    {i : Nat} {c : Course} (hc : g.courses[i]? = some c) (hP : P c.debouncer) :
    (∃ trigger, .triggered i trigger ∈ ns) ∨
      ∃ c', g'.courses[i]? = some c' ∧ P c'.debouncer := by
  obtain ⟨c', hc', ⟨m, hmove⟩ | ⟨⟨hit, rfl⟩, -⟩⟩ := h.after hc
  · rcases hmove.kept happly hhear hP with htriggered | hkept
    · exact .inl htriggered
    · exact .inr ⟨c', hc', hkept⟩
  · exact .inr ⟨_, hc', hP⟩

/-- Only a trigger puts an evaluation under way. -/
theorem Step.lasts {g g' : Effort} {ns : List Notice} (h : Step g ns g') {i : Nat} {c' : Course}
    (hc' : g'.courses[i]? = some c') (hunderway : c'.evaluation.isUnderWay = true) :
    (∃ trigger, .triggered i trigger ∈ ns) ∨
      ∃ c, g.courses[i]? = some c ∧ c.evaluation.Lasts c'.evaluation := by
  rcases h.origin hc' with ⟨c, hit, hc, rfl⟩ | ⟨service, rfl⟩ | ⟨c, m, hc, hmove⟩
  · exact .inr ⟨c, hc, .refl hunderway⟩
  · exact absurd hunderway (by simp [fresh, Evaluation.isUnderWay])
  · cases hmove with
    | triggered b hgoing hwaiting hpoll => exact .inl ⟨_, List.mem_singleton_self _⟩
    | built s hgoing hbuilding => exact .inr ⟨c, hc, hbuilding ▸ .built _ s⟩
    | ended hcancelled hunready => exact absurd hunderway (by simp [Evaluation.isUnderWay])
    | looked hgoing hwaiting hpoll => exact absurd hunderway (by simp [Evaluation.isUnderWay])
    | published report _ => exact absurd hunderway (by simp [Evaluation.isUnderWay])
    | failed f hgoing _ => exact absurd hunderway (by simp [Evaluation.isUnderWay])
    | _ => exact .inr ⟨c, hc, .refl hunderway⟩

end Effort

namespace Notice

/-- Whether a notice says that session `i` has begun to build, or has built. -/
def isBuildOf (i : Nat) : Notice → Bool
  | .triggered j _ => j == i
  | .built j _ _ => j == i
  | _ => false

/-- Whether a notice says that an evaluation of session `i` has begun, or has given a snapshot. -/
def isEvaluationOf (i : Nat) : Notice → Bool
  | .published j _ _ _ => j == i
  | n => n.isBuildOf i

end Notice

namespace Effort

/-- A cancelled session that has nothing to publish takes its last steps in silence. -/
theorem Move.of_cancelled {g : Effort} {i : Nat} {c c' : Course} {ns : List Notice} {m : Metrics}
    (h : Move g i c ns m c') (hcancelled : c.cancelled = true) :
    (∀ n ∈ ns, n.isBuildOf i = false) ∧ c'.cancelled = true ∧
      (c.evaluation.ready? = none → ns = [] ∧ c'.evaluation.ready? = none) := by
  cases h with
  | published report hpublishing =>
    refine ⟨by simp [Notice.isBuildOf], hcancelled, fun hunready => ?_⟩
    rw [hpublishing] at hunready
    cases hunready
  | ended _ hunready => exact ⟨by simp, hcancelled, fun _ => ⟨rfl, rfl⟩⟩
  | deafened => exact ⟨by simp, hcancelled, fun hunready => ⟨rfl, hunready⟩⟩
  | _ => simp_all

theorem Move.isEvaluationOf {g : Effort} {i j : Nat} {c c' : Course} {ns : List Notice}
    {m : Metrics} (h : Move g j c ns m c') (hij : j ≠ i) :
    ∀ n ∈ ns, n.isEvaluationOf i = false := by
  have hreport : ∀ service f, ∀ n ∈ g.report service f, n.isEvaluationOf i = false := by
    intro service f n hn
    unfold report at hn
    split at hn
    · rw [List.mem_singleton.1 hn]
      rfl
    · exact absurd hn List.not_mem_nil
  cases h with
  | triggered b hgoing hwaiting hpoll => simp [Notice.isEvaluationOf, Notice.isBuildOf, hij]
  | built s hgoing hbuilding => simp [Notice.isEvaluationOf, Notice.isBuildOf, hij]
  | published report hpublishing => simp [Notice.isEvaluationOf, hij]
  | failed f hgoing hbuilding => exact hreport _ f
  | interrupted f hgoing => exact hreport _ f
  | _ => simp

theorem isBuildOf_of_isEvaluationOf {i : Nat} {n : Notice} (h : n.isEvaluationOf i = false) :
    n.isBuildOf i = false := by
  cases n with
  | published => rfl
  | _ => exact h

theorem Step.cancelled {g g' : Effort} {ns : List Notice} (h : Step g ns g') {i : Nat} {c : Course}
    (hc : g.courses[i]? = some c) (hcancelled : c.cancelled = true) :
    (∀ n ∈ ns, n.isBuildOf i = false) ∧ ∃ c', g'.courses[i]? = some c' ∧ c'.cancelled = true ∧
      (c.evaluation.ready? = none →
        (∀ n ∈ ns, n.isEvaluationOf i = false) ∧ c'.evaluation.ready? = none) := by
  obtain ⟨c', hc', ⟨m, hmove⟩ | ⟨⟨hit, rfl⟩, hother⟩⟩ := h.after hc
  · obtain ⟨hbuilds, hstill, hsilent⟩ := hmove.of_cancelled hcancelled
    refine ⟨hbuilds, c', hc', hstill, fun hunready => ?_⟩
    obtain ⟨rfl, hlater⟩ := hsilent hunready
    exact ⟨by simp, hlater⟩
  · have hns : ∀ n ∈ ns, n.isEvaluationOf i = false := by
      rcases hother with hquiet | ⟨j, d, d', m, hij, hmove⟩
      · intro n hn
        have hnone := hquiet n hn
        cases n <;> simp_all [Notice.isEffort, Notice.isEvaluationOf, Notice.isBuildOf]
      · exact hmove.isEvaluationOf hij
    exact ⟨fun n hn => isBuildOf_of_isEvaluationOf (hns n hn), _, hc',
      by simp [Course.halt, hcancelled], fun hunready => ⟨hns, hunready⟩⟩

end Effort

namespace Resolver

/-! ## Runs -/

theorem effort_getElem? (r : Resolver) (i : Nat) :
    r.effort.courses[i]? = (r.session? i).map Session.course :=
  r.courses_getElem? i

theorem sound_run {r : Resolver} (h : r.effort.Sound) (events : List Event) :
    (r.run events).1.effort.Sound := by
  induction events generalizing r with
  | nil => exact h
  | cons e rest ih => exact ih (h.step (r.effort_react e))

theorem kept_run {P : Debouncer → Prop} (happly : ∀ d now c, P d → P (d.apply now c))
    (hhear : ∀ d w, P d → P (d.hear w)) {r : Resolver} {i : Nat} {s : Session}
    (hs : r.session? i = some s) (hP : P s.debouncer) (events : List Event) :
    (∃ trigger, .triggered i trigger ∈ (r.run events).2) ∨
      ∃ s', (r.run events).1.session? i = some s' ∧ P s'.debouncer := by
  induction events generalizing r s with
  | nil => exact Or.inr ⟨s, hs, hP⟩
  | cons e rest ih =>
    have hc : r.effort.courses[i]? = some s.course := by
      rw [effort_getElem?, hs]
      rfl
    rcases (r.effort_react e).kept happly hhear hc hP with ⟨trigger, hnow⟩ | ⟨c', hc', hP'⟩
    · exact Or.inl ⟨trigger, List.mem_append_left _ hnow⟩
    · rw [effort_getElem?] at hc'
      obtain ⟨s', hs', rfl⟩ := Option.map_eq_some_iff.1 hc'
      rcases ih hs' hP' with ⟨trigger, hlater⟩ | hkept
      · exact Or.inl ⟨trigger, List.mem_append_right _ hlater⟩
      · exact Or.inr hkept

theorem window_run (r : Resolver) (events : List Event) :
    (r.run events).1.effort.window = r.effort.window := by
  induction events generalizing r with
  | nil => rfl
  | cons e rest ih =>
    have hstep : (r.react e).1.effort.window = r.effort.window := (r.effort_react e).window
    exact (ih (r.react e).1).trans hstep

theorem lasts_run {r : Resolver} {i : Nat} {events : List Event} {s' : Session}
    (hs' : (r.run events).1.session? i = some s') (hunderway : s'.evaluation.isUnderWay = true) :
    (∃ trigger, .triggered i trigger ∈ (r.run events).2) ∨
      ∃ s, r.session? i = some s ∧ s.evaluation.Lasts s'.evaluation := by
  induction events generalizing r with
  | nil => exact Or.inr ⟨s', hs', .refl hunderway⟩
  | cons e rest ih =>
    rcases ih (r := (r.react e).1) hs' with ⟨trigger, hlater⟩ | ⟨s, hs, hlast⟩
    · exact Or.inl ⟨trigger, List.mem_append_right _ hlater⟩
    · have hc : (r.react e).1.effort.courses[i]? = some s.course := by
        rw [effort_getElem?, hs]
        rfl
      rcases (r.effort_react e).lasts hc hlast.isUnderWay with ⟨trigger, hnow⟩ | ⟨c, hc, hfirst⟩
      · exact Or.inl ⟨trigger, List.mem_append_left _ hnow⟩
      · rw [effort_getElem?] at hc
        obtain ⟨q, hq, rfl⟩ := Option.map_eq_some_iff.1 hc
        exact Or.inr ⟨q, hq, hfirst.trans hlast⟩

theorem cancelled_run {r : Resolver} {i : Nat} {s : Session} (hs : r.session? i = some s)
    (hcancelled : s.cancelled = true) (events : List Event) :
    (∀ n ∈ (r.run events).2, n.isBuildOf i = false) ∧
      ∃ s', (r.run events).1.session? i = some s' ∧ s'.cancelled = true ∧
        (s.evaluation.ready? = none →
          (∀ n ∈ (r.run events).2, n.isEvaluationOf i = false) ∧
            s'.evaluation.ready? = none) := by
  induction events generalizing r s with
  | nil => exact ⟨by simp, s, hs, hcancelled, fun hunready => ⟨by simp, hunready⟩⟩
  | cons e rest ih =>
    have hc : r.effort.courses[i]? = some s.course := by
      rw [effort_getElem?, hs]
      rfl
    obtain ⟨hnow, c', hc', hstill, hsilent⟩ := (r.effort_react e).cancelled hc hcancelled
    rw [effort_getElem?] at hc'
    obtain ⟨s', hs', rfl⟩ := Option.map_eq_some_iff.1 hc'
    obtain ⟨hlater, q, hq, hlast, hsilent'⟩ := ih hs' hstill
    refine ⟨List.forall_mem_append.2 ⟨hnow, hlater⟩, q, hq, hlast, fun hunready => ?_⟩
    obtain ⟨hfirst, hnext⟩ := hsilent hunready
    obtain ⟨hrest, hend⟩ := hsilent' hnext
    exact ⟨List.forall_mem_append.2 ⟨hfirst, hrest⟩, hend⟩

/-! ## What an evaluation leaves alone -/

/-- Nothing but the counters, the debouncer and the progress of session `i` has changed, and how
often the source has been asked. -/
structure Spared (r : Resolver) (i : Nat) (r' : Resolver) : Prop where
  rest : r' = { r with metrics := r'.metrics, source := r'.source, sessions := r'.sessions }
  source : r'.source = r.source ∨ ∃ s, r.session? i = some s ∧
    r'.source = (r.source.beginList r.now s.service r.config.timeout?).1
  own : ∀ s, r.session? i = some s → ∃ debouncer evaluation,
    r'.session? i = some { s with debouncer, evaluation }
  others : ∀ j, j ≠ i → r'.session? j = r.session? j
  current : ∀ service, r'.currentState service = r.currentState service
  revision : ∀ service, (r'.historyOf service).revision = (r.historyOf service).revision
  /-- The watchers that are registered, and what is unread in their mailboxes. -/
  registries : ∀ j, (r'.session? j).map (·.registry) = (r.session? j).map (·.registry)

theorem currentState_congr {r q : Resolver} (h : q.ledger = r.ledger) (service : String) :
    q.currentState service = r.currentState service := by
  have hwatched : q.watched = r.watched := congrArg Ledger.watched h
  cases hfind : r.watched.find? service with
  | none =>
    rw [currentState, currentState, lookUp_of_unwatched hfind,
      lookUp_of_unwatched (hwatched ▸ hfind), h]
    rfl
  | some i =>
    rw [currentState, currentState, lookUp_of_watched hfind, lookUp_of_watched (hwatched ▸ hfind),
      answer_session, answer_session, h]

theorem Spared.modify {r q : Resolver} {i : Nat} {s : Session} (hs : r.session? i = some s)
    (hq : q = { r with metrics := q.metrics, source := q.source })
    (hsource : q.source = r.source ∨
      q.source = (r.source.beginList r.now s.service r.config.timeout?).1)
    {f : Session → Session}
    (hf : f s = { s with debouncer := (f s).debouncer, evaluation := (f s).evaluation })
    (hproduct : (f s).product = s.product) : Spared r i (q.modify i f) := by
  have hsessions : ∀ j, q.session? j = r.session? j := by
    intro j
    rw [hq]
    rfl
  have hledger : (q.modify i f).ledger = r.ledger := by
    refine ledger_modify_of_eq (by rw [hq]; rfl) ((hsessions i).trans hs) ?_ hproduct
    rw [hf]
    rfl
  have hother : ∀ j, j ≠ i → (q.modify i f).session? j = r.session? j := by
    intro j hj
    rw [modify_session?, if_neg hj.symm, hsessions]
  have hown := session?_modify_self ((hsessions i).trans hs) f
  refine ⟨?_, ?_, ?_, hother, ?_, ?_, ?_⟩
  · rw [hq]
    rfl
  · exact hsource.imp_right fun hasked => ⟨s, hs, hasked⟩
  · intro s' hs'
    rw [hs] at hs'
    cases hs'
    refine ⟨(f s).debouncer, (f s).evaluation, ?_⟩
    rw [hown, ← hf]
  · intro service
    exact currentState_congr hledger service
  · intro service
    have hhistories := congrArg Ledger.histories hledger
    simp only [ledger] at hhistories
    simp only [historyOf, hhistories]
  · intro j
    by_cases hj : j = i
    · subst hj
      rw [hown, hs, hf]
      rfl
    · rw [hother j hj]

theorem Spared.refl (r : Resolver) (i : Nat) : Spared r i r :=
  ⟨rfl, Or.inl rfl, fun s hs => ⟨s.debouncer, s.evaluation, hs⟩, fun _ _ => rfl, fun _ => rfl,
    fun _ => rfl, fun _ => rfl⟩

theorem spared_evaluate {r : Resolver} {i : Nat} {s : Session} (hs : r.session? i = some s)
    (hnone : ∀ n ∈ (r.evaluate i s).2, n.isEntry = false) : Spared r i (r.evaluate i s).1 := by
  have hunready : ∀ {e : Evaluation}, s.evaluation.ready? = none → e.ready? = none →
      (s.service, e.ready?) = s.product := by
    intro e hbefore hafter
    rw [Session.product, hbefore, hafter]
  unfold evaluate at hnone ⊢
  split
  · exact .refl r i
  · next w hwaiting =>
    have hready : s.evaluation.ready? = none := by rw [hwaiting]; rfl
    split
    · exact .modify hs rfl (Or.inl rfl) rfl (hunready hready rfl)
    · split
      · unfold beginBuild
        exact .modify (q := { r with
            source := (r.builder.start r.source r.now s.service s.policy).1
            metrics := r.metrics.count .evaluation }) hs rfl (Or.inr rfl) rfl (hunready hready rfl)
      · exact .modify hs rfl (Or.inl rfl) rfl (hunready hready rfl)
  · next b hbuilding =>
    have hready : s.evaluation.ready? = none := by rw [hbuilding]; rfl
    split
    · exact .modify hs rfl (Or.inl rfl) rfl (hunready hready rfl)
    · next hgoing =>
      split
      · exact .refl r i
      · next snapshot hbuilt =>
        -- a snapshot has been built
        simp only [hbuilding, hbuilt, hgoing] at hnone
        exact absurd (hnone _ (List.mem_singleton_self _)) (by simp [Notice.isEntry])
      · exact .modify (q := r.count (.build false)) hs rfl (Or.inl rfl) rfl (hunready hready rfl)
  · next c hpublishing =>
    simp only [hpublishing] at hnone
    exact absurd (hnone _ (List.mem_singleton_self _)) (by simp [Notice.isEntry])

/-! ## Failures -/

/-- The list that session `i` waits for has failed, or has taken too long. -/
def Fails (r : Resolver) (i : Nat) (f : Failure) : Prop :=
  ∃ s b fault, r.session? i = some s ∧ s.cancelled = false ∧ s.evaluation = .building b ∧
    b.listing.outcome? r.now r.source = some (.error fault) ∧
    f = r.builder.failureOf b.listing.service fault

theorem evaluate_of_fault {r : Resolver} {i : Nat} {s : Session} {b : Builder.Build}
    {fault : Listing.Fault} (hgoing : s.cancelled = false) (hbuilding : s.evaluation = .building b)
    (hfault : b.listing.outcome? r.now r.source = some (.error fault)) :
    r.evaluate i s = ((r.count (.build false)).modify i Session.endEvaluation,
      r.report s.service (r.builder.failureOf b.listing.service fault)) := by
  have houtcome : r.builder.outcome? b r.now r.source (r.historyOf s.service).revision =
      some (.error (r.builder.failureOf b.listing.service fault)) := by
    simp only [Builder.outcome?]
    rw [hfault]
    rfl
  unfold evaluate
  rw [hbuilding]
  dsimp only
  rw [hgoing, houtcome]
  rfl

theorem fails_of_isFailure {r : Resolver} {i : Nat} {n : Notice}
    (hn : n ∈ (r.step (.evaluate i)).2) (hfailure : n.isFailure = true) : ∃ f, r.Fails i f := by
  unfold step at hn
  split at hn
  · cases hn
  · next s hs =>
    change n ∈ (r.evaluate i s).2 at hn
    unfold evaluate at hn
    split at hn
    · cases hn
    · split at hn
      · cases hn
      · split at hn
        · obtain rfl := List.mem_singleton.1 hn
          cases hfailure
        · cases hn
    · next b hbuilding =>
      split at hn
      · cases hn
      · next hcancelled =>
        split at hn
        · cases hn
        · obtain rfl := List.mem_singleton.1 hn
          cases hfailure
        · next f hfailed =>
          simp only [Builder.outcome?] at hfailed
          obtain ⟨result, hresult, hfault⟩ := Option.map_eq_some_iff.1 hfailed
          cases result with
          | ok records => simp at hfault
          | error fault =>
            exact ⟨_, s, b, fault, hs, Bool.eq_false_iff.2 hcancelled, hbuilding, hresult, rfl⟩
    · obtain rfl := List.mem_singleton.1 hn
      cases hfailure

/-! ## What comes after -/

/-- A task of session `i` takes a signal or a resync in; a subscription that is restored counts as
a signal. -/
inductive Receives (r : Resolver) (i : Nat) : Signal → Event → Prop
  | read {s : Session} {id? : Option SubscriptionId} {signal : Signal} (hs : r.session? i = some s)
      (hgoing : s.cancelled = false) (hreading : s.ingestion = .reading id?)
      (hsignal : (r.source.receive id?).1 = .signal signal) :
      Receives r i signal (.step (.ingest i))
  | restored {s : Session} {made : Source × Option SubscriptionId} (hs : r.session? i = some s)
      (hgoing : s.cancelled = false) (hsubscribing : s.ingestion = .subscribing)
      (hlost : s.reconnecting = true) (hmade : r.source.subscribe s.service = .ok made) :
      Receives r i .changed (.step (.ingest i))
  | tick {s : Session} {due : Instant} {period : Duration} (hs : r.session? i = some s)
      (hgoing : s.cancelled = false) (hnext : s.nextResync? = some due)
      (hperiod : r.config.resyncInterval? = some period) (hdue : due ≤ r.now) :
      Receives r i .resync (.step (.resync i))

theorem Receives.session {r : Resolver} {i : Nat} {signal : Signal} {e : Event}
    (h : Receives r i signal e) : ∃ s s', r.session? i = some s ∧
      (r.react e).1.session? i = some s' ∧
      s'.debouncer = s.debouncer.apply r.now (.ofSignal signal) ∧
      s'.evaluation = s.evaluation := by
  cases h with
  | @read s id? signal hs hgoing hreading hsignal =>
    have hreact : (r.react (.step (.ingest i))).1 = (r.read i s id?).1 := by
      simp only [react, step, Task.session, hs, ingest, hreading, hgoing]
      rfl
    rw [hreact]
    unfold Resolver.read
    split
    · next heq =>
      rw [heq] at hsignal
      cases hsignal
    · next heq =>
      rw [heq] at hsignal
      cases hsignal
    · next source heq =>
      rw [heq] at hsignal
      cases hsignal
      refine ⟨s, { s with debouncer := s.debouncer.signal r.now }, hs, ?_, rfl, rfl⟩
      exact session?_modify_self hs _
    · next source heq =>
      rw [heq] at hsignal
      cases hsignal
      refine ⟨s, { s with debouncer := s.debouncer.force .resync }, hs, ?_, rfl, rfl⟩
      exact session?_modify_self hs _
  | @restored s made hs hgoing hsubscribing hlost hmade =>
    have hreact : (r.react (.step (.ingest i))).1 = (r.subscribe i s).1 := by
      simp only [react, step, Task.session, hs, ingest, hsubscribing, hgoing]
      rfl
    rw [hreact]
    unfold subscribe
    rw [hmade]
    refine ⟨s, { s with
      ingestion := .reading made.2
      attempt := 0
      debouncer := if s.reconnecting then s.debouncer.signal r.now else s.debouncer }, hs,
      ?_, ?_, rfl⟩
    · exact session?_modify_self hs _
    · simp only [hlost, if_true]
      rfl
  | @tick s due period hs hgoing hnext hperiod hdue =>
    have hreact : (r.react (.step (.resync i))).1 =
        (r.count .resync).modify i fun s => { s with
          debouncer := s.debouncer.force .resync
          nextResync? := some (nextTick period due r.now) } := by
      simp only [react, step, Task.session, hs, resync, hnext, hperiod, hgoing]
      rw [if_pos hdue]
      rfl
    rw [hreact]
    refine ⟨s, { s with
      debouncer := s.debouncer.force .resync
      nextResync? := some (nextTick period due r.now) }, hs, ?_, rfl, rfl⟩
    exact session?_modify_self hs _

/-- After what happened from `r` on, another evaluation of session `i` has begun, or its task begins
one with its next step when `wait` nanoseconds have passed; unless the session is cancelled, or the
evaluation that was under way at `r` has not ended. -/
def LeadsOn (r : Resolver) (i wait : Nat) (later : Resolver × List Notice) : Prop :=
  (∃ trigger, .triggered i trigger ∈ later.2) ∨
  ∃ s, later.1.session? i = some s ∧
    (s.cancelled = true ∨
      (∃ q, r.session? i = some q ∧ q.evaluation.Lasts s.evaluation) ∨
      ∀ nanos, wait ≤ nanos →
        ∃ trigger, (later.1.run [.pass nanos, .step (.evaluate i)]).2 = [.triggered i trigger])

theorem triggered_of_due {r : Resolver} {i : Nat} {s : Session} (hs : r.session? i = some s)
    (hgoing : s.cancelled = false) {w : Waiter} (hwaiting : s.evaluation = .waiting w)
    (halert : Debouncer.Alert s.debouncer w) {nanos : Nat} {trigger : Trigger}
    (hdue : s.debouncer.due? (r.now + nanos) = some trigger) :
    (r.run [.pass nanos, .step (.evaluate i)]).2 = [.triggered i trigger] := by
  have hpoll := halert.exists_fired hdue
  have hpassed : Resolver.session? { r with now := r.now + nanos } i = some s := hs
  have hstep : (Resolver.step { r with now := r.now + nanos } (.evaluate i)).2 =
      [.triggered i trigger] := by
    simp only [step, Task.session, hpassed, evaluate, hwaiting, hgoing, hpoll]
    rfl
  simp only [run_cons, run_nil, react, List.nil_append, List.append_nil]
  exact hstep

/-- What is kept by a debouncer until its next trigger, and is due after a while, leads on to an
evaluation. -/
theorem leadsOn_of_kept {P : Debouncer → Prop} (happly : ∀ d now c, P d → P (d.apply now c))
    (hhear : ∀ d w, P d → P (d.hear w)) {window : Duration} {wait : Nat}
    (hdue : ∀ {now t : Instant} {d : Debouncer}, d.Timely window now → P d → now + wait ≤ t →
      ∃ trigger, d.due? t = some trigger)
    {r : Resolver} (hsound : r.effort.Sound) (hwindow : r.effort.window = window) {e : Event}
    {i : Nat} {s s' : Session} (hs : r.session? i = some s)
    (hs' : (r.react e).1.session? i = some s') (hP : P s'.debouncer)
    (hevaluation : s'.evaluation = s.evaluation) (later : List Event) :
    LeadsOn r i wait ((r.react e).1.run later) := by
  rcases kept_run happly hhear hs' hP later with htriggered | ⟨q, hq, hkept⟩
  · exact Or.inl htriggered
  · have hlater : ((r.react e).1.run later).1.effort.Sound := sound_run (r := r) hsound (e :: later)
    have hsame : ((r.react e).1.run later).1.effort.window = window :=
      (window_run r (e :: later)).trans hwindow
    have hcourse : ((r.react e).1.run later).1.effort.courses[i]? = some q.course := by
      rw [effort_getElem?, hq]
      rfl
    obtain ⟨htimely, halert, -, hended⟩ := hlater i q.course hcourse
    rw [hsame] at htimely
    cases hcancelled : q.cancelled with
    | true => exact Or.inr ⟨q, hq, Or.inl hcancelled⟩
    | false =>
      have hlasts : q.evaluation.isUnderWay = true →
          LeadsOn r i wait ((r.react e).1.run later) := by
        intro hunderway
        rcases lasts_run hq hunderway with htriggered | ⟨q', hq', hlast⟩
        · exact Or.inl htriggered
        · obtain rfl := Option.some.inj (hs'.symm.trans hq')
          rw [hevaluation] at hlast
          exact Or.inr ⟨q, hq, Or.inr (Or.inl ⟨s, hs, hlast⟩)⟩
      cases hstage : q.evaluation with
      | ended => exact absurd ((hended hstage).symm.trans hcancelled) (by simp)
      | building b => exact hlasts (by rw [hstage]; rfl)
      | publishing c => exact hlasts (by rw [hstage]; rfl)
      | waiting w =>
        refine Or.inr ⟨q, hq, Or.inr (Or.inr ?_)⟩
        intro nanos hnanos
        obtain ⟨trigger, htrigger⟩ := hdue (t := ((r.react e).1.run later).1.now + nanos) htimely
          hkept (Nat.add_le_add_left hnanos _)
        exact ⟨trigger, triggered_of_due hq hcancelled hstage (halert w hstage) htrigger⟩

/-- How a resolver takes evaluations that give no snapshot. -/
structure Steady (r : Resolver) : Prop where
  /-- A step that neither ends a build with a snapshot nor publishes one. -/
  spared : ∀ i, (∀ n ∈ (r.step (.evaluate i)).2, n.isEntry = false) →
    Spared r i (r.step (.evaluate i)).1
  /-- The hook is called once, the failure is counted, and the session waits again. -/
  failed : ∀ i s f, r.session? i = some s → r.Fails i f →
    (r.step (.evaluate i)).2 = (if r.hooked then [.failed s.service f] else []) ∧
    (r.step (.evaluate i)).1.metrics = r.metrics.count (.build false) ∧
    (r.step (.evaluate i)).1.session? i =
      some { s with debouncer := s.debouncer.complete, evaluation := .waiting .fresh }
  /-- No other step of an evaluation calls the hook. -/
  unreported : ∀ i n, n ∈ (r.step (.evaluate i)).2 → n.isFailure = true → ∃ f, r.Fails i f
  again : ∀ i signal e later, r.Receives i signal e →
    LeadsOn r i r.config.debounce.nanos ((r.react e).1.run later)
  /-- A resync, and whatever comes while an evaluation is under way, does not wait for the
  window. -/
  atOnce : ∀ i signal e later, r.Receives i signal e →
    (signal = .resync ∨ ∃ s, r.session? i = some s ∧ s.evaluation.isUnderWay = true) →
    LeadsOn r i 0 ((r.react e).1.run later)
  /-- A session that was cancelled builds no more; what it has built already it still publishes. -/
  cancelled : ∀ i s, r.session? i = some s → s.cancelled = true →
    (∀ later, ∀ n ∈ (r.run later).2, n.isBuildOf i = false) ∧
    (s.evaluation.ready? = none →
      (r.step (.evaluate i)).1.session? i = some { s with evaluation := .ended } ∧
      ∀ later, (∀ n ∈ (r.run later).2, n.isEvaluationOf i = false) ∧
        ((r.run later).1.step (.evaluate i)).2 = [])

theorem step_evaluate {r : Resolver} {i : Nat} {s : Session} (hs : r.session? i = some s) :
    r.step (.evaluate i) = r.evaluate i s := by
  simp only [step, Task.session, hs]

theorem spared_step {r : Resolver} {i : Nat}
    (hnone : ∀ n ∈ (r.step (.evaluate i)).2, n.isEntry = false) :
    Spared r i (r.step (.evaluate i)).1 := by
  cases hs : r.session? i with
  | none =>
    have hstep : (r.step (.evaluate i)).1 = r := by simp only [step, Task.session, hs]
    rw [hstep]
    exact .refl r i
  | some s =>
    rw [step_evaluate hs] at hnone ⊢
    exact spared_evaluate hs hnone

theorem step_of_fails {r : Resolver} {i : Nat} {s : Session} {f : Failure}
    (hs : r.session? i = some s) (h : r.Fails i f) :
    (r.step (.evaluate i)).2 = (if r.hooked then [.failed s.service f] else []) ∧
      (r.step (.evaluate i)).1.metrics = r.metrics.count (.build false) ∧
      (r.step (.evaluate i)).1.session? i =
        some { s with debouncer := s.debouncer.complete, evaluation := .waiting .fresh } := by
  obtain ⟨q, b, fault, hq, hgoing, hbuilding, hfault, rfl⟩ := h
  rw [hs] at hq
  cases hq
  rw [step_evaluate hs, evaluate_of_fault hgoing hbuilding hfault]
  exact ⟨rfl, rfl, session?_modify_self hs _⟩

theorem Receives.leadsOn {r : Resolver} {i : Nat} {signal : Signal} {e : Event}
    (hreceives : r.Receives i signal e) (h : r.effort.Sound) (later : List Event) :
    LeadsOn r i r.config.debounce.nanos ((r.react e).1.run later) := by
  obtain ⟨s, s', hs, hs', hdebouncer, hevaluation⟩ := hreceives.session
  refine leadsOn_of_kept (P := fun d => d.isPending = true)
    (fun d now c hd => d.isPending_apply hd now c) (fun d w hd => d.isPending_hear hd w)
    (fun htimely hpending hle => htimely.exists_due? hpending hle) h rfl hs hs' ?_ hevaluation
    later
  rw [hdebouncer]
  cases signal with
  | changed => exact s.debouncer.isPending_signal r.now
  | resync => exact s.debouncer.isPending_force .resync

theorem isUrgent_ofSignal {d : Debouncer} {signal : Signal} (now : Instant)
    (h : signal = .resync ∨ d.inFlight = true) :
    (d.apply now (.ofSignal signal)).isUrgent = true := by
  cases signal with
  | resync => simp [Debouncer.Call.ofSignal, Debouncer.apply, Debouncer.force, Debouncer.isUrgent]
  | changed =>
    have hinFlight : d.inFlight = true := h.resolve_left (by simp)
    simp [Debouncer.Call.ofSignal, Debouncer.apply, Debouncer.signal, hinFlight,
      Debouncer.isUrgent]

theorem Receives.leadsOn_atOnce {r : Resolver} {i : Nat} {signal : Signal} {e : Event}
    (hreceives : r.Receives i signal e) (h : r.effort.Sound)
    (hprompt : signal = .resync ∨
      ∃ s, r.session? i = some s ∧ s.evaluation.isUnderWay = true)
    (later : List Event) : LeadsOn r i 0 ((r.react e).1.run later) := by
  obtain ⟨s, s', hs, hs', hdebouncer, hevaluation⟩ := hreceives.session
  refine leadsOn_of_kept (P := fun d => d.isUrgent = true)
    (fun d now c hd => d.isUrgent_apply hd now c) (fun d w hd => d.isUrgent_hear hd w)
    (fun _ hurgent _ => Debouncer.exists_due?_of_isUrgent hurgent _) h rfl hs hs' ?_ hevaluation
    later
  rw [hdebouncer]
  refine isUrgent_ofSignal r.now (hprompt.imp_right ?_)
  rintro ⟨q, hq, hunderway⟩
  rw [hs] at hq
  cases hq
  have hcourse : r.effort.courses[i]? = some s.course := by
    rw [effort_getElem?, hs]
    rfl
  exact (h i s.course hcourse).inFlight hunderway

theorem step_of_cancelled {r : Resolver} {i : Nat} {s : Session} (hs : r.session? i = some s)
    (hcancelled : s.cancelled = true) (hunready : s.evaluation.ready? = none) :
    (r.step (.evaluate i)).1.session? i = some { s with evaluation := .ended } ∧
      (r.step (.evaluate i)).2 = [] := by
  rw [step_evaluate hs]
  unfold evaluate
  split
  · next hended =>
    refine ⟨?_, rfl⟩
    rw [hs, ← hended]
  · rw [if_pos hcancelled]
    exact ⟨session?_modify_self hs _, rfl⟩
  · rw [if_pos hcancelled]
    exact ⟨session?_modify_self hs _, rfl⟩
  · next c hpublishing =>
    rw [hpublishing] at hunready
    cases hunready

theorem steady_of_sound {r : Resolver} (h : r.effort.Sound) : r.Steady where
  spared := fun i hnone => spared_step hnone
  failed := fun i s f hs hfails => step_of_fails hs hfails
  unreported := fun i n hn hfailure => fails_of_isFailure hn hfailure
  again := fun i signal e later hreceives => hreceives.leadsOn h later
  atOnce := fun i signal e later hreceives hprompt => hreceives.leadsOn_atOnce h hprompt later
  cancelled := by
    intro i s hs hcancelled
    refine ⟨fun later => (cancelled_run hs hcancelled later).1, fun hunready => ?_⟩
    refine ⟨(step_of_cancelled hs hcancelled hunready).1, fun later => ?_⟩
    obtain ⟨-, q, hq, hstill, hlater⟩ := cancelled_run hs hcancelled later
    obtain ⟨hsilent, hnothing⟩ := hlater hunready
    exact ⟨hsilent, (step_of_cancelled hq hstill hnothing).2⟩

variable (name : String) (config : ResolverConfig) (source : Source) (backoff : Backoff)
  (hooked : Bool) (stamp : String)

/-- In every state that can be reached, an evaluation that gives no snapshot leaves all that is
known of services and all that is meant for watchers as it was, and a failure is reported and leaves
its session ready for the next request. -/
theorem evaluations_fail_safely (events : List Event) :
    ((create name config source backoff hooked stamp).run events).1.Steady := by
  refine steady_of_sound (sound_run ?_ events)
  intro i c hc
  cases hc

/-- A list that is going to fail, with a signal that has not been read. -/
def outage : Resolver :=
  ((create "r" (.create "n" ["http"]) (.memory .empty) .standard true "").run
    [.watch "a" "w", .proceed "a", .change (.failLists (some "down")), .step (.evaluate 0),
      .step (.ingest 0), .change (.publish "a" .changed)]).1

theorem evaluations_fail_safely_in_outage :
    outage.Fails 0 (.source "a" "down") ∧
    (outage.step (.evaluate 0)).2 = [.failed "a" (.source "a" "down")] ∧
    outage.Receives 0 .changed (.step (.ingest 0)) ∧
    LeadsOn outage 0 0 ((outage.react (.step (.ingest 0))).1.run [.step (.evaluate 0)]) := by
  have hsteady := evaluations_fail_safely "r" (.create "n" ["http"]) (.memory .empty) .standard
    true "" [.watch "a" "w", .proceed "a", .change (.failLists (some "down")),
      .step (.evaluate 0), .step (.ingest 0), .change (.publish "a" .changed)]
  have hfails : outage.Fails 0 (.source "a" "down") :=
    ⟨_, _, .failed "down", rfl, rfl, rfl, rfl, rfl⟩
  have hreceives : outage.Receives 0 .changed (.step (.ingest 0)) :=
    .read rfl rfl rfl rfl
  refine ⟨hfails, ?_, hreceives, ?_⟩
  · exact (hsteady.failed 0 _ _ rfl hfails).1
  · exact hsteady.atOnce 0 .changed _ _ hreceives (Or.inr ⟨_, rfl, rfl⟩)

end Resolver

end Lookout
