import Lookout.Proofs.Resolver.Audience
import Lookout.Proofs.Resolver.Lifecycle
import Mathlib.Data.List.Induction

/-!
# Silence

A service is over when the call has returned that took its last watcher away, or stopped the
resolver. From then on its sessions are cancelled and have no mailboxes, wherever their tasks have
come: no step of theirs does more than end a task, or publish to nobody what had been built before.
So nothing else is heard of the service until somebody watches it again, and whoever of its sessions
still reads a subscription lets go of it at the next step.
-/
set_option autoImplicit false

namespace Lookout

/-- It is cancelled and holds no mailboxes, so that what was unread in them is gone. -/
structure Session.Over (s : Session) : Prop where
  cancelled : s.cancelled = true
  unmanned : s.registry.registrations = []

namespace Ledger

/-! ## Services that are over -/

/-- Nobody watches the service, and nobody is about to. -/
structure Deserted (g : Ledger) (service : String) : Prop where
  unwatched : g.watched.find? service = none
  unjoined : ∀ i w, g.call? ≠ some (.joining service i w)

/-- It is deserted, and its sessions are over. -/
structure Quieted (g : Ledger) (service : String) : Prop extends Deserted g service where
  ended : ∀ (i : Nat) (d : Desk), g.desks[i]? = some d → d.service = service →
    d.cancelled = true ∧ d.registry.registrations = []

section
variable {g g' : Ledger} {service : String} {ns : List Notice}

theorem Orderly.quieted (h : g.Orderly) (hfree : g.call? = none)
    (hunwatched : g.watched.find? service = none) (hended : g.stopped = true ∨ g.Fits) :
    g.Quieted service := by
  refine ⟨⟨hunwatched, fun i w hcall => absurd (hcall.symm.trans hfree) (by simp)⟩, ?_⟩
  rintro i d hd rfl
  refine ⟨?_, ?_⟩
  · rcases hended with hstopped | hfits
    · exact (h.desks i d hd).ended hstopped
    · cases hcancelled : d.cancelled with
      | true => rfl
      | false =>
        have hwatched := h.going_of_free hfree hd hcancelled hfits
        exact absurd (hwatched.symm.trans hunwatched) (by simp)
  · refine Classical.byContradiction fun hmanned => ?_
    exact absurd ((h.manned_of_free hfree hd hmanned).symm.trans hunwatched) (by simp)

theorem Quieted.over_step (h : g.Quieted service) (ho : g.Orderly) (hstep : Step g ns g')
    (hunjoined : ∀ i w, g'.call? ≠ some (.joining service i w)) {i : Nat} {d' : Desk}
    (hd' : g'.desks[i]? = some d') (hservice : d'.service = service) :
    d'.cancelled = true ∧ d'.registry.registrations = [] := by
  have hmodify : ∀ (j : Nat) {f : Desk → Desk}, (g.modify j f).desks[i]? = some d' →
      (∀ d, g.desks[j]? = some d → (f d).service = d.service) →
      (∀ d, g.desks[j]? = some d → d.service = service →
        (f d).cancelled = true ∧ (f d).registry.registrations = []) →
      d'.cancelled = true ∧ d'.registry.registrations = [] := by
    intro j f hdesk hsame hf
    obtain ⟨d, hd, rfl⟩ := of_modify_getElem? hdesk
    split at hservice
    · next hij =>
      subst hij
      rw [if_pos rfl]
      exact hf d hd ((hsame d hd).symm.trans hservice)
    · next hij =>
      rw [if_neg hij]
      exact h.ended i d hd hservice
  -- who joins or leaves does so in a session that is watched, which is another service's
  have hwatched : ∀ {a : String} {j : Nat} {d : Desk} {p : Prop}, g.watched.find? a = some j →
      g.desks[j]? = some d → d.service = service → p := by
    intro a j d p hj hd howner
    obtain rfl : service = a := howner.symm.trans (ho.service_of_watched hj hd)
    exact absurd (hj.symm.trans h.unwatched) (by simp)
  have hcancel : (g.desks.map Desk.cancel)[i]? = some d' →
      d'.cancelled = true ∧ d'.registry.registrations = [] := by
    intro hdesk
    rw [List.getElem?_map] at hdesk
    obtain ⟨d, hd, rfl⟩ := Option.map_eq_some_iff.1 hdesk
    exact ⟨rfl, (h.ended i d hd hservice).2⟩
  cases hstep with
  | quiet hns => exact h.ended i d' hd' hservice
  | joined w hfree hopen hj =>
    exact hmodify _ hd' (fun _ _ => rfl) fun d hd howner => hwatched hj hd howner
  | begun a w hfree hopen hnone =>
    rcases of_append_getElem? hd' with hold | ⟨-, rfl⟩
    · exact h.ended i d' hold hservice
    · obtain rfl : a = service := hservice
      exact absurd rfl (hunjoined g.desks.length w)
  | @registered a j w hcall hfits =>
    refine hmodify _ hd' (fun _ _ => rfl) fun d hd howner => ?_
    obtain ⟨b, hb, hown, -⟩ := (ho.joining hcall).desk
    obtain rfl := Option.some.inj (hb.symm.trans hd)
    exact absurd (howner ▸ hown ▸ hcall) (h.unjoined j w)
  | orphaned hcall hd hlarge => exact h.ended i d' hd' hservice
  | left w hfree hj hd hleft =>
    exact hmodify _ hd' (fun _ _ => rfl) fun d hd howner => hwatched hj hd howner
  | emptied w hfree hj hd hleft =>
    exact hmodify _ hd' (fun _ _ => rfl) fun d hd howner => hwatched hj hd howner
  | kept hcall => exact h.ended i d' hd' hservice
  | cancelled hcall =>
    exact hmodify _ (f := Desk.cancel) hd' (fun _ _ => rfl) fun d hd howner =>
      ⟨rfl, (h.ended _ d hd howner).2⟩
  | closed hcall hfind =>
    exact hmodify _ (f := Desk.close) hd' (fun _ _ => rfl) fun d hd howner =>
      ⟨(h.ended _ d hd howner).1, rfl⟩
  | stopped hfree hopen => exact hcancel hd'
  | dropped hfree => exact hcancel hd'
  | built s hd hcancelled hready hrevision => exact h.ended i d' hd' hservice
  | published hd hready =>
    refine hmodify _ hd' (fun _ _ => rfl) fun d hd howner => ?_
    obtain ⟨hended, hnobody⟩ := h.ended _ d hd howner
    exact ⟨hended, by simp [Registry.notify, hnobody]⟩
  | delivered t hd =>
    refine hmodify _ hd' (fun _ _ => rfl) fun d hd howner => ?_
    obtain ⟨hended, hnobody⟩ := h.ended _ d hd howner
    refine ⟨hended, ?_⟩
    rw [deliver_unmanned hnobody t]
    exact hnobody

theorem Deserted.step (h : g.Deserted service) (hstep : Step g ns g')
    (hunjoined : ∀ i w, g'.call? ≠ some (.joining service i w)) : g'.Deserted service := by
  refine ⟨?_, hunjoined⟩
  cases hstep with
  | @registered a j w hcall hfits =>
    change (g.watched.insert a j).find? service = none
    rw [Dict.find?_insert]
    split
    · next ha => exact absurd (ha ▸ hcall) (h.unjoined j w)
    · exact h.unwatched
  | @emptied a j d w hfree hwatched hd hleft =>
    change (g.watched.erase a).find? service = none
    rw [Dict.find?_erase]
    split
    · rfl
    · exact h.unwatched
  | stopped hfree hopen => exact Dict.find?_empty service
  | _ => exact h.unwatched

theorem Quieted.step (h : g.Quieted service) (ho : g.Orderly) (hstep : Step g ns g')
    (hunjoined : ∀ i w, g'.call? ≠ some (.joining service i w)) : g'.Quieted service :=
  ⟨h.toDeserted.step hstep hunjoined, fun _ _ hd' hservice => h.over_step ho hstep hunjoined hd'
    hservice⟩

theorem Quieted.builds (h : g.Quieted service) (hstep : Step g ns g') :
    builds service ns = [] := by
  cases hstep with
  | quiet hns => exact builds_quiet hns service
  | @built i d s hd hcancelled hready hrevision =>
    rw [builds_built]
    split
    · next hservice => exact absurd ((h.ended i d hd hservice).1.symm.trans hcancelled) (by simp)
    · rfl
  | delivered t hd => exact builds_deliveryNotices _ _ _ _ _
  | _ => rfl

theorem Step.ready_of_publisher (h : Step g ns g') {i : Nat} (hi : i ∈ publishers service ns) :
    publishers service ns = [i] ∧ ∃ s, g.ready[i]? = some (service, some s) := by
  rcases h.publication service with ⟨-, hnobody⟩ | ⟨j, d, s, hd, hservice, -, hby, -⟩
  · rw [hnobody] at hi
    exact absurd hi List.not_mem_nil
  · rw [hby] at hi ⊢
    obtain rfl := List.mem_singleton.1 hi
    refine ⟨rfl, ?_⟩
    rcases h.currentOf hd with ⟨-, hsilent⟩ | ⟨t, report, -, hready, -⟩
    · exact absurd (hby ▸ List.mem_singleton_self i) (hsilent service)
    · exact ⟨t, hservice ▸ hready⟩

end

end Ledger

namespace Resolver

section
variable {buffer : Nat} {ns : List Notice} {r : Resolver} {service : String}

theorem deserted_react (h : r.ledger.Deserted service) {e : Event}
    (hagain : (∃ c, r.call? = some c) ∨ r.stopped = true ∨ ∀ v, e ≠ .watch service v) :
    (r.react e).1.ledger.Deserted service := by
  refine h.step (r.ledger_react e) fun i w hjoining => ?_
  rcases of_joining_react hjoining with hbefore | ⟨rfl, hpermit⟩
  · exact h.unjoined i w hbefore
  · rcases hagain with ⟨c, hcall⟩ | hstopped | hnever
    · -- a call that has to wait begins no session
      obtain ⟨hsame, -⟩ := react_of_held hcall (e := .watch service w) (by simp)
      exact h.unjoined i w ((hcall.trans hsame.symm).trans hjoining)
    · exact absurd hstopped (by simp [stopped_eq_false_of_permit hpermit])
    · exact hnever w rfl

theorem quieted_react (h : Ledger.Reached buffer ns r.ledger) (hover : r.ledger.Quieted service)
    {e : Event} (hagain : r.stopped = true ∨ ∀ v, e ≠ .watch service v) :
    (r.react e).1.ledger.Quieted service :=
  hover.step h.orderly (r.ledger_react e) (deserted_react hover.toDeserted (.inr hagain)).unjoined

theorem quieted_run (h : Ledger.Reached buffer ns r.ledger) (hover : r.ledger.Quieted service)
    {events : List Event} (hagain : r.stopped = true ∨ ∀ v, .watch service v ∉ events) :
    (r.run events).1.ledger.Quieted service := by
  induction events generalizing r ns with
  | nil => exact hover
  | cons e rest ih =>
    refine ih (h.step (r.ledger_react e)) (quieted_react h hover ?_) ?_
    · exact hagain.imp_right fun hnever v heq => hnever v (heq ▸ List.mem_cons_self ..)
    · refine hagain.imp (fun hstopped => r.stopped_run hstopped [e]) fun hnever v hv => ?_
      exact hnever v (List.mem_cons_of_mem _ hv)

theorem over_of_quieted (hover : r.ledger.Quieted service) {i : Nat} {s : Session}
    (hs : r.session? i = some s) (hservice : s.service = service) : s.Over := by
  have hdesk : r.ledger.desks[i]? = some s.desk := by simp [hs]
  obtain ⟨hcancelled, hnobody⟩ := hover.ended i s.desk hdesk hservice
  exact ⟨hcancelled, hnobody⟩

/-! ## Their tasks -/

theorem evaluate_of_cancelled {i : Nat} {s : Session} (h : s.cancelled = true) :
    r.evaluate i s = (r, []) ∨
      r.evaluate i s = (r.modify i fun s => { s with evaluation := .ended }, []) ∨
      ∃ c, s.evaluation = .publishing c ∧ r.evaluate i s = r.publish i s c := by
  unfold evaluate
  split
  · exact .inl rfl
  · rw [if_pos h]
    exact .inr (.inl rfl)
  · rw [if_pos h]
    exact .inr (.inl rfl)
  · next c hpublishing => exact .inr (.inr ⟨c, hpublishing, rfl⟩)

theorem ingest_of_cancelled {i : Nat} {s : Session} (h : s.cancelled = true) :
    (s.ingestion = .ended ∧ r.ingest i s = (r, [])) ∨
      ∃ source, r.ingest i s =
        ({ r with source }.modify i fun s => { s with ingestion := .ended }, []) := by
  unfold ingest
  split
  · next hended => exact Or.inl ⟨hended, rfl⟩
  · rw [if_pos h]
    exact Or.inr ⟨r.source, rfl⟩
  · next id? _ =>
    rw [if_pos h]
    exact Or.inr ⟨r.source.release id?, rfl⟩
  · rw [if_pos h]
    exact Or.inr ⟨r.source, rfl⟩

theorem notify_unmanned {g : Registry} (h : g.registrations = []) (c : Snapshot) :
    (g.notify c).2 = .zero := by
  simp [Registry.notify, h, Report.zero]

/-- No task of a session that is over counts anything, or says anything but that it has published to
nobody what it had built. -/
theorem step_of_over {t : Task} {s : Session} (hs : r.session? t.session = some s)
    (hover : s.Over) : (r.step t).1.metrics = r.metrics ∧ ((r.step t).2 = [] ∨
      ∃ i c, t = .evaluate i ∧ s.evaluation = .publishing c ∧
        (r.step t).2 = [.published i s.service c .zero]) := by
  unfold step
  rw [hs]
  cases t with
  | evaluate i =>
    rcases evaluate_of_cancelled (r := r) (i := i) hover.cancelled with
      heq | heq | ⟨c, hpublishing, heq⟩
    · exact ⟨congrArg (·.1.metrics) heq, .inl (congrArg Prod.snd heq)⟩
    · exact ⟨congrArg (·.1.metrics) heq, .inl (congrArg Prod.snd heq)⟩
    · have hreport := notify_unmanned hover.unmanned c
      refine ⟨(congrArg (·.1.metrics) heq).trans ?_, .inr ⟨i, c, rfl, hpublishing, ?_⟩⟩
      · change (s.registry.notify c).2.countIn r.metrics = r.metrics
        rw [hreport, Report.countIn_zero]
      · refine (congrArg Prod.snd heq).trans ?_
        simp only [publish]
        rw [hreport]
  | ingest i =>
    rcases ingest_of_cancelled (r := r) (i := i) hover.cancelled with ⟨-, heq⟩ | ⟨source, heq⟩
    · exact ⟨congrArg (·.1.metrics) heq, .inl (congrArg Prod.snd heq)⟩
    · exact ⟨congrArg (·.1.metrics) heq, .inl (congrArg Prod.snd heq)⟩
  | resync i =>
    change (r.resync i s).1.metrics = r.metrics ∧ ((r.resync i s).2 = [] ∨ _)
    unfold resync
    split
    · rw [if_pos hover.cancelled]
      exact ⟨rfl, .inl rfl⟩
    · exact ⟨rfl, .inl rfl⟩
  | deliver i ticket =>
    change (r.deliver i s ticket).1.metrics = r.metrics ∧ ((r.deliver i s ticket).2 = [] ∨ _)
    unfold deliver
    rw [Ledger.deliver_unmanned hover.unmanned ticket]
    exact ⟨rfl, .inl rfl⟩

end

end Resolver

/-! ## What is said of a service -/

namespace Notice

/-- Whether a notice is about a service: an evaluation of it begins, a snapshot of it is built,
published or delivered, or a failure of it is reported. -/
def About (r : Resolver) (service : String) : Notice → Prop
  | .triggered i _ => ∃ s, r.session? i = some s ∧ s.service = service
  | .built _ owner _ => owner = service
  | .published _ owner _ _ => owner = service
  | .failed owner _ => owner = service
  | .delivered _ _ owner _ _ => owner = service

end Notice

namespace Resolver

/-- A call about the service, a part of one, or a step of a task of one of its sessions. -/
def Event.Concerns (r : Resolver) (service : String) : Event → Prop
  | .watch a _ => a = service
  | .unwatch a _ => a = service
  | .proceed a => a = service
  | .step t => ∃ s, r.session? t.session = some s ∧ s.service = service
  | _ => False

section
variable {r : Resolver} {service : String} {i : Nat} {s : Session} {n : Notice}

theorem service_of_report {f : Failure} (hn : n ∈ r.report service f) {q : Resolver} {a : String}
    (habout : n.About q a) : service = a := by
  rw [eq_of_mem_report hn] at habout
  exact habout

theorem service_of_evaluate (hs : r.session? i = some s) (hn : n ∈ (r.evaluate i s).2)
    (habout : n.About r service) : s.service = service := by
  unfold evaluate at hn
  split at hn
  · cases hn
  · split at hn
    · cases hn
    · split at hn
      · obtain rfl := List.mem_singleton.1 hn
        obtain ⟨q, hq, hservice⟩ := habout
        obtain rfl := Option.some.inj (hs.symm.trans hq)
        exact hservice
      · cases hn
  · split at hn
    · cases hn
    · split at hn
      · cases hn
      · obtain rfl := List.mem_singleton.1 hn
        exact habout
      · exact service_of_report hn habout
  · obtain rfl := List.mem_singleton.1 hn
    exact habout

theorem service_of_ingest (hn : n ∈ (r.ingest i s).2) (habout : n.About r service) :
    s.service = service := by
  unfold ingest at hn
  split at hn
  · cases hn
  · split at hn
    · cases hn
    · unfold subscribe at hn
      split at hn
      · exact service_of_report hn habout
      · cases hn
  · split at hn
    · cases hn
    · unfold read at hn
      split at hn
      · cases hn
      · exact service_of_report hn habout
      · cases hn
      · cases hn
  · split at hn
    · cases hn
    · split at hn <;> cases hn

theorem service_of_step {t : Task} (hs : r.session? t.session = some s) (hn : n ∈ (r.step t).2)
    (habout : n.About r service) : s.service = service := by
  unfold step at hn
  rw [hs] at hn
  cases t with
  | evaluate i => exact service_of_evaluate hs hn habout
  | ingest i => exact service_of_ingest hn habout
  | resync i =>
    change n ∈ (r.resync i s).2 at hn
    unfold resync at hn
    split at hn
    · split at hn
      · cases hn
      · split at hn <;> cases hn
    · cases hn
  | deliver i ticket =>
    change n ∈ (r.deliver i s ticket).2 at hn
    unfold deliver at hn
    dsimp only at hn
    split at hn
    · obtain rfl := List.mem_singleton.1 hn
      exact habout
    · cases hn

theorem exists_step_of_about {e : Event} (hn : n ∈ (r.react e).2) (habout : n.About r service) :
    ∃ t s, e = .step t ∧ r.session? t.session = some s ∧ s.service = service := by
  cases e with
  | step t =>
    change n ∈ (r.step t).2 at hn
    cases hs : r.session? t.session with
    | none =>
      simp only [step, hs] at hn
      cases hn
    | some s => exact ⟨t, s, rfl, hs, service_of_step hs hn habout⟩
  | _ => cases hn

theorem metrics_delWatch (r : Resolver) (service : String) (w : WatcherId) :
    (r.delWatch service w).metrics = r.metrics := by
  unfold delWatch
  split
  · rfl
  · split
    · rfl
    · dsimp only
      split <;> rfl

/-- All that is said of a service that is over is that what had been built is published to nobody.
-/
theorem notice_of_over (hover : r.ledger.Quieted service) {e : Event} (hn : n ∈ (r.react e).2)
    (habout : n.About r service) :
    ∃ i s c, r.session? i = some s ∧ s.service = service ∧ s.evaluation = .publishing c ∧
      n = .published i service c .zero := by
  obtain ⟨t, s, rfl, hs, hservice⟩ := exists_step_of_about hn habout
  rcases (step_of_over hs (over_of_quieted hover hs hservice)).2 with
    hsilent | ⟨i, c, rfl, hpublishing, hone⟩
  · exact absurd (hsilent ▸ hn : n ∈ []) List.not_mem_nil
  · exact ⟨i, s, c, hs, hservice, hpublishing, hservice ▸ List.mem_singleton.1 (hone ▸ hn)⟩

theorem metrics_of_over (hover : r.ledger.Quieted service) {e : Event}
    (hagain : r.stopped = true ∨ ∀ v, e ≠ .watch service v) (hconcerns : e.Concerns r service) :
    (r.react e).1.metrics = r.metrics := by
  have hcall : ∀ call : Resolver → Resolver, (call r).metrics = r.metrics →
      (r.whenFree call).metrics = r.metrics := by
    intro call hsame
    rcases r.whenFree_cases call with heq | ⟨-, heq⟩
    · rw [heq]
    · rw [heq, hsame]
  cases e with
  | watch a w =>
    obtain rfl : a = service := hconcerns
    rcases hagain with hstopped | hnever
    · refine hcall (fun r => (r.addWatch a w).1) ?_
      rcases r.addWatch_cases a w with ⟨f, -, heq⟩ | ⟨hpermit, -⟩
      · rw [heq]
      · exact absurd hstopped (by simp [stopped_eq_false_of_permit hpermit])
    · exact absurd rfl (hnever w)
  | unwatch a w => exact hcall (·.delWatch a w) (r.metrics_delWatch a w)
  | proceed a =>
    obtain rfl : a = service := hconcerns
    change (r.proceed a).1.metrics = r.metrics
    rcases r.proceed_cases a with heq | ⟨j, v, hjoining, -⟩ | ⟨j, -, heq⟩ | ⟨j, -, heq⟩ |
      ⟨j, sessions, -, -, heq⟩
    · rw [heq]
    · exact absurd hjoining (hover.unjoined j v)
    all_goals
      rw [heq]
      rfl
  | step t =>
    obtain ⟨s, hs, hservice⟩ := hconcerns
    exact (step_of_over hs (over_of_quieted hover hs hservice)).1
  | _ => cases hconcerns

end

section
variable {buffer : Nat} {ns : List Notice} {r : Resolver} {service : String} {events : List Event}

theorem ready_of_run (h : Ledger.Reached buffer ns r.ledger) (hover : r.ledger.Quieted service)
    (hagain : r.stopped = true ∨ ∀ v, .watch service v ∉ events) {i : Nat} {c : Snapshot}
    (hready : (r.run events).1.ledger.ready[i]? = some (service, some c)) :
    r.ledger.ready[i]? = some (service, some c) ∧
      i ∉ publishers service (r.run events).2 := by
  induction events generalizing ns r with
  | nil => exact ⟨hready, List.not_mem_nil⟩
  | cons e rest ih =>
    have hnext : (r.react e).1.ledger.Quieted service := by
      refine quieted_react h hover (hagain.imp_right fun hnever v heq => ?_)
      exact hnever v (heq ▸ List.mem_cons_self ..)
    obtain ⟨hlater, hrest⟩ := ih (h.step (r.ledger_react e)) hnext
      (hagain.imp (fun hstopped => r.stopped_run hstopped [e]) fun hnever v hv =>
        hnever v (List.mem_cons_of_mem _ hv)) hready
    rcases (r.ledger_react e).ready hlater with ⟨hnow, hnobody⟩ | ⟨-, hbuilt, -⟩
    · refine ⟨hnow, fun hmem => ?_⟩
      rw [run_cons, publishers_append, List.mem_append] at hmem
      exact hmem.elim (hnobody service) hrest
    · exact absurd ((hover.builds (r.ledger_react e)).symm.trans hbuilt) (by simp)

theorem exists_of_ready {i : Nat} {c : Snapshot}
    (hready : r.ledger.ready[i]? = some (service, some c)) :
    ∃ s, r.session? i = some s ∧ s.service = service ∧ s.evaluation = .publishing c := by
  rw [ledger_ready_getElem?] at hready
  obtain ⟨s, hs, hproduct⟩ := Option.map_eq_some_iff.1 hready
  obtain ⟨hservice, hsome⟩ := Prod.mk.inj hproduct
  refine ⟨s, hs, hservice, ?_⟩
  cases heval : s.evaluation with
  | publishing c' =>
    rw [heval] at hsome
    exact congrArg Evaluation.publishing (Option.some.inj hsome)
  | _ => exact absurd (heval ▸ hsome) (by simp [Evaluation.ready?])

theorem publishers_nodup (h : Ledger.Reached buffer ns r.ledger)
    (hover : r.ledger.Quieted service)
    (hagain : r.stopped = true ∨ ∀ v, .watch service v ∉ events) :
    (publishers service (r.run events).2).Nodup := by
  induction events using List.reverseRecOn with
  | nil => exact List.nodup_nil
  | append_singleton front e ih =>
    have hfront : r.stopped = true ∨ ∀ v, .watch service v ∉ front :=
      hagain.imp_right fun hnever v hv => hnever v (List.mem_append_left _ hv)
    rw [run_concat, publishers_append]
    refine List.nodup_append.2 ⟨ih hfront, ?_, ?_⟩
    all_goals
      have hstep := (r.run front).1.ledger_react e
    · cases hby : publishers service ((r.run front).1.react e).2 with
      | nil => exact List.nodup_nil
      | cons i rest =>
        obtain ⟨hone, -⟩ := hstep.ready_of_publisher (hby ▸ List.mem_cons_self ..)
        rw [← hby, hone]
        simp
    · rintro i hi j hj rfl
      obtain ⟨-, c, hready⟩ := hstep.ready_of_publisher hj
      exact (ready_of_run h hover hfront hready).2 hi

end

section
variable {r : Resolver} {service : String} {i : Nat} {s : Session}

/-! ## Lists and subscriptions -/

theorem listCallsOf_run {events : List Event}
    (h : ∀ front e back, events = front ++ e :: back →
      ∀ i trigger, .triggered i trigger ∈ ((r.run front).1.react e).2 →
        ¬(Notice.triggered i trigger).About (r.run front).1 service) :
    (r.run events).1.source.listCallsOf service = r.source.listCallsOf service := by
  induction events generalizing r with
  | nil => rfl
  | cons e rest ih =>
    have hlater : ((r.react e).1.run rest).1.source.listCallsOf service =
        (r.react e).1.source.listCallsOf service := by
      refine ih ?_
      intro front e' back hsplit
      exact h (e :: front) e' back (by rw [hsplit]; rfl)
    have hnow := (r.audience_react e).listCallsOf (a := service) ?_
    · exact hlater.trans hnow
    · intro i trigger q htriggered hq hservice
      rw [readers_getElem?] at hq
      obtain ⟨s, hs, rfl⟩ := Option.map_eq_some_iff.1 hq
      exact h [] e rest rfl i trigger htriggered ⟨s, hs, hservice⟩

theorem ended_of_over (hs : r.session? i = some s) (hover : s.Over) {q : Reader}
    (hq : (r.react (.step (.ingest i))).1.audience.readers[i]? = some q) :
    q.ingestion = .ended := by
  have hingest : (r.react (.step (.ingest i))).1 = (r.ingest i s).1 := by
    simp only [react, step, Task.session, hs]
  rw [hingest, readers_getElem?] at hq
  rcases ingest_of_cancelled (r := r) (i := i) hover.cancelled with ⟨hended, heq⟩ | ⟨source, heq⟩
  · rw [heq, hs] at hq
    rw [← Option.some.inj hq]
    exact hended
  · have hmodified : ((r.ingest i s).1).session? i = some { s with ingestion := .ended } := by
      rw [heq]
      exact session?_modify_self hs _
    rw [hmodified] at hq
    rw [← Option.some.inj hq]
    rfl

theorem not_mem_of_reading {events : List Event}
    (hover : ∀ front back, events = front ++ back → ∀ i s, (r.run front).1.session? i = some s →
      s.service = service → s.Over)
    {q : Reader} {id? : Option SubscriptionId}
    (hq : (r.run events).1.audience.readers[i]? = some q) (hservice : q.service = service)
    (hreading : q.ingestion = .reading id?) :
    r.audience.readers[i]? = some q ∧ .step (.ingest i) ∉ events := by
  induction events generalizing r with
  | nil => exact ⟨hq, List.not_mem_nil⟩
  | cons e rest ih =>
    obtain ⟨hnext, hrest⟩ := ih (r := (r.react e).1)
      (fun front back hsplit => hover (e :: front) back (by rw [hsplit]; rfl)) hq
    have hother : e ≠ .step (.ingest i) := by
      rintro rfl
      cases hs : r.session? i with
      | none =>
        have hsame : (r.react (.step (.ingest i))).1 = r := by
          simp only [react, step, Task.session, hs]
        rw [hsame, readers_getElem?, hs] at hnext
        cases hnext
      | some s =>
        have hreader : r.audience.readers[i]? = some s.reader := by simp [hs]
        obtain ⟨q', hq', hsame⟩ := (r.audience_react (.step (.ingest i))).service hreader
        obtain rfl := Option.some.inj (hnext.symm.trans hq')
        have hended := ended_of_over hs (hover [] _ rfl i s hs (hsame.symm.trans hservice)) hnext
        exact absurd (hended.symm.trans hreading) (by simp)
    have hbefore := (r.audience_react e).kept (mt Event.reader?_eq_some_iff.1 hother) hnext
      hreading
    exact ⟨hbefore, by simp [hother.symm, hrest]⟩

end

/-! ## Silence -/

/-- Nothing is heard of a service, whatever happens, but that what a session had built by now may
still be published once, to nobody. What the source had been given before there was a resolver is
not touched by it. -/
structure Silent (given : Source) (r : Resolver) (service : String) (after : List Event) :
    Prop where
  notices : ∀ front e back, after = front ++ e :: back → ∀ n ∈ ((r.run front).1.react e).2,
    n.About (r.run front).1 service → ∃ i s c, r.session? i = some s ∧ s.service = service ∧
      s.evaluation = .publishing c ∧ n = .published i service c .zero
  once : (publishers service (r.run after).2).Nodup
  counters : ∀ front e back, after = front ++ e :: back → e.Concerns (r.run front).1 service →
    ((r.run front).1.react e).1.metrics = (r.run front).1.metrics
  lists : (r.run after).1.source.listCallsOf service = r.source.listCallsOf service
  /-- What was unread is gone. -/
  discarded : ∀ i s, (r.run after).1.session? i = some s → s.service = service → s.Over
  /-- Who still has a subscription to the service has not taken a step. -/
  held : ∀ id, (r.run after).1.source.Active service id → given.Active service id ∨
    ∃ i s, r.session? i = some s ∧ s.service = service ∧ s.ingestion = .reading (some id) ∧
      .step (.ingest i) ∉ after
  released : (∀ i s, r.session? i = some s → s.service = service →
      s.ingestion = .ended ∨ .step (.ingest i) ∈ after) →
    (r.run after).1.source.activeSubscriptions service ≤ given.activeSubscriptions service

/-- The event takes the last watcher of a service away, or stops the resolver. -/
def Event.Ends (r : Resolver) (service : String) : Event → Prop
  | .unwatch a w => a = service ∧ 0 < r.watcherCount service ∧
      (r.delWatch service w).watcherCount service = 0
  | .stop => True
  | _ => False

/-- A call that finds the resolver free returns at the end of what happens during it. -/
structure Returns (r : Resolver) (call : Event) (during : List Event) : Prop where
  free : r.call? = none
  held : ∀ n < during.length, ((r.react call).1.run (during.take n)).1.call?.isSome = true
  returned : ((r.react call).1.run during).1.call? = none

section
variable {buffer : Nat} {ns : List Notice} {r : Resolver} {service : String}

theorem deserted_run (h : r.ledger.Deserted service) {events : List Event}
    (hheld : ∀ n < events.length, (r.run (events.take n)).1.call?.isSome = true) :
    (r.run events).1.ledger.Deserted service := by
  induction events generalizing r with
  | nil => exact h
  | cons e rest ih =>
    have hcall := Option.isSome_iff_exists.1 (hheld 0 (Nat.succ_pos _))
    exact ih (deserted_react h (.inl hcall)) fun n hn => hheld (n + 1) (Nat.succ_lt_succ hn)

theorem deserted_delWatch (h : Ledger.Reached buffer ns r.ledger) {w : WatcherId}
    (hfree : r.call? = none) (hbefore : 0 < r.watcherCount service)
    (hafter : (r.delWatch service w).watcherCount service = 0) :
    (r.delWatch service w).ledger.Deserted service := by
  have horderly := (h.step (r.ledger_delWatch hfree service w)).orderly
  rw [watcherCount_eq h.orderly, List.length_pos_iff] at hbefore
  rw [watcherCount_eq horderly, List.length_eq_zero_iff] at hafter
  rcases r.ledger_delWatch_cases service w with
    ⟨-, heq⟩ | ⟨i, d, hwatched, hd, ⟨hleft, heq⟩ | ⟨-, heq⟩⟩
  · exact absurd (heq ▸ hafter) hbefore
  · have hpost := Ledger.post?_of_seat (h.orderly.seat?_of_watched hwatched) hd
    have hseat : (r.ledger.modify i fun d =>
        { d with registry := (d.registry.remove w).1 }).seat? service = r.ledger.seat? service :=
      Ledger.seat?_congr rfl rfl service
    have hpost' := Ledger.post?_modify_self rfl hseat hpost
    rw [heq, Ledger.members_of_post? hpost'] at hafter
    exact absurd (List.map_eq_nil_iff.1 hafter) hleft
  · rw [heq]
    refine ⟨?_, by simp [Ledger.empty]⟩
    change (r.watched.erase service).find? service = none
    rw [Dict.find?_erase, if_pos rfl]

theorem quieted_of_ends (h : Ledger.Reached buffer ns r.ledger) {e : Event} {during : List Event}
    (hends : e.Ends r service) (hreturns : Returns r e during) :
    ((r.react e).1.run during).1.ledger.Quieted service := by
  have hreached := (h.step (r.ledger_react e)).run during
  cases e with
  | stop =>
    have hstopped := stopped_run (stopped_of_stop hreturns.free) during
    refine hreached.orderly.quieted hreturns.returned ?_ (.inl hstopped)
    rw [hreached.orderly.stopped hstopped]
    exact Dict.find?_empty service
  | unwatch a w =>
    obtain ⟨rfl, hbefore, hafter⟩ := hends
    have hleft : (r.react (.unwatch a w)).1 = r.delWatch a w :=
      whenFree_of_free hreturns.free (·.delWatch a w)
    have hdeserted : ((r.react (.unwatch a w)).1.run during).1.ledger.Deserted a := by
      refine deserted_run ?_ hreturns.held
      rw [hleft]
      exact deserted_delWatch h hreturns.free hbefore hafter
    obtain ⟨i, hi⟩ := Option.isSome_iff_exists.1 ((watcherCount_pos_iff h a).1 hbefore)
    refine hreached.orderly.quieted hreturns.returned hdeserted.unwatched (.inr ?_)
    exact hreached.fits_iff.2 (h.fits_iff.1 (h.orderly.fits a i hi))
  | _ => cases hends

theorem held_of_over {given : Source} {after : List Event}
    (hover : ∀ front back, after = front ++ back → ∀ i s, (r.run front).1.session? i = some s →
      s.service = service → s.Over)
    (hread : (r.run after).1.audience.Read given) {id : SubscriptionId}
    (hactive : (r.run after).1.source.Active service id) :
    given.Active service id ∨
      ∃ i s, r.session? i = some s ∧ s.service = service ∧ s.ingestion = .reading (some id) ∧
        .step (.ingest i) ∉ after := by
  rcases hread service id hactive with hgiven | ⟨i, q, hq, hservice, hreading⟩
  · exact Or.inl hgiven
  · obtain ⟨hbefore, hstep⟩ := not_mem_of_reading hover hq hservice hreading
    rw [readers_getElem?] at hbefore
    obtain ⟨s, hs, rfl⟩ := Option.map_eq_some_iff.1 hbefore
    exact Or.inr ⟨i, s, hs, hservice, hreading, hstep⟩

theorem silent_of_quieted {given : Source} (h : Ledger.Reached buffer ns r.ledger)
    (hread : r.audience.Read given) (hover : r.ledger.Quieted service) {after : List Event}
    (hagain : r.stopped = true ∨ ∀ v, .watch service v ∉ after) :
    Silent given r service after := by
  have hfront : ∀ {front back : List Event}, after = front ++ back →
      r.stopped = true ∨ ∀ v, .watch service v ∉ front := by
    rintro front back rfl
    exact hagain.imp_right fun hnever v hv => hnever v (List.mem_append_left _ hv)
  have hstays : ∀ front back, after = front ++ back →
      (r.run front).1.ledger.Quieted service :=
    fun front back hsplit => quieted_run h hover (hfront hsplit)
  have hsessions : ∀ front back, after = front ++ back → ∀ i s,
      (r.run front).1.session? i = some s → s.service = service → s.Over :=
    fun front back hsplit i s hs hservice => over_of_quieted (hstays front back hsplit) hs hservice
  have hnotices : ∀ front e back, after = front ++ e :: back →
      ∀ n ∈ ((r.run front).1.react e).2, n.About (r.run front).1 service →
        ∃ i s c, r.session? i = some s ∧ s.service = service ∧ s.evaluation = .publishing c ∧
          n = .published i service c .zero := by
    intro front e back hsplit n hn habout
    obtain ⟨i, s, c, hs, hservice, hpublishing, hone⟩ :=
      notice_of_over (hstays front _ hsplit) hn habout
    have hready : (r.run front).1.ledger.ready[i]? = some (service, some c) := by
      simp [hs, Session.product, hservice, hpublishing, Evaluation.ready?]
    obtain ⟨s', hs', hservice', hpublishing'⟩ :=
      exists_of_ready (ready_of_run h hover (hfront hsplit) hready).1
    exact ⟨i, s', c, hs', hservice', hpublishing', hone⟩
  have hheld : ∀ id, (r.run after).1.source.Active service id → given.Active service id ∨
      ∃ i s, r.session? i = some s ∧ s.service = service ∧ s.ingestion = .reading (some id) ∧
        .step (.ingest i) ∉ after :=
    fun _ hactive => held_of_over hsessions (read_run hread after) hactive
  refine ⟨hnotices, publishers_nodup h hover hagain, ?_, ?_, ?_, hheld, ?_⟩
  · intro front e back hsplit hconcerns
    refine metrics_of_over (hstays front _ hsplit) ?_ hconcerns
    refine hagain.imp (fun hstopped => stopped_run hstopped front) ?_
    rintro hnever v rfl
    exact hnever v (by simp [hsplit])
  · refine listCallsOf_run fun front e back hsplit i trigger htriggered habout => ?_
    obtain ⟨_, _, _, _, _, _, hone⟩ := hnotices front e back hsplit _ htriggered habout
    exact Notice.noConfusion hone
  · exact hsessions after [] (List.append_nil after).symm
  · intro hstepped
    refine Source.activeSubscriptions_le ?_
    intro id hactive
    rcases hheld id hactive with hgiven | ⟨i, s, hs, hservice, hreading, hstep⟩
    · exact hgiven
    · rcases hstepped i s hs hservice with hended | htaken
      · exact absurd (hended.symm.trans hreading) (by simp)
      · exact absurd htaken hstep

end

/-- From the moment at which the call has returned that took its last watcher away, or stopped the
resolver, nothing is heard of a service until somebody watches it again; after a stop nobody can. -/
theorem silent_of_ends (name : String) (config : ResolverConfig) (source : Source)
    (backoff : Backoff) (hooked : Bool) (stamp : String) (before : List Event) (e : Event)
    (during after : List Event) (service : String)
    (hends : e.Ends ((create name config source backoff hooked stamp).run before).1 service)
    (hreturns : Returns ((create name config source backoff hooked stamp).run before).1 e during)
    (hagain : e = .stop ∨ ∀ v, .watch service v ∉ after) :
    Silent source
      ((create name config source backoff hooked stamp).run (before ++ e :: during)).1 service
      after := by
  have hreached : Ledger.Reached config.watcherBuffer.toNat []
      (create name config source backoff hooked stamp).ledger := .create
  have hread : (create name config source backoff hooked stamp).audience.Read source :=
    fun _ _ hactive => Or.inl hactive
  generalize create name config source backoff hooked stamp = start
    at hends hreturns hreached hread ⊢
  have hover : (start.run (before ++ e :: during)).1.ledger.Quieted service := by
    rw [run_append]
    exact quieted_of_ends (hreached.run before) hends hreturns
  refine silent_of_quieted (hreached.run _) (read_run hread _) hover (hagain.imp_left ?_)
  rintro rfl
  rw [run_append, run_cons]
  exact stopped_run (stopped_of_stop hreturns.free) during

/-- The last watcher leaves while a build is in flight and a signal is unread; the subscription that
is left over goes with the next step of its reader. -/
theorem silent_after_leaving :
    Event.Ends ((create "r" (.create "n" ["http"]) (.memory .empty) .standard true "").run
      [.watch "a" "w", .proceed "a", .step (.ingest 0), .step (.evaluate 0),
        .change (.publish "a" .changed)]).1 "a" (.unwatch "a" "w") ∧
    Returns ((create "r" (.create "n" ["http"]) (.memory .empty) .standard true "").run
      [.watch "a" "w", .proceed "a", .step (.ingest 0), .step (.evaluate 0),
        .change (.publish "a" .changed)]).1 (.unwatch "a" "w")
      [.proceed "a", .proceed "a", .proceed "a"] ∧
    (∀ v, Event.watch "a" v ∉ [Event.step (.evaluate 0), .step (.deliver 0 0),
      .step (.ingest 0), .change (.publish "a" .changed)]) ∧
    Silent (.memory .empty)
      ((create "r" (.create "n" ["http"]) (.memory .empty) .standard true "").run
        ([.watch "a" "w", .proceed "a", .step (.ingest 0), .step (.evaluate 0),
          .change (.publish "a" .changed)] ++
          .unwatch "a" "w" :: [.proceed "a", .proceed "a", .proceed "a"])).1 "a"
      [.step (.evaluate 0), .step (.deliver 0 0), .step (.ingest 0),
        .change (.publish "a" .changed)] := by
  have hends : Event.Ends
      ((create "r" (.create "n" ["http"]) (.memory .empty) .standard true "").run
        [.watch "a" "w", .proceed "a", .step (.ingest 0), .step (.evaluate 0),
          .change (.publish "a" .changed)]).1 "a" (.unwatch "a" "w") := by
    refine ⟨rfl, ?_, ?_⟩
    · decide
    · decide
  have hreturns : Returns
      ((create "r" (.create "n" ["http"]) (.memory .empty) .standard true "").run
        [.watch "a" "w", .proceed "a", .step (.ingest 0), .step (.evaluate 0),
          .change (.publish "a" .changed)]).1 (.unwatch "a" "w")
        [.proceed "a", .proceed "a", .proceed "a"] := by
    refine ⟨rfl, ?_, rfl⟩
    decide
  have hnever : ∀ v, Event.watch "a" v ∉ [Event.step (.evaluate 0), .step (.deliver 0 0),
      .step (.ingest 0), .change (.publish "a" .changed)] := by simp
  refine ⟨hends, hreturns, hnever, ?_⟩
  exact silent_of_ends "r" (.create "n" ["http"]) (.memory .empty) .standard true "" _ _ _ _ "a"
    hends hreturns (Or.inr hnever)

/-- What had been built when the last watcher left is published after the call has returned. -/
theorem published_after_leaving :
    Event.Ends ((create "r" (.create "n" ["http"]) (.memory .empty) .standard true "").run
      [.watch "a" "w", .proceed "a", .step (.evaluate 0), .step (.evaluate 0)]).1 "a"
      (.unwatch "a" "w") ∧
    Returns ((create "r" (.create "n" ["http"]) (.memory .empty) .standard true "").run
      [.watch "a" "w", .proceed "a", .step (.evaluate 0), .step (.evaluate 0)]).1
      (.unwatch "a" "w") [.proceed "a", .proceed "a", .proceed "a"] ∧
    publishers "a" (((create "r" (.create "n" ["http"]) (.memory .empty) .standard true "").run
      ([.watch "a" "w", .proceed "a", .step (.evaluate 0), .step (.evaluate 0)] ++
        .unwatch "a" "w" :: [.proceed "a", .proceed "a", .proceed "a"])).1.run
      [.step (.evaluate 0)]).2 = [0] := by
  refine ⟨⟨rfl, ?_, ?_⟩, ⟨rfl, ?_, rfl⟩, rfl⟩
  all_goals decide

end Resolver

end Lookout
