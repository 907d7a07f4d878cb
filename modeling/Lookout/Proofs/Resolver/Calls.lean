import Lookout.Proofs.Resolver.Current

/-!
# Calls that go on

While a call holds the resolver nothing is changed of who is watched, nor of what the call has left
to do, but by the call itself when it goes on. A resolver stops at a call that finds it free, and
from then on what is kept of its services stays.
-/
set_option autoImplicit false

namespace Lookout

namespace Ledger

theorem closing?_ne (sessions : Dict Nat) (service : String) (i : Nat) (w : WatcherId) :
    Call.closing? sessions ≠ some (.joining service i w) := by
  unfold Call.closing?
  split <;> simp

theorem Work.steady {g g' : Ledger} {ns : List Notice} (h : Work g ns g') :
    g'.call? = g.call? ∧ g'.watched = g.watched ∧ g'.stopped = g.stopped := by
  cases h <;> exact ⟨rfl, rfl, rfl⟩

theorem exists_of_closing? {d sessions : Dict Nat}
    (h : Call.closing? d = some (.closing sessions)) :
    ∃ service i, sessions.find? service = some i := by
  unfold Call.closing? at h
  split at h
  · cases h
  · next hsome =>
    cases h
    obtain ⟨⟨service, i⟩, hmem⟩ := List.exists_mem_of_ne_nil _
      fun hnil => hsome (List.isEmpty_iff.2 hnil)
    exact ⟨service, i, d.find?_eq_some_of_mem hmem⟩

/-- A call that has nothing left to close has returned. -/
theorem Reached.exists_unclosed {buffer : Nat} {ns : List Notice} {g : Ledger}
    (h : Reached buffer ns g) {sessions : Dict Nat} (hcall : g.call? = some (.closing sessions)) :
    ∃ service i, sessions.find? service = some i := by
  induction h with
  | create => cases hcall
  | @step _ _ g _ _ hstep ih =>
    cases hstep with
    | begun service w hfree hopen hwatched => cases hcall
    | registered hheld hfits => cases hcall
    | orphaned hheld hd hlarge => cases hcall
    | emptied w hfree hwatched hd hleft => cases hcall
    | kept hheld => cases hcall
    | @cancelled service i hheld =>
      exact exists_of_closing? (d := Dict.empty.insert service i) hcall
    | @closed service i left hheld hfind => exact exists_of_closing? (d := left.erase service) hcall
    | stopped hfree hopen => exact exists_of_closing? (d := g.watched) hcall
    | _ => exact ih hcall

end Ledger

namespace Resolver

variable {r : Resolver}

theorem run_concat (r : Resolver) (events : List Event) (e : Event) :
    r.run (events ++ [e]) = (((r.run events).1.react e).1,
      (r.run events).2 ++ ((r.run events).1.react e).2) := by
  rw [run_append, run_cons, run_nil, List.append_nil]

theorem step_steady (r : Resolver) (t : Task) :
    (r.step t).1.call? = r.call? ∧ (r.step t).1.watched = r.watched ∧
      (r.step t).1.stopped = r.stopped :=
  (r.ledger_step t).steady

theorem proceed_of_not_mem {c : Call} (hcall : r.call? = some c) {service : String}
    (h : service ∉ c.rest) : r.proceed service = (r, none) := by
  rcases r.proceed_cases service with heq | ⟨i, w, hc, -⟩ | ⟨i, hc, -⟩ | ⟨i, hc, -⟩ |
    ⟨i, sessions, hc, hfind, -⟩
  · exact heq
  all_goals
    obtain rfl := Option.some.inj (hcall.symm.trans hc)
    refine absurd ?_ h
  · simp [Call.rest]
  · simp [Call.rest]
  · simp [Call.rest]
  · exact sessions.mem_keys.2 (by rw [hfind]; rfl)

theorem ledger_proceed_keeping {service : String} {i : Nat}
    (hcall : r.call? = some (.keeping service i)) :
    (r.proceed service).1.ledger = r.ledger.keep service i := by
  simp only [proceed, hcall, if_true, ledger_keep]

theorem react_of_held {c : Call} (hcall : r.call? = some c) {e : Event}
    (he : ∀ service, e = .proceed service → service ∉ c.rest) :
    (r.react e).1.call? = some c ∧ (r.react e).1.watched = r.watched ∧
      (r.react e).1.stopped = r.stopped := by
  have hheld : ∀ call : Resolver → Resolver, (r.whenFree call).call? = some c ∧
      (r.whenFree call).watched = r.watched ∧ (r.whenFree call).stopped = r.stopped := by
    intro call
    rw [whenFree_of_held hcall]
    exact ⟨hcall, rfl, rfl⟩
  cases e with
  | watch service w => exact hheld _
  | unwatch service w => exact hheld _
  | stop => exact hheld _
  | drop => exact hheld _
  | proceed service =>
    have hsame : (r.proceed service).1 = r := by
      rw [proceed_of_not_mem hcall (he service rfl)]
    simp only [react]
    rw [hsame]
    exact ⟨hcall, rfl, rfl⟩
  | change c => exact ⟨hcall, rfl, rfl⟩
  | step t =>
    obtain ⟨hsame, hrest⟩ := r.step_steady t
    exact ⟨hsame.trans hcall, hrest⟩
  | pass nanos => exact ⟨hcall, rfl, rfl⟩

/-- A call stays where it is for as long as it does not go on. -/
theorem run_of_held {c : Call} (hcall : r.call? = some c) {events : List Event}
    (h : ∀ service ∈ c.rest, .proceed service ∉ events) :
    (r.run events).1.call? = some c ∧ (r.run events).1.watched = r.watched ∧
      (r.run events).1.stopped = r.stopped := by
  induction events generalizing r with
  | nil => exact ⟨hcall, rfl, rfl⟩
  | cons e rest ih =>
    obtain ⟨hcall', hwatched, hstopped⟩ := react_of_held hcall (e := e) fun service he hmem =>
      h service hmem (he ▸ List.mem_cons_self ..)
    obtain ⟨hlast, hwatched', hstopped'⟩ := ih hcall' fun service hmem hlater =>
      h service hmem (List.mem_cons_of_mem _ hlater)
    exact ⟨hlast, hwatched'.trans hwatched, hstopped'.trans hstopped⟩

theorem eq_proceed_of_kept {service : String} {i : Nat}
    (hcall : r.call? = some (.keeping service i)) {e : Event}
    (hcall' : (r.react e).1.call? = some (.cancelling service i)) : e = .proceed service := by
  refine Classical.byContradiction fun hne => ?_
  obtain ⟨hsame, -⟩ := react_of_held hcall (e := e) (by
    rintro a rfl hmem
    have ha : a = service := by simpa [Call.rest] using hmem
    exact hne (ha ▸ rfl))
  rw [hcall'] at hsame
  exact absurd hsame (by simp)

theorem desk_run {i : Nat} {d : Desk} (hd : r.ledger.desks[i]? = some d) (events : List Event) :
    ∃ e, (r.run events).1.ledger.desks[i]? = some e ∧ e.service = d.service := by
  induction events generalizing r d with
  | nil => exact ⟨d, hd, rfl⟩
  | cons e rest ih =>
    obtain ⟨d', hd', hsame⟩ := (r.ledger_react e).desk_after hd
    obtain ⟨d'', hd'', hlast⟩ := ih hd'
    exact ⟨d'', hd'', hlast.trans hsame⟩

/-! ## Stopping -/

theorem stopped_join (r : Resolver) (i : Nat) (w : WatcherId) :
    (r.join i w).1.stopped = r.stopped := by
  unfold join
  split <;> rfl

theorem call?_join (r : Resolver) (i : Nat) (w : WatcherId) :
    (r.join i w).1.call? = r.call? := by
  unfold join
  split <;> rfl

theorem stopped_addWatch (r : Resolver) (service : String) (w : WatcherId) :
    (r.addWatch service w).1.stopped = r.stopped := by
  rcases r.addWatch_cases service w with ⟨f, -, heq⟩ | ⟨-, ⟨i, -, heq⟩ | ⟨-, heq⟩⟩
  · rw [heq]
  · rw [heq]
    exact r.stopped_join i w
  · rw [heq]
    rfl

theorem stopped_delWatch (r : Resolver) (service : String) (w : WatcherId) :
    (r.delWatch service w).stopped = r.stopped := by
  unfold delWatch
  split
  · rfl
  · split
    · rfl
    · dsimp only
      split <;> rfl

theorem stopped_proceed (r : Resolver) (service : String) :
    (r.proceed service).1.stopped = r.stopped := by
  rcases r.proceed_cases service with heq | ⟨i, w, -, heq⟩ | ⟨i, -, heq⟩ | ⟨i, -, heq⟩ |
    ⟨i, sessions, -, -, heq⟩
  · rw [heq]
  · rw [heq]
    rcases r.register_cases service i w with ⟨-, hregister⟩ | ⟨-, hregister⟩
    · rw [hregister]
      exact r.stopped_join i w
    · rw [hregister]
      exact r.stopped_join i w
  all_goals
    rw [heq]
    rfl

theorem stop_of_stopped (h : r.stopped = true) : r.stop = r := by
  simp only [stop]
  rw [if_pos h]

theorem ledger_stop_of_open (h : r.stopped = false) : r.stop.ledger = r.ledger.stop := by
  have hdesks := congrArg Ledger.desks r.ledger_cancelAll
  have hready := congrArg Ledger.ready r.ledger_cancelAll
  simp only [stop]
  rw [if_neg (by rw [h]; exact Bool.noConfusion)]
  simp only [ledger, Ledger.stop] at hdesks hready ⊢
  rw [hdesks, hready]
  rfl

/-- Only a call to stop that finds the resolver free stops it. -/
theorem stopped_react (r : Resolver) (e : Event) :
    (r.react e).1.stopped = r.stopped ∨
      (e = .stop ∧ r.call? = none ∧ r.stopped = false ∧ (r.react e).1 = r.stop) := by
  have hcall : ∀ call : Resolver → Resolver, (call r).stopped = r.stopped →
      (r.whenFree call).stopped = r.stopped := by
    intro call h
    rcases r.whenFree_cases call with heq | ⟨-, heq⟩
    · rw [heq]
    · rw [heq, h]
  cases e with
  | watch service w => exact .inl (hcall (fun r => (r.addWatch service w).1)
      (r.stopped_addWatch service w))
  | unwatch service w => exact .inl (hcall (·.delWatch service w) (r.stopped_delWatch service w))
  | stop =>
    rcases r.whenFree_cases stop with heq | ⟨hfree, heq⟩
    · exact .inl (congrArg Resolver.stopped heq)
    · cases hstopped : r.stopped with
      | false => exact .inr ⟨rfl, hfree, rfl, heq⟩
      | true =>
        rw [stop_of_stopped hstopped] at heq
        exact .inl ((congrArg Resolver.stopped heq).trans hstopped)
  | drop => exact .inl (hcall drop rfl)
  | proceed service => exact .inl (r.stopped_proceed service)
  | change c => exact .inl rfl
  | step t => exact .inl (r.step_steady t).2.2
  | pass nanos => exact .inl rfl

theorem stopped_stop (r : Resolver) : r.stop.stopped = true := by
  cases hstopped : r.stopped with
  | true =>
    rw [stop_of_stopped hstopped]
    exact hstopped
  | false => exact (congrArg Ledger.stopped (ledger_stop_of_open hstopped)).trans rfl

theorem stopped_of_stop (hfree : r.call? = none) : (r.react .stop).1.stopped = true :=
  (congrArg Resolver.stopped (whenFree_of_free hfree stop)).trans r.stopped_stop

theorem exists_stop {events : List Event} (hopen : r.stopped = false)
    (hstopped : (r.run events).1.stopped = true) :
    ∃ front back, events = front ++ .stop :: back ∧ (r.run front).1.call? = none ∧
      (r.run front).1.stopped = false := by
  induction events generalizing r with
  | nil =>
    rw [run_nil, hopen] at hstopped
    exact Bool.noConfusion hstopped
  | cons e rest ih =>
    rcases r.stopped_react e with hsame | ⟨rfl, hfree, -⟩
    · obtain ⟨front, back, rfl, hfront⟩ := ih (hsame.trans hopen) hstopped
      exact ⟨e :: front, back, rfl, hfront⟩
    · exact ⟨[], rest, rfl, hfree, hopen⟩

theorem stopped_run (h : r.stopped = true) (events : List Event) :
    (r.run events).1.stopped = true := by
  induction events generalizing r with
  | nil => exact h
  | cons e rest ih =>
    refine ih ?_
    rcases r.stopped_react e with hsame | ⟨-, -, hopen, -⟩
    · exact hsame.trans h
    · rw [h] at hopen
      exact Bool.noConfusion hopen

theorem kept?_run_of_stopped {buffer : Nat} {ns : List Notice}
    (h : Ledger.Reached buffer ns r.ledger) (hstopped : r.stopped = true) (events : List Event)
    (service : String) : (r.run events).1.ledger.kept? service = r.ledger.kept? service := by
  induction events generalizing ns r with
  | nil => rfl
  | cons e rest ih =>
    refine (ih (h.step (r.ledger_react e)) (r.stopped_run hstopped [e])).trans ?_
    rcases (r.ledger_react e).kept? service with hsame | ⟨i, hcall, -⟩
    · exact hsame
    · obtain ⟨hvacant, -⟩ : r.ledger.Vacant service i ∧ r.ledger.Fits := h.orderly.call _ hcall
      exact Ledger.not_stopped_of_open hvacant.opened hstopped

/-! ## Beginning -/

theorem of_joining_react {service : String} {e : Event} {i : Nat} {w : WatcherId}
    (h : (r.react e).1.call? = some (.joining service i w)) :
    r.call? = some (.joining service i w) ∨ (e = .watch service w ∧ r.permit service = .ok ()) := by
  have hcall : ∀ call : Resolver → Resolver,
      (r.whenFree call).call? = some (.joining service i w) →
      (r.call? = none → (call r).call? = some (.joining service i w) →
        r.call? = some (.joining service i w) ∨
          (e = .watch service w ∧ r.permit service = .ok ())) →
      r.call? = some (.joining service i w) ∨
        (e = .watch service w ∧ r.permit service = .ok ()) := by
    intro call hjoining hfree
    rcases r.whenFree_cases call with heq | ⟨hnone, heq⟩
    · exact .inl (heq ▸ hjoining)
    · exact hfree hnone (heq ▸ hjoining)
  cases e with
  | watch a v =>
    refine hcall (fun r => (r.addWatch a v).1) h fun _ hjoining => ?_
    rcases r.addWatch_cases a v with ⟨f, -, heq⟩ | ⟨hpermit, ⟨j, -, heq⟩ | ⟨-, heq⟩⟩
    · exact .inl (by rwa [heq] at hjoining)
    · rw [heq] at hjoining
      exact .inl ((r.call?_join j v).symm.trans hjoining)
    · rw [heq] at hjoining
      obtain ⟨rfl, -, rfl⟩ : a = service ∧ _ ∧ v = w := by simpa using hjoining
      exact .inr ⟨rfl, hpermit⟩
  | unwatch a v =>
    refine hcall (·.delWatch a v) h fun _ hjoining => ?_
    rcases r.ledger_delWatch_cases a v with ⟨-, heq⟩ | ⟨j, d, -, -, ⟨-, heq⟩ | ⟨-, heq⟩⟩
    · exact .inl (by rwa [heq] at hjoining)
    · exact .inl ((congrArg Ledger.call? heq).symm.trans hjoining)
    · exact absurd ((congrArg Ledger.call? heq).symm.trans hjoining) (by simp [Ledger.empty])
  | stop =>
    refine hcall stop h fun _ hjoining => ?_
    unfold stop at hjoining
    split at hjoining
    · exact .inl hjoining
    · exact absurd hjoining (Ledger.closing?_ne r.watched service i w)
  | drop => exact hcall drop h fun _ hjoining => .inl hjoining
  | proceed a =>
    change (r.proceed a).1.call? = _ at h
    rcases r.proceed_cases a with heq | ⟨j, v, -, heq⟩ | ⟨j, -, heq⟩ | ⟨j, -, heq⟩ |
      ⟨j, sessions, -, -, heq⟩
    · exact .inl (by rwa [heq] at h)
    · rw [heq] at h
      rcases r.register_cases a j v with ⟨-, hregister⟩ | ⟨-, hregister⟩
      · exact absurd h (by simp [hregister])
      · exact absurd h (by simp [hregister])
    · exact absurd h (by simp [heq, keep])
    · rw [heq] at h
      exact absurd h (Ledger.closing?_ne (Dict.empty.insert a j) service i w)
    · rw [heq] at h
      exact absurd h (Ledger.closing?_ne (sessions.erase a) service i w)
  | change c => exact .inl h
  | step t => exact .inl ((r.step_steady t).1.symm.trans h)
  | pass nanos => exact .inl h

end Resolver

end Lookout
