import Lookout.Proofs.Resolver.Calls
import Mathlib.Data.List.Induction

/-!
# What a resolver answers

Asked for the snapshot of a service, a resolver answers with what was kept of the service, or lets
the session answer by which it is watched, for which the question may have to wait. What was
published last is the answer exactly if it was published by the session that is asked, or its
session was kept after it. There are two ways in which it is forgotten. A session that publishes
after its snapshot has been kept, and before it is cancelled or because it had built before, is not
looked at any more; and stopping a resolver keeps nothing of the sessions that are watched. Only the
second makes an answer older than one that was given before.
-/
set_option autoImplicit false

namespace Lookout

namespace Ledger

theorem Reached.currentOf_of_publisher {buffer : Nat} {ns : List Notice} {g : Ledger}
    (h : Reached buffer ns g) {service : String} {i : Nat}
    (hi : (publishers service ns).getLast? = some i) :
    g.currentOf i = (publications service ns).getLast? := by
  induction h with
  | create => exact absurd hi (by simp)
  | @step ns ms g g' hreached hstep ih =>
    rw [publishers_append] at hi
    rw [publications_append]
    rcases hstep.publication service with ⟨hnone, hnobody⟩ | ⟨j, d, s, -, -, hone, hby, hnew⟩
    · rw [hnobody, List.append_nil] at hi
      obtain ⟨d, hd, rfl⟩ := hreached.desk_of_publisher (List.mem_of_getLast? hi)
      rw [hnone, List.append_nil, hstep.currentOf_of_silent hd hnone]
      exact ih hi
    · rw [hby, List.getLast?_concat] at hi
      obtain rfl := Option.some.inj hi
      rw [hone, List.getLast?_concat, hnew]

theorem Reached.kept?_of_not_fits {buffer : Nat} {ns : List Notice} {g : Ledger}
    (h : Reached buffer ns g) (service : String) (hfits : ¬g.Fits) : g.kept? service = none := by
  induction h with
  | create => rfl
  | @step ns ms g g' hreached hstep ih =>
    have hsize : ¬g.Fits := fun hfit => hfits (hstep.fits_iff.2 hfit)
    rcases hstep.kept? service with hsame | ⟨i, hcall, -⟩
    · exact hsame.trans (ih hsize)
    · obtain ⟨-, hfit⟩ : g.Vacant service i ∧ g.Fits := hreached.orderly.call _ hcall
      exact absurd hfit hsize

theorem current_of_keeping {g : Ledger} {service : String} {i : Nat}
    (hcall : g.call? = some (.keeping service i)) : g.current service = g.currentOf i :=
  current_of_seat (by rw [seat?_of_keeping hcall, if_pos rfl])

theorem Reached.fits_of_keeping {buffer : Nat} {ns : List Notice} {g : Ledger}
    (h : Reached buffer ns g) {service : String} {i : Nat}
    (hcall : g.call? = some (.keeping service i)) : g.Fits :=
  (show g.Vacant service i ∧ g.Fits from h.orderly.call _ hcall).2

theorem Step.lasting {g g' : Ledger} {ns : List Notice} (hstep : Step g ns g') (h : g.Orderly)
    {service : String} {c : Option Snapshot} (hfits : g.Fits)
    (hnone : publications service ns = []) (hkept : g.kept? service = c)
    (hcurrent : g.current service = c) : g'.kept? service = c ∧ g'.current service = c := by
  refine ⟨?_, ?_⟩
  · rcases hstep.kept? service with hsame | ⟨i, hcall, -, hleft, -⟩
    · rw [hsame, hkept]
    · rw [hleft, ← current_of_keeping hcall, hcurrent]
  · cases hstep.change h service with
    | same _ hsame _ => rw [hsame, hcurrent]
    | abandoned _ hlarge _ => exact absurd hfits hlarge
    | stopped _ _ _ _ hback => rw [hback, hkept]
    | offered s _ _ _ hone => exact absurd (hnone.symm.trans hone) (by simp)
    | unheard s _ hone => exact absurd (hnone.symm.trans hone) (by simp)

end Ledger

namespace Resolver

variable {r : Resolver} {buffer : Nat}

theorem reached_run_of (h : Ledger.Reached buffer [] r.ledger) (events : List Event) :
    Ledger.Reached buffer (r.run events).2 (r.run events).1.ledger := h.run events

theorem publications_mono (r : Resolver) (service : String) {front events : List Event}
    (h : front <+: events) :
    publications service (r.run front).2 <+: publications service (r.run events).2 := by
  obtain ⟨rest, rfl⟩ := h
  rw [run_append, publications_append]
  exact List.prefix_append _ _

theorem publishers_eq (r : Resolver) (service : String) {front events : List Event}
    (h : front <+: events)
    (hsame : publications service (r.run events).2 = publications service (r.run front).2) :
    publishers service (r.run events).2 = publishers service (r.run front).2 := by
  obtain ⟨rest, rfl⟩ := h
  rw [run_append, publications_append, List.append_right_eq_self] at hsame
  rw [run_append, publishers_append, publishers_eq_nil hsame, List.append_nil]

theorem answer_session (r : Resolver) (i : Nat) : r.answer (.session i) = r.ledger.currentOf i := by
  simp only [answer, Ledger.currentOf, ledger_desks_getElem?]
  cases r.session? i <;> rfl

theorem lookUp_of_watched {service : String} {i : Nat} (h : r.watched.find? service = some i) :
    r.lookUp service = .session i := by
  simp only [lookUp, h]

theorem lookUp_of_unwatched {service : String} (h : r.watched.find? service = none) :
    r.lookUp service = .kept (r.ledger.kept? service) := by
  simp only [lookUp, h]
  rfl

theorem currentState_of_free (hfree : r.call? = none) (service : String) :
    r.currentState service = r.ledger.current service := by
  have hseat := Ledger.seat?_of_free (g := r.ledger) hfree service
  cases hwatched : r.watched.find? service with
  | none =>
    rw [currentState, lookUp_of_unwatched hwatched,
      Ledger.current_of_no_seat (hseat.trans hwatched)]
    rfl
  | some i =>
    rw [currentState, lookUp_of_watched hwatched, Ledger.current_of_seat (hseat.trans hwatched),
      answer_session]

/-! ## What is remembered -/

/-- The session was kept by an event of `front`, when all had been published of the service that is
by the end of `events`. -/
def KeptSince (r : Resolver) (service : String) (i : Nat) (front events : List Event) : Prop :=
  ∃ start back, front = start ++ .proceed service :: back ∧
    (r.run start).1.call? = some (.keeping service i) ∧
    publications service (r.run events).2 = publications service (r.run start).2

/-- What has been published last of a service by the end of `events` is remembered by a question
that was asked after `front`: it was published by the session that is asked, or its session was kept
since. -/
def Remembered (r : Resolver) (service : String) (front events : List Event) : Prop :=
  ∃ i, (publishers service (r.run events).2).getLast? = some i ∧
    ((r.run front).1.watched.find? service = some i ∨ KeptSince r service i front events)

/-- The session that published last was kept since. -/
def LastKept (r : Resolver) (service : String) (events : List Event) : Prop :=
  ∃ i, (publishers service (r.run events).2).getLast? = some i ∧ KeptSince r service i events events

theorem LastKept.of_silent {service : String} {front events : List Event}
    (h : LastKept r service front) (hfront : front <+: events)
    (hsame : publications service (r.run events).2 = publications service (r.run front).2) :
    ∃ i, (publishers service (r.run events).2).getLast? = some i ∧
      KeptSince r service i front events := by
  obtain ⟨i, hi, start, back, hsplit, hcall, hpublished⟩ := h
  refine ⟨i, ?_, start, back, hsplit, hcall, hsame.trans hpublished⟩
  rw [r.publishers_eq service hfront hsame]
  exact hi

theorem KeptSince.mono {service : String} {i : Nat} {front rest events : List Event}
    (h : KeptSince r service i front events) : KeptSince r service i (front ++ rest) events := by
  obtain ⟨start, back, rfl, hcall, hpublished⟩ := h
  exact ⟨start, back ++ rest, by simp, hcall, hpublished⟩

theorem LastKept.step {service : String} {events : List Event} (h : LastKept r service events)
    {e : Event} (hnone : publications service ((r.run events).1.react e).2 = []) :
    LastKept r service (events ++ [e]) := by
  have hsame : publications service (r.run (events ++ [e])).2 =
      publications service (r.run events).2 := by
    rw [run_concat, publications_append, hnone, List.append_nil]
  obtain ⟨i, hi, hkept⟩ := h.of_silent (List.prefix_append _ _) hsame
  exact ⟨i, hi, hkept.mono⟩

theorem lastKept_concat {service : String} {events : List Event} {e : Event}
    (h : LastKept r service (events ++ [e])) :
    publications service ((r.run events).1.react e).2 = [] ∧
      (LastKept r service events ∨
        ∃ i, (publishers service (r.run events).2).getLast? = some i ∧ e = .proceed service ∧
          (r.run events).1.call? = some (.keeping service i)) := by
  obtain ⟨i, hi, start, back, hsplit, hcall, hpublished⟩ := h
  have hstart : start <+: events := by
    rcases List.eq_nil_or_concat back with rfl | ⟨b, f, rfl⟩
    · exact ⟨[], by rw [List.append_nil]; exact (List.append_inj' hsplit rfl).1.symm⟩
    · rw [List.concat_eq_append, ← List.cons_append, ← List.append_assoc] at hsplit
      exact ⟨_, (List.append_inj' hsplit rfl).1.symm⟩
  have hless := r.publications_mono service hstart
  rw [run_concat, publications_append] at hpublished
  have hnone : publications service ((r.run events).1.react e).2 = [] := by
    have hlength := congrArg List.length hpublished
    have hle := hless.length_le
    rw [List.length_append] at hlength
    exact List.length_eq_zero_iff.1 (by omega)
  rw [hnone, List.append_nil] at hpublished
  have hi' : (publishers service (r.run events).2).getLast? = some i := by
    rw [run_concat, publishers_append, publishers_eq_nil hnone, List.append_nil] at hi
    exact hi
  refine ⟨hnone, ?_⟩
  rcases List.eq_nil_or_concat back with rfl | ⟨b, f, rfl⟩
  · obtain ⟨rfl, he⟩ := List.append_inj' hsplit rfl
    exact .inr ⟨i, hi', by simpa using he, hcall⟩
  · rw [List.concat_eq_append, ← List.cons_append, ← List.append_assoc] at hsplit
    obtain ⟨rfl, -⟩ := List.append_inj' hsplit rfl
    exact .inl ⟨i, hi', start, b, rfl, hcall, hpublished⟩

/-- A session that was kept after it had published last has left its snapshot: it is kept, and
current. -/
theorem LastKept.last {service : String} {events : List Event}
    (hreached : Ledger.Reached buffer [] r.ledger) (h : LastKept r service events) :
    (r.run events).1.ledger.kept? service = (publications service (r.run events).2).getLast? ∧
      (r.run events).1.ledger.current service =
        (publications service (r.run events).2).getLast? := by
  induction events using List.reverseRecOn with
  | nil =>
    obtain ⟨i, hi, -⟩ := h
    exact absurd hi (by simp)
  | append_singleton events e ih =>
    have hnow := reached_run_of hreached events
    have hstep := (r.run events).1.ledger_react e
    obtain ⟨hnone, hkept | ⟨i, hi, rfl, hcall⟩⟩ := lastKept_concat h
    · rw [run_concat, publications_append, hnone, List.append_nil]
      obtain ⟨hlast, hcurrent⟩ := ih hkept
      obtain ⟨_, _, start, back, -, hcall, -⟩ := hkept
      have hstart := reached_run_of hreached start
      have hfits := hnow.fits_iff.2 (hstart.fits_iff.1 (hstart.fits_of_keeping hcall))
      exact hstep.lasting hnow.orderly hfits hnone hlast hcurrent
    · rw [run_concat, publications_append, hnone, List.append_nil,
        ← hnow.currentOf_of_publisher hi]
      have hledger : ((r.run events).1.react (.proceed service)).1.ledger =
          (r.run events).1.ledger.keep service i := ledger_proceed_keeping hcall
      have hkept := (r.run events).1.ledger.kept?_keep service i service
      rw [if_pos rfl] at hkept
      refine ⟨by rw [hledger, hkept], ?_⟩
      rw [hledger, Ledger.current_of_no_seat, hkept]
      exact (Ledger.seat?_of_cancelling (g := (r.run events).1.ledger.keep service i) rfl _).trans
        (show (r.run events).1.ledger.Vacant service i ∧ (r.run events).1.ledger.Fits from
          hnow.orderly.call _ hcall).1.unwatched

theorem lastKept_of_left {service : String} {events : List Event} {i : Nat} {e : Event}
    (hcall : (r.run events).1.call? = some (.keeping service i))
    (hcall' : ((r.run events).1.react e).1.call? = some (.cancelling service i))
    (hnone : publications service ((r.run events).1.react e).2 = [])
    (hi : (publishers service (r.run events).2).getLast? = some i) :
    LastKept r service (events ++ [e]) := by
  obtain rfl := eq_proceed_of_kept hcall hcall'
  refine ⟨i, ?_, events, [], rfl, hcall, ?_⟩
  · rw [run_concat, publishers_append, publishers_eq_nil hnone, List.append_nil]
    exact hi
  · rw [run_concat, publications_append, hnone, List.append_nil]

/-- A snapshot that was published last is traced to its session: it is kept of the service only if
the session that published last was kept since, and current only if so, or if that session has the
seat. -/
structure Traced (r : Resolver) (service : String) (events : List Event) (c : Snapshot) :
    Prop where
  kept : (r.run events).1.ledger.kept? service = some c → LastKept r service events
  current : (r.run events).1.ledger.current service = some c → LastKept r service events ∨
    ∃ i, (r.run events).1.ledger.seat? service = some i ∧
      (publishers service (r.run events).2).getLast? = some i

theorem Traced.silent {service : String} {events : List Event} {c : Snapshot}
    (h : Traced r service events c) (hreached : Ledger.Reached buffer [] r.ledger) {e : Event}
    (hnone : publications service ((r.run events).1.react e).2 = []) :
    Traced r service (events ++ [e]) c := by
  have hstep := (r.run events).1.ledger_react e
  have hleft : ∀ i, (r.run events).1.call? = some (.keeping service i) →
      ((r.run events).1.react e).1.call? = some (.cancelling service i) →
      (r.run events).1.ledger.current service = some c → LastKept r service (events ++ [e]) := by
    intro i hcall hcall' hc
    rcases h.current hc with hkept | ⟨j, hseat, hj⟩
    · exact hkept.step hnone
    · have hi := Ledger.seat?_of_keeping (g := (r.run events).1.ledger) hcall service
      rw [if_pos rfl, hseat] at hi
      exact lastKept_of_left hcall hcall' hnone (hj.trans hi)
  refine ⟨fun hc => ?_, fun hc => ?_⟩
  · rw [run_concat] at hc
    rcases hstep.kept? service with hsame | ⟨i, hcall, hcall', hback, -⟩
    · exact (h.kept (hsame.symm.trans hc)).step hnone
    · refine hleft i hcall hcall' ?_
      rw [Ledger.current_of_keeping hcall, ← hback, hc]
  · rw [run_concat] at hc ⊢
    rw [publishers_append, publishers_eq_nil hnone, List.append_nil]
    cases hstep.change (reached_run_of hreached events).orderly service with
    | same _ hsame hseat =>
      have hwas := hsame.symm.trans hc
      rcases h.current hwas with hkept | ⟨i, hi, hlasti⟩
      · exact .inl (hkept.step hnone)
      · rcases hseat i hi with hi' | ⟨hcall, hcall'⟩
        · exact .inr ⟨i, hi', hlasti⟩
        · exact .inl (hleft i hcall hcall' hwas)
    | abandoned _ _ hback => exact .inl ((h.kept (hback.symm.trans hc)).step hnone)
    | stopped _ _ _ _ hback => exact .inl ((h.kept (hback.symm.trans hc)).step hnone)
    | offered s _ _ _ hone => exact absurd (hnone.symm.trans hone) (by simp)
    | unheard s _ hone => exact absurd (hnone.symm.trans hone) (by simp)

/-- What is published with a revision of its own is found nowhere else. -/
theorem Traced.published {service : String} {events : List Event} {c : Snapshot}
    (hreached : Ledger.Reached buffer [] r.ledger) {e : Event}
    (hone : publications service ((r.run events).1.react e).2 = [c])
    (hunknown : c ∉ publications service (r.run events).2) :
    Traced r service (events ++ [e]) c := by
  have hnow := reached_run_of hreached events
  have hstep := (r.run events).1.ledger_react e
  refine ⟨fun hc => ?_, fun hc => ?_⟩
  · rw [run_concat] at hc
    rcases hstep.kept? service with hsame | ⟨i, -, -, -, hns⟩
    · exact absurd (hnow.published.kept service c (hsame.symm.trans hc)) hunknown
    · rw [hns] at hone
      exact absurd hone (by simp)
  · rw [run_concat] at hc ⊢
    rw [publishers_append]
    cases hstep.change hnow.orderly service with
    | offered t hseat hseat' hready ht hby =>
      exact .inr ⟨_, hseat', by rw [hby, List.getLast?_concat]⟩
    | unheard t _ _ _ hsame =>
      exact absurd (hnow.mem_publications (hsame.symm.trans hc)) hunknown
    | same hnone => exact absurd (hnone.symm.trans hone) (by simp)
    | abandoned hnone => exact absurd (hnone.symm.trans hone) (by simp)
    | stopped hnone => exact absurd (hnone.symm.trans hone) (by simp)

theorem traced_of_last {service : String} {events : List Event} {c : Snapshot}
    (hreached : Ledger.Reached buffer [] r.ledger)
    (hdistinct : ((publications service (r.run events).2).map (·.revision)).Nodup)
    (hlast : (publications service (r.run events).2).getLast? = some c) :
    Traced r service events c := by
  induction events using List.reverseRecOn with
  | nil => exact absurd hlast (by simp)
  | append_singleton events e ih =>
    rw [run_concat, publications_append] at hdistinct hlast
    rw [List.map_append] at hdistinct
    obtain ⟨hbefore, -, hnew⟩ := List.nodup_append.1 hdistinct
    rcases ((r.run events).1.ledger_react e).publication service with
      ⟨hnone, -⟩ | ⟨j, d, s, -, -, hone, -, -⟩
    · rw [hnone, List.append_nil] at hlast
      exact (ih hbefore hlast).silent hreached hnone
    · rw [hone, List.getLast?_concat] at hlast
      obtain rfl := Option.some.inj hlast
      refine Traced.published hreached hone fun hmem => ?_
      rw [hone] at hnew
      exact hnew _ (List.mem_map_of_mem hmem) _
        (List.mem_map_of_mem (List.mem_singleton_self _)) rfl

/-! ## Answers -/

theorem prefix_desk (hreached : Ledger.Reached buffer [] r.ledger) {service : String}
    {front : List Event} {i : Nat} (hi : (r.run front).1.watched.find? service = some i)
    (back : List Event) :
    ∃ d, (r.run (front ++ back)).1.ledger.desks[i]? = some d ∧ d.service = service := by
  obtain ⟨d, hd, hservice⟩ := (reached_run_of hreached front).orderly.watched service i hi
  obtain ⟨e, he, hsame⟩ := desk_run hd back
  rw [run_append]
  exact ⟨e, he, hsame.trans hservice⟩

/-- A session that is asked later answers with what it has published since, or with what it had. -/
theorem currentOf_run_of_silent (hreached : Ledger.Reached buffer [] r.ledger) {service : String}
    {front : List Event} {i : Nat} (hi : (r.run front).1.watched.find? service = some i)
    {back : List Event}
    (hsame : publications service (r.run (front ++ back)).2 =
      publications service (r.run front).2) :
    (r.run (front ++ back)).1.ledger.currentOf i = (r.run front).1.ledger.currentOf i := by
  induction back using List.reverseRecOn with
  | nil => rw [List.append_nil]
  | append_singleton back e ih =>
    obtain ⟨d, hd, hservice⟩ := prefix_desk hreached hi back
    have hless := r.publications_mono service (List.prefix_append front back)
    rw [← List.append_assoc, run_concat, publications_append] at hsame
    have hnone : publications service ((r.run (front ++ back)).1.react e).2 = [] := by
      have hlength := congrArg List.length hsame
      have hle := hless.length_le
      rw [List.length_append] at hlength
      exact List.length_eq_zero_iff.1 (by omega)
    rw [hnone, List.append_nil] at hsame
    rw [← List.append_assoc, run_concat]
    refine (((r.run (front ++ back)).1.ledger_react e).currentOf_of_silent hd ?_).trans (ih hsame)
    rw [hservice]
    exact hnone

theorem publisher_of_answer (hreached : Ledger.Reached buffer [] r.ledger) {service : String}
    {front : List Event} {i : Nat} (hi : (r.run front).1.watched.find? service = some i)
    {back : List Event} {c : Snapshot}
    (hdistinct : ((publications service (r.run (front ++ back)).2).map (·.revision)).Nodup)
    (hlast : (publications service (r.run (front ++ back)).2).getLast? = some c)
    (hc : (r.run (front ++ back)).1.ledger.currentOf i = some c) :
    (publishers service (r.run (front ++ back)).2).getLast? = some i ∨
      (publications service (r.run (front ++ back)).2 = publications service (r.run front).2 ∧
        (r.run front).1.ledger.currentOf i = some c) := by
  induction back using List.reverseRecOn with
  | nil =>
    rw [List.append_nil] at hc ⊢
    exact .inr ⟨rfl, hc⟩
  | append_singleton back e ih =>
    obtain ⟨d, hd, hservice⟩ := prefix_desk hreached hi back
    have hnow := reached_run_of hreached (front ++ back)
    have hstep := (r.run (front ++ back)).1.ledger_react e
    rw [← List.append_assoc, run_concat] at hdistinct hlast hc ⊢
    simp only [publications_append, publishers_append] at hdistinct hlast ⊢
    rw [List.map_append] at hdistinct
    obtain ⟨hbefore, -, hnew⟩ := List.nodup_append.1 hdistinct
    rcases hstep.publication service with ⟨hnone, hnobody⟩ | ⟨j, q, s, hq, -, hone, hby, hcur⟩
    · have hsame := hstep.currentOf_of_silent hd (by rw [hservice]; exact hnone)
      rw [hnone, List.append_nil] at hlast ⊢
      rw [hnobody, List.append_nil]
      exact ih hbefore hlast (hsame.symm.trans hc)
    · rw [hone, List.getLast?_concat] at hlast
      obtain rfl := Option.some.inj hlast
      rcases hstep.currentOf hd with ⟨hsame, -⟩ | ⟨t, report, -, -, hns⟩
      · have hmem := hnow.published.current i d s hd (hsame.symm.trans hc)
        rw [hservice] at hmem
        rw [hone] at hnew
        exact absurd rfl (hnew _ (List.mem_map_of_mem hmem) _
          (List.mem_map_of_mem (List.mem_singleton_self _)))
      · rw [hns, hservice, publishers_published, if_pos rfl, List.getLast?_concat]
        exact .inl rfl

theorem answer_of_remembered (hreached : Ledger.Reached buffer [] r.ledger) {service : String}
    {front back : List Event} (hfree : (r.run front).1.call? = none)
    (h : publications service (r.run (front ++ back)).2 = [] ∨
      Remembered r service front (front ++ back)) :
    (r.run (front ++ back)).1.answer ((r.run front).1.lookUp service) =
      (publications service (r.run (front ++ back)).2).getLast? := by
  have hseat := Ledger.seat?_of_free (g := (r.run front).1.ledger) hfree service
  have hless := r.publications_mono service (List.prefix_append front back)
  have hfront := reached_run_of hreached front
  have hnow := reached_run_of hreached (front ++ back)
  rcases h with hnone | ⟨i, hi, hasked | ⟨start, later, hsplit, hcall, hpublished⟩⟩
  · -- nothing has been published, so there is nothing to answer with
    have hnothing : ∀ {c? : Option Snapshot},
        (∀ c, c? = some c → c ∈ publications service (r.run (front ++ back)).2) →
        c? = (publications service (r.run (front ++ back)).2).getLast? := by
      intro c? hmem
      rw [hnone] at hmem ⊢
      cases c? with
      | none => rfl
      | some c => exact absurd (hmem c rfl) List.not_mem_nil
    cases hwatched : (r.run front).1.watched.find? service with
    | none =>
      rw [lookUp_of_unwatched hwatched]
      exact hnothing fun c hc => hless.subset (hfront.published.kept service c hc)
    | some i =>
      rw [lookUp_of_watched hwatched, answer_session]
      obtain ⟨d, hd, hservice⟩ := prefix_desk hreached hwatched back
      exact hnothing fun c hc => hservice ▸ hnow.published.current i d c hd hc
  · rw [lookUp_of_watched hasked, answer_session, hnow.currentOf_of_publisher hi]
  · -- nothing has been published since the session was kept
    have hstart : start <+: front := ⟨_, hsplit.symm⟩
    have hsame : publications service (r.run (front ++ back)).2 =
        publications service (r.run front).2 := by
      have hlow := r.publications_mono service hstart
      rw [← hpublished] at hlow
      exact (hlow.eq_of_length_le hless.length_le)
    have hkept : LastKept r service front := by
      refine ⟨i, ?_, start, later, hsplit, hcall, hsame.symm.trans hpublished⟩
      rw [← r.publishers_eq service (List.prefix_append front back) hsame]
      exact hi
    obtain ⟨hlast, hcurrent⟩ := hkept.last hreached
    rw [hsame]
    cases hwatched : (r.run front).1.watched.find? service with
    | none =>
      rw [lookUp_of_unwatched hwatched]
      exact hlast
    | some j =>
      rw [lookUp_of_watched hwatched, answer_session,
        currentOf_run_of_silent hreached hwatched hsame, ← hcurrent,
        Ledger.current_of_seat (hseat.trans hwatched)]

theorem eq_of_last_mem {front all : List Snapshot} {c : Snapshot} (h : front <+: all)
    (hdistinct : (all.map (·.revision)).Nodup) (hmem : c ∈ front) (hlast : all.getLast? = some c) :
    all = front := by
  obtain ⟨rest, rfl⟩ := h
  rcases List.eq_nil_or_concat rest with rfl | ⟨init, t, rfl⟩
  · exact List.append_nil front
  · rw [List.concat_eq_append, ← List.append_assoc, List.getLast?_concat] at hlast
    obtain rfl := Option.some.inj hlast
    rw [List.map_append] at hdistinct
    exact absurd rfl ((List.nodup_append.1 hdistinct).2.2 _ (List.mem_map_of_mem hmem) _
      (List.mem_map_of_mem (by simp)))

theorem remembered_of_answer (hreached : Ledger.Reached buffer [] r.ledger) {service : String}
    {front back : List Event} (hfree : (r.run front).1.call? = none)
    (hfew : (builds service (r.run (front ++ back)).2).length < UInt64.size)
    (hlast : (r.run (front ++ back)).1.answer ((r.run front).1.lookUp service) =
      (publications service (r.run (front ++ back)).2).getLast?) :
    publications service (r.run (front ++ back)).2 = [] ∨
      Remembered r service front (front ++ back) := by
  have hseat := Ledger.seat?_of_free (g := (r.run front).1.ledger) hfree service
  have hprefix := List.prefix_append front back
  have hless := r.publications_mono service hprefix
  have hfront := reached_run_of hreached front
  have hdistinct := (reached_run_of hreached (front ++ back)).publications_nodup hfew
  have hbefore := hdistinct.sublist (hless.sublist.map _)
  cases hend : (publications service (r.run (front ++ back)).2).getLast? with
  | none => exact .inl (List.getLast?_eq_none_iff.1 hend)
  | some c =>
    refine .inr ?_
    rw [hend] at hlast
    cases hwatched : (r.run front).1.watched.find? service with
    | none =>
      rw [lookUp_of_unwatched hwatched] at hlast
      have hkept : (r.run front).1.ledger.kept? service = some c := hlast
      have hsame := eq_of_last_mem hless hdistinct (hfront.published.kept service c hkept) hend
      have hleft := (traced_of_last hreached hbefore (hsame ▸ hend)).kept hkept
      obtain ⟨i, hi, hsince⟩ := hleft.of_silent hprefix hsame
      exact ⟨i, hi, .inr hsince⟩
    | some i =>
      rw [lookUp_of_watched hwatched, answer_session] at hlast
      rcases publisher_of_answer hreached hwatched hdistinct hend hlast with hi | ⟨hsame, hhad⟩
      · exact ⟨i, hi, .inl hwatched⟩
      · have hcurrent := Ledger.current_of_seat (hseat.trans hwatched)
        rw [hhad] at hcurrent
        rcases (traced_of_last hreached hbefore (hsame ▸ hend)).current hcurrent with
          hleft | ⟨j, hj, hlastj⟩
        · obtain ⟨j, hj, hsince⟩ := hleft.of_silent hprefix hsame
          exact ⟨j, hj, .inr hsince⟩
        · refine ⟨j, ?_, .inl (hseat.symm.trans hj)⟩
          rw [r.publishers_eq service hprefix hsame]
          exact hlastj

/-! ## Order -/

/-- The resolver was stopped while a session of the service was watched that had published. -/
def LostByStop (r : Resolver) (service : String) (events : List Event) : Prop :=
  ∃ front back i, events = front ++ .stop :: back ∧ (r.run front).1.call? = none ∧
    (r.run front).1.stopped = false ∧ (r.run front).1.watched.find? service = some i ∧
    i ∈ publishers service (r.run front).2

/-- The revision that is answered with at the end of a run is none of an earlier answer along it. -/
def NeverDecreases (r : Resolver) (service : String) (events : List Event) : Prop :=
  ∀ front s, front <+: events → (r.run front).1.call? = none →
    (r.run front).1.currentState service = some s →
    ∃ t, (r.run events).1.currentState service = some t ∧ s.revision ≤ t.revision

theorem builds_few {service : String} {front events : List Event} (h : front <+: events)
    (hfew : (builds service (r.run events).2).length < UInt64.size) :
    (builds service (r.run front).2).length < UInt64.size := by
  obtain ⟨rest, rfl⟩ := h
  rw [run_append] at hfew
  exact builds_few_before hfew

theorem noOlder_run (hreached : Ledger.Reached buffer [] r.ledger) {service : String}
    {front back : List Event} (hfits : r.ledger.Fits)
    (hfew : (builds service (r.run (front ++ back)).2).length < UInt64.size)
    (hkept : ¬LostByStop r service (front ++ back)) :
    Ledger.NoOlder ((r.run front).1.ledger.current service)
      ((r.run (front ++ back)).1.ledger.current service) := by
  induction back using List.reverseRecOn with
  | nil =>
    rw [List.append_nil]
    exact .refl _
  | append_singleton back e ih =>
    have hnow := reached_run_of hreached (front ++ back)
    have hprefix : front ++ back <+: front ++ (back ++ [e]) := ⟨[e], by rw [List.append_assoc]⟩
    have hless := builds_few hprefix hfew
    refine (ih hless ?_).trans ?_
    · rintro ⟨start, rest, i, hsplit, hlost⟩
      refine hkept ⟨start, rest ++ [e], i, ?_, hlost⟩
      rw [← List.append_assoc, hsplit]
      simp
    · rw [← List.append_assoc, run_concat]
      refine hnow.noOlder_step ((r.run (front ++ back)).1.ledger_react e) hless
        (hnow.fits_iff.2 (hreached.fits_iff.1 hfits)) ?_
      rcases (r.run (front ++ back)).1.stopped_react e with hsame | ⟨rfl, hfree, hopen, -⟩
      · exact .inl hsame
      · refine .inr fun i hi hpublished => hkept ⟨front ++ back, [], i, ?_, hfree, hopen, hi,
          hpublished⟩
        rw [List.append_assoc]

theorem LostByStop.older (hreached : Ledger.Reached buffer [] r.ledger) {service : String}
    {events : List Event} (hfew : (builds service (r.run events).2).length < UInt64.size)
    (h : LostByStop r service events) : ¬NeverDecreases r service events := by
  obtain ⟨front, back, i, rfl, hfree, hopen, hwatched, hpublished⟩ := h
  intro hnever
  have hprefix : front <+: front ++ .stop :: back := List.prefix_append _ _
  have hfront := reached_run_of hreached front
  have hseat := (Ledger.seat?_of_free (g := (r.run front).1.ledger) hfree service).trans hwatched
  rcases hfront.seated (builds_few hprefix hfew) hseat with ⟨hnever, -⟩ | ⟨-, t, ht, holder⟩
  · exact hnever hpublished
  · have hcurrent : (r.run front).1.currentState service = some t := by
      rw [currentState_of_free hfree, Ledger.current_of_seat hseat, ht]
    obtain ⟨u, hu, hle⟩ := hnever front t hprefix hfree hcurrent
    -- after the stop there is only what was kept before it
    have hstop : ((r.run front).1.react .stop).1 = (r.run front).1.stop :=
      whenFree_of_free hfree stop
    have hledger := ledger_stop_of_open hopen
    have hstopped : (r.run front).1.stop.stopped = true := congrArg Ledger.stopped hledger
    have hreached' : Ledger.Reached buffer
        ((r.run front).2 ++ ((r.run front).1.react .stop).2) (r.run front).1.stop.ledger :=
      hstop ▸ hfront.step ((r.run front).1.ledger_react .stop)
    have hkept := kept?_run_of_stopped hreached' hstopped back service
    have hrun : (r.run (front ++ .stop :: back)).1 = ((r.run front).1.stop.run back).1 := by
      rw [run_append, run_cons, hstop]
    rw [hrun, currentState, lookUp_of_unwatched ?_] at hu
    · have hback : (r.run front).1.ledger.kept? service = some u := by
        rw [hledger] at hkept
        exact hkept.symm.trans hu
      exact UInt64.not_lt.2 hle (holder u hback)
    · have hwatched' := (hreached'.run back).orderly.stopped (stopped_run hstopped back)
      rw [show ((r.run front).1.stop.run back).1.watched = ∅ from hwatched']
      rfl

theorem neverDecreases_iff (hreached : Ledger.Reached buffer [] r.ledger) {service : String}
    {events : List Event} (hfree : (r.run events).1.call? = none)
    (hfew : (builds service (r.run events).2).length < UInt64.size) :
    NeverDecreases r service events ↔ ¬LostByStop r service events := by
  refine ⟨fun hnever hlost => hlost.older hreached hfew hnever, fun hkept => ?_⟩
  rintro front s ⟨back, rfl⟩ hfree' hs
  rw [currentState_of_free hfree'] at hs
  by_cases hfits : r.ledger.Fits
  · rw [currentState_of_free hfree]
    exact noOlder_run hreached hfits hfew hkept s hs
  · -- without mailboxes nothing is watched when a question is asked, and nothing is kept
    have hfront := reached_run_of hreached front
    have hlarge : ¬(r.run front).1.ledger.Fits :=
      fun hfit => hfits (hreached.fits_iff.2 (hfront.fits_iff.1 hfit))
    cases hseat : (r.run front).1.ledger.seat? service with
    | none =>
      rw [Ledger.current_of_no_seat hseat, hfront.kept?_of_not_fits service hlarge] at hs
      exact absurd hs (by simp)
    | some i =>
      rw [Ledger.seat?_of_free (g := (r.run front).1.ledger) hfree'] at hseat
      exact absurd (hfront.orderly.fits service i hseat) hlarge

section

variable (name : String) (config : ResolverConfig) (source : Source) (backoff : Backoff)
  (hooked : Bool) (stamp : String)

/-- A question that is asked after `front`, while no call is in progress, and answered after `back`
gets what was published last exactly if nothing was published at all, or what was is remembered. The
revision that is answered with at once never decreases exactly if no stop loses what was published.
Both hold as long as the counter of the service does not wrap; what is remembered is the answer even
then. -/
theorem answer_is_last_published (front back : List Event) (service : String)
    (hfree : ((create name config source backoff hooked stamp).run front).1.call? = none) :
    ((publications service
          ((create name config source backoff hooked stamp).run (front ++ back)).2 = [] ∨
        Remembered (create name config source backoff hooked stamp) service front
          (front ++ back)) →
      ((create name config source backoff hooked stamp).run (front ++ back)).1.answer
          (((create name config source backoff hooked stamp).run front).1.lookUp service) =
        (publications service
          ((create name config source backoff hooked stamp).run (front ++ back)).2).getLast?) ∧
    ((builds service
        ((create name config source backoff hooked stamp).run (front ++ back)).2).length <
          UInt64.size →
      (((create name config source backoff hooked stamp).run (front ++ back)).1.answer
          (((create name config source backoff hooked stamp).run front).1.lookUp service) =
        (publications service
          ((create name config source backoff hooked stamp).run (front ++ back)).2).getLast? →
      publications service
          ((create name config source backoff hooked stamp).run (front ++ back)).2 = [] ∨
        Remembered (create name config source backoff hooked stamp) service front
          (front ++ back))) ∧
    ((builds service
        ((create name config source backoff hooked stamp).run front).2).length < UInt64.size →
      (NeverDecreases (create name config source backoff hooked stamp) service front ↔
        ¬LostByStop (create name config source backoff hooked stamp) service front)) := by
  have hbegin : Ledger.Reached config.watcherBuffer.toNat []
      (create name config source backoff hooked stamp).ledger := .create
  exact ⟨answer_of_remembered hbegin hfree, remembered_of_answer hbegin hfree,
    neverDecreases_iff hbegin hfree⟩

/-- A service is watched, built and published, and left. -/
def visit : List Event :=
  [.watch "a" "w", .proceed "a", .step (.evaluate 0), .step (.evaluate 0), .step (.evaluate 0),
    .unwatch "a" "w", .proceed "a", .proceed "a", .proceed "a"]

/-- A service that is no longer watched keeps its snapshot. -/
theorem answer_kept_when_idle :
    ((create "r" (.create "n" ["http"]) (.memory .empty) .standard true "").run visit).1.call? =
        none ∧
    ((create "r" (.create "n" ["http"]) (.memory .empty) .standard true "").run
        visit).1.currentState "a" =
      (publications "a" ((create "r" (.create "n" ["http"]) (.memory .empty) .standard true
        "").run visit).2).getLast? ∧
    NeverDecreases (create "r" (.create "n" ["http"]) (.memory .empty) .standard true "") "a"
      visit := by
  obtain ⟨hanswer, -, horder⟩ := answer_is_last_published "r" (.create "n" ["http"])
    (.memory .empty) .standard true "" visit [] "a" (by decide)
  refine ⟨by decide, hanswer (.inr ⟨0, by decide, .inr ?_⟩), (horder (by decide)).2 ?_⟩
  · exact ⟨[.watch "a" "w", .proceed "a", .step (.evaluate 0), .step (.evaluate 0),
      .step (.evaluate 0), .unwatch "a" "w"], [.proceed "a", .proceed "a"], rfl, rfl, rfl⟩
  · rintro ⟨front, back, i, hsplit, -⟩
    have hstop : Event.stop ∈ visit := by
      rw [hsplit]
      simp
    simp [visit] at hstop

/-- A watched service is published once; when the resolver stops nothing is known of it. -/
theorem answer_lost_by_stop :
    ((create "r" (.create "n" ["http"]) (.memory .empty) .standard true "").run
      [.watch "a" "w", .proceed "a", .step (.evaluate 0), .step (.evaluate 0),
        .step (.evaluate 0), .stop, .proceed "a"]).1.currentState "a" ≠
    (publications "a"
      ((create "r" (.create "n" ["http"]) (.memory .empty) .standard true "").run
        [.watch "a" "w", .proceed "a", .step (.evaluate 0), .step (.evaluate 0),
          .step (.evaluate 0), .stop, .proceed "a"]).2).getLast? := by
  intro hlast
  have hnone : (((create "r" (.create "n" ["http"]) (.memory .empty) .standard true "").run
      [.watch "a" "w", .proceed "a", .step (.evaluate 0), .step (.evaluate 0),
        .step (.evaluate 0), .stop, .proceed "a"]).1.currentState "a").isNone = true := by
    decide
  rw [hlast] at hnone
  revert hnone
  decide

end

end Resolver

end Lookout
