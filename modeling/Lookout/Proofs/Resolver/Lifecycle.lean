import Lookout.Proofs.Resolver.Effort
import Lookout.Proofs.Resolver.Members
import Mathlib.Data.List.Chain

/-!
# The life of a service

A service that nobody has watched is created, it is watched as long as it has members, idle when
the last has left, and stopped with the resolver. All that is said of a service at any time then
follows from its members: the entry it has, and the one session that goes on. Two things can spoil
this. A mailbox of more snapshots than can be made leaves a session behind of which nothing is
known, so that the service is idle without having been watched; and it does so in every call. And a
session that is cancelled while it builds may still be building when the next one begins to.
-/
set_option autoImplicit false

namespace Lookout

namespace Ledger

/-! ## Members and entries -/

theorem Orderly.members_of_unwatched {g : Ledger} (h : g.Orderly) {service : String}
    (hwatched : g.watched.find? service = none) : g.members service = [] := by
  cases hseat : g.seat? service with
  | none => exact members_of_none (post?_of_no_seat hseat)
  | some i =>
    have hvacant : g.Vacant service i := by
      rcases seat?_cases hseat with hwas | ⟨w, hcall⟩ | hcall
      · exact absurd (hwas.symm.trans hwatched) (by simp)
      · exact h.joining hcall
      · exact (show g.Vacant service i ∧ g.Fits from h.call _ hcall).1
    obtain ⟨d, hd, -, hnobody⟩ := hvacant.desk
    exact members_of_unmanned hseat hd hnobody

theorem Step.isSome_history {g g' : Ledger} {ns : List Notice} (h : Step g ns g') {a : String}
    (ha : (g.histories.find? a).isSome = true) : (g'.histories.find? a).isSome = true := by
  have hinsert : ∀ (service : String) (history : History),
      ((g.histories.insert service history).find? a).isSome = true := by
    intro service history
    rw [Dict.find?_insert]
    split
    · rfl
    · exact ha
  cases h with
  | begun service w hfree hopen hwatched => exact hinsert _ _
  | kept hcall => exact hinsert _ _
  | built s hd hcancelled hready hrevision => exact hinsert _ _
  | _ => exact ha

/-- What an orderly ledger keeps besides: who is watched has members, and who has had a session is
known. -/
structure Tidy (g : Ledger) : Prop where
  manned : ∀ service i, g.watched.find? service = some i → g.members service ≠ []
  known : ∀ (i : Nat) (d : Desk), g.desks[i]? = some d →
    (g.histories.find? d.service).isSome = true

theorem tidy_create (buffer : Nat) : (create buffer).Tidy := by
  refine ⟨?_, ?_⟩ <;> simp [create]

theorem Tidy.known_step {g g' : Ledger} {ns : List Notice} (h : g.Tidy) (hstep : Step g ns g')
    {i : Nat} {d' : Desk} (hd' : g'.desks[i]? = some d') :
    (g'.histories.find? d'.service).isSome = true := by
  rcases hstep.origin hd' with ⟨d, hd, hservice⟩ | ⟨service, w, -, rfl, rfl, -, -⟩
  · rw [hservice]
    exact hstep.isSome_history (h.known i d hd)
  · simp [newDesk, begin]

theorem members_ne_nil {g : Ledger} {service : String} {i : Nat} {d : Desk}
    (hpost : g.post? service = some (i, d)) (hmanned : d.registry.watchers ≠ []) :
    g.members service ≠ [] := by
  rw [members_of_post? hpost]
  exact hmanned

theorem Tidy.manned_step {g g' : Ledger} {ns : List Notice} (h : g.Tidy) (ho : g.Orderly)
    (hstep : Step g ns g') {a : String} {j : Nat} (hj : g'.watched.find? a = some j) :
    g'.members a ≠ [] := by
  have hseat := (ho.step hstep).seat?_of_watched hj
  -- the watchers of a service are the same, or more, as far as the step is not about it
  have hmore : g.watched.find? a = some j → (∀ v, v ∈ g.members a → v ∈ g'.members a) →
      g'.members a ≠ [] := by
    intro hwas hmembers
    obtain ⟨v, hv⟩ := List.exists_mem_of_ne_nil _ (h.manned a j hwas)
    exact List.ne_nil_of_mem (hmembers v hv)
  have hsame : g'.members a = g.members a → g.watched.find? a = some j → g'.members a ≠ [] := by
    intro hmembers hwas
    rw [hmembers]
    exact h.manned a j hwas
  have hwork : Work g ns g' → g'.members a ≠ [] := by
    intro hwork
    exact hsame (hwork.members a) (hwork.steady.2.1 ▸ hj)
  cases hstep with
  | quiet hns => exact hwork (.quiet hns)
  | @joined service i w hfree hopen hwatched =>
    obtain ⟨d, hd, -⟩ := ho.watched service i hwatched
    refine hmore hj fun v hv => ?_
    exact Iff.mpr (ho.mem_members_added (ho.seat?_of_watched hwatched) hd
      (seat?_congr rfl rfl a) rfl) (.inl hv)
  | begun service w hfree hopen hwatched =>
    have hwas := ho.seat?_of_watched (g := g) hj
    exact hsame (members_congr (post?_append ho rfl (hseat.trans hwas.symm))) hj
  | @registered service i w hcall hfits =>
    obtain ⟨d, hd, -⟩ := (ho.joining hcall).desk
    have hi : g.seat? service = some i := by rw [seat?_of_joining hcall, if_pos rfl]
    have hmembers : ∀ v, v ∈ (g.register service i w).members a ↔ v ∈ g.members a ∨
        a = service ∧ v = w ∧ (d.registry.add w).2 ≠ .tooLarge := fun v =>
      ho.mem_members_added hi hd (seat?_register hcall a) rfl
    change (g.watched.insert service i).find? a = some j at hj
    by_cases ha : a = service
    · exact List.ne_nil_of_mem ((hmembers w).2 (.inr ⟨ha, rfl, hfits d hd⟩))
    · rw [Dict.find?_insert_of_ne _ _ ha] at hj
      exact hmore hj fun v hv => (hmembers v).2 (.inl hv)
  | orphaned hcall hd hlarge =>
    exact absurd (ho.fits a j hj) (ho.not_fits_of_orphaned hcall hd hlarge)
  | @left service i d w hfree hwatched hd hleft =>
    have hi := ho.seat?_of_watched hwatched
    by_cases ha : a = service
    · subst ha
      have hpost := post?_of_seat hi hd
      refine members_ne_nil (post?_modify_self (g := g) rfl (seat?_congr rfl rfl a) hpost) ?_
      simpa [Registry.watchers] using hleft
    · refine hmore hj fun v hv => ?_
      exact Iff.mpr (ho.mem_members_removed hi hd (seat?_congr rfl rfl a) rfl)
        ⟨hv, fun hw => ha hw.1⟩
  | @emptied service i d w hfree hwatched hd hleft =>
    change (g.watched.erase service).find? a = some j at hj
    have ha : a ≠ service := by
      rintro rfl
      exact absurd (hj.symm.trans (Dict.find?_erase_self _ _)) (by simp)
    rw [Dict.find?_erase_of_ne _ ha] at hj
    refine hmore hj fun v hv => ?_
    exact Iff.mpr (ho.mem_members_removed (ho.seat?_of_watched hwatched) hd
      (seat?_empty hfree hwatched a) rfl) ⟨hv, fun hw => ha hw.1⟩
  | kept hcall => exact hsame (ho.members_keep hcall) hj
  | cancelled hcall => exact hsame (members_cancelOne hcall) hj
  | closed hcall hfind => exact hsame (ho.members_closeOne hcall hfind) hj
  | stopped hfree hopen => exact absurd hj (by simp [stop])
  | dropped hfree => exact hsame (members_cancel rfl (seat?_congr rfl rfl a)) hj
  | built s hd hcancelled hready hrevision => exact hwork (.built s hd hcancelled hready hrevision)
  | published hd hready => exact hwork (.published hd hready)
  | delivered t hd => exact hwork (.delivered t hd)

theorem Reached.tidy {buffer : Nat} {ns : List Notice} {g : Ledger} (h : Reached buffer ns g) :
    g.Tidy := by
  induction h with
  | create => exact tidy_create buffer
  | step hreached hstep ih =>
    exact ⟨fun _ _ hj => ih.manned_step hreached.orderly hstep hj,
      fun _ _ hd => ih.known_step hstep hd⟩

theorem Work.length {g g' : Ledger} {ns : List Notice} (h : Work g ns g') :
    g'.desks.length = g.desks.length := by
  cases h with
  | quiet hns => rfl
  | built s hd hcancelled hready hrevision => rfl
  | published hd hready => exact List.length_modify ..
  | delivered t hd => exact List.length_modify ..

/-! ## States -/

def state (g : Ledger) (service : String) : Resolver.WatchState :=
  if g.stopped then .stopped
  else if g.watched.contains service then .watching
  else if g.histories.contains service then .idle
  else .created

end Ledger

/-- How the state of a service changes. -/
inductive Resolver.WatchState.Moves : WatchState → WatchState → Prop
  | stays (s : WatchState) : Moves s s
  | begins : Moves .created .watching
  | rests : Moves .watching .idle
  | resumes : Moves .idle .watching
  | stops (s : WatchState) : Moves s .stopped

namespace Ledger

section
variable {g g' : Ledger} {service : String}

theorem state_eq_watching_iff :
    g.state service = .watching ↔ g.stopped = false ∧ (g.watched.find? service).isSome = true := by
  unfold state Dict.contains
  cases g.stopped <;> cases (g.watched.find? service).isSome <;>
    cases (g.histories.find? service).isSome <;> simp

theorem state_eq_idle_iff :
    g.state service = .idle ↔ g.stopped = false ∧ g.watched.find? service = none ∧
      (g.histories.find? service).isSome = true := by
  unfold state Dict.contains
  cases g.stopped <;> cases g.watched.find? service <;>
    cases (g.histories.find? service).isSome <;> simp

theorem state_of_stopped (h : g.stopped = true) : g.state service = .stopped := by
  simp only [state]
  rw [h, if_pos rfl]

theorem state_congr (hstopped : g'.stopped = g.stopped)
    (hwatched : g'.watched.contains service = g.watched.contains service)
    (hhistories : g'.histories.contains service = g.histories.contains service) :
    g'.state service = g.state service := by
  simp only [state]
  rw [hstopped, hwatched, hhistories]

theorem state_of_unwatched (hopen : g.stopped = false)
    (hwatched : g.watched.find? service = none) :
    g.state service = .created ∨ g.state service = .idle := by
  unfold state Dict.contains
  rw [hopen, hwatched]
  cases (g.histories.find? service).isSome <;> simp

/-- What a service has been shown to be last, and what it is to be shown to be next. While its first
watcher waits to be registered, nothing is shown. -/
structure Follows (g : Ledger) (service : String) (s : Resolver.WatchState) : Prop where
  joining : ∀ i w, g.call? = some (.joining service i w) → s = .created ∨ s = .idle
  moved : (∀ i w, g.call? ≠ some (.joining service i w)) → s.Moves (g.state service)

theorem Follows.of_same {s : Resolver.WatchState} (hmoved : s.Moves (g'.state service))
    (hcall : ∀ i w, g'.call? ≠ some (.joining service i w)) : g'.Follows service s :=
  ⟨fun i w hjoining => absurd hjoining (hcall i w), fun _ => hmoved⟩

theorem Work.state {ns : List Notice} (h : Work g ns g') (ht : g.Tidy) (a : String) :
    g'.state a = g.state a := by
  obtain ⟨-, hwatched, hstopped⟩ := h.steady
  refine state_congr hstopped (by rw [hwatched]) ?_
  cases h with
  | @built i d s hd hcancelled hready hrevision =>
    change ((g.histories.insert d.service _).find? a).isSome = _
    rw [Dict.find?_insert]
    split
    · next ha =>
      rw [ha]
      exact (ht.known i d hd).symm
    · rfl
  | _ => rfl

theorem Work.follows {ns : List Notice} (h : Work g ns g') (ht : g.Tidy)
    {s : Resolver.WatchState} (hs : g.Follows service s) : g'.Follows service s := by
  obtain ⟨hcall, -⟩ := h.steady
  refine ⟨?_, ?_⟩
  · rw [hcall]
    exact hs.joining
  · rw [hcall, h.state ht]
    exact hs.moved

theorem Step.follows_of_free {ns : List Notice} (h : Step g ns g') (ho : g.Orderly) (ht : g.Tidy)
    (hfree : g.call? = none) (a : String) : g'.Follows a (g.state a) := by
  have hstay : g'.call? = g.call? → g'.state a = g.state a → g'.Follows a (g.state a) := by
    intro hcall hstate
    refine .of_same ?_ fun i w => ?_
    · rw [hstate]
      exact .stays _
    · rw [hcall, hfree]
      simp
  have hheld : ∀ {c : Call} {p : Prop}, g.call? = some c → p := by
    intro c p hcall
    exact absurd (hcall.symm.trans hfree) (by simp)
  cases h with
  | quiet hns => exact hstay rfl rfl
  | joined w _ hopen hwatched => exact hstay rfl rfl
  | begun service w _ hopen hwatched =>
    by_cases ha : service = a
    · subst ha
      refine ⟨fun i w _ => state_of_unwatched hopen hwatched, fun hjoining => ?_⟩
      exact absurd rfl (hjoining g.desks.length w)
    · refine .of_same ?_ fun i v => ?_
      · have hsame : (g.begin service w).state a = g.state a :=
          state_congr rfl rfl
            (congrArg Option.isSome (Dict.find?_insert_of_ne _ _ fun heq => ha heq.symm))
        rw [hsame]
        exact .stays _
      · simp [begin, ha]
  | registered hcall hfits => exact hheld hcall
  | orphaned hcall hd hlarge => exact hheld hcall
  | left w _ hwatched hd hleft => exact hstay rfl rfl
  | @emptied service i d w _ hwatched hd hleft =>
    refine .of_same ?_ fun _ _ => by simp [empty]
    by_cases ha : a = service
    · subst ha
      have hopen := ho.open_of_post? (post?_of_seat (ho.seat?_of_watched hwatched) hd)
      have hbefore : g.state a = .watching := state_eq_watching_iff.2 ⟨hopen, by rw [hwatched]; rfl⟩
      have hknown := ho.service_of_watched hwatched hd ▸ ht.known i d hd
      have hafter : (g.empty a i w).state a = .idle :=
        state_eq_idle_iff.2 ⟨hopen, Dict.find?_erase_self _ _, hknown⟩
      rw [hbefore, hafter]
      exact .rests
    · have hsame : (g.empty service i w).state a = g.state a :=
        state_congr rfl (congrArg Option.isSome (Dict.find?_erase_of_ne _ ha)) rfl
      rw [hsame]
      exact .stays _
  | kept hcall => exact hheld hcall
  | cancelled hcall => exact hheld hcall
  | closed hcall hfind => exact hheld hcall
  | stopped _ hopen =>
    refine .of_same ?_ (closing?_ne g.watched a)
    rw [state_of_stopped (g := g.stop) rfl]
    exact .stops _
  | dropped _ => exact hstay rfl rfl
  | built s hd hcancelled hready hrevision =>
    exact hstay rfl ((Work.built s hd hcancelled hready hrevision).state ht a)
  | published hd hready => exact hstay rfl ((Work.published hd hready).state ht a)
  | delivered t hd => exact hstay rfl ((Work.delivered t hd).state ht a)

theorem Step.follows_of_held {ns : List Notice} (h : Step g ns g') (ho : g.Orderly) (ht : g.Tidy)
    (hfits : g.Fits) {c : Call} (hheld : g.call? = some c) {a : String} {s : Resolver.WatchState}
    (hs : g.Follows a s) : g'.Follows a s := by
  have hfree : ∀ {p : Prop}, g.call? = none → p :=
    fun hnone => absurd (hheld.symm.trans hnone) (by simp)
  have hmoved : (∀ i w, g'.call? ≠ some (.joining a i w)) → (∀ i w, g.call? ≠
      some (.joining a i w)) → g'.state a = g.state a → g'.Follows a s := by
    intro hcall' hcall hstate
    refine .of_same ?_ hcall'
    rw [hstate]
    exact hs.moved hcall
  cases h with
  | quiet hns => exact hs
  | joined w hnone hopen hwatched => exact hfree hnone
  | begun service w hnone hopen hwatched => exact hfree hnone
  | @registered service i w hcall hroom =>
    by_cases ha : service = a
    · subst ha
      refine .of_same ?_ fun _ _ => by simp [register]
      have hafter : (g.register service i w).state service = .watching :=
        state_eq_watching_iff.2 ⟨(ho.joining hcall).opened, by simp [register]⟩
      rw [hafter]
      rcases hs.joining i w hcall with rfl | rfl
      · exact .begins
      · exact .resumes
    · refine hmoved (fun _ _ => by simp [register]) (fun _ _ => by simp [hcall, ha]) ?_
      exact state_congr rfl (congrArg Option.isSome
        (Dict.find?_insert_of_ne _ _ fun heq => ha heq.symm)) rfl
  | orphaned hcall hd hlarge => exact absurd hfits (ho.not_fits_of_orphaned hcall hd hlarge)
  | left w hnone hwatched hd hleft => exact hfree hnone
  | emptied w hnone hwatched hd hleft => exact hfree hnone
  | @kept service i hcall =>
    refine hmoved (fun _ _ => by simp [keep]) (fun _ _ => by simp [hcall]) ?_
    obtain ⟨hvacant, -⟩ : g.Vacant service i ∧ g.Fits := ho.call _ hcall
    obtain ⟨d, hd, hservice, -⟩ := hvacant.desk
    refine state_congr rfl rfl ?_
    change ((g.histories.insert service _).find? a).isSome = _
    rw [Dict.find?_insert]
    split
    · next ha =>
      rw [ha, ← hservice]
      exact (ht.known i d hd).symm
    · rfl
  | @cancelled service i hcall =>
    exact hmoved (closing?_ne (Dict.empty.insert service i) a) (fun _ _ => by simp [hcall]) rfl
  | @closed service i sessions hcall hfind =>
    exact hmoved (closing?_ne (sessions.erase service) a) (fun _ _ => by simp [hcall]) rfl
  | stopped hnone hopen => exact hfree hnone
  | dropped hnone => exact hfree hnone
  | built t hd hcancelled hready hrevision =>
    exact (Work.built t hd hcancelled hready hrevision).follows ht hs
  | published hd hready => exact (Work.published hd hready).follows ht hs
  | delivered t hd => exact (Work.delivered t hd).follows ht hs

end

end Ledger

/-! ## Builds -/

namespace Effort

theorem Step.building {g g' : Effort} {ns : List Notice} (h : Step g ns g') {i : Nat} {c' : Course}
    {b : Builder.Build} (hc' : g'.courses[i]? = some c') (hb : c'.evaluation = .building b) :
    ∃ c, g.courses[i]? = some c ∧ c.service = c'.service ∧ ((∃ b, c.evaluation = .building b) ∨
      (c.cancelled = false ∧ ∃ trigger, .triggered i trigger ∈ ns)) := by
  rcases h.origin hc' with ⟨c, hit, hc, rfl⟩ | ⟨service, rfl⟩ | ⟨c, m, hc, hmove⟩
  · exact ⟨c, hc, rfl, .inl ⟨b, hb⟩⟩
  · exact absurd hb (by simp [fresh])
  · cases hmove with
    | triggered b' hgoing hwaiting hpoll =>
      exact ⟨c, hc, rfl, .inr ⟨hgoing, _, List.mem_singleton_self _⟩⟩
    | ended hcancelled hunready => exact absurd hb (by simp)
    | looked hgoing hwaiting hpoll => exact absurd hb (by simp)
    | built s hgoing hbuilding => exact absurd hb (by simp)
    | published report hpublishing => exact absurd hb (by simp)
    | failed f hgoing hbuilding => exact absurd hb (by simp)
    | _ => exact ⟨c, hc, rfl, .inl ⟨b, hb⟩⟩

theorem not_mem_report {g : Effort} {service : String} {f : Failure} {j : Nat} {trigger : Trigger} :
    .triggered j trigger ∉ g.report service f := by
  unfold report
  split <;> simp

theorem Step.triggered {g g' : Effort} {ns : List Notice} (h : Step g ns g') {j : Nat}
    {trigger : Trigger} (hn : .triggered j trigger ∈ ns) :
    ∃ c c' b, g.courses[j]? = some c ∧ c.cancelled = false ∧ g'.courses[j]? = some c' ∧
      c'.service = c.service ∧ c'.evaluation = .building b ∧
      ∀ i, i ≠ j → g'.courses[i]? = g.courses[i]? := by
  cases h with
  | quiet hns => exact absurd (hns _ hn) (by simp [Notice.isEffort])
  | passed nanos => exact absurd hn List.not_mem_nil
  | begun service => exact absurd hn List.not_mem_nil
  | halted hit => exact absurd hn List.not_mem_nil
  | @moved k c c' ns m hc hmove =>
    cases hmove with
    | triggered b hgoing hwaiting hpoll =>
      obtain ⟨rfl, -⟩ := Notice.triggered.inj (List.mem_singleton.1 hn)
      refine ⟨c, _, b, hc, hgoing, List.getElem?_set_self (List.getElem?_eq_some_iff.1 hc).1, rfl,
        rfl, fun i hij => List.getElem?_set_ne hij.symm⟩
    | built s hgoing hbuilding => exact absurd hn (by simp)
    | published report hpublishing => exact absurd hn (by simp)
    | failed f hgoing hbuilding => exact absurd hn not_mem_report
    | interrupted f hgoing => exact absurd hn not_mem_report
    | _ => exact absurd hn List.not_mem_nil

end Effort

def Session.Going (s : Session) : Prop := s.cancelled = false

/-- A build has begun and not ended, whether anybody waits for its result or not. -/
def Session.InFlight (s : Session) : Prop := ∃ b, s.evaluation = .building b

namespace Resolver

/-- At most one session of a service is of that kind. -/
def AtMostOne (r : Resolver) (service : String) (kind : Session → Prop) : Prop :=
  ∀ i j s t, r.session? i = some s → r.session? j = some t → s.service = service →
    t.service = service → kind s → kind t → i = j

/-- A session begins to build while a session of the same service that was cancelled is still
building. -/
def Overtakes (r : Resolver) (e : Event) : Prop :=
  ∃ i j s t trigger, r.session? i = some s ∧ r.session? j = some t ∧ s.service = t.service ∧
    ¬s.Going ∧ s.InFlight ∧ .triggered j trigger ∈ (r.react e).2

section
variable {r : Resolver} {service : String} {e : Event}

theorem effort_course {i : Nat} {s : Session} (hs : r.session? i = some s) :
    r.effort.courses[i]? = some s.course := by
  change r.courses[i]? = some s.course
  rw [courses_getElem?, hs]
  rfl

theorem of_effort_course {i : Nat} {c : Course} (hc : r.effort.courses[i]? = some c) :
    ∃ s, r.session? i = some s ∧ s.course = c :=
  Option.map_eq_some_iff.1 ((r.courses_getElem? i).symm.trans hc)

theorem Overtakes.doubles (h : Overtakes r e) :
    ∃ service, ¬(r.react e).1.AtMostOne service Session.InFlight := by
  obtain ⟨i, j, s, t, trigger, hs, ht, hservice, hcancelled, ⟨b, hb⟩, htriggered⟩ := h
  obtain ⟨c, c', b', hc, hgoing, hc', hsame, hbuilding, hothers⟩ :=
    (r.effort_react e).triggered htriggered
  obtain rfl := Option.some.inj ((effort_course ht).symm.trans hc)
  have hij : i ≠ j := by
    rintro rfl
    obtain rfl := Option.some.inj (hs.symm.trans ht)
    exact hcancelled hgoing
  obtain ⟨t', ht', rfl⟩ := of_effort_course hc'
  obtain ⟨s', hs', hcourse⟩ := of_effort_course ((hothers i hij).trans (effort_course hs))
  refine ⟨t.service, fun hone => hij ?_⟩
  refine hone i j s' t' hs' ht' ?_ hsame ⟨b, ?_⟩ ⟨b', hbuilding⟩
  · exact (congrArg Course.service hcourse).trans hservice
  · exact (congrArg Course.evaluation hcourse).trans hb

/-- Where one session goes on at most, builds are doubled by overtaking only. -/
theorem atMostOne_react (hloop : r.AtMostOne service Session.Going)
    (hbuild : r.AtMostOne service Session.InFlight) (he : ¬Overtakes r e) :
    (r.react e).1.AtMostOne service Session.InFlight := by
  intro i j s' t' hs' ht' hservice hservice' ⟨b, hb⟩ ⟨b', hb'⟩
  obtain ⟨c, hc, hsame, hone⟩ := (r.effort_react e).building (effort_course hs') hb
  obtain ⟨d, hd, hsame', hother⟩ := (r.effort_react e).building (effort_course ht') hb'
  obtain ⟨s, hs, rfl⟩ := of_effort_course hc
  obtain ⟨t, ht, rfl⟩ := of_effort_course hd
  have hs'' : s.service = service := hsame.trans hservice
  have ht'' : t.service = service := hsame'.trans hservice'
  -- a session that begins to build goes on, so the other one was cancelled
  have hovertaken : ∀ {i j : Nat} {s t : Session} {trigger : Trigger}, r.session? i = some s →
      r.session? j = some t → s.service = service → t.service = service → s.InFlight → t.Going →
      .triggered j trigger ∈ (r.react e).2 → i = j := by
    intro i j s t trigger hs ht hservice hservice' hflight hgoing htriggered
    by_cases hcancelled : s.Going
    · exact hloop i j s t hs ht hservice hservice' hcancelled hgoing
    · exact absurd ⟨i, j, s, t, trigger, hs, ht, hservice.trans hservice'.symm, hcancelled, hflight,
        htriggered⟩ he
  rcases hone with hflight | ⟨hgoing, trigger, htriggered⟩
  · rcases hother with hflight' | ⟨hgoing', trigger', htriggered'⟩
    · exact hbuild i j s t hs ht hs'' ht'' hflight hflight'
    · exact hovertaken hs ht hs'' ht'' hflight hgoing' htriggered'
  · rcases hother with hflight' | ⟨hgoing', -⟩
    · exact (hovertaken ht hs ht'' hs'' hflight' hgoing htriggered).symm
    · exact hloop i j s t hs ht hs'' ht'' hgoing hgoing'

theorem atMostOne_going (ho : r.ledger.Orderly) (hfits : r.ledger.Fits) (service : String) :
    r.AtMostOne service Session.Going := by
  intro i j s t hs ht hservice hservice' hgoing hgoing'
  have hdesk : r.ledger.desks[i]? = some s.desk := by simp [hs]
  have hdesk' : r.ledger.desks[j]? = some t.desk := by simp [ht]
  have hi := ho.seat_of_going hdesk hgoing hfits
  have hj := ho.seat_of_going hdesk' hgoing' hfits
  rw [show s.desk.service = service from hservice] at hi
  rw [show t.desk.service = service from hservice'] at hj
  -- the service that a call is about to end is not watched
  have hended : ∀ {k : Nat}, r.ledger.call? = some (.cancelling service k) →
      r.ledger.seat? service = none := by
    intro k hcall
    obtain ⟨hvacant, -⟩ : r.ledger.Vacant service k ∧ r.ledger.Fits := ho.call _ hcall
    exact (Ledger.seat?_of_cancelling hcall service).trans hvacant.unwatched
  rcases hi with hi | hi
  · rcases hj with hj | hj
    · exact Option.some.inj (hi.symm.trans hj)
    · exact absurd (hi.symm.trans (hended hj)) (by simp)
  · rcases hj with hj | hj
    · exact absurd (hj.symm.trans (hended hi)) (by simp)
    · simpa using hi.symm.trans hj

/-! ## Answers -/

theorem watchState_eq (r : Resolver) (service : String) :
    r.watchState service = r.ledger.state service := rfl

theorem watcherCount_eq (h : r.ledger.Orderly) (service : String) :
    r.watcherCount service = (r.ledger.members service).length := by
  simp only [watcherCount, sessionOf?]
  cases hwatched : r.watched.find? service with
  | none => rw [h.members_of_unwatched hwatched, Option.bind_none, List.length_nil]
  | some i =>
    obtain ⟨d, hd, -⟩ := h.watched service i hwatched
    rw [ledger_desks_getElem?] at hd
    obtain ⟨s, hs, rfl⟩ := Option.map_eq_some_iff.1 hd
    rw [Option.bind_some, hs, Ledger.members_of_post?
      (Ledger.post?_of_seat (h.seat?_of_watched hwatched) (d := s.desk) (by simp [hs]))]
    exact (List.length_map _).symm

theorem mem_watchedServices :
    service ∈ r.watchedServices ↔ (r.watched.find? service).isSome = true := r.watched.mem_keys

theorem stopped_of_watchState (h : r.watchState service = .stopped) : r.stopped = true := by
  cases hstopped : r.stopped with
  | true => rfl
  | false =>
    unfold watchState at h
    rw [hstopped] at h
    split at h
    · exact Bool.noConfusion ‹_›
    · split at h
      · cases h
      · split at h <;> cases h

end

/-- What is shown of a service now: nothing while a call holds the resolver. -/
def shownNow (r : Resolver) (service : String) : List WatchState :=
  match r.call? with
  | none => [r.watchState service]
  | some _ => []

/-- The states of a service that are shown in the course of a run. -/
def shown (r : Resolver) (service : String) : List Event → List WatchState
  | [] => r.shownNow service
  | e :: rest => r.shownNow service ++ (r.react e).1.shown service rest

/-- What is true of a service after a run. -/
structure Accounted (start : Resolver) (events : List Event) (service : String) : Prop where
  watching : (start.run events).1.watchState service = .watching ↔
    0 < (start.run events).1.watcherCount service
  listed : service ∈ (start.run events).1.watchedServices ↔
    0 < (start.run events).1.watcherCount service
  /-- The watchers that were added and not removed are counted, each once. -/
  counted : ∃ ws : List WatcherId, ws.Nodup ∧
    (∀ v, v ∈ ws ↔ Registered start events service v) ∧
    (start.run events).1.watcherCount service = ws.length
  loop : (start.run events).1.AtMostOne service Session.Going
  build : (start.run events).1.AtMostOne service Session.InFlight
  stopped : (start.run events).1.watchState service = .stopped →
    (start.run events).1.watchedServices = [] ∧ (start.run events).1.watcherCount service = 0

/-- A run in which every service is accounted for at any time, and changes its state as it
should. -/
structure WellKept (start : Resolver) (events : List Event) : Prop where
  accounted : ∀ front back, events = front ++ back → ∀ service, Accounted start front service
  moves : ∀ service, (start.shown service events).IsChain WatchState.Moves

section
variable {buffer : Nat} {ns : List Notice} {r start : Resolver} {service : String}
  {events : List Event}

theorem watcherCount_pos_iff (h : Ledger.Reached buffer ns r.ledger) (service : String) :
    0 < r.watcherCount service ↔ (r.watched.find? service).isSome = true := by
  rw [watcherCount_eq h.orderly, List.length_pos_iff]
  constructor
  · intro hmembers
    cases hwatched : r.watched.find? service with
    | none => exact absurd (h.orderly.members_of_unwatched hwatched) hmembers
    | some i => rfl
  · intro hwatched
    obtain ⟨i, hi⟩ := Option.isSome_iff_exists.1 hwatched
    exact h.tidy.manned service i hi

theorem watchState_eq_watching_iff (h : Ledger.Reached buffer ns r.ledger) (service : String) :
    r.watchState service = .watching ↔ 0 < r.watcherCount service := by
  rw [watcherCount_pos_iff h, watchState_eq, Ledger.state_eq_watching_iff]
  refine ⟨And.right, fun hwatched => ⟨?_, hwatched⟩⟩
  obtain ⟨i, hi⟩ := Option.isSome_iff_exists.1 hwatched
  obtain ⟨d, hd, -⟩ := h.orderly.watched service i hi
  exact h.orderly.open_of_post? (Ledger.post?_of_seat (h.orderly.seat?_of_watched hi) hd)

theorem accounted_run (h : Ledger.Reached buffer [] start.ledger)
    (hempty : start.ledger.members service = [])
    (hloop : (start.run events).1.AtMostOne service Session.Going)
    (hbuild : (start.run events).1.AtMostOne service Session.InFlight) :
    Accounted start events service := by
  have hreached := h.run events
  have hcount := watcherCount_eq hreached.orderly service
  refine ⟨watchState_eq_watching_iff hreached service, ?_, ?_, hloop, hbuild, ?_⟩
  · rw [mem_watchedServices, watcherCount_pos_iff hreached]
  · refine ⟨(start.run events).1.ledger.members service,
      hreached.orderly.members_nodup service, fun v => ?_, hcount⟩
    rw [mem_members_run h, hempty]
    simp
  · intro hstopped
    have hwatched : (start.run events).1.watched = ∅ :=
      hreached.orderly.stopped (stopped_of_watchState hstopped)
    refine ⟨?_, ?_⟩
    · simp only [watchedServices]
      rw [hwatched]
      rfl
    · rw [hcount, hreached.orderly.members_of_unwatched]
      · rfl
      · change (start.run events).1.watched.find? service = none
        rw [hwatched]
        rfl

/-! ## What is shown -/

theorem shownNow_of_free (h : r.call? = none) (service : String) :
    r.shownNow service = [r.watchState service] := by
  simp only [shownNow, h]

theorem shownNow_of_held {c : Call} (h : r.call? = some c) (service : String) :
    r.shownNow service = [] := by
  simp only [shownNow, h]

theorem isChain_shown (h : Ledger.Reached buffer ns r.ledger) (hfits : r.ledger.Fits)
    {s : WatchState} (hs : r.ledger.Follows service s) :
    (s :: r.shown service events).IsChain WatchState.Moves := by
  induction events generalizing r s ns with
  | nil =>
    rw [shown]
    cases hcall : r.call? with
    | none =>
      rw [shownNow_of_free hcall, List.isChain_pair]
      exact hs.moved (by simp [show r.ledger.call? = none from hcall])
    | some c =>
      rw [shownNow_of_held hcall]
      exact .singleton s
  | cons e rest ih =>
    have hstep := r.ledger_react e
    have hnext := h.step hstep
    have hfits' := hstep.fits_iff.2 hfits
    rw [shown]
    cases hcall : r.call? with
    | none =>
      rw [shownNow_of_free hcall, List.singleton_append]
      refine .cons_cons ?_ (ih hnext hfits' (hstep.follows_of_free h.orderly h.tidy hcall service))
      exact hs.moved (by simp [show r.ledger.call? = none from hcall])
    | some c =>
      rw [shownNow_of_held hcall, List.nil_append]
      exact ih hnext hfits' (hstep.follows_of_held h.orderly h.tidy hfits hcall hs)

theorem mem_shown {front back : List Event} (hfree : (r.run front).1.call? = none) :
    (r.run front).1.watchState service ∈ r.shown service (front ++ back) := by
  induction front generalizing r with
  | nil =>
    have hnow : r.watchState service ∈ r.shownNow service := by
      rw [shownNow_of_free (r := r) hfree]
      exact List.mem_singleton_self _
    cases back with
    | nil => exact hnow
    | cons e rest => exact List.mem_append_left _ hnow
  | cons e front ih => exact List.mem_append_right _ (ih hfree)

theorem of_mem_shownNow {s : WatchState} (h : s ∈ r.shownNow service) :
    s = r.watchState service := by
  unfold shownNow at h
  split at h
  · exact List.mem_singleton.1 h
  · exact absurd h List.not_mem_nil

theorem of_mem_shown {s : WatchState} (h : s ∈ r.shown service events) :
    ∃ front, s = (r.run front).1.watchState service := by
  induction events generalizing r with
  | nil => exact ⟨[], of_mem_shownNow h⟩
  | cons e rest ih =>
    rcases List.mem_append.1 h with hnow | hlater
    · exact ⟨[], of_mem_shownNow hnow⟩
    · obtain ⟨front, hs⟩ := ih hlater
      exact ⟨e :: front, hs⟩

/-- A service that is never watched is never idle, if its state changes as it should. -/
theorem not_idle_of_isChain {s : WatchState} {rest : List WatchState}
    (h : (s :: rest).IsChain WatchState.Moves) (hs : s ≠ .idle)
    (hnever : .watching ∉ s :: rest) : .idle ∉ s :: rest := by
  induction rest generalizing s with
  | nil => simpa using hs.symm
  | cons t rest ih =>
    obtain ⟨hmove, hrest⟩ := List.isChain_cons_cons.1 h
    have ht : t ≠ .idle := by
      rintro rfl
      cases hmove with
      | stays => exact hs rfl
      | rests => exact hnever (List.mem_cons_self ..)
    rw [List.mem_cons]
    rintro (heq | hlater)
    · exact hs heq.symm
    · exact ih hrest ht (fun hmem => hnever (List.mem_cons_of_mem _ hmem)) hlater

/-! ## Mailboxes that cannot be made -/

/-- A call that finds its mailbox too large has begun a session all the same, without an entry. -/
theorem idle_of_tooLarge (h : Ledger.Reached buffer ns r.ledger)
    (hlarge : (r.proceed service).2 = some .mailboxTooLarge) :
    ¬r.ledger.Fits ∧ (r.proceed service).1.call? = none ∧
      (r.proceed service).1.watchState service = .idle := by
  rcases r.proceed_cases service with heq | ⟨i, w, hcall, heq⟩ | ⟨i, hcall, heq⟩ |
    ⟨i, hcall, heq⟩ | ⟨i, sessions, hcall, hfind, heq⟩
  · exact absurd (heq ▸ hlarge) (by simp)
  · rw [heq] at hlarge ⊢
    rcases r.register_cases service i w with ⟨hadded, hregister⟩ | ⟨hadded, hregister⟩
    · obtain ⟨hsame, d, hd, hfull⟩ := ledger_join_of_tooLarge hadded
      have hvacant := h.orderly.joining (g := r.ledger) hcall
      obtain ⟨e, he, hservice, -⟩ := hvacant.desk
      rw [hregister]
      refine ⟨h.orderly.not_fits_of_orphaned hcall hd hfull, rfl, ?_⟩
      rw [watchState_eq]
      change Ledger.state { (r.join i w).1.ledger with call? := none } service = .idle
      rw [hsame]
      exact Ledger.state_eq_idle_iff.2 ⟨hvacant.opened, hvacant.unwatched,
        hservice ▸ h.tidy.known i e he⟩
    · rw [hregister] at hlarge
      exact absurd hlarge (by simp)
  all_goals exact absurd (heq ▸ hlarge) (by simp)

/-- What a resolver is like whose mailboxes cannot be made, as long as nobody tries to make one: at
most one session has begun, and its first watcher waits. -/
structure Barren (r : Resolver) : Prop where
  watched : r.watched = ∅
  idle : r.call? = none → r.sessions = [] ∧ r.histories = ∅
  held : ∀ c, r.call? = some c → ∃ service w, c = .joining service 0 w ∧ r.sessions.length = 1

theorem Barren.session?_le (h : r.Barren) {i : Nat} {s : Session} (hs : r.session? i = some s) :
    i = 0 := by
  obtain ⟨hlt, -⟩ := List.getElem?_eq_some_iff.1 (show r.sessions[i]? = some s from hs)
  cases hcall : r.call? with
  | none =>
    rw [(h.idle hcall).1] at hlt
    exact absurd hlt (by simp)
  | some c =>
    obtain ⟨-, -, -, hone⟩ := h.held c hcall
    omega

theorem Barren.atMostOne (h : r.Barren) (service : String) (kind : Session → Prop) :
    r.AtMostOne service kind := by
  intro i j s t hs ht _ _ _ _
  rw [h.session?_le hs, h.session?_le ht]

theorem Barren.congr {q : Resolver} (h : r.Barren) (hcall : q.call? = r.call?)
    (hwatched : q.watched = r.watched) (hhistories : r.sessions = [] → q.histories = r.histories)
    (hlength : q.sessions.length = r.sessions.length) : q.Barren := by
  refine ⟨hwatched.trans h.watched, fun hfree => ?_, fun c hc => ?_⟩
  · obtain ⟨hnone, hempty⟩ := h.idle (hcall.symm.trans hfree)
    rw [hnone, List.length_nil] at hlength
    exact ⟨List.length_eq_zero_iff.1 hlength, (hhistories hnone).trans hempty⟩
  · obtain ⟨service, w, heq, hone⟩ := h.held c (hcall.symm.trans hc)
    exact ⟨service, w, heq, hlength.trans hone⟩

theorem Barren.call (h : r.Barren) (call : Resolver → Resolver)
    (hcall : r.call? = none → r.sessions = [] → r.histories = ∅ → (call r).Barren) :
    (r.whenFree call).Barren := by
  rcases r.whenFree_cases call with heq | ⟨hfree, heq⟩
  · rw [heq]
    exact h
  · rw [heq]
    exact hcall hfree (h.idle hfree).1 (h.idle hfree).2

theorem Barren.find?_watched (h : r.Barren) (service : String) :
    r.watched.find? service = none := by
  rw [h.watched, Dict.find?_empty]

theorem Barren.addWatch (h : r.Barren) (hnone : r.sessions = []) (service : String)
    (w : WatcherId) : (r.addWatch service w).1.Barren := by
  rcases r.addWatch_cases service w with ⟨f, -, heq⟩ | ⟨-, ⟨i, hwatched, -⟩ | ⟨-, heq⟩⟩
  · rw [heq]
    exact h
  · exact absurd (hwatched.symm.trans (h.find?_watched service)) (by simp)
  · rw [heq]
    refine ⟨h.watched, fun hfree => absurd hfree (by simp), fun c hc => ?_⟩
    obtain rfl := Option.some.inj hc
    refine ⟨service, w, by rw [hnone]; rfl, ?_⟩
    simp [begin, hnone]

theorem Barren.proceed (h : r.Barren) (ho : r.ledger.Orderly) (hlarge : ¬r.ledger.Fits)
    (hnobody : (r.proceed service).2 ≠ some .mailboxTooLarge) : (r.proceed service).1.Barren := by
  rcases r.proceed_cases service with heq | ⟨i, w, hcall, heq⟩ | ⟨i, hcall, -⟩ |
    ⟨i, hcall, -⟩ | ⟨i, sessions, hcall, hfind, -⟩
  · rw [heq]
    exact h
  · rw [heq] at hnobody ⊢
    rcases r.register_cases service i w with ⟨-, hregister⟩ | ⟨hadded, -⟩
    · rw [hregister] at hnobody
      exact absurd rfl hnobody
    · refine absurd (ho.fits_of_registered hcall fun d hd => ?_) hlarge
      rw [ledger_desks_getElem?] at hd
      obtain ⟨s, hs, rfl⟩ := Option.map_eq_some_iff.1 hd
      rw [join_added hs] at hadded
      exact hadded
  all_goals
    obtain ⟨a, v, hjoining, -⟩ := h.held _ hcall
    exact absurd hjoining (by simp)

theorem length_step (r : Resolver) (t : Task) :
    (r.step t).1.sessions.length = r.sessions.length := by
  have hlength := (r.ledger_step t).length
  simpa [ledger] using hlength

theorem Barren.react (h : r.Barren) (ho : r.ledger.Orderly) (hlarge : ¬r.ledger.Fits) {e : Event}
    (hnobody : ∀ service, e = .proceed service → (r.proceed service).2 ≠ some .mailboxTooLarge) :
    (r.react e).1.Barren := by
  cases e with
  | watch service w =>
    exact h.call (fun r => (r.addWatch service w).1) fun _ hnone _ =>
      h.addWatch hnone service w
  | unwatch service w =>
    refine h.call (·.delWatch service w) fun _ _ _ => ?_
    simp only [delWatch, h.find?_watched service]
    exact h
  | stop =>
    refine h.call stop fun hfree hnone hempty => ?_
    unfold stop
    split
    · exact h
    · have hclosing : Call.closing? r.watched = none := by
        rw [h.watched]
        rfl
      refine ⟨rfl, fun _ => ⟨?_, hempty⟩, fun c hc => ?_⟩
      · simp [cancelAll, hnone]
      · exact absurd (hc.symm.trans hclosing) (by simp)
  | drop =>
    exact h.call drop fun _ _ _ =>
      h.congr rfl rfl (fun _ => rfl) (by simp [drop, cancelAll])
  | proceed service => exact h.proceed ho hlarge (hnobody service rfl)
  | change c => exact h.congr rfl rfl (fun _ => rfl) rfl
  | step t =>
    obtain ⟨hcall, hwatched, -⟩ := r.step_steady t
    refine h.congr hcall hwatched (fun hnone => ?_) (r.length_step t)
    have hs : r.session? t.session = none := by simp [session?, hnone]
    simp only [Resolver.react, step, hs]
  | pass nanos => exact h.congr rfl rfl (fun _ => rfl) rfl

/-- The calls of a run in which no watcher finds its mailbox too large. -/
def MakesMailboxes (start : Resolver) (events : List Event) : Prop :=
  ∀ front service back, events = front ++ .proceed service :: back →
    ((start.run front).1.proceed service).2 ≠ some .mailboxTooLarge

theorem Barren.run (h : r.Barren) (hreached : Ledger.Reached buffer ns r.ledger)
    (hlarge : ¬r.ledger.Fits) (hnobody : MakesMailboxes r events) : (r.run events).1.Barren := by
  induction events generalizing r ns with
  | nil => exact h
  | cons e rest ih =>
    refine ih (h.react hreached.orderly hlarge ?_) (hreached.step (r.ledger_react e)) ?_ ?_
    · rintro service rfl
      exact hnobody [] service rest rfl
    · exact mt (r.ledger_react e).fits_iff.1 hlarge
    · intro front service back hsplit
      exact hnobody (e :: front) service back (by rw [hsplit]; rfl)

theorem Barren.watchState (h : r.Barren) (hfree : r.call? = none) (service : String) :
    r.watchState service = if r.stopped then .stopped else .created := by
  simp only [Resolver.watchState, Dict.contains]
  rw [h.watched, (h.idle hfree).2]
  rfl

/-- What such a resolver has shown of a service last. -/
def ShownBarren (r : Resolver) (s : WatchState) : Prop :=
  s = .created ∨ s = .stopped ∧ r.stopped = true

theorem Barren.shown (h : r.Barren) (hfree : r.call? = none) (service : String) :
    ShownBarren r (r.watchState service) := by
  rw [h.watchState hfree]
  split
  · next hstopped => exact .inr ⟨rfl, hstopped⟩
  · exact .inl rfl

theorem ShownBarren.moves {s : WatchState} (hs : ShownBarren r s) (h : r.Barren)
    (hfree : r.call? = none) (service : String) : s.Moves (r.watchState service) := by
  rw [h.watchState hfree]
  rcases hs with rfl | ⟨rfl, hstopped⟩
  · split
    · exact .stops _
    · exact .stays _
  · rw [if_pos hstopped]
    exact .stays _

theorem ShownBarren.react {s : WatchState} (hs : ShownBarren r s) (e : Event) :
    ShownBarren (r.react e).1 s :=
  hs.imp_right fun ⟨hstopped, hopen⟩ => ⟨hstopped, r.stopped_run hopen [e]⟩

theorem ShownBarren.isChain {s : WatchState} (hs : ShownBarren r s) (h : r.Barren)
    (hreached : Ledger.Reached buffer ns r.ledger) (hlarge : ¬r.ledger.Fits)
    (hnobody : MakesMailboxes r events) :
    (s :: r.shown service events).IsChain WatchState.Moves := by
  induction events generalizing r s ns with
  | nil =>
    rw [Resolver.shown]
    cases hcall : r.call? with
    | none =>
      rw [shownNow_of_free hcall, List.isChain_pair]
      exact hs.moves h hcall service
    | some c =>
      rw [shownNow_of_held hcall]
      exact .singleton s
  | cons e rest ih =>
    have hnext := hreached.step (r.ledger_react e)
    have hlarge' := mt (r.ledger_react e).fits_iff.1 hlarge
    have hbarren : (r.react e).1.Barren := by
      refine h.react hreached.orderly hlarge ?_
      rintro service rfl
      exact hnobody [] service rest rfl
    have hlater : MakesMailboxes (r.react e).1 rest := by
      intro front service back hsplit
      exact hnobody (e :: front) service back (by rw [hsplit]; rfl)
    rw [Resolver.shown]
    cases hcall : r.call? with
    | none =>
      rw [shownNow_of_free hcall, List.singleton_append]
      exact .cons_cons (hs.moves h hcall service)
        (ih ((h.shown hcall service).react e) hbarren hnext hlarge' hlater)
    | some c =>
      rw [shownNow_of_held hcall, List.nil_append]
      exact ih (hs.react e) hbarren hnext hlarge' hlater

end

/-! ## The life of a service -/

section
variable {buffer : Nat} {start : Resolver} {events : List Event}

structure New (r : Resolver) : Prop where
  sessions : r.sessions = []
  watched : r.watched = ∅
  histories : r.histories = ∅
  free : r.call? = none
  opened : r.stopped = false

theorem New.barren (h : start.New) : start.Barren :=
  ⟨h.watched, fun _ => ⟨h.sessions, h.histories⟩,
    fun c hc => absurd (hc.symm.trans h.free) (by simp)⟩

theorem New.watchState (h : start.New) (service : String) :
    start.watchState service = .created := by
  rw [h.barren.watchState h.free, h.opened]
  rfl

theorem New.members (h : start.New) (hstart : Ledger.Reached buffer [] start.ledger)
    (service : String) : start.ledger.members service = [] :=
  hstart.orderly.members_of_unwatched (h.barren.find?_watched service)

theorem WellKept.makesMailboxes (hstart : Ledger.Reached buffer [] start.ledger)
    (hnew : start.New) (h : WellKept start events) : MakesMailboxes start events := by
  intro front service back hsplit hlarge
  have hfront := hstart.run front
  obtain ⟨hfits, hfree, hidle⟩ := idle_of_tooLarge hfront hlarge
  have hnever : .watching ∉ start.shown service events := by
    intro hwatching
    obtain ⟨first, hfirst⟩ := of_mem_shown hwatching
    have hwatched : (start.run first).1.ledger.state service = .watching := hfirst.symm
    obtain ⟨i, hi⟩ := Option.isSome_iff_exists.1 (Ledger.state_eq_watching_iff.1 hwatched).2
    have hmade := (hstart.run first).orderly.fits service i hi
    exact hfits (hfront.fits_iff.2 ((hstart.run first).fits_iff.1 hmade))
  have hshown : .idle ∈ start.shown service events := by
    have hlast : (start.run (front ++ [.proceed service])).1.watchState service ∈
        start.shown service (front ++ [.proceed service] ++ back) :=
      mem_shown (by rw [run_append]; exact hfree)
    rw [run_append, ← List.append_cons, ← hsplit] at hlast
    exact hidle ▸ hlast
  -- what is shown begins with a service that was created
  obtain ⟨rest, hrest⟩ : ∃ rest, start.shown service events = .created :: rest := by
    obtain ⟨e, later, hevents⟩ := List.exists_cons_of_ne_nil (l := events) (by rw [hsplit]; simp)
    rw [hevents, shown, shownNow_of_free hnew.free, hnew.watchState]
    exact ⟨_, rfl⟩
  have hmoves := h.moves service
  rw [hrest] at hmoves hnever hshown
  exact not_idle_of_isChain hmoves (by simp) hnever hshown

theorem atMostOne_run {service : String} {front : List Event} (hnew : start.New)
    (hloop : ∀ first, first <+: front → (start.run first).1.AtMostOne service Session.Going)
    (hnobody : ∀ first e rest, front = first ++ e :: rest → ¬Overtakes (start.run first).1 e) :
    (start.run front).1.AtMostOne service Session.InFlight := by
  induction front using List.reverseRecOn with
  | nil => exact hnew.barren.atMostOne service _
  | append_singleton first e ih =>
    have hbefore : (start.run first).1.AtMostOne service Session.InFlight := by
      refine ih (fun front hfront => hloop front (hfront.trans (List.prefix_append _ _))) ?_
      rintro front e' rest rfl
      exact hnobody front e' (rest ++ [e]) (by simp)
    rw [run_append]
    exact atMostOne_react (hloop first (List.prefix_append _ _)) hbefore (hnobody first e [] rfl)

theorem wellKept_of_fits (hstart : Ledger.Reached buffer [] start.ledger) (hnew : start.New)
    (hfits : start.ledger.Fits)
    (hnobody : ∀ front e back, events = front ++ e :: back → ¬Overtakes (start.run front).1 e) :
    WellKept start events := by
  have hloop : ∀ front service, (start.run front).1.AtMostOne service Session.Going := by
    intro front service
    have hfront := hstart.run front
    exact atMostOne_going hfront.orderly (hfront.fits_iff.2 (hstart.fits_iff.1 hfits)) service
  refine ⟨?_, fun service => ?_⟩
  · intro front back hsplit service
    refine accounted_run hstart (hnew.members hstart service) (hloop front service) ?_
    refine atMostOne_run hnew (fun first _ => hloop first service) ?_
    rintro first e rest rfl
    exact hnobody first e (rest ++ back) (by rw [hsplit]; simp)
  · have hfollows : start.ledger.Follows service .created := by
      refine .of_same ?_ fun i w hcall => absurd (hcall.symm.trans hnew.free) (by simp)
      rw [← watchState_eq, hnew.watchState]
      exact .stays _
    exact (isChain_shown hstart hfits hfollows).tail

theorem wellKept_of_barren (hstart : Ledger.Reached buffer [] start.ledger) (hnew : start.New)
    (hlarge : ¬start.ledger.Fits) (hnobody : MakesMailboxes start events) :
    WellKept start events := by
  refine ⟨?_, fun service => ?_⟩
  · intro front back hsplit service
    have hbarren : (start.run front).1.Barren := by
      refine hnew.barren.run hstart hlarge ?_
      rintro first a rest rfl
      exact hnobody first a (rest ++ back) (by rw [hsplit]; simp)
    exact accounted_run hstart (hnew.members hstart service) (hbarren.atMostOne service _)
      (hbarren.atMostOne service _)
  · exact (ShownBarren.isChain (.inl rfl) hnew.barren hstart hlarge hnobody).tail

end

/-- Every service is accounted for in the runs in which no call finds its mailbox too large and no
session begins to build before a build of the service that was given up has ended, and only in
these. -/
theorem wellKept_iff (name : String) (config : ResolverConfig) (source : Source)
    (backoff : Backoff) (hooked : Bool) (stamp : String) (events : List Event) :
    WellKept (create name config source backoff hooked stamp) events ↔
      MakesMailboxes (create name config source backoff hooked stamp) events ∧
      ∀ front e back, events = front ++ e :: back →
        ¬Overtakes ((create name config source backoff hooked stamp).run front).1 e := by
  have hstart : Ledger.Reached config.watcherBuffer.toNat []
      (create name config source backoff hooked stamp).ledger := .create
  have hnew : (create name config source backoff hooked stamp).New := ⟨rfl, rfl, rfl, rfl, rfl⟩
  constructor
  · intro h
    refine ⟨h.makesMailboxes hstart hnew, ?_⟩
    intro front e back hsplit hovertakes
    obtain ⟨service, hdoubled⟩ := hovertakes.doubles
    have haccounted := h.accounted (front ++ [e]) back (by rw [hsplit]; simp) service
    have hbuild := haccounted.build
    rw [run_append] at hbuild
    exact hdoubled hbuild
  · rintro ⟨hmade, hnobody⟩
    by_cases hfits : (create name config source backoff hooked stamp).ledger.Fits
    · exact wellKept_of_fits hstart hnew hfits hnobody
    · exact wellKept_of_barren hstart hnew hfits hmade

/-! Settings that are accepted, with mailboxes that cannot be made; and the standard ones. -/

def oversized : ResolverConfig :=
  { ResolverConfig.create "n" ["http"] with watcherBuffer := 2305843009213693952 }

/-- A source whose lists take a second. -/
def slow : Source := .memory { Memory.empty with listDelay := .ofMillis 1000 }

/-- With mailboxes that cannot be made a service is idle although it has never been watched, and
evaluated twice when the call is repeated. With the standard settings a service that is left and
watched again while a list takes its time is built twice at once. -/
theorem idle_and_evaluated_twice :
    oversized.validate = .ok () ∧
    ¬((create "r" oversized (.memory .empty) .standard true "").shown "a"
      [.watch "a" "w", .proceed "a"]).IsChain WatchState.Moves ∧
    ¬((create "r" oversized (.memory .empty) .standard true "").run
      [.watch "a" "w", .proceed "a", .watch "a" "w", .proceed "a"]).1.AtMostOne "a"
        Session.Going ∧
    ¬((create "r" (.create "n" ["http"]) slow .standard true "").run
      [.watch "a" "w", .proceed "a", .step (.evaluate 0), .unwatch "a" "w", .proceed "a",
        .proceed "a", .proceed "a", .watch "a" "w", .proceed "a",
        .step (.evaluate 1)]).1.AtMostOne "a" Session.InFlight := by
  refine ⟨rfl, ?_, ?_, ?_⟩
  · have hshown : (create "r" oversized (.memory .empty) .standard true "").shown "a"
        [.watch "a" "w", .proceed "a"] = [.created, .idle] := by decide
    rw [hshown, List.isChain_pair]
    intro hmove
    cases hmove
  · intro hone
    have hsame := hone 0 1 _ _ rfl rfl rfl rfl rfl rfl
    exact absurd hsame (by decide)
  · intro hone
    have hsame := hone 0 1 _ _ rfl rfl rfl rfl ⟨_, rfl⟩ ⟨_, rfl⟩
    exact absurd hsame (by decide)

end Resolver

end Lookout
