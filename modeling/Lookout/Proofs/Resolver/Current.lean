import Lookout.Proofs.Resolver.Turn

/-!
# The current snapshot of a session

A session's current snapshot is the one that it published last, or what was kept of its service when
it began. While the counter of the service does not wrap, a snapshot that is still to be published
is newer than what is current in its session, and what is current in the session that counts for
the service is no older than what is kept. So what is current of a service becomes newer with every
publication that counts, and older only when stopping the resolver goes back to what is kept.
-/
set_option autoImplicit false

namespace Lookout

def Notice.publisher? (service : String) : Notice → Option Nat
  | .published i owner _ _ => if owner = service then some i else none
  | _ => none

/-- The sessions of a service that published, in order. -/
def publishers (service : String) (ns : List Notice) : List Nat :=
  ns.filterMap (·.publisher? service)

@[simp]
theorem publishers_nil (service : String) : publishers service [] = [] := rfl

@[simp]
theorem publishers_append (service : String) (ns ms : List Notice) :
    publishers service (ns ++ ms) = publishers service ns ++ publishers service ms :=
  List.filterMap_append

theorem publishers_published (service : String) (i : Nat) (owner : String) (s : Snapshot)
    (report : Report) :
    publishers service [.published i owner s report] = if owner = service then [i] else [] := by
  unfold publishers Notice.publisher?
  split <;> simp_all

theorem publishers_eq_nil {service : String} {ns : List Notice}
    (h : publications service ns = []) : publishers service ns = [] := by
  refine List.filterMap_eq_nil_iff.2 ?_
  intro n hn
  have hnone := List.filterMap_eq_nil_iff.1 h n hn
  cases n with
  | published i owner s report =>
    simp only [Notice.publication?] at hnone
    simp only [Notice.publisher?]
    split at hnone
    · exact absurd hnone (by simp)
    · next hother => rw [if_neg hother]
  | _ => rfl

namespace Ledger

/-- The snapshot that is current in a session. -/
def currentOf (g : Ledger) (i : Nat) : Option Snapshot :=
  (g.desks[i]?).bind (·.registry.current?)

/-- The snapshot that is current of a service: in the session that counts for it, or kept. -/
def current (g : Ledger) (service : String) : Option Snapshot :=
  match g.seat? service with
  | some i => g.currentOf i
  | none => g.kept? service

theorem current_of_seat {g : Ledger} {service : String} {i : Nat}
    (h : g.seat? service = some i) : g.current service = g.currentOf i := by
  simp only [current, h]

theorem current_of_no_seat {g : Ledger} {service : String} (h : g.seat? service = none) :
    g.current service = g.kept? service := by
  simp only [current, h]

theorem currentOf_of_desk {g : Ledger} {i : Nat} {d : Desk} (hd : g.desks[i]? = some d) :
    g.currentOf i = d.registry.current? := by
  simp only [currentOf]
  rw [hd, Option.bind_some]

theorem current_of_post? {g : Ledger} {service : String} {i : Nat} {d : Desk}
    (h : g.post? service = some (i, d)) : g.current service = d.registry.current? := by
  rw [current_of_seat (of_post? h).1, currentOf_of_desk (of_post? h).2]

theorem Orderly.current_of_none {g : Ledger} (h : g.Orderly) {service : String}
    (hpost : g.post? service = none) : g.current service = g.kept? service :=
  current_of_no_seat (h.seat?_of_post?_none hpost)

/-! ## Steps -/

theorem current_add (g : Registry) (w : WatcherId) : (g.add w).1.current? = g.current? := by
  rcases g.add_cases w with ⟨heq, -⟩ | ⟨heq, -⟩ | ⟨filled, heq, -⟩
  · rw [heq]
  · rw [heq]
  · rw [heq]

theorem current_deliver (g : Registry) (t : Nat) : (g.deliver t).1.current? = g.current? := by
  unfold Registry.deliver
  split <;> rfl

theorem currentOf_modify (g : Ledger) (i : Nat) {f : Desk → Desk}
    (hf : ∀ d, (f d).registry.current? = d.registry.current?) (j : Nat) :
    (g.modify i f).currentOf j = g.currentOf j := by
  simp only [currentOf]
  rw [modify_getElem?]
  split
  · cases g.desks[j]? with
    | none => rfl
    | some d => exact hf d
  · rfl

theorem currentOf_cancel (g : Ledger) (j : Nat) :
    ((g.desks.map Desk.cancel)[j]?).bind (·.registry.current?) = g.currentOf j := by
  simp only [currentOf]
  rw [List.getElem?_map]
  cases g.desks[j]? <;> rfl

theorem Step.currentOf {g g' : Ledger} {ns : List Notice} (h : Step g ns g') {i : Nat} {d : Desk}
    (hd : g.desks[i]? = some d) :
    (g'.currentOf i = g.currentOf i ∧ ∀ service, i ∉ publishers service ns) ∨
    ∃ s report, g'.currentOf i = some s ∧ g.ready[i]? = some (d.service, some s) ∧
      ns = [.published i d.service s report] := by
  have hsame : ∀ {ms : List Notice} {g' : Ledger}, g'.currentOf i = g.currentOf i →
      (∀ service, publications service ms = []) →
      g'.currentOf i = g.currentOf i ∧ ∀ service, i ∉ publishers service ms := by
    intro ms g' hcurrent hnone
    refine ⟨hcurrent, fun service hmem => ?_⟩
    rw [publishers_eq_nil (hnone service)] at hmem
    exact List.not_mem_nil hmem
  cases h with
  | quiet hns => exact .inl (hsame rfl (publications_quiet hns))
  | joined w hfree hopen hwatched =>
    exact .inl (hsame (currentOf_modify g _ (fun d => current_add d.registry w) i) fun _ => rfl)
  | begun service w hfree hopen hwatched =>
    refine .inl (hsame ?_ fun _ => rfl)
    rw [currentOf_of_desk hd]
    exact currentOf_of_desk (append_getElem? hd _)
  | registered hcall hfits =>
    exact .inl (hsame (currentOf_modify g _ (fun d => current_add d.registry _) i) fun _ => rfl)
  | orphaned hcall hq hlarge => exact .inl (hsame rfl fun _ => rfl)
  | left w hfree hwatched hq hleft =>
    exact .inl (hsame (currentOf_modify g _ (f := fun d =>
      { d with registry := (d.registry.remove w).1 }) (fun _ => rfl) i) fun _ => rfl)
  | emptied w hfree hwatched hq hleft =>
    exact .inl (hsame (currentOf_modify g _ (f := fun d =>
      { d with registry := (d.registry.remove w).1 }) (fun _ => rfl) i) fun _ => rfl)
  | kept hcall => exact .inl (hsame rfl fun _ => rfl)
  | cancelled hcall =>
    exact .inl (hsame (currentOf_modify g _ (f := Desk.cancel) (fun _ => rfl) i) fun _ => rfl)
  | closed hcall hfind =>
    exact .inl (hsame (currentOf_modify g _ (f := Desk.close) (fun _ => rfl) i) fun _ => rfl)
  | stopped hfree hopen => exact .inl (hsame (currentOf_cancel g i) fun _ => rfl)
  | dropped hfree => exact .inl (hsame (currentOf_cancel g i) fun _ => rfl)
  | built s hq hcancelled hready hrevision => exact .inl (hsame rfl fun _ => rfl)
  | @published j e s he hready =>
    by_cases hij : j = i
    · subst hij
      obtain rfl := Option.some.inj (he.symm.trans hd)
      refine .inr ⟨s, _, ?_, hready, rfl⟩
      refine (currentOf_of_desk (d := { e with registry := (e.registry.notify s).1 }) ?_).trans rfl
      exact (modify_getElem? g j _ j).trans (by rw [if_pos rfl, hd]; rfl)
    · refine .inl ⟨?_, fun service => ?_⟩
      · simp only [Ledger.currentOf]
        congr 1
        exact (modify_getElem? g j _ i).trans (if_neg hij)
      · rw [publishers_published]
        split
        · simpa using fun heq => hij heq.symm
        · exact List.not_mem_nil
  | delivered t hq =>
    exact .inl (hsame (currentOf_modify g _ (fun d => current_deliver d.registry t) i)
      fun _ => publications_deliveryNotices _ _ _ _ _)

theorem Step.currentOf_of_silent {g g' : Ledger} {ns : List Notice} (h : Step g ns g') {i : Nat}
    {d : Desk} (hd : g.desks[i]? = some d) (hnone : publications d.service ns = []) :
    g'.currentOf i = g.currentOf i := by
  rcases h.currentOf hd with ⟨hsame, -⟩ | ⟨s, report, -, -, hns⟩
  · exact hsame
  · rw [hns, publications_published, if_pos rfl] at hnone
    exact absurd hnone (by simp)

theorem Step.publication {g g' : Ledger} {ns : List Notice} (h : Step g ns g') (service : String) :
    (publications service ns = [] ∧ publishers service ns = []) ∨
    ∃ i d s, g.desks[i]? = some d ∧ d.service = service ∧ publications service ns = [s] ∧
      publishers service ns = [i] ∧ g'.currentOf i = some s := by
  have hnone : ∀ {ms : List Notice}, publications service ms = [] →
      publications service ms = [] ∧ publishers service ms = [] :=
    fun hsilent => ⟨hsilent, publishers_eq_nil hsilent⟩
  cases h with
  | quiet hns => exact .inl (hnone (publications_quiet hns service))
  | @published i d s hd hready =>
    by_cases hservice : d.service = service
    · refine .inr ⟨i, d, s, hd, hservice, ?_, ?_, ?_⟩
      · rw [publications_published, if_pos hservice]
      · rw [publishers_published, if_pos hservice]
      · rcases (Step.published hd hready).currentOf hd with ⟨-, hsilent⟩ | ⟨t, report, ht, hr, -⟩
        · refine absurd ?_ (hsilent d.service)
          rw [publishers_published, if_pos rfl]
          exact List.mem_singleton_self i
        · rw [ht]
          simpa using hr.symm.trans hready
    · refine .inl (hnone ?_)
      rw [publications_published, if_neg hservice]
  | delivered t hd => exact .inl (hnone (publications_deliveryNotices service _ _ _ _))
  | _ => exact .inl (hnone rfl)

theorem kept?_keep (g : Ledger) (service : String) (i : Nat) (a : String) :
    (g.keep service i).kept? a = if a = service then g.currentOf i else g.kept? a := by
  simp only [Ledger.kept?]
  rw [historyOf_insert (g := g) rfl]
  split <;> rfl

theorem Step.kept? {g g' : Ledger} {ns : List Notice} (h : Step g ns g') (service : String) :
    g'.kept? service = g.kept? service ∨
      ∃ i, g.call? = some (.keeping service i) ∧ g'.call? = some (.cancelling service i) ∧
        g'.kept? service = g.currentOf i ∧ ns = [] := by
  cases h with
  | begun a w hfree hopen hwatched => exact .inl (kept?_insert rfl service)
  | built s hd hcancelled hready hrevision => exact .inl (kept?_insert rfl service)
  | @kept a i hcall =>
    by_cases ha : service = a
    · subst ha
      exact .inr ⟨i, hcall, rfl, by rw [kept?_keep, if_pos rfl], rfl⟩
    · exact .inl (by rw [kept?_keep, if_neg ha])
  | _ => exact .inl rfl

theorem Step.origin {g g' : Ledger} {ns : List Notice} (h : Step g ns g') {i : Nat} {d' : Desk}
    (hd' : g'.desks[i]? = some d') :
    (∃ d, g.desks[i]? = some d ∧ d'.service = d.service) ∨
      ∃ service w, i = g.desks.length ∧ g' = g.begin service w ∧ d' = g.newDesk service ∧
        ns = [] ∧ g.call? = none := by
  have hmodify : ∀ (j : Nat) {f : Desk → Desk}, (g.modify j f).desks[i]? = some d' →
      (∀ d, (f d).service = d.service) → ∃ d, g.desks[i]? = some d ∧ d'.service = d.service := by
    intro j f hdesk hf
    obtain ⟨d, hd, rfl⟩ := of_modify_getElem? hdesk
    refine ⟨d, hd, ?_⟩
    split
    · exact hf d
    · rfl
  have hcancel : (g.desks.map Desk.cancel)[i]? = some d' →
      ∃ d, g.desks[i]? = some d ∧ d'.service = d.service := by
    intro hdesk
    rw [List.getElem?_map] at hdesk
    obtain ⟨d, hd, rfl⟩ := Option.map_eq_some_iff.1 hdesk
    exact ⟨d, hd, rfl⟩
  cases h with
  | quiet hns => exact .inl ⟨d', hd', rfl⟩
  | joined w hfree hopen hwatched => exact .inl (hmodify _ hd' fun _ => rfl)
  | begun service w hfree hopen hwatched =>
    rcases of_append_getElem? hd' with hold | ⟨hi, hnew⟩
    · exact .inl ⟨d', hold, rfl⟩
    · exact .inr ⟨service, w, hi, rfl, hnew, rfl, hfree⟩
  | registered hcall hfits => exact .inl (hmodify _ hd' fun _ => rfl)
  | orphaned hcall hd hlarge => exact .inl ⟨d', hd', rfl⟩
  | left w hfree hwatched hd hleft => exact .inl (hmodify _ hd' fun _ => rfl)
  | emptied w hfree hwatched hd hleft => exact .inl (hmodify _ hd' fun _ => rfl)
  | kept hcall => exact .inl ⟨d', hd', rfl⟩
  | cancelled hcall => exact .inl (hmodify _ hd' fun _ => rfl)
  | closed hcall hfind => exact .inl (hmodify _ hd' fun _ => rfl)
  | stopped hfree hopen => exact .inl (hcancel hd')
  | dropped hfree => exact .inl (hcancel hd')
  | built s hd hcancelled hready hrevision => exact .inl ⟨d', hd', rfl⟩
  | published hd hready => exact .inl (hmodify _ hd' fun _ => rfl)
  | delivered t hd => exact .inl (hmodify _ hd' fun _ => rfl)

/-! ## Publications -/

/-- What is current of a service, or kept of it, has been published. -/
structure Published (g : Ledger) (ns : List Notice) : Prop where
  current : ∀ (i : Nat) (d : Desk) (c : Snapshot), g.desks[i]? = some d →
    g.currentOf i = some c → c ∈ publications d.service ns
  kept : ∀ (service : String) (c : Snapshot), g.kept? service = some c →
    c ∈ publications service ns

theorem Reached.published {buffer : Nat} {ns : List Notice} {g : Ledger}
    (h : Reached buffer ns g) : g.Published ns := by
  induction h with
  | create =>
    exact ⟨fun i d c hd => absurd hd (by simp [Ledger.create]), fun service c hc => nomatch hc⟩
  | @step ns ms g g' hreached hstep ih =>
    refine ⟨?_, ?_⟩
    · intro i d' c hd' hc
      rw [publications_append, List.mem_append]
      rcases hstep.origin hd' with ⟨d, hd, hservice⟩ | ⟨service, w, rfl, rfl, rfl, -, -⟩
      · rw [hservice]
        rcases hstep.currentOf hd with ⟨hsame, -⟩ | ⟨s, report, hnew, -, hns⟩
        · exact .inl (ih.current i d c hd (hsame.symm.trans hc))
        · obtain rfl := Option.some.inj (hnew.symm.trans hc)
          rw [hns, publications_published, if_pos rfl]
          exact .inr (List.mem_singleton_self _)
      · rw [currentOf_of_desk hd'] at hc
        exact .inl (ih.kept service c hc)
    · intro service c hc
      rw [publications_append, List.mem_append]
      rcases hstep.kept? service with hsame | ⟨i, hcall, -, hkept, -⟩
      · exact .inl (ih.kept service c (hsame.symm.trans hc))
      · obtain ⟨hvacant, -⟩ : g.Vacant service i ∧ g.Fits := hreached.orderly.call _ hcall
        obtain ⟨d, hd, hservice, -⟩ := hvacant.desk
        rw [← hservice]
        exact .inl (ih.current i d c hd (hkept.symm.trans hc))

theorem Reached.mem_publications {buffer : Nat} {ns : List Notice} {g : Ledger}
    (h : Reached buffer ns g) {service : String} {c : Snapshot}
    (hc : g.current service = some c) : c ∈ publications service ns := by
  cases hseat : g.seat? service with
  | none => exact h.published.kept service c ((current_of_no_seat hseat).symm.trans hc)
  | some i =>
    obtain ⟨d, hd, hservice⟩ := h.orderly.desk_of_seat hseat
    rw [← hservice]
    exact h.published.current i d c hd ((current_of_seat hseat).symm.trans hc)

/-! ## Ranks -/

/-- Whatever the first is, the second is not older. -/
def NoOlder (a b : Option Snapshot) : Prop :=
  ∀ s, a = some s → ∃ t, b = some t ∧ s.revision ≤ t.revision

/-- Whatever the first is, it is older than the second. -/
def Older (a : Option Snapshot) (t : Snapshot) : Prop :=
  ∀ s, a = some s → s.revision < t.revision

theorem NoOlder.refl (a : Option Snapshot) : NoOlder a a :=
  fun s hs => ⟨s, hs, UInt64.le_refl _⟩

theorem NoOlder.trans {a b c : Option Snapshot} (hab : NoOlder a b) (hbc : NoOlder b c) :
    NoOlder a c := by
  intro s hs
  obtain ⟨t, ht, hst⟩ := hab s hs
  obtain ⟨u, hu, htu⟩ := hbc t ht
  exact ⟨u, hu, UInt64.le_trans hst htu⟩

theorem Older.noOlder {a : Option Snapshot} {t : Snapshot} (h : Older a t) : NoOlder a (some t) :=
  fun s hs => ⟨t, rfl, UInt64.le_of_lt (h s hs)⟩

theorem NoOlder.older {a b : Option Snapshot} {t : Snapshot} (hab : NoOlder a b)
    (hb : Older b t) : Older a t := by
  intro s hs
  obtain ⟨u, hu, hsu⟩ := hab s hs
  exact UInt64.lt_of_le_of_lt hsu (hb u hu)

theorem services_modify (g : Ledger) (i : Nat) {f : Desk → Desk}
    (hf : ∀ d, (f d).service = d.service) :
    (g.modify i f).desks.map Desk.service = g.desks.map Desk.service := by
  apply List.ext_getElem?
  intro j
  rw [List.getElem?_map, List.getElem?_map, modify_getElem?]
  split
  · cases g.desks[j]? with
    | none => rfl
    | some d => exact congrArg some (hf d)
  · rfl

theorem services_set {ready : List (String × Option Snapshot)} {i : Nat} {a : String}
    {s? : Option Snapshot} (h : ready[i]? = some (a, s?)) (t? : Option Snapshot) :
    (ready.set i (a, t?)).map Prod.fst = ready.map Prod.fst := by
  apply List.ext_getElem?
  intro j
  rw [List.getElem?_map, List.getElem?_map, List.getElem?_set]
  split
  · next hij =>
    subst hij
    rw [if_pos (List.getElem?_eq_some_iff.1 h).1, h]
    rfl
  · rfl

theorem Step.services {g g' : Ledger} {ns : List Notice} (h : Step g ns g') :
    (g'.desks.map Desk.service = g.desks.map Desk.service ∧
        g'.ready.map Prod.fst = g.ready.map Prod.fst) ∨
      ∃ service, g'.desks.map Desk.service = g.desks.map Desk.service ++ [service] ∧
        g'.ready.map Prod.fst = g.ready.map Prod.fst ++ [service] := by
  cases h with
  | joined w hfree hopen hwatched => exact .inl ⟨g.services_modify _ fun _ => rfl, rfl⟩
  | begun service w hfree hopen hwatched =>
    exact .inr ⟨service, by simp [begin, newDesk], by simp [begin]⟩
  | registered hcall hfits =>
    exact .inl ⟨g.services_modify _ (f := fun d => { d with registry := (d.registry.add _).1 })
      fun _ => rfl, rfl⟩
  | left w hfree hwatched hd hleft => exact .inl ⟨g.services_modify _ fun _ => rfl, rfl⟩
  | emptied w hfree hwatched hd hleft =>
    exact .inl ⟨g.services_modify _ (f := fun d => { d with registry := (d.registry.remove w).1 })
      fun _ => rfl, rfl⟩
  | cancelled hcall => exact .inl ⟨g.services_modify _ (f := Desk.cancel) fun _ => rfl, rfl⟩
  | closed hcall hfind => exact .inl ⟨g.services_modify _ (f := Desk.close) fun _ => rfl, rfl⟩
  | stopped hfree hopen => exact .inl ⟨by simp [stop, Desk.cancel], rfl⟩
  | dropped hfree => exact .inl ⟨by simp [Desk.cancel], rfl⟩
  | built s hd hcancelled hready hrevision => exact .inl ⟨rfl, services_set hready _⟩
  | @published i d s hd hready =>
    exact .inl ⟨g.services_modify _ (f := fun d => { d with registry := (d.registry.notify s).1 })
      fun _ => rfl, services_set hready _⟩
  | delivered t hd => exact .inl ⟨g.services_modify _ fun _ => rfl, rfl⟩
  | _ => exact .inl ⟨rfl, rfl⟩

theorem Reached.paired {buffer : Nat} {ns : List Notice} {g : Ledger} (h : Reached buffer ns g) :
    g.ready.map Prod.fst = g.desks.map Desk.service := by
  induction h with
  | create => rfl
  | step _ hstep ih =>
    rcases hstep.services with ⟨hdesks, hready⟩ | ⟨service, hdesks, hready⟩
    · rw [hready, ih, hdesks]
    · rw [hready, ih, hdesks]

theorem Reached.desk_of_ready {buffer : Nat} {ns : List Notice} {g : Ledger}
    (h : Reached buffer ns g) {i : Nat} {x : String × Option Snapshot}
    (hready : g.ready[i]? = some x) : ∃ d, g.desks[i]? = some d ∧ d.service = x.1 := by
  have hentry : (g.desks.map Desk.service)[i]? = some x.1 := by
    rw [← h.paired, List.getElem?_map, hready]
    rfl
  rw [List.getElem?_map] at hentry
  exact Option.map_eq_some_iff.1 hentry

theorem Step.ready {g g' : Ledger} {ns : List Notice} (h : Step g ns g') {i : Nat} {a : String}
    {s : Snapshot} (hready : g'.ready[i]? = some (a, some s)) :
    (g.ready[i]? = some (a, some s) ∧ ∀ service, i ∉ publishers service ns) ∨
      (g.ready[i]? = some (a, none) ∧ builds a ns = [s] ∧ g'.currentOf i = g.currentOf i) := by
  have hsame : ∀ {ms : List Notice}, g.ready[i]? = some (a, some s) →
      (∀ service, publications service ms = []) →
      g.ready[i]? = some (a, some s) ∧ ∀ service, i ∉ publishers service ms := by
    intro ms hold hnone
    refine ⟨hold, fun service hmem => ?_⟩
    rw [publishers_eq_nil (hnone service)] at hmem
    exact List.not_mem_nil hmem
  cases h with
  | quiet hns => exact .inl (hsame hready (publications_quiet hns))
  | begun service w hfree hopen hwatched =>
    rcases of_append_getElem? hready with hold | ⟨-, hnew⟩
    · exact .inl (hsame hold fun _ => rfl)
    · exact absurd hnew (by simp)
  | @built j d t hd hcancelled hnone hrevision =>
    change (g.ready.set j (d.service, some t))[i]? = _ at hready
    rw [List.getElem?_set] at hready
    split at hready
    · next hij =>
      subst hij
      split at hready
      · obtain ⟨rfl, rfl⟩ : d.service = a ∧ t = s := by simpa using hready
        exact .inr ⟨hnone, by rw [builds_built, if_pos rfl], rfl⟩
      · exact absurd hready (by simp)
    · exact .inl (hsame hready fun _ => rfl)
  | @published j d t hd hsome =>
    change (g.ready.set j (d.service, none))[i]? = _ at hready
    rw [List.getElem?_set] at hready
    split at hready
    · split at hready
      · exact absurd hready (by simp)
      · exact absurd hready (by simp)
    · next hij =>
      refine .inl ⟨hready, fun service => ?_⟩
      rw [publishers_published]
      split
      · simpa using fun heq => hij heq.symm
      · exact List.not_mem_nil
  | delivered t hd => exact .inl (hsame hready fun _ => publications_deliveryNotices _ _ _ _ _)
  | _ => exact .inl (hsame hready fun _ => rfl)

theorem Reached.older_of_ready {buffer : Nat} {ns : List Notice} {g : Ledger}
    (h : Reached buffer ns g) {i : Nat} {a : String} {s : Snapshot}
    (hfew : (builds a ns).length < UInt64.size) (hready : g.ready[i]? = some (a, some s)) :
    Older (g.currentOf i) s := by
  induction h with
  | create => exact absurd hready (by simp [Ledger.create])
  | @step ns ms g g' hreached hstep ih =>
    rcases hstep.ready hready with ⟨hold, hquiet⟩ | ⟨hnone, hbuilt, hsame⟩
    · obtain ⟨d, hd, -⟩ := hreached.desk_of_ready hold
      rcases hstep.currentOf hd with ⟨hsame, -⟩ | ⟨t, report, -, -, hns⟩
      · rw [hsame]
        exact ih (builds_few_before hfew) hold
      · refine absurd ?_ (hquiet d.service)
        rw [hns, publishers_published, if_pos rfl]
        exact List.mem_singleton_self i
    · -- what is current has been published, so it was built before
      intro c hc
      rw [hsame] at hc
      obtain ⟨d, hd, rfl⟩ := hreached.desk_of_ready hnone
      have hmem := hreached.published.current i d c hd hc
      have hsorted := (hreached.step hstep).builds_pairwise hfew
      rw [builds_append, hbuilt] at hsorted
      exact (List.pairwise_append.1 hsorted).2.2 c (hreached.built_of_published hmem) s
        (List.mem_singleton_self s)

/-! ## The session that counts -/

theorem Step.desk_after {g g' : Ledger} {ns : List Notice} (h : Step g ns g') {i : Nat} {d : Desk}
    (hd : g.desks[i]? = some d) : ∃ e, g'.desks[i]? = some e ∧ e.service = d.service := by
  obtain ⟨e, he, -⟩ := h.grows hd
  rcases h.origin he with ⟨d', hd', hservice⟩ | ⟨_, _, hi, _⟩
  · obtain rfl := Option.some.inj (hd.symm.trans hd')
    exact ⟨e, he, hservice⟩
  · rw [hi, List.getElem?_eq_none (Nat.le_refl _)] at hd
    exact absurd hd (by simp)

theorem Reached.desk_of_publisher {buffer : Nat} {ns : List Notice} {g : Ledger}
    (h : Reached buffer ns g) {service : String} {i : Nat} (hi : i ∈ publishers service ns) :
    ∃ d, g.desks[i]? = some d ∧ d.service = service := by
  induction h with
  | create => exact absurd hi List.not_mem_nil
  | @step ns ms g g' _ hstep ih =>
    have hbefore : ∃ d, g.desks[i]? = some d ∧ d.service = service := by
      rw [publishers_append, List.mem_append] at hi
      refine hi.elim ih fun hnow => ?_
      rcases hstep.publication service with ⟨-, hnobody⟩ | ⟨j, d, s, hd, hservice, -, hby, -⟩
      · rw [hnobody] at hnow
        exact absurd hnow List.not_mem_nil
      · rw [hby] at hnow
        exact ⟨d, List.mem_singleton.1 hnow ▸ hd, hservice⟩
    obtain ⟨d, hd, hservice⟩ := hbefore
    obtain ⟨e, he, hsame⟩ := hstep.desk_after hd
    exact ⟨e, he, hsame.trans hservice⟩

theorem Reached.seated {buffer : Nat} {ns : List Notice} {g : Ledger} (h : Reached buffer ns g)
    {service : String} {i : Nat} (hfew : (builds service ns).length < UInt64.size)
    (hseat : g.seat? service = some i) :
    (i ∉ publishers service ns ∧ g.currentOf i = g.kept? service) ∨
      (i ∈ publishers service ns ∧
        ∃ t, g.currentOf i = some t ∧ Older (g.kept? service) t) := by
  induction h with
  | create => exact absurd hseat (by simp [Ledger.create, seat?])
  | @step ns ms g g' hreached hstep ih =>
    have hbefore := builds_few_before hfew
    obtain ⟨d', hd', -⟩ := (hreached.step hstep).orderly.desk_of_seat hseat
    rw [publishers_append, List.mem_append]
    obtain ⟨hkept, ⟨d, hpost⟩ | ⟨-, hi, hms, -⟩⟩ :=
      (hstep.turn hreached.orderly service).origin (post?_of_seat hseat hd')
    · obtain ⟨hwas, hd⟩ := of_post? hpost
      rw [hkept]
      rcases hstep.currentOf hd with ⟨hsame, hsilent⟩ | ⟨s, report, hnew, hready, hms⟩
      · rw [hsame]
        refine (ih hbefore hwas).imp ?_ ?_
        · rintro ⟨hnever, hequal⟩
          exact ⟨fun hmem => hmem.elim hnever (hsilent service), hequal⟩
        · rintro ⟨honce, hnewer⟩
          exact ⟨.inl honce, hnewer⟩
      · have hservice := hreached.orderly.service_of_seat hwas hd
        rw [hservice] at hready hms
        refine .inr ⟨.inr ?_, s, hnew, ?_⟩
        · rw [hms, publishers_published, if_pos rfl]
          exact List.mem_singleton_self i
        · have holder := hreached.older_of_ready hbefore hready
          rcases ih hbefore hwas with ⟨-, hequal⟩ | ⟨-, t, ht, hnewer⟩
          · rw [← hequal]
            exact holder
          · rw [ht] at holder
            exact hnewer.noOlder.older holder
    · -- the session begins with this step, and with what is kept
      rcases hstep.origin hd' with ⟨d, hd, -⟩ | ⟨a, w, -, rfl, rfl, -, -⟩
      · rw [hi, List.getElem?_eq_none (Nat.le_refl _)] at hd
        exact absurd hd (by simp)
      · have hservice := (hreached.step hstep).orderly.service_of_seat hseat hd'
        refine .inl ⟨?_, ?_⟩
        · rintro (hmem | hmem)
          · obtain ⟨d, hd, -⟩ := hreached.desk_of_publisher hmem
            rw [hi, List.getElem?_eq_none (Nat.le_refl _)] at hd
            exact absurd hd (by simp)
          · rw [hms] at hmem
            exact absurd hmem List.not_mem_nil
        · rw [currentOf_of_desk hd', hkept, ← hservice]
          rfl

/-- What a step does to what is current of a service. -/
inductive Change (g : Ledger) (service : String) (ns : List Notice) (g' : Ledger) : Prop
  | same (hnone : publications service ns = []) (hsame : g'.current service = g.current service)
      (hseat : ∀ i, g.seat? service = some i → g'.seat? service = some i ∨
        (g.call? = some (.keeping service i) ∧ g'.call? = some (.cancelling service i)))
  | offered {i : Nat} (s : Snapshot) (hseat : g.seat? service = some i)
      (hseat' : g'.seat? service = some i) (hready : g.ready[i]? = some (service, some s))
      (hone : publications service ns = [s]) (hby : publishers service ns = [i])
      (hnew : g'.current service = some s)
  | unheard {i : Nat} (s : Snapshot) (hseat : g.seat? service ≠ some i)
      (hone : publications service ns = [s]) (hby : publishers service ns = [i])
      (hsame : g'.current service = g.current service)
  | abandoned (hnone : publications service ns = []) (hfits : ¬g.Fits)
      (hkept : g'.current service = g.kept? service)
  | stopped (hnone : publications service ns = []) (hfree : g.call? = none)
      (hopen : g.stopped = false) (hstopped : g'.stopped = true)
      (hkept : g'.current service = g.kept? service)

theorem Step.change {g g' : Ledger} {ns : List Notice} (hstep : Step g ns g') (h : g.Orderly)
    (service : String) : Change g service ns g' := by
  have h' := h.step hstep
  -- the session keeps its place, and what is current in it stays
  have hstay : ∀ {i : Nat} {d e : Desk}, publications service ns = [] →
      g.post? service = some (i, d) → g'.post? service = some (i, e) →
      e.registry.current? = d.registry.current? → Change g service ns g' := by
    intro i d e hnone hpost hpost' hcurrent
    refine .same hnone ?_ fun j hj => .inl ?_
    · rw [current_of_post? hpost', current_of_post? hpost, hcurrent]
    · rw [← Option.some.inj ((of_post? hpost).1.symm.trans hj)]
      exact (of_post? hpost').1
  -- the step is not about the session, if there is one
  have haside : g'.post? service = g.post? service → g'.kept? service = g.kept? service →
      g'.current service = g.current service ∧
        ∀ i, g.seat? service = some i → g'.seat? service = some i := by
    intro hpost hkept
    cases hbefore : g.post? service with
    | none =>
      rw [h'.current_of_none (hpost.trans hbefore), h.current_of_none hbefore]
      refine ⟨hkept, fun i hi => ?_⟩
      rw [h.seat?_of_post?_none hbefore] at hi
      exact absurd hi (by simp)
    | some p =>
      obtain ⟨i, d⟩ := p
      rw [current_of_post? (hpost.trans hbefore), current_of_post? hbefore]
      refine ⟨rfl, fun j hj => ?_⟩
      rw [← Option.some.inj ((of_post? hbefore).1.symm.trans hj)]
      exact (of_post? (hpost.trans hbefore)).1
  cases hstep.turn h service with
  | aside hpublished hdelivered hpost hkept =>
    obtain ⟨hsame, hseat⟩ := haside hpost hkept
    exact .same hpublished hsame fun i hi => .inl (hseat i hi)
  | joined w hns hopen hpost hpost' hkept =>
    exact hstay (by rw [hns, publications_nil]) hpost hpost' (current_add _ w)
  | begun hns hfree hopen hpost hpost' hkept =>
    refine .same (by rw [hns, publications_nil]) ?_ fun i hi => ?_
    · rw [h.current_of_none hpost, current_of_post? hpost']
      rfl
    · rw [h.seat?_of_post?_none hpost] at hi
      exact absurd hi (by simp)
  | abandoned hns hfits hpost hpost' hkept =>
    refine .abandoned (by rw [hns, publications_nil]) hfits ?_
    rw [h'.current_of_none hpost', hkept]
  | thinned hns hpost hpost' hcurrent hunread hkept =>
    exact hstay (by rw [hns, publications_nil]) hpost hpost' hcurrent
  | retired hns hcall hcall' hpost hpost' hkept =>
    refine .same (by rw [hns, publications_nil]) ?_ fun i hi => .inr ?_
    · rw [current_of_post? hpost, h'.current_of_none hpost', hkept]
    · rw [← Option.some.inj ((of_post? hpost).1.symm.trans hi)]
      exact ⟨hcall, hcall'⟩
  | stopped hns hfree hopen hstopped hpost' hkept =>
    refine .stopped (by rw [hns, publications_nil]) hfree hopen hstopped ?_
    rw [h'.current_of_none hpost', hkept]
  | offered s hready hns hpost hpost' hkept =>
    refine .offered s (of_post? hpost).1 (of_post? hpost').1 hready ?_ ?_ ?_
    · rw [hns, publications_published, if_pos rfl]
    · rw [hns, publishers_published, if_pos rfl]
    · rw [current_of_post? hpost']
      rfl
  | unheard s hready hns hseat hpost hkept =>
    refine .unheard s hseat ?_ ?_ (haside hpost hkept).1
    · rw [hns, publications_published, if_pos rfl]
    · rw [hns, publishers_published, if_pos rfl]
  | delivered t hns hpost hpost' hkept =>
    refine hstay ?_ hpost hpost' (current_deliver _ t)
    rw [hns, publications_deliveryNotices]

theorem Reached.older_of_offered {buffer : Nat} {ns : List Notice} {g : Ledger}
    (h : Reached buffer ns g) {service : String} {i : Nat} {s : Snapshot}
    (hfew : (builds service ns).length < UInt64.size) (hseat : g.seat? service = some i)
    (hready : g.ready[i]? = some (service, some s)) : Older (g.current service) s := by
  rw [current_of_seat hseat]
  exact h.older_of_ready hfew hready

theorem Reached.noOlder_step {buffer : Nat} {ns ms : List Notice} {g g' : Ledger}
    (h : Reached buffer ns g) (hstep : Step g ms g') {service : String}
    (hfew : (builds service ns).length < UInt64.size) (hfits : g.Fits)
    (hkept : g'.stopped = g.stopped ∨
      ∀ i, g.watched.find? service = some i → i ∉ publishers service ns) :
    NoOlder (g.current service) (g'.current service) := by
  cases hstep.change h.orderly service with
  | same hnone hsame hseat =>
    rw [hsame]
    exact .refl _
  | offered s hseat hseat' hready hone hby hnew =>
    rw [hnew]
    exact (h.older_of_offered hfew hseat hready).noOlder
  | unheard s hseat hone hby hsame =>
    rw [hsame]
    exact .refl _
  | abandoned hnone hlarge hkept => exact absurd hfits hlarge
  | stopped hnone hfree hopen hstopped hback =>
    rcases hkept with hsame | hunpublished
    · rw [hstopped, hopen] at hsame
      exact Bool.noConfusion hsame
    · rw [hback]
      cases hseat : g.seat? service with
      | none =>
        rw [current_of_no_seat hseat]
        exact .refl _
      | some i =>
        rcases h.seated hfew hseat with ⟨-, hequal⟩ | ⟨honce, -⟩
        · rw [current_of_seat hseat, hequal]
          exact .refl _
        · exact absurd honce (hunpublished i ((seat?_of_free hfree service).symm.trans hseat))

end Ledger

end Lookout
