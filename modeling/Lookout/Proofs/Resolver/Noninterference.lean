import Lookout.Proofs.Resolver.Admission
import Lookout.Proofs.Resolver.Apart
import Lookout.Proofs.Resolver.Delivery

/-!
# Services do not interfere

What happens to other services is deleted from a run: their calls, their changes of the source, and
the steps of their sessions; and with them the calls that came while another held the resolver,
which did nothing. What stops, drops or delays all services stays, and so does the time that passes.
In the share of the service, the run that is left ends where the whole run ends, and says of the
service what the whole run says. So two runs of which the same is left agree on the service, and as
what is left of a run is left of itself, it agrees with the run.
-/
set_option autoImplicit false

namespace Lookout

/-! ## Notices about a service -/

namespace Notice

/-- Whether a notice is about a service. A trigger is about that of its session. -/
def isAbout (owners : List String) (a : String) : Notice → Bool
  | .triggered i _ => owners[i]? == some a
  | .built _ owner _ => owner == a
  | .published _ owner _ _ => owner == a
  | .failed owner _ => owner == a
  | .delivered _ _ owner _ _ => owner == a

/-- Whether the session that a notice names is one of the service that it names. -/
def Belongs (owners : List String) (n : Notice) : Prop := ∃ i b, owners[i]? = some b ∧ n.Of i b

section
variable {owners more : List String} {n : Notice} {a b : String} {i : Nat}

theorem Of.isAbout_iff (h : n.Of i b) (hi : owners[i]? = some b) :
    n.isAbout owners a = true ↔ b = a := by
  cases n with
  | triggered j trigger =>
    obtain rfl : j = i := h
    simp only [isAbout]
    rw [hi, beq_iff_eq, Option.some_inj]
  | built j owner s =>
    obtain ⟨-, rfl⟩ := h
    exact beq_iff_eq
  | published j owner s report =>
    obtain ⟨-, rfl⟩ := h
    exact beq_iff_eq
  | failed owner f =>
    obtain rfl : owner = b := h
    exact beq_iff_eq
  | delivered j ticket owner w s =>
    obtain ⟨-, rfl⟩ := h
    exact beq_iff_eq

theorem Of.renumber_append (h : n.Of i b) (hi : i ≤ owners.length) :
    n.renumber (rank a (owners ++ more)) = n.renumber (rank a owners) := by
  have hrank : rank a (owners ++ more) i = rank a owners i := rank_append hi
  cases n with
  | triggered j trigger =>
    obtain rfl : j = i := h
    simp only [renumber]
    rw [hrank]
  | built j owner s =>
    obtain ⟨rfl, -⟩ := h
    simp only [renumber]
    rw [hrank]
  | published j owner s report =>
    obtain ⟨rfl, -⟩ := h
    simp only [renumber]
    rw [hrank]
  | failed owner f => rfl
  | delivered j ticket owner w s =>
    obtain ⟨rfl, -⟩ := h
    simp only [renumber]
    rw [hrank]

theorem Belongs.append (h : n.Belongs owners) (more : List String) :
    n.Belongs (owners ++ more) := by
  obtain ⟨i, b, hi, hof⟩ := h
  have hlt := (List.getElem?_eq_some_iff.1 hi).1
  exact ⟨i, b, by rw [List.getElem?_append_left hlt]; exact hi, hof⟩

end

end Notice

/-- What is said about a service, with its sessions numbered as in its share. -/
def heard (a : String) (owners : List String) (ns : List Notice) : List Notice :=
  (ns.filter (Notice.isAbout owners a)).map (Notice.renumber (rank a owners))

section
variable {owners more : List String} {ns : List Notice} {a b : String} {i : Nat}

theorem heard_append (ns ms : List Notice) :
    heard a owners (ns ++ ms) = heard a owners ns ++ heard a owners ms := by
  simp only [heard, List.filter_append, List.map_append]

theorem heard_of_own (hi : owners[i]? = some a) (h : ∀ n ∈ ns, n.Of i a) :
    heard a owners ns = ns.map (Notice.renumber (rank a owners)) := by
  have hall : ∀ n ∈ ns, n.isAbout owners a = true := fun n hn =>
    ((h n hn).isAbout_iff hi).2 rfl
  rw [heard, List.filter_eq_self.2 hall]

theorem heard_of_ne (hi : owners[i]? = some b) (hab : b ≠ a) (h : ∀ n ∈ ns, n.Of i b) :
    heard a owners ns = [] := by
  have hnone : ∀ n ∈ ns, ¬n.isAbout owners a = true := fun n hn habout =>
    hab (((h n hn).isAbout_iff hi).1 habout)
  rw [heard, List.filter_eq_nil_iff.2 hnone, List.map_nil]

theorem heard_owners_append (h : ∀ n ∈ ns, n.Belongs owners) (more : List String) :
    heard a (owners ++ more) ns = heard a owners ns := by
  have habout : ∀ n ∈ ns, n.isAbout (owners ++ more) a = n.isAbout owners a := by
    intro n hn
    obtain ⟨i, b, hi, hof⟩ := h n hn
    have hi' : (owners ++ more)[i]? = some b := by
      rw [List.getElem?_append_left (List.getElem?_eq_some_iff.1 hi).1]
      exact hi
    rw [Bool.eq_iff_iff, hof.isAbout_iff hi', hof.isAbout_iff hi]
  rw [heard, heard, List.filter_congr habout]
  refine List.map_congr_left ?_
  intro n hn
  obtain ⟨i, b, hi, hof⟩ := h n (List.mem_filter.1 hn).1
  exact hof.renumber_append (Nat.le_of_lt (List.getElem?_eq_some_iff.1 hi).1)

/-- Whatever is read off the notices about a service can be read off what is heard of it. -/
theorem filterMap_heard {α : Type} {f g : Notice → Option α}
    (hkept : ∀ n ∈ ns, n.isAbout owners a = true → g (n.renumber (rank a owners)) = f n)
    (hdropped : ∀ n ∈ ns, ¬n.isAbout owners a = true → f n = none) :
    (heard a owners ns).filterMap g = ns.filterMap f := by
  induction ns with
  | nil => rfl
  | cons n rest ih =>
    have hrest := ih (fun p hp => hkept p (List.mem_cons_of_mem _ hp))
      (fun p hp => hdropped p (List.mem_cons_of_mem _ hp))
    have hsplit : heard a owners (n :: rest) = heard a owners [n] ++ heard a owners rest :=
      heard_append [n] rest
    rw [hsplit, List.filterMap_append, hrest, List.filterMap_cons]
    by_cases habout : n.isAbout owners a = true
    · have hone : heard a owners [n] = [n.renumber (rank a owners)] := by simp [heard, habout]
      rw [hone, List.filterMap_cons, hkept n List.mem_cons_self habout]
      cases f n <;> rfl
    · have hnone : heard a owners [n] = [] := by simp [heard, habout]
      rw [hnone, hdropped n List.mem_cons_self habout]
      rfl

theorem builds_heard (a : String) (owners : List String) (ns : List Notice) :
    builds a (heard a owners ns) = builds a ns := by
  refine filterMap_heard ?_ ?_
  · intro n hn habout
    cases n <;> rfl
  · intro n hn habout
    cases n with
    | built i owner s =>
      simp only [Notice.isAbout, beq_iff_eq] at habout
      simp only [Notice.build?]
      rw [if_neg habout]
    | _ => rfl

theorem publications_heard (a : String) (owners : List String) (ns : List Notice) :
    publications a (heard a owners ns) = publications a ns := by
  refine filterMap_heard ?_ ?_
  · intro n hn habout
    cases n <;> rfl
  · intro n hn habout
    cases n with
    | published i owner s report =>
      simp only [Notice.isAbout, beq_iff_eq] at habout
      simp only [Notice.publication?]
      rw [if_neg habout]
    | _ => rfl

theorem deliveries_heard {key key' : Nat → Registry.Key} (h : ∀ n ∈ ns, n.Belongs owners)
    (hkey : ∀ j t w, owners[j]? = some a → key' (rank a owners j) t w = key j t w) :
    deliveries a key' (heard a owners ns) = deliveries a key ns := by
  refine filterMap_heard ?_ ?_
  · intro n hn habout
    obtain ⟨i, b, hi, hof⟩ := h n hn
    obtain rfl := (hof.isAbout_iff hi).1 habout
    cases n with
    | delivered j ticket owner w s =>
      obtain ⟨rfl, rfl⟩ := hof
      simp only [Notice.renumber, Notice.delivery?]
      rw [hkey _ _ _ hi]
    | _ => rfl
  · intro n hn habout
    cases n with
    | delivered i ticket owner w s =>
      simp only [Notice.isAbout, beq_iff_eq] at habout
      simp only [Notice.delivery?]
      rw [if_neg fun hboth => habout hboth.1]
    | _ => rfl

end

namespace Resolver

/-! ## What is left of a run -/

/-- The event as it is for a service that is alone; none if it is of another service, or a call
that has to wait. -/
def Event.alone? (r : Resolver) (a : String) : Event → Option Event
  | .watch service w => if service = a ∧ r.call?.isNone then some (.watch service w) else none
  | .unwatch service w => if service = a ∧ r.call?.isNone then some (.unwatch service w) else none
  | .stop => if r.call?.isNone then some .stop else none
  | .drop => if r.call?.isNone then some .drop else none
  | .proceed service => if service = a then some (.proceed service) else none
  | .change c => if c.about?.all (· == a) then some (.change c) else none
  | .step t =>
    if r.owners[t.session]? = some a then some (.step (t.renumber (rank a r.owners))) else none
  | .pass nanos => some (.pass nanos)

/-- What is left of a run when the events of all services but one are deleted. -/
def alone (r : Resolver) (a : String) : List Event → List Event
  | [] => []
  | e :: rest => (e.alone? r a).toList ++ alone (r.react e).1 a rest

section
variable {r : Resolver} {buffer : Nat} {ns : List Notice} {m : Memory}

theorem run_toList_some (r : Resolver) (e : Event) : r.run (some e).toList = r.react e := by
  rw [Option.toList_some, run_cons, run_nil, List.append_nil]

theorem Sane.owners_react (h : Sane buffer r ns m) (e : Event) :
    ∃ more, (r.react e).1.owners = r.owners ++ more ∧ ∀ b ∈ more, ∃ w, e = .watch b w := by
  have hkept : (r.react e).1.owners = r.owners →
      ∃ more, (r.react e).1.owners = r.owners ++ more ∧ ∀ b ∈ more, ∃ w, e = .watch b w :=
    fun heq => ⟨[], by rw [heq, List.append_nil], by simp⟩
  have hcall : ∀ call : Resolver → Resolver, (call r).owners = r.owners →
      (r.whenFree call).owners = r.owners := by
    intro call hcall
    rcases r.whenFree_cases call with heq | ⟨-, heq⟩
    · rw [heq]
    · rw [heq, hcall]
  cases e with
  | watch service w =>
    rcases r.whenFree_cases fun r => (r.addWatch service w).1 with heq | ⟨-, heq⟩
    · exact hkept (congrArg Resolver.owners heq)
    · have howners := congrArg Resolver.owners heq
      rcases r.owners_addWatch service w with hsame | hbegun
      · exact hkept (howners.trans hsame)
      · refine ⟨[service], howners.trans hbegun, ?_⟩
        intro b hb
        rw [List.mem_singleton.1 hb]
        exact ⟨w, rfl⟩
  | unwatch service w => exact hkept (hcall (·.delWatch service w) (r.owners_delWatch service w))
  | stop => exact hkept (hcall stop r.owners_stop)
  | drop => exact hkept (hcall drop r.owners_cancelAll)
  | proceed service => exact hkept (r.owners_proceed service)
  | change c => exact hkept rfl
  | pass nanos => exact hkept rfl
  | step t =>
    cases hs : r.session? t.session with
    | none =>
      refine hkept ?_
      simp only [Resolver.react, Resolver.step]
      rw [hs]
    | some s => exact hkept ((confined_step h.served hs).owners_eq hs)

theorem Sane.owners_run (h : Sane buffer r ns m) (events : List Event) :
    ∃ more, (r.run events).1.owners = r.owners ++ more := by
  induction events generalizing r ns m with
  | nil => exact ⟨[], (List.append_nil _).symm⟩
  | cons e rest ih =>
    obtain ⟨m', h', -⟩ := h.react e
    obtain ⟨first, hfirst, -⟩ := h.owners_react e
    obtain ⟨later, hlater⟩ := ih h'
    refine ⟨first ++ later, ?_⟩
    rw [run_cons, hlater, hfirst, List.append_assoc]

theorem Sane.belongs_react (h : Sane buffer r ns m) (e : Event) :
    ∀ n ∈ (r.react e).2, n.Belongs r.owners := by
  intro n hn
  cases e with
  | step t =>
    cases hs : r.session? t.session with
    | none =>
      have hnothing : r.react (.step t) = (r, []) := by
        simp only [Resolver.react, Resolver.step]
        rw [hs]
      rw [hnothing] at hn
      exact absurd hn List.not_mem_nil
    | some s => exact ⟨_, _, owners_getElem? hs, (confined_step h.served hs).notices n hn⟩
  | _ => exact absurd hn List.not_mem_nil

theorem Sane.belongs_run (h : Sane buffer r ns m) (events : List Event) :
    ∀ n ∈ (r.run events).2, n.Belongs (r.run events).1.owners := by
  induction events generalizing r ns m with
  | nil => simp
  | cons e rest ih =>
    obtain ⟨m', h', -⟩ := h.react e
    intro n hn
    rw [run_cons] at hn ⊢
    rcases List.mem_append.1 hn with hfirst | hlater
    · obtain ⟨more, hmore⟩ := h.owners_run (e :: rest)
      rw [run_cons] at hmore
      rw [hmore]
      exact (h.belongs_react e n hfirst).append more
    · exact ih h' n hlater

theorem Sane.only_step (h : Sane buffer r ns m) (t : Task) (a : String) (k : Metrics) :
    ∃ k', (r.only a k).run ((Event.step t).alone? r a).toList =
      ((r.step t).1.only a k', heard a r.owners (r.step t).2) := by
  cases hs : r.session? t.session with
  | none =>
    have hnone : r.owners[t.session]? = none := by
      have hs' : r.sessions[t.session]? = none := hs
      rw [owners, List.getElem?_map, hs']
      rfl
    simp only [Event.alone?, step]
    rw [hnone, if_neg (by simp), hs]
    exact ⟨k, rfl⟩
  | some s =>
    have howner := owners_getElem? hs
    have hconfined := confined_step h.served hs
    simp only [Event.alone?]
    rw [howner]
    by_cases hservice : s.service = a
    · subst hservice
      obtain ⟨k', hmirrors⟩ := mirrors_step h.served hs k
      rw [if_pos rfl, run_toList_some, heard_of_own howner hconfined.notices]
      exact ⟨k', hmirrors⟩
    · rw [if_neg fun heq => hservice (Option.some.inj heq),
        heard_of_ne howner hservice hconfined.notices]
      refine ⟨k, ?_⟩
      rw [hconfined.only_of_ne h.served hs hservice k]
      rfl

theorem only_whenFree {e : Event} (call : Resolver → Resolver) (about : Prop) [Decidable about]
    {a : String} {k : Metrics} (hreact : ∀ q : Resolver, q.react e = (q.whenFree call, []))
    (halone : e.alone? r a = if about ∧ r.call?.isNone then some e else none)
    (hown : about → r.call? = none → ∃ k', call (r.only a k) = (call r).only a k')
    (hother : ¬about → r.call? = none → (call r).only a k = r.only a k) :
    ∃ k', (r.only a k).run (e.alone? r a).toList =
      ((r.react e).1.only a k', heard a r.owners (r.react e).2) := by
  rw [halone, hreact]
  cases hcall : r.call? with
  | some c =>
    rw [if_neg (by simp), whenFree_of_held hcall]
    exact ⟨k, rfl⟩
  | none =>
    rw [whenFree_of_free hcall]
    by_cases habout : about
    · obtain ⟨k', hshare⟩ := hown habout hcall
      rw [if_pos ⟨habout, rfl⟩, run_toList_some, hreact, whenFree_of_free (only_free hcall k)]
      exact ⟨k', Prod.ext hshare rfl⟩
    · rw [if_neg fun hboth => habout hboth.1]
      exact ⟨k, Prod.ext (hother habout hcall).symm rfl⟩

theorem Sane.only_react (h : Sane buffer r ns m) (e : Event) (a : String) (k : Metrics) :
    ∃ k', (r.only a k).run (e.alone? r a).toList =
      ((r.react e).1.only a k', heard a r.owners (r.react e).2) := by
  have horderly := h.reached.orderly
  cases e with
  | step t => exact h.only_step t a k
  | watch service w =>
    refine only_whenFree (fun q => (q.addWatch service w).1) (service = a)
      (fun _ => rfl) rfl ?_ fun hother hfree => only_addWatch_of_ne horderly hfree hother w k
    rintro rfl hfree
    obtain ⟨k', hwatch⟩ := only_addWatch horderly hfree service w k
    exact ⟨k', congrArg Prod.fst hwatch⟩
  | unwatch service w =>
    refine only_whenFree (·.delWatch service w) (service = a)
      (fun _ => rfl) rfl ?_ fun hother hfree => only_delWatch_of_ne horderly hfree hother w k
    rintro rfl -
    exact ⟨k, (only_delWatch horderly service w k).symm⟩
  | stop =>
    refine only_whenFree stop True (fun _ => rfl) (by simp [Event.alone?])
      (fun _ _ => ⟨k, (only_stop r a k).symm⟩) fun hnever => absurd trivial hnever
  | drop =>
    refine only_whenFree drop True (fun _ => rfl) (by simp [Event.alone?])
      (fun _ _ => ⟨k, (only_cancelAll r a k).symm⟩) fun hnever => absurd trivial hnever
  | proceed service =>
    by_cases hservice : service = a
    · subst hservice
      obtain ⟨k', hproceed⟩ := only_proceed horderly service k
      have halone : (Event.proceed service).alone? r service = some (.proceed service) := if_pos rfl
      rw [halone, run_toList_some]
      have hshare : ((r.only service k).proceed service).1 =
          (r.proceed service).1.only service k' := congrArg Prod.fst hproceed
      exact ⟨k', Prod.ext hshare rfl⟩
    · simp only [Event.alone?]
      rw [if_neg hservice]
      exact ⟨k, Prod.ext (only_proceed_of_ne horderly hservice k).symm rfl⟩
  | change c =>
    simp only [Event.alone?]
    by_cases hall : c.about?.all (· == a) = true
    · have hmine : ∀ b, c.about? = some b → b = a := by
        intro b hb
        rw [hb, Option.all_some, beq_iff_eq] at hall
        exact hall
      rw [if_pos hall, run_toList_some]
      exact ⟨k, Prod.ext (only_changeSource h.source hmine k).symm rfl⟩
    · rw [if_neg hall]
      cases habout : c.about? with
      | none => exact absurd (by rw [habout]; rfl) hall
      | some b =>
        have hb : b ≠ a := by
          rintro rfl
          rw [habout] at hall
          exact hall (by simp)
        exact ⟨k, Prod.ext (only_changeSource_of_ne h.source habout hb k).symm rfl⟩
  | pass nanos => exact ⟨k, rfl⟩

/-- The run that is left ends in the share of what the whole run ends in. -/
theorem Sane.only_run (h : Sane buffer r ns m) (events : List Event) (a : String) (k : Metrics) :
    ∃ k', (r.only a k).run (r.alone a events) =
      ((r.run events).1.only a k', heard a (r.run events).1.owners (r.run events).2) := by
  induction events generalizing r ns m k with
  | nil => exact ⟨k, rfl⟩
  | cons e rest ih =>
    obtain ⟨m', h', -⟩ := h.react e
    obtain ⟨k₁, hfirst⟩ := h.only_react e a k
    obtain ⟨k₂, hlater⟩ := ih h' k₁
    obtain ⟨more, hmore⟩ := h.owners_run (e :: rest)
    have hheard := heard_owners_append (a := a) (h.belongs_react e) more
    refine ⟨k₂, ?_⟩
    simp only [alone]
    rw [run_append, hfirst]
    dsimp only
    rw [hlater, run_cons]
    rw [run_cons] at hmore
    rw [heard_append, hmore, hheard]

/-! ## Services that are alone -/

theorem Task.renumber_renumber {f g : Nat → Nat} (t : Task) (h : g (f t.session) = f t.session) :
    (t.renumber f).renumber g = t.renumber f := by
  cases t with
  | evaluate i => exact congrArg Task.evaluate h
  | ingest i => exact congrArg Task.ingest h
  | resync i => exact congrArg Task.resync h
  | deliver i ticket => exact congrArg (Task.deliver · ticket) h

/-- Who has sessions of one service only is held by calls about that service only. -/
theorem Sane.free_of_only (h : Sane buffer r ns m) {a : String} {k : Metrics}
    (hsole : ∀ b ∈ r.owners, b = a) (hfree : (r.only a k).call? = none) : r.call? = none := by
  have horderly := h.reached.orderly
  have hmine : ∀ {b i}, (∃ s, r.session? i = some s ∧ s.service = b) → b = a := by
    rintro b i ⟨s, hs, rfl⟩
    exact hsole _ (List.mem_of_getElem? (owners_getElem? hs))
  cases hcall : r.call? with
  | none => rfl
  | some c =>
    rw [only_call hcall] at hfree
    cases c with
    | joining b i w =>
      rw [Call.only?, if_pos (hmine (session_of_joining horderly hcall))] at hfree
      cases hfree
    | keeping b i =>
      rw [Call.only?, if_pos (hmine (session_of_keeping horderly hcall))] at hfree
      cases hfree
    | cancelling b i =>
      rw [Call.only?, if_pos (hmine (session_of_cancelling horderly hcall))] at hfree
      cases hfree
    | closing sessions =>
      obtain ⟨b, i, hfind⟩ := h.reached.exists_unclosed hcall
      obtain rfl := hmine (session_of_closing horderly hcall hfind)
      have hkept : (sessions.only b (rank b r.owners)).find? b = some (rank b r.owners i) := by
        rw [Dict.find?_only_self, hfind]
        rfl
      rw [Call.only?, closing?_of_find? hkept] at hfree
      cases hfree

/-- An event that is left stays as it is where there are no other services. -/
theorem Event.alone?_of_alone? {r' : Resolver} {a : String} {e e' : Event}
    (hsole : ∀ b ∈ r'.owners, b = a) (hlength : r'.owners.length = r.owners.count a)
    (hfree : r.call? = none → r'.call? = none)
    (h : e.alone? r a = some e') : e'.alone? r' a = some e' := by
  have hgated : r.call?.isNone = true → r'.call?.isNone = true := fun hnone =>
    Option.isNone_iff_eq_none.2 (hfree (Option.isNone_iff_eq_none.1 hnone))
  cases e with
  | step t =>
    obtain ⟨ht, heq⟩ := Option.ite_none_right_eq_some.1 h
    obtain rfl := Option.some.inj heq
    have hlt := rank_lt_count ht
    rw [← hlength] at hlt
    have hrank := rank_of_sole hsole (Nat.le_of_lt hlt)
    have howner : r'.owners[rank a r.owners t.session]? = some a := by
      rw [List.getElem?_eq_getElem hlt, hsole _ (List.getElem_mem hlt)]
    simp only [Event.alone?]
    rw [Task.session_renumber, if_pos howner, Task.renumber_renumber t hrank]
  | watch service w =>
    obtain ⟨⟨hservice, hnone⟩, heq⟩ := Option.ite_none_right_eq_some.1 h
    obtain rfl := Option.some.inj heq
    exact if_pos ⟨hservice, hgated hnone⟩
  | unwatch service w =>
    obtain ⟨⟨hservice, hnone⟩, heq⟩ := Option.ite_none_right_eq_some.1 h
    obtain rfl := Option.some.inj heq
    exact if_pos ⟨hservice, hgated hnone⟩
  | stop =>
    obtain ⟨hnone, heq⟩ := Option.ite_none_right_eq_some.1 h
    obtain rfl := Option.some.inj heq
    exact if_pos (hgated hnone)
  | drop =>
    obtain ⟨hnone, heq⟩ := Option.ite_none_right_eq_some.1 h
    obtain rfl := Option.some.inj heq
    exact if_pos (hgated hnone)
  | proceed service =>
    obtain ⟨hservice, heq⟩ := Option.ite_none_right_eq_some.1 h
    obtain rfl := Option.some.inj heq
    exact if_pos hservice
  | change c =>
    obtain ⟨hall, heq⟩ := Option.ite_none_right_eq_some.1 h
    obtain rfl := Option.some.inj heq
    exact if_pos hall
  | pass nanos =>
    obtain rfl := Option.some.inj h
    rfl

theorem count_owners (r : Resolver) (a : String) (k : Metrics) :
    r.owners.count a = (r.only a k).sessions.length := by
  have hrank := rank_length (o := Session.service) (a := a) r.sessions
  simp only [rank] at hrank
  rw [List.take_of_length_le (by simp)] at hrank
  simp only [owners, only, List.length_map]
  exact hrank

theorem Sane.alone_alone {r' : Resolver} {buffer' : Nat} {ns' : List Notice} {m' : Memory}
    {a : String} {k : Metrics} (h : Sane buffer r ns m) (h' : Sane buffer' r' ns' m')
    (hsole : ∀ b ∈ r'.owners, b = a) (hsame : r'.only a k = r.only a k) (events : List Event) :
    r'.alone a (r.alone a events) = r.alone a events := by
  induction events generalizing r r' ns ns' m m' k with
  | nil => rfl
  | cons e rest ih =>
    obtain ⟨n, hnext, -⟩ := h.react e
    obtain ⟨j, hreact⟩ := h.only_react e a k
    simp only [alone]
    cases halone : e.alone? r a with
    | none =>
      rw [halone] at hreact
      have hkept : r.only a k = (r.react e).1.only a j := congrArg Prod.fst hreact
      exact ih hnext h' hsole (only_metrics (hsame.trans hkept) j)
    | some e' =>
      have hlength : r'.owners.length = r.owners.count a := by
        have hall : r'.owners.count a = r'.owners.length :=
          List.count_eq_length.2 fun b hb => (hsole b hb).symm
        rw [count_owners r a k, ← hsame, ← count_owners, hall]
      have hfree : r.call? = none → r'.call? = none := fun hnone =>
        h'.free_of_only (k := k) hsole (by rw [hsame]; exact only_free hnone k)
      have hstays := Event.alone?_of_alone? hsole hlength hfree halone
      obtain ⟨n', hnext', -⟩ := h'.react e'
      obtain ⟨j', hreact'⟩ := h'.only_react e' a k
      obtain ⟨more, hmore, hwatch⟩ := h'.owners_react e'
      have hsole' : ∀ b ∈ (r'.react e').1.owners, b = a := by
        intro b hb
        rw [hmore] at hb
        rcases List.mem_append.1 hb with hold | hnew
        · exact hsole b hold
        · obtain ⟨w, rfl⟩ := hwatch b hnew
          exact (Option.ite_none_right_eq_some.1 hstays).1.1
      rw [halone] at hreact
      rw [hstays, hsame, hreact] at hreact'
      have hsame' : (r'.react e').1.only a j' = (r.react e).1.only a j :=
        (congrArg Prod.fst hreact').symm
      have hrest := ih hnext hnext' hsole' (only_metrics hsame' j)
      rw [Option.toList_some, List.singleton_append, alone, hstays, hrest]
      rfl

/-! ## What can be asked of a share -/

theorem sessionOf?_only (h : r.ledger.Orderly) (a : String) (k : Metrics) :
    (r.only a k).sessionOf? a =
      (r.sessionOf? a).map (Session.renumber (rank a r.source.owners)) := by
  simp only [sessionOf?]
  cases hwatched : r.watched.find? a with
  | none =>
    rw [only_watched_none hwatched]
    rfl
  | some i =>
    obtain ⟨s, hs, rfl⟩ := session_of_watched h hwatched
    rw [only_watched hwatched, Option.bind_some, Option.bind_some, hs, session?_only hs rfl]
    rfl

theorem watchState_only (r : Resolver) (a : String) (k : Metrics) :
    (r.only a k).watchState a = r.watchState a := by
  have hwatched : (r.only a k).watched.contains a = r.watched.contains a := by
    simp only [only, Dict.contains]
    rw [Dict.find?_only_self, Option.isSome_map]
  have hhistories : (r.only a k).histories.contains a = r.histories.contains a := by
    simp only [only, Dict.contains]
    rw [Dict.find?_only_self, Option.isSome_map]
  simp only [watchState]
  rw [hwatched, hhistories]
  rfl

theorem watcherCount_only (h : r.ledger.Orderly) (a : String) (k : Metrics) :
    (r.only a k).watcherCount a = r.watcherCount a := by
  simp only [watcherCount]
  rw [sessionOf?_only h]
  cases r.sessionOf? a <;> rfl

theorem answer_only (r : Resolver) {a : String} {i : Nat} (hi : r.owners[i]? = some a)
    (k : Metrics) :
    (r.only a k).answer (.session (rank a r.owners i)) = r.answer (.session i) := by
  rw [owners, List.getElem?_map] at hi
  obtain ⟨s, hs, rfl⟩ := Option.map_eq_some_iff.1 hi
  simp only [answer]
  rw [session?_only hs rfl, show r.session? i = some s from hs]
  rfl

theorem currentState_only (h : r.ledger.Orderly) (a : String) (k : Metrics) :
    (r.only a k).currentState a = r.currentState a := by
  simp only [currentState, lookUp]
  cases hwatched : r.watched.find? a with
  | none =>
    rw [only_watched_none hwatched, historyOf_only]
    rfl
  | some i =>
    obtain ⟨s, hs, rfl⟩ := session_of_watched h hwatched
    rw [only_watched hwatched]
    exact r.answer_only (owners_getElem? hs) k

theorem outcome?_eq (r : Resolver) (a : String) (w : WatcherId) :
    r.outcome? a w [] = match r.permit a, r.watched.find? a with
      | .error f, _ => some (.refused f)
      | .ok _, some i => some (.ofAdded (r.join i w).2)
      | .ok _, none => some (.ofAdded ((r.newSession a (r.historyOf a)).registry.add w).2) := by
  rcases r.addWatch_cases a w with
    ⟨f, hpermit, heq⟩ | ⟨hpermit, ⟨i, hwatched, heq⟩ | ⟨hwatched, heq⟩⟩
  · simp only [outcome?, heq, hpermit]
    rfl
  · simp only [outcome?, heq, hpermit, hwatched]
    rfl
  · have hsession : Resolver.session? { (r.begin a).1 with
        call? := some (.joining a r.sessions.length w) } r.sessions.length =
          some (r.newSession a (r.historyOf a)) := by
      simp [begin, session?]
    have hadded := join_added hsession w
    have hregister : r.outcome? a w [] = (Resolver.register { (r.begin a).1 with
        call? := some (.joining a r.sessions.length w) } a r.sessions.length w).2 := by
      simp only [outcome?, heq, run_nil, proceed, if_true]
      rfl
    simp only [hregister, hpermit, hwatched, ← hadded]
    rcases register_cases _ a r.sessions.length w with ⟨hlarge, hreg⟩ | ⟨hroom, hreg⟩
    · rw [hreg, hlarge]
      rfl
    · rw [hreg, WatchOutcome.ofAdded_eq_ok_iff.2 hroom]

/-- Nothing that can be observed of a service tells two runs apart. Its sessions may have different
numbers in them, but the same ranks. -/
structure Indistinguishable (service : String) (full sole : Resolver × List Notice) : Prop where
  heard : heard service sole.1.owners sole.2 = heard service full.1.owners full.2
  built : builds service sole.2 = builds service full.2
  published : publications service sole.2 = publications service full.2
  /-- What a registration is handed, of whichever session of the service. -/
  delivered : ∀ i j ticket, full.1.owners[i]? = some service →
    sole.1.owners[j]? = some service →
    rank service sole.1.owners j = rank service full.1.owners i →
    deliveries service (registrationIs j ticket) sole.2 =
      deliveries service (registrationIs i ticket) full.2
  /-- What a watcher is handed of the service, whatever else it watches. -/
  handed : ∀ w, deliveries service (watcherIs w) sole.2 = deliveries service (watcherIs w) full.2
  revision : (sole.1.historyOf service).revision = (full.1.historyOf service).revision
  watchState : sole.1.watchState service = full.1.watchState service
  watcherCount : sole.1.watcherCount service = full.1.watcherCount service
  currentState : sole.1.currentState service = full.1.currentState service
  /-- What somebody is answered who asked when that session was the one of the service. -/
  answered : ∀ i j, full.1.owners[i]? = some service → sole.1.owners[j]? = some service →
    rank service sole.1.owners j = rank service full.1.owners i →
    sole.1.answer (.session j) = full.1.answer (.session i)
  /-- How a call to watch the service would end. -/
  outcome : ∀ w, sole.1.outcome? service w [] = full.1.outcome? service w []

theorem deliveries_of_rank {owners : List String} {a : String} {i : Nat}
    (hns : ∀ n ∈ ns, n.Belongs owners) (hi : owners[i]? = some a) (ticket : Nat) :
    deliveries a (registrationIs (rank a owners i) ticket) (heard a owners ns) =
      deliveries a (registrationIs i ticket) ns := by
  refine deliveries_heard hns ?_
  intro j t w hj
  have hiff : rank a owners j = rank a owners i ↔ j = i :=
    ⟨rank_inj hj hi, fun heq => by rw [heq]⟩
  rw [Bool.eq_iff_iff]
  simp only [registrationIs, Bool.and_eq_true, beq_iff_eq]
  rw [hiff]

theorem deliveries_of_watcher {owners : List String} (hns : ∀ n ∈ ns, n.Belongs owners)
    (a : String) (w : WatcherId) :
    deliveries a (watcherIs w) (heard a owners ns) = deliveries a (watcherIs w) ns :=
  deliveries_heard hns fun _ _ _ _ => rfl

theorem outcome_only (h : r.ledger.Orderly) (a : String) (w : WatcherId) (k : Metrics) :
    (r.only a k).outcome? a w [] = r.outcome? a w [] := by
  have hpermit : (r.only a k).permit a = r.permit a := rfl
  have hnew : (r.only a k).newSession a (r.historyOf a) = r.newSession a (r.historyOf a) := rfl
  rw [outcome?_eq, outcome?_eq, hpermit, historyOf_only, hnew]
  cases r.permit a with
  | error f => rfl
  | ok _ =>
    cases hwatched : r.watched.find? a with
    | none => rw [only_watched_none hwatched]
    | some i =>
      obtain ⟨s, hs, rfl⟩ := session_of_watched h hwatched
      obtain ⟨k', hjoin⟩ := only_join hs w k
      rw [only_watched hwatched]
      dsimp only
      rw [hjoin]

theorem indistinguishable_of_only {r' : Resolver} {buffer' : Nat} {ns' : List Notice}
    {m' : Memory} {full sole : List Notice} {a : String} {k : Metrics} (h : Sane buffer r ns m)
    (h' : Sane buffer' r' ns' m') (hfull : ∀ n ∈ full, n.Belongs r.owners)
    (hsole : ∀ n ∈ sole, n.Belongs r'.owners) (hsame : r'.only a k = r.only a k)
    (hheard : heard a r'.owners sole = heard a r.owners full) :
    Indistinguishable a (r, full) (r', sole) where
  heard := hheard
  published := by
    have hpublished := publications_heard a r'.owners sole
    rw [hheard, publications_heard] at hpublished
    exact hpublished.symm
  built := by
    have hbuilt := builds_heard a r'.owners sole
    rw [hheard, builds_heard] at hbuilt
    exact hbuilt.symm
  delivered := by
    intro i j ticket hi hj hrank
    have hdelivered := deliveries_of_rank hsole hj ticket
    rw [hheard, hrank, deliveries_of_rank hfull hi ticket] at hdelivered
    exact hdelivered.symm
  handed := by
    intro w
    have hhanded := deliveries_of_watcher hsole a w
    rw [hheard, deliveries_of_watcher hfull] at hhanded
    exact hhanded.symm
  revision := by
    have hhistory := historyOf_only r' a k
    rw [hsame, historyOf_only] at hhistory
    exact congrArg History.revision hhistory.symm
  watchState := by
    have hstate := watchState_only r' a k
    rw [hsame, watchState_only] at hstate
    exact hstate.symm
  watcherCount := by
    have hcount := watcherCount_only h'.reached.orderly a k
    rw [hsame, watcherCount_only h.reached.orderly] at hcount
    exact hcount.symm
  currentState := by
    have hcurrent := currentState_only h'.reached.orderly a k
    rw [hsame, currentState_only h.reached.orderly] at hcurrent
    exact hcurrent.symm
  answered := by
    intro i j hi hj hrank
    have hanswer := answer_only r' hj k
    rw [hsame, hrank, answer_only r hi] at hanswer
    exact hanswer.symm
  outcome := by
    intro w
    have houtcome := outcome_only h'.reached.orderly a w k
    rw [hsame, outcome_only h.reached.orderly] at houtcome
    exact houtcome.symm

end

/-! ## Runs -/

section
variable (name : String) (config : ResolverConfig) (backoff : Backoff) (hooked : Bool)
  (stamp : String)

theorem create_only (m : Memory) (a : String) :
    (create name config (.memory m) backoff hooked stamp).only a .zero =
      create name config (.memory (m.only a)) backoff hooked stamp := rfl

/-- Two runs of which the same is left for a service, of resolvers over registries that hold the
same for it, cannot be told apart by what can be observed of it. -/
theorem runs_agree {m m' : Memory} {service : String} {events events' : List Event}
    (hm : m'.only service = m.only service)
    (halone : (create name config (.memory m') backoff hooked stamp).alone service events' =
      (create name config (.memory m) backoff hooked stamp).alone service events) :
    Indistinguishable service
      ((create name config (.memory m) backoff hooked stamp).run events)
      ((create name config (.memory m') backoff hooked stamp).run events') := by
  have hfull := sane_create name config m backoff hooked stamp
  have hsole := sane_create name config m' backoff hooked stamp
  obtain ⟨n, hend, -⟩ := hfull.run events
  obtain ⟨n', hend', -⟩ := hsole.run events'
  obtain ⟨k, hrun⟩ := hfull.only_run events service .zero
  obtain ⟨k', hrun'⟩ := hsole.only_run events' service .zero
  rw [halone, create_only, hm, ← create_only, hrun] at hrun'
  obtain ⟨hshare, hheard⟩ := Prod.mk.inj hrun'
  exact indistinguishable_of_only hend hend' (hfull.belongs_run events)
    (hsole.belongs_run events') (only_metrics hshare.symm k) hheard.symm

/-- Deleting from a run all that concerns other services leaves unchanged everything that can be
observed of a service, even where a watcher watches several services. The registry may hold the
same for other services, or something else, or nothing. -/
theorem services_do_not_interfere {m m' : Memory} {service : String}
    (hm : m'.only service = m.only service) (events : List Event) :
    Indistinguishable service
      ((create name config (.memory m) backoff hooked stamp).run events)
      ((create name config (.memory m') backoff hooked stamp).run
        ((create name config (.memory m) backoff hooked stamp).alone service events)) := by
  have hfull := sane_create name config m backoff hooked stamp
  have hsole := sane_create name config m' backoff hooked stamp
  have hsame : (create name config (.memory m') backoff hooked stamp).only service .zero =
      (create name config (.memory m) backoff hooked stamp).only service .zero := by
    rw [create_only, create_only, hm]
  have hnone : ∀ b ∈ (create name config (.memory m') backoff hooked stamp).owners,
      b = service := by
    intro b hb
    exact absurd hb List.not_mem_nil
  exact runs_agree name config backoff hooked stamp hm
    (hfull.alone_alone hsole hnone hsame events)

/-- A watcher watches two services and leaves one of them before it is handed a snapshot of the
other. A call about that one comes while the leaving goes on, and has to wait. -/
def crowd : List Event :=
  [.watch "a" "w", .proceed "a", .watch "b" "w", .proceed "b", .step (.evaluate 0),
    .step (.evaluate 1), .step (.evaluate 1), .unwatch "a" "w", .unwatch "b" "w",
    .step (.evaluate 1), .proceed "a", .proceed "a", .proceed "a", .step (.deliver 1 0)]

theorem services_do_not_interfere_for_shared_watcher :
    let full := (create "r" (.create "n" ["http"])
      (.memory (Memory.empty.register exampleRecord)) .standard true "").run crowd
    let sole := (create "r" (.create "n" ["http"]) (.memory .empty) .standard true "").run
      [.watch "b" "w", .proceed "b", .step (.evaluate 0), .step (.evaluate 0), .step (.evaluate 0),
        .step (.deliver 0 0)]
    Memory.empty.only "b" = (Memory.empty.register exampleRecord).only "b" ∧
      (deliveries "b" (watcherIs "w") sole.2).length = 1 ∧
      deliveries "b" (watcherIs "w") sole.2 = deliveries "b" (watcherIs "w") full.2 := by
  dsimp only
  have hm : Memory.empty.only "b" = (Memory.empty.register exampleRecord).only "b" := rfl
  have hsame := services_do_not_interfere "r" (.create "n" ["http"]) .standard true "" hm crowd
  exact ⟨hm, by decide, hsame.handed "w"⟩

end

end Resolver

end Lookout
