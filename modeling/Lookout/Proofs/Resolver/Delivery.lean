import Lookout.Proofs.Resolver.Answers
import Mathlib.Data.List.Nodup

/-!
# The order of deliveries

What a registration has been handed, followed by what its mailbox still holds, is no newer than what
is current of its service, and what is offered to it is newer. A watcher that registers anew starts
with the snapshot that is current, so over all its registrations it never sees an older one after a
newer one. Revisions tell what is newer as long as their counter does not wrap.
-/
set_option autoImplicit false

namespace Lookout

def registrationIs (session ticket : Nat) : Nat → Registry.Key :=
  fun i t _ => i == session && t == ticket

def watcherIs (w : WatcherId) : Nat → Registry.Key := fun _ => Registry.watcherIs w

/-- Whether at most one registration of a session answers to the key. -/
def Exclusive (key : Nat → Registry.Key) : Prop :=
  ∀ (i : Nat) (g : Registry), g.Orderly → g.Single (key i)

theorem exclusive_registrationIs (session ticket : Nat) :
    Exclusive (registrationIs session ticket) := by
  intro i g h
  have htickets := h.single_ticketIs ticket
  refine htickets.imp ?_
  intro a b hone hboth
  simp only [registrationIs, Bool.and_eq_true] at hboth
  exact hone ⟨hboth.1.2, hboth.2.2⟩

theorem exclusive_watcherIs (w : WatcherId) : Exclusive (watcherIs w) :=
  fun _ _ h => h.single_watcherIs w

namespace Ledger

/-- The unread snapshots of a watched service that wait for the registration with that key. -/
def inbox (g : Ledger) (service : String) (key : Nat → Registry.Key) : List Snapshot :=
  match g.post? service with
  | some (i, d) => d.registry.unread (key i)
  | none => []

theorem inbox_of_post? {g : Ledger} {service : String} {i : Nat} {d : Desk}
    (h : g.post? service = some (i, d)) (key : Nat → Registry.Key) :
    g.inbox service key = d.registry.unread (key i) := by
  simp only [inbox]
  rw [h]

theorem inbox_of_none {g : Ledger} {service : String} (h : g.post? service = none)
    (key : Nat → Registry.Key) : g.inbox service key = [] := by
  simp only [inbox]
  rw [h]

/-! ## Steps -/

/-- A registration that has just been made gets the current snapshot. -/
structure Welcome (g : Ledger) (service : String) (key : Nat → Registry.Key) (c : Snapshot) :
    Prop where
  hopen : g.stopped = false
  empty : g.inbox service key = []
  current : g.current service = some c
  /-- The registration is new in its session. -/
  fresh : ∃ i t w, key i t w = true ∧ ∀ d, g.desks[i]? = some d → d.registry.issued ≤ t

theorem Welcome.of_add {g : Ledger} {service : String} {key : Nat → Registry.Key} {i : Nat}
    {registry : Registry} (w : WatcherId) (hopen : g.stopped = false)
    (hinbox : g.inbox service key = registry.unread (key i))
    (hcurrent : g.current service = registry.current?)
    (hissued : ∀ d, g.desks[i]? = some d → d.registry.issued = registry.issued) :
    (registry.add w).1.unread (key i) = g.inbox service key ∨
      ∃ c, g.Welcome service key c ∧ (registry.add w).1.unread (key i) = [c] := by
  rcases registry.unread_add w (key i) with hsame | ⟨hnobody, hnew, c, hc, hone⟩
  · exact Or.inl (hsame.trans hinbox.symm)
  · refine Or.inr ⟨c, ⟨hopen, ?_, hcurrent.trans hc, ?_⟩, hone⟩
    · rw [hinbox]
      simp only [Registry.unread]
      rw [hnobody]
      rfl
    · exact ⟨i, registry.issued, w, hnew, fun d hd => Nat.le_of_eq (hissued d hd)⟩

theorem Turn.inbox {g g' : Ledger} {service : String} {ns : List Notice}
    (h : Turn g service ns g') (horderly : g.Orderly) {key : Nat → Registry.Key}
    (hkey : Exclusive key) :
    deliveries service key ns ++ g'.inbox service key <+: g.inbox service key ∨
    (∃ i s, g.seat? service = some i ∧ g.ready[i]? = some (service, some s) ∧
      publications service ns = [s] ∧ deliveries service key ns = [] ∧
      g'.inbox service key = g.inbox service key ++ [s] ∧ g'.current service = some s) ∨
    (deliveries service key ns = [] ∧ ∃ c, g.Welcome service key c ∧
      g'.inbox service key = [c] ∧ g'.current service = some c) := by
  have hsame : g'.inbox service key = g.inbox service key →
      g'.inbox service key <+: g.inbox service key := fun heq => heq ▸ List.prefix_rfl
  cases h with
  | aside hpublished hdelivered hpost hkept =>
    refine Or.inl ?_
    rw [hdelivered, List.nil_append]
    refine hsame ?_
    simp only [Ledger.inbox]
    rw [hpost]
  | @joined i d w hns hopen hpost hpost' hkept =>
    rw [hns, deliveries_nil, List.nil_append, inbox_of_post? hpost']
    have hissued : ∀ e, g.desks[i]? = some e → e.registry.issued = d.registry.issued := by
      intro e he
      rw [Option.some.inj (he.symm.trans (of_post? hpost).2)]
    rcases Welcome.of_add w hopen (inbox_of_post? hpost key) (current_of_post? hpost) hissued with
      hsame | ⟨c, hwelcome, hone⟩
    · exact Or.inl (hsame ▸ List.prefix_rfl)
    · refine Or.inr (Or.inr ⟨rfl, c, hwelcome, hone, ?_⟩)
      rw [current_of_post? hpost', ← hwelcome.current, current_of_post? hpost]
      exact current_add _ w
  | begun hns hfree hopen hpost hpost' hkept =>
    refine Or.inl ?_
    rw [hns, deliveries_nil, List.nil_append, inbox_of_post? hpost']
    have hnobody : (g.newDesk service).registry.registrations = [] := rfl
    rw [Registry.unread_of_registrations_nil hnobody]
    exact List.nil_prefix
  | abandoned hns hfits hpost hpost' hkept =>
    refine Or.inl ?_
    rw [hns, deliveries_nil, inbox_of_none hpost']
    exact List.nil_prefix
  | @thinned i d e hns hpost hpost' hcurrent hunread hkept =>
    refine Or.inl ?_
    rw [hns, deliveries_nil, List.nil_append, inbox_of_post? hpost, inbox_of_post? hpost']
    exact hunread _ (hkey i _ (horderly.desks i d (of_post? hpost).2).registry)
  | retired hns hcall hcall' hpost hpost' hkept =>
    refine Or.inl ?_
    rw [hns, deliveries_nil, inbox_of_none hpost']
    exact List.nil_prefix
  | stopped hns hfree hopen hstopped hpost' hkept =>
    refine Or.inl ?_
    rw [hns, deliveries_nil, inbox_of_none hpost']
    exact List.nil_prefix
  | @offered i d s hready hns hpost hpost' hkept =>
    rw [hns, publications_published, if_pos rfl, deliveries_published, inbox_of_post? hpost,
      inbox_of_post? hpost', List.nil_append]
    rcases Registry.unread_notify d.registry s (key i) with heq | heq
    · exact Or.inl (heq ▸ List.prefix_rfl)
    · refine Or.inr (Or.inl ⟨i, s, (of_post? hpost).1, hready, rfl, rfl, heq, ?_⟩)
      rw [current_of_post? hpost']
      rfl
  | unheard s hready hns hseat hpost hkept =>
    refine Or.inl ?_
    rw [hns, deliveries_published, List.nil_append]
    refine hsame ?_
    simp only [Ledger.inbox]
    rw [hpost]
  | @delivered i d t hns hpost hpost' hkept =>
    refine Or.inl ?_
    have hdesk := (horderly.desks i d (of_post? hpost).2).registry
    rw [hns, deliveries_deliveryNotices, if_pos rfl, inbox_of_post? hpost, inbox_of_post? hpost']
    exact Registry.handed_append_unread hdesk (hkey i _ hdesk) t

theorem Turn.ticket_lt {g g' : Ledger} {service : String} {ns : List Notice}
    (h : Turn g service ns g') (horderly : g.Orderly) {session ticket : Nat}
    (hsome : deliveries service (registrationIs session ticket) ns ≠ []) :
    ∃ d, g.desks[session]? = some d ∧ ticket < d.registry.issued := by
  cases h with
  | aside hpublished hdelivered hpost hkept => exact absurd (hdelivered _) hsome
  | joined w hns => exact absurd (by rw [hns]; rfl) hsome
  | begun hns => exact absurd (by rw [hns]; rfl) hsome
  | abandoned hns => exact absurd (by rw [hns]; rfl) hsome
  | thinned hns => exact absurd (by rw [hns]; rfl) hsome
  | retired hns => exact absurd (by rw [hns]; rfl) hsome
  | stopped hns => exact absurd (by rw [hns]; rfl) hsome
  | offered s hready hns => exact absurd (by rw [hns]; rfl) hsome
  | unheard s hready hns => exact absurd (by rw [hns]; rfl) hsome
  | @delivered i d t hns hpost hpost' hkept =>
    rw [hns, deliveries_deliveryNotices, if_pos rfl] at hsome
    have hd := (of_post? hpost).2
    unfold Registry.deliver at hsome
    cases hfound : d.registry.registrations.find? (·.ticket == t) with
    | none =>
      rw [hfound] at hsome
      exact absurd rfl hsome
    | some q =>
      rw [hfound] at hsome
      have hq : q ∈ d.registry.registrations := List.mem_of_find?_eq_some hfound
      have ht : q.ticket = t := by simpa using List.find?_some hfound
      have hissued := (horderly.desks i d hd).registry.issued q hq
      by_cases hmatch : registrationIs session ticket i t q.watcher = true
      · simp only [registrationIs, Bool.and_eq_true, beq_iff_eq] at hmatch
        refine ⟨d, ?_, ?_⟩
        · rw [← hmatch.1]
          exact hd
        · rw [← hmatch.2, ← ht]
          exact hissued
      · simp only [Registry.handed, hmatch, Bool.false_eq_true, if_false] at hsome
        exact absurd rfl hsome

/-! ## Runs -/

theorem Reached.ticket_lt {buffer : Nat} {ns : List Notice} {g : Ledger}
    (h : Reached buffer ns g) {service : String} {session ticket : Nat}
    (hsome : deliveries service (registrationIs session ticket) ns ≠ []) :
    ∃ d, g.desks[session]? = some d ∧ ticket < d.registry.issued := by
  induction h with
  | create => exact absurd rfl hsome
  | @step ns ms g g' hreached hstep ih =>
    have hbefore : ∃ d, g.desks[session]? = some d ∧ ticket < d.registry.issued := by
      by_cases hold : deliveries service (registrationIs session ticket) ns = []
      · rw [deliveries_append, hold, List.nil_append] at hsome
        exact (hstep.turn hreached.orderly service).ticket_lt hreached.orderly hsome
      · exact ih hold
    obtain ⟨d, hd, hlt⟩ := hbefore
    obtain ⟨e, he, hle⟩ := hstep.grows hd
    exact ⟨e, he, Nat.lt_of_lt_of_le hlt hle⟩

/-- The deliveries to a registration and what waits for it. -/
def trail (service : String) (key : Nat → Registry.Key) (ns : List Notice) (g : Ledger) :
    List Snapshot :=
  deliveries service key ns ++ g.inbox service key

/-- What a step does to a trail: it loses some of its end, or gets what is offered, or gets the
current snapshot. -/
theorem Reached.trail_step {buffer : Nat} {ns ms : List Notice} {g g' : Ledger}
    (h : Reached buffer ns g) (hstep : Step g ms g') (service : String)
    {key : Nat → Registry.Key} (hkey : Exclusive key) :
    trail service key (ns ++ ms) g' <+: trail service key ns g ∨
    (∃ i s, g.seat? service = some i ∧ g.ready[i]? = some (service, some s) ∧
      publications service ms = [s] ∧ g'.inbox service key ≠ [] ∧ g'.current service = some s ∧
      trail service key (ns ++ ms) g' = trail service key ns g ++ [s]) ∨
    ∃ c, g.Welcome service key c ∧ g'.inbox service key ≠ [] ∧ g'.current service = some c ∧
      trail service key ns g = deliveries service key ns ∧
      trail service key (ns ++ ms) g' = deliveries service key ns ++ [c] := by
  simp only [trail]
  rw [deliveries_append]
  rcases (hstep.turn h.orderly service).inbox h.orderly hkey with hfront |
      ⟨i, s, hseat, hready, hone, hnothing, hmore, hcurrent⟩ |
      ⟨hnothing, c, hwelcome, hnew, hcurrent⟩
  · refine Or.inl ?_
    rw [List.append_assoc]
    exact (List.prefix_append_right_inj _).2 hfront
  · refine Or.inr (Or.inl ⟨i, s, hseat, hready, hone, by simp [hmore], hcurrent, ?_⟩)
    rw [hnothing, List.append_nil, hmore, List.append_assoc]
  · refine Or.inr (Or.inr ⟨c, hwelcome, by simp [hnew], hcurrent, ?_, ?_⟩)
    · rw [hwelcome.empty, List.append_nil]
    · rw [hnothing, List.append_nil, hnew]

theorem Reached.trail_subset {buffer : Nat} {ns : List Notice} {g : Ledger}
    (h : Reached buffer ns g) (service : String) {key : Nat → Registry.Key}
    (hkey : Exclusive key) : trail service key ns g ⊆ publications service ns := by
  induction h with
  | create => exact List.nil_subset _
  | @step ns ms g g' hreached hstep ih =>
    intro s hs
    rw [publications_append, List.mem_append]
    rcases hreached.trail_step hstep service hkey with hfront | ⟨i, t, -, -, hone, -, -, hmore⟩ |
      ⟨c, hwelcome, -, -, hold, hnew⟩
    · exact Or.inl (ih (hfront.subset hs))
    · rw [hmore] at hs
      rw [hone]
      exact (List.mem_append.1 hs).imp (fun hin => ih hin) id
    · rw [hnew, ← hold] at hs
      rcases List.mem_append.1 hs with hin | hin
      · exact Or.inl (ih hin)
      · rw [List.mem_singleton.1 hin]
        exact Or.inl (hreached.mem_publications hwelcome.current)

theorem Orderly.fits_of_inbox {g : Ledger} (h : g.Orderly) {service : String}
    {key : Nat → Registry.Key} (hsome : g.inbox service key ≠ []) : g.Fits := by
  cases hpost : g.post? service with
  | none => exact absurd (inbox_of_none hpost key) hsome
  | some p =>
    obtain ⟨i, d⟩ := p
    obtain ⟨hseat, hd⟩ := of_post? hpost
    have hservice := h.service_of_post? hpost
    have hmanned : d.registry.registrations ≠ [] := by
      intro hnobody
      rw [inbox_of_post? hpost, Registry.unread_of_registrations_nil hnobody] at hsome
      exact hsome rfl
    rcases (h.desks i d hd).manned hmanned with hwatched | hclosing
    · exact h.fits d.service i hwatched
    · -- a session that is to be closed has no seat
      unfold unclosed? at hclosing
      split at hclosing
      · next sessions hcall =>
        have hover := (show ∀ a j, sessions.find? a = some j → g.Over a j from h.call _ hcall) _ _
          hclosing
        rw [seat?_of_closing hcall, ← hservice, hover.unwatched] at hseat
        exact absurd hseat (by simp)
      · exact absurd hclosing (by simp)

theorem Reached.fits_of_trail {buffer : Nat} {ns : List Notice} {g : Ledger}
    (h : Reached buffer ns g) {service : String} {key : Nat → Registry.Key} (hkey : Exclusive key)
    (hsome : trail service key ns g ≠ []) : g.Fits := by
  induction h with
  | create => exact absurd rfl hsome
  | @step ns ms g g' hreached hstep ih =>
    have hnext := (hreached.step hstep).orderly
    rcases hreached.trail_step hstep service hkey with hfront | ⟨i, s, -, -, -, hinbox, -⟩ |
      ⟨c, -, hinbox, -⟩
    · refine hstep.fits_iff.2 (ih fun hnone => hsome ?_)
      rw [hnone] at hfront
      exact List.prefix_nil.1 hfront
    · exact hnext.fits_of_inbox hinbox
    · exact hnext.fits_of_inbox hinbox

/-- What is there to see is no newer than what is current, while the resolver goes on. -/
def Bounded (service : String) (key : Nat → Registry.Key) (ns : List Notice) (g : Ledger) : Prop :=
  ∀ s ∈ trail service key ns g, NoOlder (some s) (g.current service)

theorem Reached.bounded {buffer : Nat} {ns : List Notice} {g : Ledger}
    (h : Reached buffer ns g) {service : String} {key : Nat → Registry.Key}
    (hkey : Exclusive key) (hfew : (builds service ns).length < UInt64.size)
    (hopen : g.stopped = false) : Bounded service key ns g := by
  induction h with
  | create => exact fun s hs => absurd hs List.not_mem_nil
  | @step ns ms g g' hreached hstep ih =>
    have hbefore := builds_few_before hfew
    have hwas := hstep.open_of_open hopen
    have hold := ih hbefore hwas
    intro s hs
    rcases hreached.trail_step hstep service hkey with hfront |
      ⟨i, t, hseat, hready, -, -, hcurrent, hmore⟩ | ⟨c, hwelcome, -, hcurrent, htrail, hnew⟩
    · have hmem := hfront.subset hs
      have hfits := hreached.fits_of_trail hkey (List.ne_nil_of_mem hmem)
      exact (hold s hmem).trans
        (hreached.noOlder_step hstep hbefore hfits (.inl (hopen.trans hwas.symm)))
    · rw [hmore] at hs
      rw [hcurrent]
      rcases List.mem_append.1 hs with hin | hin
      · exact (hold s hin).trans (hreached.older_of_offered hbefore hseat hready).noOlder
      · rw [List.mem_singleton.1 hin]
        exact .refl _
    · rw [hnew, ← htrail] at hs
      rw [hcurrent]
      rcases List.mem_append.1 hs with hin | hin
      · exact hwelcome.current ▸ hold s hin
      · rw [List.mem_singleton.1 hin]
        exact .refl _

theorem pairwise_concat_of_bounded {R : Snapshot → Snapshot → Prop} {front : List Snapshot}
    {s : Snapshot} (h : front.Pairwise R) (hlast : ∀ t ∈ front, R t s) :
    (front ++ [s]).Pairwise R := by
  refine List.pairwise_append.2 ⟨h, List.pairwise_singleton _ _, ?_⟩
  intro t ht u hu
  rw [List.mem_singleton.1 hu]
  exact hlast t ht

theorem Reached.newer_of_offered {buffer : Nat} {ns : List Notice} {g : Ledger}
    (h : Reached buffer ns g) {service : String} {key : Nat → Registry.Key}
    (hkey : Exclusive key) (hfew : (builds service ns).length < UInt64.size) {i : Nat}
    {s : Snapshot} (hseat : g.seat? service = some i)
    (hready : g.ready[i]? = some (service, some s)) :
    ∀ t ∈ trail service key ns g, t.revision < s.revision := by
  obtain ⟨d, hd, -⟩ := h.orderly.desk_of_seat hseat
  have hopen := h.orderly.open_of_post? (post?_of_seat hseat hd)
  intro t ht
  exact ((h.bounded hkey hfew hopen t ht).older (h.older_of_offered hfew hseat hready)) t rfl

theorem Reached.trail_increasing {buffer : Nat} {ns : List Notice} {g : Ledger}
    (h : Reached buffer ns g) {service : String} (session ticket : Nat)
    (hfew : (builds service ns).length < UInt64.size) :
    (trail service (registrationIs session ticket) ns g).Pairwise
      fun s t => s.revision < t.revision := by
  have hkey := exclusive_registrationIs session ticket
  induction h with
  | create => exact List.Pairwise.nil
  | @step ns ms g g' hreached hstep ih =>
    have hbefore := builds_few_before hfew
    rcases hreached.trail_step hstep service hkey with hfront |
      ⟨i, s, hseat, hready, -, -, -, hmore⟩ | ⟨c, hwelcome, -, -, -, hnew⟩
    · exact (ih hbefore).sublist hfront.sublist
    · rw [hmore]
      exact pairwise_concat_of_bounded (ih hbefore)
        (hreached.newer_of_offered hkey hbefore hseat hready)
    · -- a registration that is new has been handed nothing
      have hnothing : deliveries service (registrationIs session ticket) ns = [] := by
        refine Decidable.byContradiction fun hsome => ?_
        obtain ⟨d, hd, hlt⟩ := hreached.ticket_lt hsome
        obtain ⟨i, t, w, hkey, hfresh⟩ := hwelcome.fresh
        simp only [registrationIs, Bool.and_eq_true, beq_iff_eq] at hkey
        rw [← hkey.1] at hd
        rw [← hkey.2] at hlt
        exact Nat.not_lt.2 (hfresh d hd) hlt
      rw [hnew, hnothing, List.nil_append]
      exact List.pairwise_singleton _ _

theorem Reached.trail_pairwise {buffer : Nat} {ns : List Notice} {g : Ledger}
    (h : Reached buffer ns g) {service : String} {key : Nat → Registry.Key}
    (hkey : Exclusive key) (hfew : (builds service ns).length < UInt64.size) :
    (trail service key ns g).Pairwise fun s t => s.revision ≤ t.revision := by
  induction h with
  | create => exact List.Pairwise.nil
  | @step ns ms g g' hreached hstep ih =>
    have hbefore := builds_few_before hfew
    rcases hreached.trail_step hstep service hkey with hfront |
      ⟨i, s, hseat, hready, -, -, -, hmore⟩ | ⟨c, hwelcome, -, -, hold, hnew⟩
    · exact (ih hbefore).sublist hfront.sublist
    · rw [hmore]
      refine pairwise_concat_of_bounded (ih hbefore) fun t ht => UInt64.le_of_lt ?_
      exact hreached.newer_of_offered hkey hbefore hseat hready t ht
    · rw [hnew, ← hold]
      refine pairwise_concat_of_bounded (ih hbefore) fun t ht => ?_
      obtain ⟨u, hu, hle⟩ := hreached.bounded hkey hbefore hwelcome.hopen t ht t rfl
      rw [hwelcome.current] at hu
      rwa [Option.some.inj hu]

end Ledger

namespace Resolver

/-- Somebody saw the snapshot: it was handed to a watcher of the service, or a question was answered
with it. -/
def Observed (r : Resolver) (service : String) (events : List Event) (s : Snapshot) : Prop :=
  (∃ session ticket w, .delivered session ticket service w s ∈ (r.run events).2) ∨
    ∃ front back, front ++ back <+: events ∧
      (r.run (front ++ back)).1.answer ((r.run front).1.lookUp service) = some s

theorem Observed.mem_publications {buffer : Nat} {r : Resolver}
    (h : Ledger.Reached buffer [] r.ledger) {service : String} {events : List Event}
    {s : Snapshot} (hs : Observed r service events s) :
    s ∈ publications service (r.run events).2 := by
  rcases hs with ⟨session, ticket, w, hmem⟩ | ⟨front, back, hfront, hanswer⟩
  · have hsubset := (reached_run_of h events).trail_subset service
      (exclusive_registrationIs session ticket)
    refine hsubset (List.mem_append_left _ (List.mem_filterMap.2 ⟨_, hmem, ?_⟩))
    simp [Notice.delivery?, registrationIs]
  · have hnow := reached_run_of h (front ++ back)
    refine (publications_mono r service hfront).subset ?_
    cases hwatched : (r.run front).1.watched.find? service with
    | none =>
      rw [lookUp_of_unwatched hwatched] at hanswer
      exact (publications_mono r service (List.prefix_append front back)).subset
        ((reached_run_of h front).published.kept service s hanswer)
    | some i =>
      rw [lookUp_of_watched hwatched, answer_session] at hanswer
      obtain ⟨d, hd, hservice⟩ := prefix_desk h hwatched back
      exact hservice ▸ hnow.published.current i d s hd hanswer

variable (name : String) (config : ResolverConfig) (source : Source) (backoff : Backoff)
  (hooked : Bool) (stamp : String)

/-- As long as fewer than `UInt64.size` builds of a service have succeeded, one registration is
handed greater and greater revisions, a watcher that registers again never a smaller one than
before, and all who observe one revision observe the same snapshot. -/
theorem deliveries_are_ordered (events : List Event) (service : String)
    (hfew : (builds service
      ((create name config source backoff hooked stamp).run events).2).length < UInt64.size) :
    (∀ session ticket, (deliveries service (registrationIs session ticket)
        ((create name config source backoff hooked stamp).run events).2).Pairwise
          fun s t => s.revision < t.revision) ∧
    (∀ w, (deliveries service (watcherIs w)
        ((create name config source backoff hooked stamp).run events).2).Pairwise
          fun s t => s.revision ≤ t.revision) ∧
    ∀ s t, Observed (create name config source backoff hooked stamp) service events s →
      Observed (create name config source backoff hooked stamp) service events t →
      s.revision = t.revision → s = t := by
  have hbegin : Ledger.Reached config.watcherBuffer.toNat []
      (create name config source backoff hooked stamp).ledger := .create
  have hreached := Ledger.reached_run name config source backoff hooked stamp events
  refine ⟨?_, ?_, ?_⟩
  · intro session ticket
    exact (hreached.trail_increasing session ticket hfew).sublist (List.sublist_append_left _ _)
  · intro w
    exact (hreached.trail_pairwise (exclusive_watcherIs w) hfew).sublist
      (List.sublist_append_left _ _)
  · intro s t hs ht
    exact List.inj_on_of_nodup_map (hreached.publications_nodup hfew) (hs.mem_publications hbegin)
      (ht.mem_publications hbegin)

/-- The watcher of a service leaves when it has been handed the first snapshot, and comes back. -/
def comeback : List Event :=
  [.watch "a" "w", .proceed "a", .step (.evaluate 0), .step (.evaluate 0), .step (.evaluate 0),
    .step (.deliver 0 0), .unwatch "a" "w", .proceed "a", .proceed "a", .proceed "a",
    .watch "a" "w", .proceed "a", .step (.deliver 1 0), .step (.evaluate 1), .step (.evaluate 1),
    .step (.evaluate 1), .step (.deliver 1 0)]

/-- It first gets the snapshot that it knows again. -/
theorem deliveries_are_ordered_over_sessions :
    (deliveries "a" (watcherIs "w")
      ((create "r" (.create "n" ["http"]) (.memory .empty) .standard true "").run
        comeback).2).map (·.revision) = [1, 1, 2] ∧
    (deliveries "a" (watcherIs "w")
      ((create "r" (.create "n" ["http"]) (.memory .empty) .standard true "").run
        comeback).2).Pairwise fun s t => s.revision ≤ t.revision := by
  have hordered := deliveries_are_ordered "r" (.create "n" ["http"]) (.memory .empty) .standard
    true "" comeback "a" (by decide)
  exact ⟨by decide, hordered.2.1 "w"⟩

/-! ## Revisions that wrap -/

/-- A resync is due for the only session of a resolver, and nothing else is left to do; `k` builds
of the service have succeeded. -/
structure Resting (k : Nat) (p : Duration) (r : Resolver) (m : Memory) (s : Session) : Prop where
  sessions : r.sessions = [s]
  source : r.source = .memory m
  period : r.config.resyncInterval? = some p
  lists : m.listFailure? = none ∧ m.listDelay = .zero
  due : s.nextResync? = some r.now
  going : s.cancelled = false ∧ s.registry.cancelled = false
  waiting : s.evaluation = .waiting .fresh
  watcher : s.registry.registrations = [⟨0, "w", [], false⟩]
  room : 0 < s.registry.capacity
  service : s.service = "a"
  counter : (r.historyOf "a").revision = .ofNat k

def round (p : Duration) : List Event :=
  [.step (.resync 0), .step (.evaluate 0), .step (.evaluate 0), .step (.evaluate 0),
    .step (.deliver 0 0), .pass p.nanos]

def opening (p : Duration) : List Event :=
  [.watch "a" "w", .proceed "a", .step (.evaluate 0), .step (.evaluate 0), .step (.evaluate 0),
    .step (.deliver 0 0), .pass p.nanos]

theorem nextTick_self (p : Duration) (now : Instant) : nextTick p now now = now + p.nanos := by
  simp only [nextTick]
  rw [if_neg (Nat.not_lt.2 (Nat.le_add_right _ _))]

theorem Resting.round {k : Nat} {p : Duration} {r : Resolver} {m : Memory} {s : Session}
    (h : Resting k p r m s) :
    ∃ n t c, Resting (k + 1) p (r.run (round p)).1 n t ∧
      deliveries "a" (registrationIs 0 0) (r.run (Resolver.round p)).2 = [c] ∧
      c.revision = .ofNat (k + 1) := by
  obtain ⟨hsessions, hsource, hperiod, ⟨hlists, hdelay⟩, hdue, ⟨hgoing, hreading⟩, hwaiting,
    hwatcher, hroom, hservice, hcounter⟩ := h
  obtain ⟨name, config, backoff, hooked, stamp, source, now, metrics, sessions, watched,
    histories, stopped, call⟩ := r
  simp only at hsessions hsource hperiod hdue
  subst hsessions hsource
  have hnext : ∀ q : Resolver, q.histories = histories →
      (q.historyOf "a").revision + 1 = UInt64.ofNat (k + 1) := by
    intro q hq
    have hsame : (q.historyOf "a").revision = .ofNat k := by
      rw [← hcounter]
      simp only [historyOf]
      rw [hq]
    rw [hsame, UInt64.ofNat_add]
    rfl
  have hzero : Duration.zero.nanos = 0 := rfl
  generalize hrun : run _ (Resolver.round p) = q
  simp [Resolver.round, react, step, session?, Task.session, modify, count,
    resync, hdue, hperiod, hgoing, nextTick_self,
    evaluate, hwaiting, Debouncer.poll, Debouncer.force, Debouncer.wakes, Debouncer.due?,
    Debouncer.fire, beginBuild, Builder.start, Source.beginList, Memory.countList,
    Builder.outcome?, Listing.outcome?, hlists, hdelay, hzero,
    finishBuild, publish, Registry.notify, hwatcher, Registration.offer, Registration.hasRoom,
    hroom, Session.endEvaluation, Debouncer.complete,
    deliver, Registry.deliver, Registry.deliverOne, hreading, hservice] at hrun
  subst hrun
  refine ⟨_, _, _, ⟨rfl, rfl, hperiod, ⟨rfl, rfl⟩, rfl, ⟨rfl, rfl⟩, rfl, rfl, hroom, rfl, ?_⟩,
    rfl, hnext _ rfl⟩
  rw [historyOf, Dict.find?_insert_self]
  exact hnext _ rfl

theorem Resting.rounds {k : Nat} {p : Duration} {r : Resolver} {m : Memory} {s : Session}
    (h : Resting k p r m s) (n : Nat) :
    (deliveries "a" (registrationIs 0 0)
        (r.run (List.replicate n (Resolver.round p)).flatten).2).map (·.revision) =
      (List.range' (k + 1) n).map UInt64.ofNat := by
  induction n generalizing k r m s with
  | zero => rfl
  | succ n ih =>
    obtain ⟨m', s', c, hnext, hone, hrevision⟩ := h.round
    have hlater := ih hnext
    rw [List.replicate_succ, List.flatten_cons, run_append, deliveries_append, List.map_append,
      hone, hlater, List.range'_succ, List.map_cons, List.map_cons, hrevision]
    rfl

theorem resting_opening :
    ∃ m s, Resting 1 (.ofMillis 30000)
      ((create "r" (.create "n" ["http"]) (.memory .empty) .standard true "").run
        (opening (.ofMillis 30000))).1 m s :=
  ⟨_, _, ⟨rfl, rfl, rfl, ⟨rfl, rfl⟩, rfl, ⟨rfl, rfl⟩, rfl, rfl, by decide, rfl, rfl⟩⟩

/-- A registration that is handed enough snapshots sees the counter start again from zero. -/
theorem deliveries_wrap : ¬∀ events : List Event,
    (deliveries "a" (registrationIs 0 0)
      ((create "r" (.create "n" ["http"]) (.memory .empty) .standard true "").run
        events).2).Pairwise fun s t => s.revision < t.revision := by
  intro hordered
  obtain ⟨m, s, hresting⟩ := resting_opening
  obtain ⟨n, hn⟩ : ∃ n, n = UInt64.size := ⟨_, rfl⟩
  have hrun := hordered (opening (.ofMillis 30000) ++
    (List.replicate (n + 1) (round (.ofMillis 30000))).flatten)
  rw [run_append, deliveries_append] at hrun
  have hrounds := (List.pairwise_append.1 hrun).2.1
  have hrevisions := List.pairwise_map.2 hrounds
  rw [hresting.rounds (n + 1), List.range'_succ, List.map_cons] at hrevisions
  -- the build after the opening has revision two, that with number `UInt64.size` has revision zero
  have hlarge : 3 ≤ n := by
    rw [hn]
    decide
  have hmem : n ∈ List.range' (1 + 1 + 1) n := by
    refine List.mem_range'.2 ⟨n - 3, ?_, ?_⟩
    · omega
    · omega
  have hlt := (List.pairwise_cons.1 hrevisions).1 _ (List.mem_map.2 ⟨n, hmem, rfl⟩)
  rw [hn] at hlt
  revert hlt
  decide

end Resolver

end Lookout
