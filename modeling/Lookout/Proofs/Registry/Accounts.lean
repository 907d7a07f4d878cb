import Lookout.Proofs.Registry.Step

/-!
# What a registry accounts for

The watchers of a registry are those that were added and since then neither removed nor put out by a
close, each once. A snapshot that is offered to a mailbox is taken, which shows in the mailbox, or
refused; and whatever is offered, to all mailboxes when it is published or to a new one when it is
current, the counters count the snapshots taken and those refused.
-/
set_option autoImplicit false

namespace Lookout.Registry

/-! ## Watchers -/

def watchers (g : Registry) : List WatcherId := g.registrations.map (·.watcher)

theorem has_iff_mem {g : Registry} {w : WatcherId} : g.has w = true ↔ w ∈ g.watchers := by
  simp [has, watchers, List.any_eq_true]

theorem mem_watchers_add {g : Registry} {v w : WatcherId} :
    v ∈ (g.add w).1.watchers ↔ v ∈ g.watchers ∨ v = w ∧ (g.add w).2 ≠ .tooLarge := by
  rcases g.add_cases w with
    ⟨heq, hadded, hhas⟩ | ⟨heq, hadded, hlarge⟩ | ⟨filled, heq, -, hwatcher, -, -⟩
  · rw [heq, hadded]
    constructor
    · exact Or.inl
    · rintro (hv | ⟨rfl, -⟩)
      · exact hv
      · exact has_iff_mem.1 hhas
  · rw [heq, hadded]
    simp
  · have hregistered : (g.add w).2 ≠ .tooLarge := by
      intro hlarge
      have hsame := add_of_not_new (w := w) (Or.inr (large_of_tooLarge hlarge))
      rw [heq] at hsame
      exact absurd (congrArg Registry.issued hsame) (Nat.succ_ne_self _)
    rw [heq]
    simp [watchers, hwatcher, hregistered]

theorem mem_watchers_remove {g : Registry} {v w : WatcherId} :
    v ∈ (g.remove w).1.watchers ↔ v ∈ g.watchers ∧ v ≠ w := by
  simp only [watchers, remove, List.mem_map, List.mem_filter, bne_iff_ne]
  constructor
  · rintro ⟨r, ⟨hr, hne⟩, rfl⟩
    exact ⟨⟨r, hr, rfl⟩, hne⟩
  · rintro ⟨⟨r, hr, rfl⟩, hne⟩
    exact ⟨r, ⟨hr, hne⟩, rfl⟩

theorem watchers_notify (g : Registry) (s : Snapshot) : (g.notify s).1.watchers = g.watchers := by
  simp [watchers, notify]

theorem watchers_deliver (g : Registry) (t : Nat) : (g.deliver t).1.watchers = g.watchers := by
  unfold deliver
  split
  · rfl
  · simp only [watchers, List.map_map]
    congr 1
    funext r
    simp only [Function.comp_apply]
    split <;> simp

theorem add_answer {g : Registry} (hroom : 0 < g.capacity) (w : WatcherId) :
    (g.add w).2 =
      if g.has w then .already
      else if Mailbox.maxCapacity < g.capacity then .tooLarge
      else .registered (if g.current?.isSome then ⟨1, 0⟩ else .zero) := by
  unfold add
  split
  · rfl
  · split
    · rfl
    · cases g.current? with
      | none => rfl
      | some s => simp [Registration.hasRoom, Report.one, hroom]

theorem add_eq_already_iff {g : Registry} (hroom : 0 < g.capacity) {w : WatcherId} :
    (g.add w).2 = .already ↔ w ∈ g.watchers := by
  rw [add_answer hroom, ← has_iff_mem]
  split
  · next hhas => simp [hhas]
  · next hnew =>
    split <;> simp [hnew]

theorem exists_registered_iff {g : Registry} (hroom : 0 < g.capacity) {w : WatcherId} :
    (∃ handover, (g.add w).2 = .registered handover) ↔
      w ∉ g.watchers ∧ g.capacity ≤ Mailbox.maxCapacity := by
  rw [add_answer hroom, ← has_iff_mem]
  split
  · next hhas => simp [hhas]
  · next hnew =>
    split
    · next hlarge => simp [hlarge]
    · next hfits => simp [hnew, Nat.not_lt.1 hfits]

theorem mem_watchers_react {g : Registry} {w : WatcherId} (a : Action) :
    w ∈ (g.react a).1.watchers ↔
      (a = .add w ∧ g.capacity ≤ Mailbox.maxCapacity) ∨
        w ∈ g.watchers ∧ a ≠ .remove w ∧ a ≠ .close := by
  cases a with
  | add v =>
    simp only [react]
    rw [mem_watchers_add]
    by_cases hmem : w ∈ g.watchers
    · simp [hmem]
    · have hnew : g.has w = false := Bool.eq_false_iff.2 (mt has_iff_mem.1 hmem)
      have hfits := add_eq_tooLarge_iff hnew
      simp only [hmem, false_or, false_and, or_false, Action.add.injEq]
      constructor
      · rintro ⟨rfl, hmade⟩
        exact ⟨rfl, Nat.not_lt.1 (mt hfits.2 hmade)⟩
      · rintro ⟨rfl, hle⟩
        exact ⟨rfl, mt hfits.1 (Nat.not_lt.2 hle)⟩
  | remove v =>
    simp only [react]
    rw [mem_watchers_remove]
    simp [eq_comm]
  | notify s => simp [react, watchers_notify]
  | close => simp [react, close, watchers]
  | cancel => simp [react, cancel, watchers]
  | deliver t => simp [react, watchers_deliver]

/-- The watcher has been added, and since neither removed nor put out by a close. -/
def Joined (w : WatcherId) (actions : List Action) : Prop :=
  ∃ before after, actions = before ++ .add w :: after ∧ .remove w ∉ after ∧ .close ∉ after

theorem joined_cons {w : WatcherId} {a : Action} {rest : List Action} :
    Joined w (a :: rest) ↔
      (a = .add w ∧ .remove w ∉ rest ∧ .close ∉ rest) ∨ Joined w rest := by
  constructor
  · rintro ⟨before, after, hsplit, hkept⟩
    cases before with
    | nil =>
      obtain ⟨rfl, rfl⟩ := List.cons.inj hsplit
      exact Or.inl ⟨rfl, hkept⟩
    | cons b before =>
      obtain ⟨rfl, rfl⟩ := List.cons.inj hsplit
      exact Or.inr ⟨before, after, rfl, hkept⟩
  · rintro (⟨rfl, hkept⟩ | ⟨before, after, rfl, hkept⟩)
    · exact ⟨[], rest, rfl, hkept⟩
    · exact ⟨a :: before, after, rfl, hkept⟩

theorem mem_watchers_run {g : Registry} {w : WatcherId} (actions : List Action) :
    w ∈ (g.run actions).1.watchers ↔
      (w ∈ g.watchers ∧ .remove w ∉ actions ∧ .close ∉ actions) ∨
        g.capacity ≤ Mailbox.maxCapacity ∧ Joined w actions := by
  induction actions generalizing g with
  | nil => simp [Joined]
  | cons a rest ih =>
    rw [run_cons, ih, react_capacity, mem_watchers_react, joined_cons]
    simp only [List.mem_cons, not_or]
    constructor
    · rintro (⟨⟨rfl, hfits⟩ | ⟨hmem, hremove, hclose⟩, hkept⟩ | ⟨hfits, hjoined⟩)
      · exact Or.inr ⟨hfits, Or.inl ⟨rfl, hkept⟩⟩
      · exact Or.inl ⟨hmem, ⟨Ne.symm hremove, hkept.1⟩, Ne.symm hclose, hkept.2⟩
      · exact Or.inr ⟨hfits, Or.inr hjoined⟩
    · rintro (⟨hmem, ⟨hremove, hkept⟩, hclose, hkept'⟩ | ⟨hfits, ⟨rfl, hkept⟩ | hjoined⟩)
      · exact Or.inl ⟨Or.inr ⟨hmem, Ne.symm hremove, Ne.symm hclose⟩, hkept, hkept'⟩
      · exact Or.inl ⟨Or.inl ⟨rfl, hfits⟩, hkept⟩
      · exact Or.inr ⟨hfits, hjoined⟩

/-! ## Offers -/

/-- The registrations, by their tickets, that an action offers a snapshot to. -/
def addressed (g : Registry) : Action → List Nat
  | .notify _ => g.registrations.map (·.ticket)
  | .add w =>
    if g.current?.isSome then
      ((g.add w).1.registrations.map (·.ticket)).filter (g.issued ≤ ·)
    else []
  | _ => []

/-- Whether the mailbox of registration `t` holds more in `g'` than in `g`. -/
def grows (g g' : Registry) (t : Nat) : Bool :=
  (g.unread (ticketIs t)).length < (g'.unread (ticketIs t)).length

/-- What becomes of the offers of an action: whether each shows in its mailbox. -/
def takings (g : Registry) (a : Action) : List Bool :=
  (g.addressed a).map (g.grows (g.react a).1)

/-- What becomes of the offers of a run. -/
def offers (g : Registry) : List Action → List Bool
  | [] => []
  | a :: rest => g.takings a ++ offers (g.react a).1 rest

section
variable {g : Registry}

theorem unread_of_registration? {key : Key} {r : Registration} (h : g.registration? key = some r) :
    g.unread key = r.unread := by
  simp only [unread]
  rw [h]
  rfl

theorem grows_notify (h : g.Orderly) (s : Snapshot) {r : Registration} (hr : r ∈ g.registrations) :
    g.grows (g.notify s).1 r.ticket = r.hasRoom g.capacity := by
  have hfound := registration?_of_mem (h.single_ticketIs r.ticket) hr (by simp [ticketIs])
  have hafter : (g.notify s).1.registration? (ticketIs r.ticket) = some (r.offer g.capacity s) := by
    rw [registration?_of_map (g := g) (f := fun r => r.offer g.capacity s) rfl (by simp) (by simp),
      hfound]
    rfl
  rw [grows, unread_of_registration? hfound, unread_of_registration? hafter]
  unfold Registration.offer
  cases r.hasRoom g.capacity <;> simp

theorem count_takings_notify (h : g.Orderly) (s : Snapshot) (taken : Bool) :
    (g.takings (.notify s)).count taken =
      g.registrations.countP fun r => r.hasRoom g.capacity == taken := by
  have htakings : g.takings (.notify s) =
      g.registrations.map fun r => r.hasRoom g.capacity := by
    rw [takings, addressed, List.map_map]
    exact List.map_congr_left fun r hr => grows_notify h s hr
  rw [htakings, List.count, List.countP_map]
  rfl

/-- A new watcher has room for the current snapshot, and nobody else is offered it. -/
theorem takings_add (h : g.Orderly) (hroom : 0 < g.capacity) (w : WatcherId) :
    g.takings (.add w) = List.replicate (g.add w).2.report.delivered true ∧
      (g.add w).2.report.dropped = 0 := by
  have hold : (g.registrations.map (·.ticket)).filter (g.issued ≤ ·) = [] := by
    refine List.filter_eq_nil_iff.2 ?_
    intro t ht
    obtain ⟨r, hr, rfl⟩ := List.mem_map.1 ht
    simpa using h.issued r hr
  rw [add_answer hroom]
  by_cases hnew : g.has w = false ∧ g.capacity ≤ Mailbox.maxCapacity
  · obtain ⟨hnobody, hfits⟩ := hnew
    rw [hnobody, if_neg Bool.false_ne_true, if_neg (Nat.not_lt.2 hfits)]
    cases hcurrent : g.current? with
    | none => simp [takings, addressed, hcurrent, Added.report, Report.zero]
    | some s =>
      have haddressed : g.addressed (.add w) = [g.issued] := by
        simp only [addressed, hcurrent, Option.isSome_some, if_true]
        rw [add_of_new hroom hnobody hfits, List.map_append, List.filter_append, hold]
        simp [newcomer]
      have hnone : g.registration? (ticketIs g.issued) = none := by
        refine List.find?_eq_none.2 ?_
        intro r hr
        simpa [ticketIs] using Nat.ne_of_lt (h.issued r hr)
      have hfound := registration?_add hroom hfits hnobody hnone
        (show ticketIs g.issued g.issued w = true by simp [ticketIs])
      have hgrows : g.grows (g.add w).1 g.issued = true := by
        have hbefore : g.unread (ticketIs g.issued) = [] := by
          simp only [unread]
          rw [hnone]
          rfl
        rw [grows, hbefore, unread_of_registration? hfound]
        simp [newcomer, hcurrent]
      rw [takings, haddressed]
      simp [react, hgrows, Added.report]
  · have hnot : g.has w = true ∨ Mailbox.maxCapacity < g.capacity := by
      rcases Decidable.not_and_iff_or_not.1 hnew with hhas | hlarge
      · exact Or.inl (by simpa using hhas)
      · exact Or.inr (Nat.not_le.1 hlarge)
    have hnobody : g.takings (.add w) = [] := by
      simp only [takings, addressed]
      rw [add_of_not_new hnot, hold]
      simp
    have hzero : ∀ added : Added, added.report = .zero →
        [] = List.replicate added.report.delivered true ∧ added.report.dropped = 0 := by
      intro added hadded
      rw [hadded]
      exact ⟨rfl, rfl⟩
    rw [hnobody]
    refine hzero _ ?_
    split
    · rfl
    · next hnew => rw [if_pos (hnot.resolve_left hnew)]; rfl

theorem reportOf_eq (h : g.Orderly) (hroom : 0 < g.capacity) (a : Action) :
    g.reportOf a = ⟨(g.takings a).count true, (g.takings a).count false⟩ := by
  cases a with
  | add w =>
    obtain ⟨htakings, hdropped⟩ := takings_add h hroom w
    simp only [reportOf]
    rw [htakings, List.count_replicate_self, List.count_replicate]
    simp [← hdropped]
  | notify s =>
    rw [count_takings_notify h, count_takings_notify h]
    simp [reportOf, notify]
  | _ => rfl

theorem tally_eq (h : g.Orderly) (hroom : 0 < g.capacity) (m : Metrics) (actions : List Action) :
    g.tally m actions =
      Report.countIn ⟨(g.offers actions).count true, (g.offers actions).count false⟩ m := by
  induction actions generalizing g m with
  | nil => exact (Report.countIn_zero m).symm
  | cons a rest ih =>
    have hnext : 0 < (g.react a).1.capacity := by rwa [react_capacity]
    rw [tally, ih (h.react a) hnext, reportOf_eq h hroom, Report.countIn_countIn]
    simp only [offers, List.count_append]

end

/-! ## Every run -/

/-- How a registry with mailboxes of a given size stands after a run that began with the counters
`m`. They have counted on from there, and start again from zero when they leave their 64 bits. -/
structure Accounted (capacity : Nat) (start : Registry) (m : Metrics) (actions : List Action) :
    Prop where
  distinct : (start.run actions).1.watchers.Nodup
  /-- Nobody is let in where mailboxes are too large to be made. -/
  members : ∀ w, w ∈ (start.run actions).1.watchers ↔
    capacity ≤ Mailbox.maxCapacity ∧ Joined w actions
  already : ∀ w, ((start.run actions).1.add w).2 = .already ↔ w ∈ (start.run actions).1.watchers
  registered : ∀ w, (∃ handover, ((start.run actions).1.add w).2 = .registered handover) ↔
    w ∉ (start.run actions).1.watchers ∧ capacity ≤ Mailbox.maxCapacity
  left : ∀ w, ((start.run actions).1.remove w).2 =
    ((start.run actions).1.watchers.filter (· != w)).length
  reported : ∀ s, ((start.run actions).1.notify s).2.delivered +
    ((start.run actions).1.notify s).2.dropped = (start.run actions).1.watchers.length
  taken : (start.tally m actions).deliveries =
    m.deliveries + .ofNat ((start.offers actions).count true)
  refused : (start.tally m actions).dropped =
    m.dropped + .ofNat ((start.offers actions).count false)

/-- Whatever happens to a registry, its watchers are those that joined and have not left, each once;
`add` tells whether its watcher is one of them, `remove` how many are left and `notify` what became
of each of them; and the counters count what mailboxes took and what they refused. -/
theorem fan_out_adds_up (service : String) (capacity : Nat) (seed? : Option Snapshot) (m : Metrics)
    (actions : List Action) : Accounted capacity (create service capacity seed?) m actions := by
  have horderly := (orderly_create service capacity seed?).run actions
  have hcapacity : ((create service capacity seed?).run actions).1.capacity = max capacity 1 :=
    run_capacity _ actions
  have hroom : 0 < ((create service capacity seed?).run actions).1.capacity := by omega
  have hfits : max capacity 1 ≤ Mailbox.maxCapacity ↔ capacity ≤ Mailbox.maxCapacity :=
    Nat.max_le.trans (and_iff_left (by decide))
  have htally := tally_eq (orderly_create service capacity seed?)
    (show 0 < (create service capacity seed?).capacity from Nat.le_max_right capacity 1) m actions
  refine ⟨horderly.watchers, ?_, ?_, ?_, ?_, ?_, ?_, ?_⟩
  · intro w
    rw [mem_watchers_run, ← hfits]
    simp [create, watchers]
  · intro w
    exact add_eq_already_iff hroom
  · intro w
    rw [exists_registered_iff hroom, hcapacity, hfits]
  · intro w
    simp only [remove, watchers, List.filter_map, List.length_map, Function.comp_def]
  · intro s
    simp only [notify, watchers, List.length_map]
    rw [List.length_eq_countP_add_countP (·.hasRoom ((create service capacity seed?).run
      actions).1.capacity)]
    simp
  · rw [htally]
    rfl
  · rw [htally]
    rfl

end Lookout.Registry
