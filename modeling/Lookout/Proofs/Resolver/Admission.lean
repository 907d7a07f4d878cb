import Lookout.Proofs.Config
import Lookout.Proofs.Resolver.Members

/-!
# Who is let in

A call to watch a service is refused by a resolver that has been stopped, and otherwise exactly if
the settings or the name of the service do not pass. All is checked before anything is done, so a
call that is refused leaves everything as it is; and so does a call of a watcher that is registered
already. A call that begins a session has still to register its watcher, and cannot fail any more
but for want of a mailbox.
-/
set_option autoImplicit false

namespace Lookout.Resolver

/-! ## Name and settings -/

def settings (r : Resolver) : String × ResolverConfig := (r.name, r.config)

theorem settings_join (r : Resolver) (i : Nat) (w : WatcherId) :
    (r.join i w).1.settings = r.settings := by
  unfold join
  split <;> rfl

theorem settings_addWatch (r : Resolver) (service : String) (w : WatcherId) :
    (r.addWatch service w).1.settings = r.settings := by
  rcases r.addWatch_cases service w with ⟨f, -, heq⟩ | ⟨-, ⟨i, -, heq⟩ | ⟨-, heq⟩⟩
  · rw [heq]
  · rw [heq]
    exact r.settings_join i w
  · rw [heq]
    rfl

theorem settings_delWatch (r : Resolver) (service : String) (w : WatcherId) :
    (r.delWatch service w).settings = r.settings := by
  simp only [delWatch]
  repeat' split
  all_goals rfl

theorem settings_proceed (r : Resolver) (service : String) :
    (r.proceed service).1.settings = r.settings := by
  rcases r.proceed_cases service with heq | ⟨i, w, -, heq⟩ | ⟨i, -, heq⟩ | ⟨i, -, heq⟩ |
    ⟨i, sessions, -, -, heq⟩
  · rw [heq]
  · rw [heq]
    rcases r.register_cases service i w with ⟨-, hregister⟩ | ⟨-, hregister⟩
    · rw [hregister]
      exact r.settings_join i w
    · rw [hregister]
      exact r.settings_join i w
  all_goals
    rw [heq]
    rfl

theorem settings_step (r : Resolver) (t : Task) : (r.step t).1.settings = r.settings := by
  unfold step
  cases r.session? t.session with
  | none => rfl
  | some s =>
    cases t with
    | evaluate i =>
      simp only [evaluate]
      repeat' split
      all_goals rfl
    | ingest i =>
      simp only [ingest, subscribe, read]
      repeat' split
      all_goals rfl
    | resync i =>
      simp only [resync]
      repeat' split
      all_goals rfl
    | deliver i ticket => rfl

theorem settings_react (r : Resolver) (e : Event) : (r.react e).1.settings = r.settings := by
  have hcall : ∀ call : Resolver → Resolver, (call r).settings = r.settings →
      (r.whenFree call).settings = r.settings := by
    intro call h
    rcases r.whenFree_cases call with heq | ⟨-, heq⟩
    · rw [heq]
    · rw [heq, h]
  cases e with
  | watch service w =>
    exact hcall (fun r => (r.addWatch service w).1) (r.settings_addWatch service w)
  | unwatch service w => exact hcall (·.delWatch service w) (r.settings_delWatch service w)
  | stop =>
    refine hcall stop ?_
    unfold stop
    split <;> rfl
  | drop => exact hcall drop rfl
  | proceed service => exact r.settings_proceed service
  | step t => exact r.settings_step t
  | _ => rfl

theorem settings_run (r : Resolver) (events : List Event) :
    (r.run events).1.settings = r.settings := by
  induction events generalizing r with
  | nil => rfl
  | cons e rest ih => exact (ih (r.react e).1).trans (r.settings_react e)

section
variable {r : Resolver} {service : String} {w : WatcherId}

/-- A stop in the run found the resolver free. -/
def WasStopped (r : Resolver) (events : List Event) : Prop :=
  ∃ front back, events = front ++ .stop :: back ∧ (r.run front).1.call? = none

theorem stopped_run_iff (hopen : r.stopped = false) (events : List Event) :
    (r.run events).1.stopped = true ↔ WasStopped r events := by
  constructor
  · intro hstopped
    obtain ⟨front, back, hsplit, hfree, -⟩ := exists_stop hopen hstopped
    exact ⟨front, back, hsplit, hfree⟩
  · rintro ⟨front, back, rfl, hfree⟩
    rw [run_append, run_cons]
    exact stopped_run (stopped_of_stop hfree) back

/-! ## Checks -/

theorem permit_cases (r : Resolver) (service : String) :
    (r.stopped = true ∧ r.permit service = .error (.stopped r.name)) ∨
    (r.stopped = false ∧ (r.config.validate ≠ .ok () ∨ Text.trim service.toList = []) ∧
      ∃ reason, r.permit service = .error (.invalidConfig reason)) ∨
    (r.stopped = false ∧ r.config.validate = .ok () ∧ Text.trim service.toList ≠ [] ∧
      r.permit service = .ok ()) := by
  cases hstopped : r.stopped with
  | true =>
    refine Or.inl ⟨rfl, ?_⟩
    simp only [permit, hstopped]
    rfl
  | false =>
    have hpermit : r.permit service = r.config.validate.bind fun _ =>
        (r.config.policyFor service).validate := by
      simp only [permit, hstopped]
      rfl
    refine Or.inr ?_
    cases hvalid : r.config.validate with
    | error f =>
      obtain ⟨reason, rfl⟩ := ResolverConfig.eq_invalidConfig_of_validate hvalid
      refine Or.inl ⟨rfl, Or.inl (by simp), reason, ?_⟩
      rw [hpermit, hvalid]
      rfl
    | ok _ =>
      have hname := ResolverConfig.validate_policyFor hvalid service
      rw [hvalid] at hpermit
      cases hpolicy : (r.config.policyFor service).validate with
      | error f =>
        obtain ⟨reason, rfl⟩ := Policy.eq_invalidConfig_of_validate hpolicy
        refine Or.inl ⟨rfl, Or.inr ?_, reason, hpermit.trans hpolicy⟩
        rw [hpolicy] at hname
        simpa using hname
      | ok _ => exact Or.inr ⟨rfl, rfl, hname.1 hpolicy, hpermit.trans hpolicy⟩

/-! ## Outcomes -/

/-- What a call to watch comes to that finds the resolver free: at once, or when it goes on after
what happens during it. -/
def outcome? (r : Resolver) (service : String) (w : WatcherId) (during : List Event) :
    Option WatchOutcome :=
  (r.addWatch service w).2 <|> (((r.addWatch service w).1.run during).1.proceed service).2

/-- What the checks let through either succeeds or finds that no mailboxes can be made. -/
theorem outcome?_of_permit {buffer : Nat} {ns : List Notice}
    (h : Ledger.Reached buffer ns r.ledger) (hfree : r.call? = none)
    (hpermit : r.permit service = .ok ()) (w : WatcherId) {during : List Event}
    (hduring : .proceed service ∉ during) :
    r.outcome? service w during = some (if r.ledger.Fits then .ok else .mailboxTooLarge) := by
  rcases r.addWatch_cases service w with ⟨f, hrefused, -⟩ | ⟨-, ⟨i, hwatched, heq⟩ | ⟨hnone, heq⟩⟩
  · exact absurd (hrefused.symm.trans hpermit) (by simp)
  · -- who joins a session finds that its mailboxes could be made before
    have hfits : r.ledger.Fits := h.orderly.fits service i hwatched
    obtain ⟨d, hd, -⟩ := h.orderly.watched service i hwatched
    have hsized := (h.orderly.desks i d hd).sized
    rw [ledger_desks_getElem?] at hd
    obtain ⟨s, hs, rfl⟩ := Option.map_eq_some_iff.1 hd
    have hok : WatchOutcome.ofAdded (r.join i w).2 = .ok := by
      rw [join_added hs, WatchOutcome.ofAdded_eq_ok_iff]
      intro hlarge
      have hcapacity : s.registry.capacity ≤ Mailbox.maxCapacity :=
        (show s.registry.capacity = max r.ledger.buffer 1 from hsized) ▸ hfits
      exact absurd (Registry.large_of_tooLarge hlarge) (Nat.not_lt.2 hcapacity)
    simp only [outcome?, heq, hok, if_pos hfits]
    rfl
  · -- until the call goes on it is still the one that began the session
    have hcall : ((r.addWatch service w).1.run during).1.call? =
        some (.joining service r.sessions.length w) := by
      rw [heq]
      refine (run_of_held rfl fun a ha => ?_).1
      rwa [List.mem_singleton.1 ha]
    have hnow := (h.step (r.ledger_addWatch hfree service w)).run during
    obtain ⟨d, hd, -, hempty⟩ := (hnow.orderly.joining hcall).desk
    have hlarge := hnow.orderly.add_eq_tooLarge_iff hd hempty w
    rw [hnow.fits_iff, ← h.fits_iff] at hlarge
    rw [ledger_desks_getElem?] at hd
    obtain ⟨s, hs, rfl⟩ := Option.map_eq_some_iff.1 hd
    have hwaits : (r.addWatch service w).2 = none := by rw [heq]
    have hproceed : ((r.addWatch service w).1.run during).1.proceed service =
        ((r.addWatch service w).1.run during).1.register service r.sessions.length w := by
      simp only [proceed, hcall, if_true]
    simp only [outcome?, hwaits, hproceed]
    have hadded := join_added hs w
    rcases register_cases _ service r.sessions.length w with ⟨htoo, hreg⟩ | ⟨hroom, hreg⟩
    · rw [hreg, if_neg (hlarge.1 (hadded.symm.trans htoo))]
      rfl
    · rw [hreg, if_pos (Decidable.not_not.1 fun hnot => hroom (hadded.trans (hlarge.2 hnot)))]
      rfl

theorem join_of_has {i : Nat} {s : Session} (hs : r.session? i = some s)
    (hhas : s.registry.has w = true) : r.join i w = (r, .already) := by
  have hadd : s.registry.add w = (s.registry, .already) := by
    simp [Registry.add, hhas]
  have hsame : (r.modify i fun q => { q with registry := s.registry }) = r := by
    rw [modify, modify_of_fixed hs rfl]
  have hcounts : Registry.Added.already.report.countIn r.metrics = r.metrics :=
    Report.countIn_zero r.metrics
  simp only [join, hs, hadd, hcounts]
  rw [hsame]

theorem addWatch_of_member (hfree : r.call? = none) (hpermit : r.permit service = .ok ())
    (hmember : w ∈ r.ledger.members service) : r.addWatch service w = (r, some .ok) := by
  cases hpost : r.ledger.post? service with
  | none =>
    rw [Ledger.members_of_none hpost] at hmember
    cases hmember
  | some p =>
    obtain ⟨i, d⟩ := p
    obtain ⟨hseat, hd⟩ := Ledger.of_post? hpost
    have hwatched : r.watched.find? service = some i :=
      (Ledger.seat?_of_free (g := r.ledger) hfree service).symm.trans hseat
    rw [Ledger.members_of_post? hpost] at hmember
    rw [ledger_desks_getElem?] at hd
    obtain ⟨s, hs, rfl⟩ := Option.map_eq_some_iff.1 hd
    have hjoin := join_of_has hs (Registry.has_iff_mem.2 hmember)
    simp only [addWatch, hpermit, hwatched, hjoin]
    rfl

theorem exists_permit_of_joining {events : List Event} (hfree : r.call? = none) {i : Nat}
    (hcall : (r.run events).1.call? = some (.joining service i w)) :
    ∃ front, front <+: events ∧ (r.run front).1.permit service = .ok () := by
  induction events using List.reverseRecOn with
  | nil => exact absurd (hfree.symm.trans hcall) (by simp)
  | append_singleton front e ih =>
    rw [run_concat] at hcall
    rcases of_joining_react hcall with hbefore | ⟨-, hpermit⟩
    · obtain ⟨start, hstart, hpermit⟩ := ih hbefore
      exact ⟨start, hstart.trans (List.prefix_append _ _), hpermit⟩
    · exact ⟨front, List.prefix_append _ _, hpermit⟩

theorem exists_permit_of_adds {events : List Event} (hfree : r.call? = none) {e : Event}
    (hadds : Adds (r.run events).1 service w e) :
    ∃ front, (r.run front).1.permit service = .ok () := by
  rcases hadds with ⟨-, -, hok⟩ | ⟨-, ⟨i, hcall⟩, -⟩
  · refine ⟨events, ?_⟩
    rcases (r.run events).1.addWatch_cases service w with ⟨f, -, heq⟩ | ⟨hpermit, -⟩
    · rw [heq] at hok
      exact absurd hok (by simp)
    · exact hpermit
  · obtain ⟨front, -, hpermit⟩ := exists_permit_of_joining hfree hcall
    exact ⟨front, hpermit⟩

end

section
variable (name : String) (config : ResolverConfig) (source : Source) (backoff : Backoff)
  (hooked : Bool) (stamp : String) (events : List Event) (service : String)

theorem permit_run_cases :
    let start := create name config source backoff hooked stamp
    let permit := (start.run events).1.permit service
    (WasStopped start events ∧ permit = .error (.stopped name)) ∨
    (¬WasStopped start events ∧ (config.validate ≠ .ok () ∨ Text.trim service.toList = []) ∧
      ∃ reason, permit = .error (.invalidConfig reason)) ∨
    (¬WasStopped start events ∧ config.validate = .ok () ∧ Text.trim service.toList ≠ [] ∧
      permit = .ok ()) := by
  have hsettings := settings_run (create name config source backoff hooked stamp) events
  have hname := congrArg Prod.fst hsettings
  have hconfig := congrArg Prod.snd hsettings
  have hstop := stopped_run_iff
    (show (create name config source backoff hooked stamp).stopped = false from rfl) events
  have hcases := permit_cases ((create name config source backoff hooked stamp).run events).1
    service
  simp only [settings] at hname hconfig
  rw [hname, hconfig, ← Bool.not_eq_true, hstop] at hcases
  exact hcases

theorem permit_run_iff :
    ((create name config source backoff hooked stamp).run events).1.permit service = .ok () ↔
      ¬WasStopped (create name config source backoff hooked stamp) events ∧
        config.validate = .ok () ∧ Text.trim service.toList ≠ [] := by
  rcases permit_run_cases name config source backoff hooked stamp events service with
    ⟨hstop, hpermit⟩ | ⟨-, hbad, reason, hpermit⟩ | ⟨hopen, hvalid, hnamed, hpermit⟩
  · simp [hpermit, hstop]
  · rw [hpermit]
    constructor
    · intro h
      cases h
    · rintro ⟨-, hvalid, hnamed⟩
      exact absurd hbad (by simp [hvalid, hnamed])
  · exact ⟨fun _ => ⟨hopen, hvalid, hnamed⟩, fun _ => hpermit⟩

theorem addWatch_of_registered {w : WatcherId}
    (hfree : ((create name config source backoff hooked stamp).run events).1.call? = none)
    (h : Registered (create name config source backoff hooked stamp) events service w) :
    ((create name config source backoff hooked stamp).run events).1.addWatch service w =
      (((create name config source backoff hooked stamp).run events).1, some .ok) := by
  have hreached := Ledger.reached_run name config source backoff hooked stamp events
  have hmember := (mem_members_run (v := w) .create events).2 (Or.inr h)
  obtain ⟨front, e, back, -, hadds, -⟩ := h
  -- what let the watcher in lets it in again
  obtain ⟨early, hpermit⟩ := exists_permit_of_adds rfl hadds
  have hpasses := (permit_run_iff name config source backoff hooked stamp early service).1 hpermit
  refine addWatch_of_member hfree ?_ hmember
  refine (permit_run_iff name config source backoff hooked stamp events service).2
    ⟨fun hstopped => ?_, hpasses.2⟩
  have hnobody :=
    hreached.orderly.seat?_of_stopped ((stopped_run_iff rfl events).2 hstopped) service
  have hpost :
      ((create name config source backoff hooked stamp).run events).1.ledger.post? service =
        none := by
    rw [Ledger.post?, hnobody]
    rfl
  rw [Ledger.members_of_none hpost] at hmember
  exact absurd hmember List.not_mem_nil

end

/-- A call that finds the resolver free is refused if the resolver has been stopped, or else if the
settings or the name of the service do not pass, and succeeds otherwise, whatever happens during it.
One that is refused changes nothing, and neither does one of a watcher that is registered. -/
theorem refused_or_admitted (name : String) (config : ResolverConfig) (source : Source)
    (backoff : Backoff) (hooked : Bool) (stamp : String)
    (hfits : config.watcherBuffer.toNat ≤ Mailbox.maxCapacity) (events : List Event)
    (hfree : ((create name config source backoff hooked stamp).run events).1.call? = none)
    (service : String) (w : WatcherId) (during : List Event)
    (hduring : .proceed service ∉ during) :
    let start := create name config source backoff hooked stamp
    let r := (start.run events).1
    let outcome := r.outcome? service w during
    (outcome = some (.refused (.stopped name)) ↔ WasStopped start events) ∧
    ((∃ reason, outcome = some (.refused (.invalidConfig reason))) ↔
      ¬WasStopped start events ∧
        (config.validate ≠ .ok () ∨ Text.trim service.toList = [])) ∧
    (outcome = some .ok ↔
      ¬WasStopped start events ∧ config.validate = .ok () ∧ Text.trim service.toList ≠ []) ∧
    (outcome ≠ some .ok → r.addWatch service w = (r, outcome)) ∧
    (Registered start events service w → r.addWatch service w = (r, some .ok)) := by
  intro start r outcome
  have hreached := Ledger.reached_run name config source backoff hooked stamp events
  have hpasses : r.permit service = .ok () → outcome = some .ok := by
    intro hpermit
    have hroom : r.ledger.Fits := hreached.fits_iff.2 (max_le hfits (by decide))
    exact (outcome?_of_permit hreached hfree hpermit w hduring).trans (by rw [if_pos hroom])
  have hrefuse : ∀ f, r.permit service = .error f →
      r.addWatch service w = (r, some (.refused f)) ∧ outcome = some (.refused f) := by
    intro f hpermit
    rcases r.addWatch_cases service w with ⟨f', hpermit', heq⟩ | ⟨hpermit', -⟩
    · obtain rfl := Except.error.inj (hpermit.symm.trans hpermit')
      exact ⟨heq, by simp [outcome, outcome?, heq]⟩
    · exact absurd (hpermit.symm.trans hpermit') (by simp)
  have hcheck := permit_run_cases name config source backoff hooked stamp events service
  refine ⟨?_, ?_, ?_, ?_, ?_⟩
  · rcases hcheck with ⟨hstop, hpermit⟩ | ⟨hopen, -, reason, hpermit⟩ | ⟨hopen, -, -, hpermit⟩
    · exact ⟨fun _ => hstop, fun _ => (hrefuse _ hpermit).2⟩
    · refine ⟨fun h => ?_, fun h => absurd h hopen⟩
      exact absurd ((hrefuse _ hpermit).2.symm.trans h) (by simp)
    · refine ⟨fun h => ?_, fun h => absurd h hopen⟩
      exact absurd ((hpasses hpermit).symm.trans h) (by simp)
  · rcases hcheck with ⟨hstop, hpermit⟩ | ⟨hopen, hbad, reason, hpermit⟩ |
      ⟨hopen, hvalid, hnamed, hpermit⟩
    · refine ⟨?_, fun h => absurd hstop h.1⟩
      rintro ⟨reason, h⟩
      exact absurd ((hrefuse _ hpermit).2.symm.trans h) (by simp)
    · exact ⟨fun _ => ⟨hopen, hbad⟩, fun _ => ⟨reason, (hrefuse _ hpermit).2⟩⟩
    · refine ⟨?_, fun h => absurd h.2 (by simp [hvalid, hnamed])⟩
      rintro ⟨reason, h⟩
      exact absurd ((hpasses hpermit).symm.trans h) (by simp)
  · rw [← permit_run_iff name config source backoff hooked stamp events service]
    refine ⟨fun h => ?_, hpasses⟩
    cases hpermit : r.permit service with
    | ok _ => rfl
    | error f => exact absurd ((hrefuse f hpermit).2.symm.trans h) (by simp)
  · intro hfailed
    cases hpermit : r.permit service with
    | ok _ => exact absurd (hpasses hpermit) hfailed
    | error f => rw [(hrefuse f hpermit).1, (hrefuse f hpermit).2]
  · exact addWatch_of_registered name config source backoff hooked stamp events service hfree

/-- With a service watched, a blank name is refused and the call that watches it is repeated; after
a stop even the latter is refused. -/
theorem refused_or_admitted_when_watched :
    let start := create "r" (.create "n" ["http"]) (.memory .empty) .standard true ""
    let r := (start.run [.watch "a" "w", .step (.evaluate 0), .proceed "a"]).1
    (ResolverConfig.create "n" ["http"]).watcherBuffer.toNat ≤ Mailbox.maxCapacity ∧
    r.call? = none ∧
    start.outcome? "a" "w" [.step (.evaluate 0)] = some .ok ∧
    r.addWatch "a" "w" = (r, some .ok) ∧
    (∃ reason, r.addWatch " " "w" = (r, some (.refused (.invalidConfig reason)))) ∧
    ((start.run [.watch "a" "w", .step (.evaluate 0), .proceed "a", .stop, .proceed "a"]).1.outcome?
      "a" "w" []) = some (.refused (.stopped "r")) := by
  dsimp only
  have hfits : (ResolverConfig.create "n" ["http"]).watcherBuffer.toNat ≤ Mailbox.maxCapacity := by
    decide
  have hfree : ((create "r" (.create "n" ["http"]) (.memory .empty) .standard true "").run
      [.watch "a" "w", .step (.evaluate 0), .proceed "a"]).1.call? = none := rfl
  obtain ⟨-, -, -, -, hagain⟩ := refused_or_admitted "r" (.create "n" ["http"]) (.memory .empty)
    .standard true "" hfits [.watch "a" "w", .step (.evaluate 0), .proceed "a"] hfree "a" "w" []
    (by simp)
  obtain ⟨-, hinvalid, -, hsame, -⟩ := refused_or_admitted "r" (.create "n" ["http"])
    (.memory .empty) .standard true "" hfits [.watch "a" "w", .step (.evaluate 0), .proceed "a"]
    hfree " " "w" [] (by simp)
  obtain ⟨hstopped, -⟩ := refused_or_admitted "r" (.create "n" ["http"]) (.memory .empty)
    .standard true "" hfits
    [.watch "a" "w", .step (.evaluate 0), .proceed "a", .stop, .proceed "a"] rfl "a" "w" []
    (by simp)
  obtain ⟨-, -, hok, -⟩ := refused_or_admitted "r" (.create "n" ["http"]) (.memory .empty)
    .standard true "" hfits [] rfl "a" "w" [.step (.evaluate 0)] (by simp)
  have hopen : ∀ {events}, .stop ∉ events → ¬WasStopped
      (create "r" (.create "n" ["http"]) (.memory .empty) .standard true "") events := by
    rintro events hnever ⟨front, back, rfl, -⟩
    simp at hnever
  have hjoins : Adds ((create "r" (.create "n" ["http"]) (.memory .empty) .standard true "").run
      [.watch "a" "w", .step (.evaluate 0)]).1 "a" "w" (.proceed "a") :=
    .inr ⟨rfl, ⟨0, rfl⟩, rfl⟩
  have hregistered : Registered
      (create "r" (.create "n" ["http"]) (.memory .empty) .standard true "")
      [.watch "a" "w", .step (.evaluate 0), .proceed "a"] "a" "w" :=
    ⟨[.watch "a" "w", .step (.evaluate 0)], .proceed "a", [], rfl, hjoins, stays_nil⟩
  obtain ⟨reason, hblank⟩ := hinvalid.2 ⟨hopen (by simp), Or.inr (by decide)⟩
  refine ⟨hfits, hfree, hok.2 ⟨hopen (by simp), rfl, by decide⟩, hagain hregistered,
    ⟨reason, ?_⟩, ?_⟩
  · rw [← hblank]
    exact hsame (by rw [hblank]; simp)
  · exact hstopped.2 ⟨[.watch "a" "w", .step (.evaluate 0), .proceed "a"], [.proceed "a"], rfl,
      hfree⟩

end Lookout.Resolver
