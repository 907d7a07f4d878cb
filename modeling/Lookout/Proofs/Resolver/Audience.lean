import Lookout.Proofs.Resolver.Activity
import Lookout.Proofs.Source.Subscriptions

/-!
# The audience of a source

The audience of a source are the sessions as far as they take in its signals.
`Resolver.audience_react` lists all that one event can do to a source and its audience. It follows
that every subscription that a resolver has made and that is still active is read by a session of
its service, and that a source counts a list only when an evaluation begins.
-/
set_option autoImplicit false

namespace Lookout

/-- A session as far as it takes in signals. -/
structure Reader where
  service : String
  ingestion : Ingestion

def Routine.reader (q : Routine) : Reader := ⟨q.service, q.ingestion⟩

def Session.reader (s : Session) : Reader := s.routine.reader

namespace Reader

/-- What one step of a reader does to its source and to itself. -/
inductive Step (src : Source) (q : Reader) : Source → Reader → Prop
  | waited : Step src q src q
  /-- It has read nothing, and does not begin to. -/
  | rested {g : Ingestion} (hbefore : ∀ id?, q.ingestion ≠ .reading id?)
      (hafter : ∀ id?, g ≠ .reading id?) : Step src q src { q with ingestion := g }
  | subscribed {src' : Source} {id? : Option SubscriptionId}
      (hbefore : ∀ id?, q.ingestion ≠ .reading id?)
      (hmade : src.subscribe q.service = .ok (src', id?)) :
      Step src q src' { q with ingestion := .reading id? }
  | received (id? : Option SubscriptionId) : Step src q (src.receive id?).2 q
  | released {id? : Option SubscriptionId} {g : Ingestion}
      (hreading : q.ingestion = .reading id?) (hafter : ∀ id?, g ≠ .reading id?) :
      Step src q (src.release id?) { q with ingestion := g }

section
variable {src src' : Source} {q q' : Reader}

theorem Step.service (h : Step src q src' q') : q'.service = q.service := by
  cases h <;> rfl

/-- A subscription that is active after a step was so before, and is still read if it was read; or
the reader has just made it. -/
theorem Step.active (h : Step src q src' q') {a : String} {id : SubscriptionId}
    (hactive : src'.Active a id) :
    (src.Active a id ∧
        (q.ingestion = .reading (some id) → q'.ingestion = .reading (some id))) ∨
      (a = q'.service ∧ q'.ingestion = .reading (some id)) := by
  cases h with
  | waited => exact Or.inl ⟨hactive, fun hreading => hreading⟩
  | rested hbefore hafter =>
    exact Or.inl ⟨hactive, fun hreading => absurd hreading (hbefore _)⟩
  | subscribed hbefore hmade =>
    rcases Source.active_of_subscribe hmade hactive with hold | ⟨rfl, rfl⟩
    · exact Or.inl ⟨hold, fun hreading => absurd hreading (hbefore _)⟩
    · exact Or.inr ⟨rfl, rfl⟩
  | received id? =>
    exact Or.inl ⟨Source.active_of_receive hactive, fun hreading => hreading⟩
  | released hreading hafter =>
    obtain ⟨hold, hother⟩ := Source.active_of_release hactive
    refine Or.inl ⟨hold, ?_⟩
    intro hown
    exact absurd (Ingestion.reading.inj (hreading.symm.trans hown)) hother

theorem Step.listCallsOf (h : Step src q src' q') (a : String) :
    src'.listCallsOf a = src.listCallsOf a := by
  cases h with
  | waited => rfl
  | rested hbefore hafter => rfl
  | subscribed hbefore hmade => exact Source.listCallsOf_subscribe hmade a
  | received id? => exact src.listCallsOf_receive id? a
  | released hreading hafter => exact src.listCallsOf_release _ a

end

end Reader

structure Audience where
  source : Source
  readers : List Reader

namespace Audience

/-- What one event does to a source and its audience. The number is that of the session whose
ingestion takes a step. -/
inductive Step (g : Audience) : List Notice → Option Nat → Audience → Prop
  | quiet (ns : List Notice) (i? : Option Nat) : Step g ns i? g
  | begun {q : Reader} (hfresh : q.ingestion = .subscribing) :
      Step g [] none { g with readers := g.readers ++ [q] }
  | changed (c : Memory.Change) : Step g [] none { g with source := g.source.apply c }
  | listed {i : Nat} {q : Reader} (trigger : Trigger) (now : Instant)
      (limit? : Option Duration) (hq : g.readers[i]? = some q) :
      Step g [.triggered i trigger] none
        { g with source := (g.source.beginList now q.service limit?).1 }
  | read {i : Nat} {q q' : Reader} {src' : Source} (ns : List Notice)
      (hq : g.readers[i]? = some q) (hread : Reader.Step g.source q src' q') :
      Step g ns (some i) ⟨src', g.readers.set i q'⟩

/-- Every active subscription was given with the source, or a session of its service reads it. -/
def Read (given : Source) (g : Audience) : Prop :=
  ∀ (a : String) (id : SubscriptionId), g.source.Active a id → given.Active a id ∨
    ∃ (i : Nat) (q : Reader), g.readers[i]? = some q ∧ q.service = a ∧
      q.ingestion = .reading (some id)

theorem Read.step {given : Source} {g g' : Audience} {ns : List Notice} {i? : Option Nat}
    (h : Read given g) (hstep : Step g ns i? g') : Read given g' := by
  intro a id hactive
  cases hstep with
  | quiet ns i? => exact h a id hactive
  | begun hfresh =>
    rcases h a id hactive with hgiven | ⟨i, q, hq, hservice, hreading⟩
    · exact Or.inl hgiven
    · have hlt := (List.getElem?_eq_some_iff.1 hq).1
      exact Or.inr ⟨i, q, (List.getElem?_append_left hlt).trans hq, hservice, hreading⟩
  | changed c => exact h a id (Source.active_of_apply hactive)
  | listed trigger now limit? hq => exact h a id (Source.active_of_beginList hactive)
  | @read i q q' src' ns hq hread =>
    have hi := (List.getElem?_eq_some_iff.1 hq).1
    rcases hread.active hactive with ⟨hold, hstill⟩ | ⟨hservice, hreading⟩
    · rcases h a id hold with hgiven | ⟨j, p, hp, hservice, hreading⟩
      · exact Or.inl hgiven
      · by_cases hij : i = j
        · subst hij
          obtain rfl := Option.some.inj (hq.symm.trans hp)
          exact Or.inr ⟨i, q', List.getElem?_set_self hi, hread.service.trans hservice,
            hstill hreading⟩
        · exact Or.inr ⟨j, p, (List.getElem?_set_ne hij).trans hp, hservice, hreading⟩
    · exact Or.inr ⟨i, q', List.getElem?_set_self hi, hservice.symm, hreading⟩

theorem Step.service {g g' : Audience} {ns : List Notice} {i? : Option Nat}
    (h : Step g ns i? g') {i : Nat} {q : Reader} (hq : g.readers[i]? = some q) :
    ∃ q', g'.readers[i]? = some q' ∧ q'.service = q.service := by
  cases h with
  | quiet ns i? => exact ⟨q, hq, rfl⟩
  | begun hfresh =>
    have hlt := (List.getElem?_eq_some_iff.1 hq).1
    exact ⟨q, (List.getElem?_append_left hlt).trans hq, rfl⟩
  | changed c => exact ⟨q, hq, rfl⟩
  | listed trigger now limit? hp => exact ⟨q, hq, rfl⟩
  | @read j p p' src' ns hp hread =>
    have hj := (List.getElem?_eq_some_iff.1 hp).1
    by_cases hji : j = i
    · subst hji
      obtain rfl := Option.some.inj (hp.symm.trans hq)
      exact ⟨p', List.getElem?_set_self hj, hread.service⟩
    · exact ⟨q, (List.getElem?_set_ne hji).trans hq, rfl⟩

theorem Step.kept {g g' : Audience} {ns : List Notice} {i? : Option Nat}
    (h : Step g ns i? g') {i : Nat} {q : Reader} {id? : Option SubscriptionId}
    (hother : i? ≠ some i) (hq : g'.readers[i]? = some q) (hreading : q.ingestion = .reading id?) :
    g.readers[i]? = some q := by
  cases h with
  | quiet ns i? => exact hq
  | begun hfresh =>
    rw [List.getElem?_append] at hq
    split at hq
    · exact hq
    · rw [List.getElem?_singleton] at hq
      split at hq
      · cases hq
        rw [hfresh] at hreading
        cases hreading
      · cases hq
  | changed c => exact hq
  | listed trigger now limit? hp => exact hq
  | @read j p p' src' ns hp hread =>
    have hji : j ≠ i := fun heq => hother (congrArg some heq)
    exact (List.getElem?_set_ne hji).symm.trans hq

theorem Step.listCallsOf {g g' : Audience} {ns : List Notice} {i? : Option Nat}
    (h : Step g ns i? g') {a : String}
    (hnone : ∀ (i : Nat) (trigger : Trigger) (q : Reader), .triggered i trigger ∈ ns →
      g.readers[i]? = some q → q.service ≠ a) :
    g'.source.listCallsOf a = g.source.listCallsOf a := by
  cases h with
  | quiet ns i? => rfl
  | begun hfresh => rfl
  | changed c => exact g.source.listCallsOf_apply c a
  | @listed i q trigger now limit? hq =>
    have hother := hnone i trigger q (List.mem_singleton.2 rfl) hq
    exact g.source.listCallsOf_beginList now limit? hother.symm
  | read ns hq hread => exact hread.listCallsOf a

end Audience

namespace Resolver

def audience (r : Resolver) : Audience := ⟨r.source, r.routines.map Routine.reader⟩

/-- The session whose ingestion takes a step in the event. -/
def Event.reader? : Event → Option Nat
  | .step (.ingest i) => some i
  | _ => none

theorem Event.reader?_eq_some_iff {e : Event} {i : Nat} :
    e.reader? = some i ↔ e = .step (.ingest i) := by
  cases e with
  | step t => cases t <;> simp [reader?]
  | _ => simp [reader?]

@[simp]
theorem readers_getElem? (r : Resolver) (i : Nat) :
    r.audience.readers[i]? = (r.session? i).map Session.reader := by
  simp only [audience, List.getElem?_map, routines_getElem?, Option.map_map]
  rfl

theorem audience_modify {r : Resolver} {i : Nat} {s : Session} (hs : r.session? i = some s)
    (f : Session → Session) :
    (r.modify i f).audience = ⟨r.source, r.audience.readers.set i (f s).reader⟩ := by
  simp only [audience]
  rw [routines_modify hs, List.map_set]
  rfl

theorem readers_of_sessions {r q : Resolver} (hsessions : q.sessions = r.sessions) :
    q.audience.readers = r.audience.readers := by
  simp only [audience, routines]
  rw [hsessions]

theorem set_reader_self {r : Resolver} {i : Nat} {s : Session} (hs : r.session? i = some s) :
    r.audience.readers.set i s.reader = r.audience.readers := by
  have hreader : r.audience.readers[i]? = some s.reader := by simp [hs]
  obtain ⟨hi, heq⟩ := List.getElem?_eq_some_iff.1 hreader
  rw [← heq, List.set_getElem_self]

theorem quiet_modify {r q : Resolver} {i : Nat} {s : Session} (hs : q.session? i = some s)
    (hsource : q.source = r.source) (hsessions : q.sessions = r.sessions)
    {f : Session → Session} (hf : (f s).reader = s.reader) (ns : List Notice) (i? : Option Nat) :
    Audience.Step r.audience ns i? (q.modify i f).audience := by
  rw [audience_modify hs, hf, set_reader_self hs, readers_of_sessions hsessions, hsource]
  exact .quiet ns i?

theorem reads_modify {r q : Resolver} {i : Nat} {s : Session} (hs : q.session? i = some s)
    (hsessions : q.sessions = r.sessions) {f : Session → Session} (ns : List Notice)
    (hread : Reader.Step r.source s.reader q.source (f s).reader) :
    Audience.Step r.audience ns (some i) (q.modify i f).audience := by
  rw [audience_modify hs, readers_of_sessions hsessions]
  refine .read ns ?_ hread
  rw [← readers_of_sessions hsessions, readers_getElem?, hs]
  rfl

/-! ## Calls -/

theorem aspect_reader : Session.Aspect Session.reader id := ⟨fun _ _ => rfl, fun _ => rfl⟩

theorem readers_eq (r : Resolver) : r.audience.readers = r.sessions.map Session.reader := by
  simp only [audience, routines, List.map_map]
  rfl

theorem audience_call (r : Resolver) {e : Event} (he : e.isCall = true) :
    Audience.Step r.audience (r.react e).2 none (r.react e).1.audience := by
  obtain ⟨halike, hquiet⟩ := r.alike_call he
  have haudience : (r.react e).1.audience = ⟨r.source, (r.react e).1.audience.readers⟩ := by
    rw [← halike.source]
    rfl
  rw [hquiet, haudience, readers_eq]
  rcases map_sessions_call aspect_reader r he with ⟨hit, hsame⟩ | ⟨service, hbegun⟩
  · rw [hsame, halted_id, ← readers_eq]
    exact .quiet [] none
  · rw [hbegun, ← readers_eq]
    exact .begun rfl

/-! ## Tasks -/

theorem audience_beginBuild {r : Resolver} {i : Nat} {s : Session} (hs : r.session? i = some s)
    (d : Debouncer) (trigger : Trigger) :
    Audience.Step r.audience [.triggered i trigger] none
      (r.beginBuild i s d trigger).1.audience := by
  have hreader : r.audience.readers[i]? = some s.reader := by simp [hs]
  have hmodify := audience_modify (r := { r with
      source := (r.builder.start r.source r.now s.service s.policy).1 }.count .evaluation) hs
    fun q => { q with
      debouncer := d
      evaluation := .building (r.builder.start r.source r.now s.service s.policy).2 }
  unfold beginBuild
  dsimp only
  rw [hmodify]
  change Audience.Step _ _ _ ⟨_, r.audience.readers.set i s.reader⟩
  rw [set_reader_self hs]
  exact .listed trigger r.now r.builder.limit? hreader

theorem audience_evaluate {r : Resolver} {i : Nat} {s : Session} (hs : r.session? i = some s) :
    Audience.Step r.audience (r.evaluate i s).2 none (r.evaluate i s).1.audience := by
  unfold evaluate
  split
  · exact .quiet [] none
  · split
    · exact quiet_modify hs rfl rfl rfl [] none
    · split
      · next d trigger _ => exact audience_beginBuild hs d trigger
      · exact quiet_modify hs rfl rfl rfl [] none
  · split
    · exact quiet_modify hs rfl rfl rfl [] none
    · split
      · exact .quiet [] none
      · unfold finishBuild
        exact quiet_modify (by exact hs) rfl rfl rfl _ none
      · exact quiet_modify (by exact hs) rfl rfl rfl _ none
  · unfold publish
    exact quiet_modify (by exact hs) rfl rfl rfl _ none

theorem reads_failSubscription {r q : Resolver} {i : Nat} {s : Session}
    (hs : q.session? i = some s) (hsessions : q.sessions = r.sessions)
    (hread : ∀ t : Instant,
      Reader.Step r.source s.reader q.source { s.reader with ingestion := .backingOff t })
    (reason : String) :
    Audience.Step r.audience (q.failSubscription i s reason).2 (some i)
      (q.failSubscription i s reason).1.audience := by
  unfold failSubscription
  refine reads_modify (q := q.count .subscriptionFailure) hs hsessions _ ?_
  exact hread _

theorem reads_subscribe {r : Resolver} {i : Nat} {s : Session} (hs : r.session? i = some s)
    (hbefore : ∀ id?, s.ingestion ≠ .reading id?) :
    Audience.Step r.audience (r.subscribe i s).2 (some i) (r.subscribe i s).1.audience := by
  unfold subscribe
  split
  · refine reads_failSubscription hs rfl ?_ _
    exact fun t => .rested hbefore fun id? => Ingestion.noConfusion
  · next source id? hmade =>
    refine reads_modify (r := r) (q := { r with source }) hs rfl [] ?_
    exact .subscribed hbefore hmade

theorem reads_read {r : Resolver} {i : Nat} {s : Session} (hs : r.session? i = some s)
    {id? : Option SubscriptionId} (hreading : s.ingestion = .reading id?) :
    Audience.Step r.audience (r.read i s id?).2 (some i) (r.read i s id?).1.audience := by
  have hread : Reader.Step r.source s.reader (r.source.receive id?).2 s.reader := .received id?
  unfold read
  split
  · exact .quiet [] (some i)
  · refine reads_failSubscription (r := r) (q := { r with source := r.source.release id? }) hs rfl
      ?_ _
    exact fun t => .released hreading fun id? => by simp
  · next source heq =>
    rw [heq] at hread
    refine reads_modify (r := r) (q := { r with source }.count .signal) hs rfl [] ?_
    exact hread
  · next source heq =>
    rw [heq] at hread
    refine reads_modify (r := r) (q := { r with source }.count .resync) hs rfl [] ?_
    exact hread

theorem reads_ingest {r : Resolver} {i : Nat} {s : Session} (hs : r.session? i = some s) :
    Audience.Step r.audience (r.ingest i s).2 (some i) (r.ingest i s).1.audience := by
  have hended : ∀ id?, Ingestion.ended ≠ .reading id? := by simp
  unfold ingest
  split
  · exact .quiet [] (some i)
  · next hsubscribing =>
    have hbefore : ∀ id?, s.ingestion ≠ .reading id? := by simp [hsubscribing]
    split
    · refine reads_modify hs rfl [] ?_
      exact .rested hbefore hended
    · exact reads_subscribe hs hbefore
  · next id? hreading =>
    split
    · refine reads_modify (r := r) (q := { r with source := r.source.release id? }) hs rfl [] ?_
      exact .released hreading hended
    · exact reads_read hs hreading
  · next t hwaiting =>
    have hbefore : ∀ id?, s.ingestion ≠ .reading id? := by simp [hwaiting]
    split
    · refine reads_modify hs rfl [] ?_
      exact .rested hbefore hended
    · split
      · have hafter : ∀ id?, Ingestion.subscribing ≠ .reading id? := by simp
        refine reads_modify hs rfl [] ?_
        exact .rested hbefore hafter
      · exact .quiet [] (some i)

theorem audience_resync {r : Resolver} {i : Nat} {s : Session} (hs : r.session? i = some s) :
    Audience.Step r.audience (r.resync i s).2 none (r.resync i s).1.audience := by
  unfold resync
  split
  · split
    · exact quiet_modify hs rfl rfl rfl [] none
    · split
      · exact quiet_modify (q := r.count .resync) hs rfl rfl rfl [] none
      · exact .quiet [] none
  · exact .quiet [] none

theorem audience_step (r : Resolver) (t : Task) :
    Audience.Step r.audience (r.step t).2 (Event.step t).reader? (r.step t).1.audience := by
  unfold step
  cases hs : r.session? t.session with
  | none => exact .quiet [] _
  | some s =>
    cases t with
    | evaluate i => exact audience_evaluate hs
    | ingest i => exact reads_ingest hs
    | resync i => exact audience_resync hs
    | deliver i ticket => exact quiet_modify hs rfl rfl rfl _ none

/-- Whatever happens to a resolver is one of the steps that its source and the audience can
take. -/
theorem audience_react (r : Resolver) (e : Event) :
    Audience.Step r.audience (r.react e).2 e.reader? (r.react e).1.audience := by
  cases e with
  | change c => exact .changed c
  | step t => exact r.audience_step t
  | pass nanos => exact .quiet [] none
  | _ => exact r.audience_call rfl

/-- Whoever has made a subscription that is still active is still reading it, at any time. -/
theorem read_run {given : Source} {r : Resolver} (h : r.audience.Read given)
    (events : List Event) : (r.run events).1.audience.Read given := by
  induction events generalizing r with
  | nil => exact h
  | cons e rest ih => exact ih (h.step (r.audience_react e))

end Resolver

end Lookout
