import Lookout.Proofs.Resolver.Aspect
import Lookout.Proofs.Resolver.Orderly

/-!
# The effort of a resolver

The effort is what is spent on evaluations and what asked for them: the counters, the clock, and for
every session its debouncer, how far its evaluation has come, and whether it has lost its
subscription. Snapshots and watchers are left out. `Resolver.effort_react` lists all that one event
can do to it.
-/
set_option autoImplicit false

namespace Lookout

/-- Without a subscription, and on the way to one. -/
def Ingestion.isSeeking : Ingestion → Bool
  | .subscribing => true
  | .backingOff _ => true
  | _ => false

structure Course where
  service : String
  debouncer : Debouncer
  evaluation : Evaluation
  cancelled : Bool
  /-- A subscription has been refused or closed, and none has been made since. -/
  adrift : Bool

def Session.course (s : Session) : Course :=
  { service := s.service, debouncer := s.debouncer, evaluation := s.evaluation
    cancelled := s.cancelled, adrift := s.reconnecting && s.ingestion.isSeeking }

/-- The course of a session that is cancelled, if it is. -/
def Course.halt (c : Course) (hit : Bool) : Course := { c with cancelled := c.cancelled || hit }

namespace Metrics

/-- The counters without those of mailboxes. -/
def work (m : Metrics) : Metrics := { m with deliveries := 0, dropped := 0 }

@[simp]
theorem work_countIn (report : Report) (m : Metrics) : (report.countIn m).work = m.work := rfl

end Metrics

/-- Whether a notice is about an evaluation, or a lost subscription. -/
def Notice.isEffort : Notice → Bool
  | .delivered _ _ _ _ _ => false
  | _ => true

structure Effort where
  window : Duration
  hooked : Bool
  now : Instant
  metrics : Metrics
  courses : List Course

namespace Effort

def report (g : Effort) (service : String) (f : Failure) : List Notice :=
  if g.hooked then [.failed service f] else []

/-- What one step of a task of session `i` does. -/
inductive Move (g : Effort) (i : Nat) (c : Course) : List Notice → Metrics → Course → Prop
  | ended (hcancelled : c.cancelled = true) (hunready : c.evaluation.ready? = none) :
      Move g i c [] g.metrics { c with evaluation := .ended }
  | looked {w v : Waiter} {d : Debouncer} (hgoing : c.cancelled = false)
      (hwaiting : c.evaluation = .waiting w)
      (hpoll : c.debouncer.poll g.now w = (d, .waiting v)) :
      Move g i c [] g.metrics { c with debouncer := d, evaluation := .waiting v }
  | triggered {w : Waiter} {d : Debouncer} {trigger : Trigger} (b : Builder.Build)
      (hgoing : c.cancelled = false) (hwaiting : c.evaluation = .waiting w)
      (hpoll : c.debouncer.poll g.now w = (d, .fired trigger)) :
      Move g i c [.triggered i trigger] (g.metrics.count .evaluation)
        { c with debouncer := d, evaluation := .building b }
  | built {b : Builder.Build} (s : Snapshot) (hgoing : c.cancelled = false)
      (hbuilding : c.evaluation = .building b) :
      Move g i c [.built i c.service s] (g.metrics.count (.build true))
        { c with evaluation := .publishing s }
  | published {s : Snapshot} (report : Report) (hpublishing : c.evaluation = .publishing s) :
      Move g i c [.published i c.service s report] g.metrics
        { c with debouncer := c.debouncer.complete, evaluation := .waiting .fresh }
  | failed {b : Builder.Build} (f : Failure) (hgoing : c.cancelled = false)
      (hbuilding : c.evaluation = .building b) :
      Move g i c (g.report c.service f) (g.metrics.count (.build false))
        { c with debouncer := c.debouncer.complete, evaluation := .waiting .fresh }
  | deafened (hcancelled : c.cancelled = true) : Move g i c [] g.metrics { c with adrift := false }
  | interrupted (f : Failure) (hgoing : c.cancelled = false) :
      Move g i c (g.report c.service f) (g.metrics.count .subscriptionFailure)
        { c with adrift := true }
  /-- A subscription in the place of a lost one counts as a signal. -/
  | subscribed (hgoing : c.cancelled = false) :
      Move g i c [] g.metrics
        { c with
          debouncer := if c.adrift then c.debouncer.signal g.now else c.debouncer
          adrift := false }
  | signalled (hgoing : c.cancelled = false) :
      Move g i c [] (g.metrics.count .signal)
        { c with debouncer := c.debouncer.signal g.now }
  | resynced (hgoing : c.cancelled = false) :
      Move g i c [] (g.metrics.count .resync)
        { c with debouncer := c.debouncer.force .resync }

/-- The course of a session as it begins. -/
def fresh (g : Effort) (service : String) : Course :=
  { service
    debouncer := (Debouncer.create g.window).force .initial
    evaluation := .waiting .fresh
    cancelled := false
    adrift := false }

/-- Cancels the sessions that are hit. -/
def halt (g : Effort) (hit : Nat → Bool) : Effort :=
  { g with courses := g.courses.mapIdx fun i c => c.halt (hit i) }

theorem halted_courses (hit : Nat → Bool) (cs : List Course) :
    halted (·.halt true) hit cs = cs.mapIdx fun i c => c.halt (hit i) := by
  apply List.ext_getElem?
  intro i
  rw [halted_getElem?, List.getElem?_mapIdx]
  cases hit i <;> simp [Course.halt]

/-- What one event does to an effort. -/
inductive Step (g : Effort) : List Notice → Effort → Prop
  | quiet {ns : List Notice} (hns : ∀ n ∈ ns, n.isEffort = false) : Step g ns g
  | passed (nanos : Nat) : Step g [] { g with now := g.now + nanos }
  | begun (service : String) : Step g [] { g with courses := g.courses ++ [g.fresh service] }
  | halted (hit : Nat → Bool) : Step g [] (g.halt hit)
  | moved {i : Nat} {c c' : Course} {ns : List Notice} {m : Metrics}
      (hc : g.courses[i]? = some c) (hmove : Move g i c ns m c') :
      Step g ns { g with metrics := m, courses := g.courses.set i c' }

theorem Step.origin {g g' : Effort} {ns : List Notice} (h : Step g ns g') {i : Nat} {c' : Course}
    (hc' : g'.courses[i]? = some c') :
    (∃ c hit, g.courses[i]? = some c ∧ c' = c.halt hit) ∨ (∃ service, c' = g.fresh service) ∨
      ∃ c m, g.courses[i]? = some c ∧ Move g i c ns m c' := by
  have hsame : g.courses[i]? = some c' → ∃ c hit, g.courses[i]? = some c ∧ c' = c.halt hit :=
    fun hc => ⟨c', false, hc, by simp [Course.halt]⟩
  cases h with
  | quiet hns => exact .inl (hsame hc')
  | passed nanos => exact .inl (hsame hc')
  | begun service =>
    rcases of_append_getElem? hc' with hold | ⟨-, rfl⟩
    · exact .inl (hsame hold)
    · exact .inr (.inl ⟨service, rfl⟩)
  | halted hit =>
    change (g.courses.mapIdx _)[i]? = some c' at hc'
    rw [List.getElem?_mapIdx] at hc'
    obtain ⟨c, hc, rfl⟩ := Option.map_eq_some_iff.1 hc'
    exact .inl ⟨c, hit i, hc, rfl⟩
  | @moved j c d ns m hc hmove =>
    change (g.courses.set j d)[i]? = some c' at hc'
    rw [List.getElem?_set] at hc'
    split at hc'
    · next hij =>
      subst hij
      rw [if_pos (List.getElem?_eq_some_iff.1 hc).1] at hc'
      obtain rfl := Option.some.inj hc'
      exact .inr (.inr ⟨c, m, hc, hmove⟩)
    · exact .inl (hsame hc')

theorem Step.after {g g' : Effort} {ns : List Notice} (h : Step g ns g') {i : Nat} {c : Course}
    (hc : g.courses[i]? = some c) : ∃ c', g'.courses[i]? = some c' ∧
      ((∃ m, Move g i c ns m c') ∨ ((∃ hit, c' = c.halt hit) ∧
        ((∀ n ∈ ns, n.isEffort = false) ∨ ∃ j d d' m, j ≠ i ∧ Move g j d ns m d'))) := by
  have hsame : ∃ hit, c = c.halt hit := ⟨false, by simp [Course.halt]⟩
  cases h with
  | quiet hns => exact ⟨c, hc, .inr ⟨hsame, .inl hns⟩⟩
  | passed nanos => exact ⟨c, hc, .inr ⟨hsame, .inl (by simp)⟩⟩
  | begun service => exact ⟨c, append_getElem? hc _, .inr ⟨hsame, .inl (by simp)⟩⟩
  | halted hit =>
    refine ⟨c.halt (hit i), ?_, .inr ⟨⟨hit i, rfl⟩, .inl (by simp)⟩⟩
    change (g.courses.mapIdx _)[i]? = _
    rw [List.getElem?_mapIdx, hc]
    rfl
  | @moved j d d' ns m hd hmove =>
    by_cases hij : j = i
    · subst hij
      obtain rfl := Option.some.inj (hc.symm.trans hd)
      exact ⟨d', List.getElem?_set_self (List.getElem?_eq_some_iff.1 hc).1, .inl ⟨m, hmove⟩⟩
    · exact ⟨c, (List.getElem?_set_ne hij).trans hc, .inr ⟨hsame, .inr ⟨j, d, d', m, hij, hmove⟩⟩⟩

end Effort

namespace Resolver

def courses (r : Resolver) : List Course := r.sessions.map Session.course

def effort (r : Resolver) : Effort :=
  { window := r.config.debounce, hooked := r.hooked, now := r.now, metrics := r.metrics.work
    courses := r.courses }

@[simp]
theorem courses_getElem? (r : Resolver) (i : Nat) :
    r.courses[i]? = (r.session? i).map Session.course := by
  simp [courses, session?]

theorem aspect_course : Session.Aspect Session.course (·.halt true) := by
  refine ⟨fun _ _ => rfl, fun s => ?_⟩
  simp [Session.course, Session.cancel, Course.halt]

theorem courses_modify {r : Resolver} {i : Nat} {s : Session} (hs : r.session? i = some s)
    (f : Session → Session) : (r.modify i f).courses = r.courses.set i (f s).course :=
  map_sessions_modify hs Session.course f

theorem effort_modify_self {r : Resolver} {i : Nat} {f : Session → Session}
    (hf : ∀ s, r.session? i = some s → (f s).course = s.course) :
    (r.modify i f).effort = r.effort := by
  have hcourses : (r.modify i f).courses = r.courses := r.map_sessions_modify_self i hf
  change { r.effort with courses := (r.modify i f).courses } = r.effort
  rw [hcourses]
  rfl

theorem effort_quiet {r q : Resolver} {ns : List Notice} (h : q.effort = r.effort)
    (hns : ∀ n ∈ ns, n.isEffort = false) : Effort.Step r.effort ns q.effort := by
  rw [h]
  exact .quiet hns

theorem effort_modify {r q : Resolver} {i : Nat} {s : Session} (hs : q.session? i = some s)
    {m : Metrics} (hq : q.effort = { r.effort with metrics := m }) {f : Session → Session}
    {ns : List Notice} (hmove : Effort.Move r.effort i s.course ns m (f s).course) :
    Effort.Step r.effort ns (q.modify i f).effort := by
  have hcourses : q.courses = r.courses := congrArg Effort.courses hq
  have heffort : (q.modify i f).effort =
      { r.effort with metrics := m, courses := r.courses.set i (f s).course } := by
    change { q.effort with courses := (q.modify i f).courses } = _
    rw [courses_modify hs, hcourses, hq]
  rw [heffort]
  refine .moved ?_ hmove
  change r.courses[i]? = some s.course
  rw [← hcourses, courses_getElem?, hs]
  rfl

/-! ## Calls -/

theorem effort_call (r : Resolver) {e : Event} (he : e.isCall = true) :
    Effort.Step r.effort (r.react e).2 (r.react e).1.effort := by
  obtain ⟨halike, hquiet⟩ := r.alike_call he
  obtain ⟨report, hmetrics⟩ := halike.metrics
  have hrest : (r.react e).1.effort = { r.effort with courses := (r.react e).1.courses } := by
    simp only [effort, halike.config, halike.hooked, halike.now, hmetrics, Metrics.work_countIn]
  rw [hquiet, hrest]
  rcases map_sessions_call aspect_course r he with ⟨hit, hall⟩ | ⟨service, hbegun⟩
  · rw [show (r.react e).1.courses = _ from hall, Effort.halted_courses]
    exact .halted hit
  · rw [show (r.react e).1.courses = _ from hbegun]
    exact .begun service

/-! ## Tasks -/

theorem effort_evaluate {r : Resolver} {i : Nat} {s : Session} (hs : r.session? i = some s) :
    Effort.Step r.effort (r.evaluate i s).2 (r.evaluate i s).1.effort := by
  unfold evaluate
  split
  · exact .quiet (by simp)
  · next w hwaiting =>
    have hunready : s.course.evaluation.ready? = none := by
      simp [Session.course, hwaiting, Evaluation.ready?]
    split
    · next hcancelled => exact effort_modify (r := r) hs rfl (.ended hcancelled hunready)
    · next hcancelled =>
      have hgoing : s.course.cancelled = false := Bool.eq_false_iff.2 hcancelled
      split
      · next d trigger hpoll =>
        unfold beginBuild
        exact effort_modify (r := r) (q := { r with
            source := (r.builder.start r.source r.now s.service s.policy).1
            metrics := r.metrics.count .evaluation }) hs rfl
          (.triggered _ hgoing hwaiting hpoll)
      · next d v hpoll => exact effort_modify (r := r) hs rfl (.looked hgoing hwaiting hpoll)
  · next b hbuilding =>
    have hunready : s.course.evaluation.ready? = none := by
      simp [Session.course, hbuilding, Evaluation.ready?]
    split
    · next hcancelled => exact effort_modify (r := r) hs rfl (.ended hcancelled hunready)
    · next hcancelled =>
      have hgoing : s.course.cancelled = false := Bool.eq_false_iff.2 hcancelled
      split
      · exact .quiet (by simp)
      · next snapshot _ =>
        exact effort_modify (r := r) (q := { r.count (.build true) with
            histories := r.histories.insert s.service
              { r.historyOf s.service with revision := snapshot.revision } })
          hs rfl (.built snapshot hgoing hbuilding)
      · next f _ =>
        exact effort_modify (r := r) (q := r.count (.build false)) hs rfl
          (.failed f hgoing hbuilding)
  · next snapshot hpublishing =>
    exact effort_modify (r := r) (q := { r with
        metrics := (s.registry.notify snapshot).2.countIn r.metrics }) hs rfl
      (.published _ hpublishing)

theorem effort_failSubscription {r q : Resolver} (h : q.effort = r.effort) {i : Nat} {s : Session}
    (hs : q.session? i = some s) (hgoing : s.cancelled = false) (reason : String) :
    Effort.Step r.effort (q.failSubscription i s reason).2
      (q.failSubscription i s reason).1.effort := by
  have hcount : (q.count .subscriptionFailure).effort =
      { r.effort with metrics := r.effort.metrics.count .subscriptionFailure } := by
    rw [← h]
    rfl
  have hreport : q.report = r.effort.report := by
    rw [← h]
    rfl
  unfold failSubscription
  dsimp only
  rw [hreport]
  exact effort_modify (r := r) (q := q.count .subscriptionFailure) hs hcount
    (.interrupted _ hgoing)

theorem effort_subscribe {r : Resolver} {i : Nat} {s : Session} (hs : r.session? i = some s)
    (hgoing : s.cancelled = false) (hsubscribing : s.ingestion = .subscribing) :
    Effort.Step r.effort (r.subscribe i s).2 (r.subscribe i s).1.effort := by
  unfold subscribe
  split
  · exact effort_failSubscription rfl hs hgoing _
  · next source id? _ =>
    have hadrift : s.course.adrift = s.reconnecting := by
      simp [Session.course, hsubscribing, Ingestion.isSeeking]
    have hmove := Effort.Move.subscribed (g := r.effort) (i := i) (c := s.course) hgoing
    rw [hadrift] at hmove
    refine effort_modify (r := r) (q := { r with source }) (m := r.effort.metrics) hs rfl ?_
    simpa only [Session.course, Ingestion.isSeeking, Bool.and_false, effort] using hmove

theorem effort_read {r : Resolver} {i : Nat} {s : Session} (hs : r.session? i = some s)
    (hgoing : s.cancelled = false) (id? : Option SubscriptionId) :
    Effort.Step r.effort (r.read i s id?).2 (r.read i s id?).1.effort := by
  unfold read
  split
  · exact .quiet (by simp)
  · exact effort_failSubscription (q := { r with source := r.source.release id? }) rfl hs hgoing _
  · next source _ =>
    have hsession : ({ r with source }.count .signal).session? i = some s := hs
    have hcount : ({ r with source }.count .signal).effort =
        { r.effort with metrics := r.effort.metrics.count .signal } := rfl
    exact effort_modify hsession hcount (.signalled hgoing)
  · next source _ =>
    have hsession : ({ r with source }.count .resync).session? i = some s := hs
    have hcount : ({ r with source }.count .resync).effort =
        { r.effort with metrics := r.effort.metrics.count .resync } := rfl
    exact effort_modify hsession hcount (.resynced hgoing)

theorem effort_leave {r q : Resolver} (h : q.effort = r.effort) {i : Nat} {s : Session}
    (hs : q.session? i = some s) (hcancelled : s.cancelled = true) :
    Effort.Step r.effort [] (q.modify i fun s => { s with ingestion := .ended }).effort := by
  refine effort_modify (m := r.effort.metrics) hs h ?_
  have hmove := Effort.Move.deafened (g := r.effort) (i := i) (c := s.course) hcancelled
  simpa only [Session.course, Ingestion.isSeeking, Bool.and_false] using hmove

theorem effort_ingest {r : Resolver} {i : Nat} {s : Session} (hs : r.session? i = some s) :
    Effort.Step r.effort (r.ingest i s).2 (r.ingest i s).1.effort := by
  unfold ingest
  cases hcancelled : s.cancelled with
  | true =>
    split
    · exact .quiet (by simp)
    · exact effort_leave rfl hs hcancelled
    · next id? _ =>
      exact effort_leave (q := { r with source := r.source.release id? }) rfl hs hcancelled
    · exact effort_leave rfl hs hcancelled
  | false =>
    split
    · exact .quiet (by simp)
    · next hsubscribing => exact effort_subscribe hs hcancelled hsubscribing
    · next id? _ => exact effort_read hs hcancelled id?
    · next t hwaiting =>
      dsimp only
      split
      · contradiction
      · split
        · refine effort_quiet (effort_modify_self ?_) (by simp)
          intro q hq
          rw [hs] at hq
          cases hq
          simp [Session.course, Ingestion.isSeeking, hwaiting]
        · exact .quiet (by simp)

theorem effort_resync {r : Resolver} {i : Nat} {s : Session} (hs : r.session? i = some s) :
    Effort.Step r.effort (r.resync i s).2 (r.resync i s).1.effort := by
  unfold resync
  split
  · split
    · exact effort_quiet (effort_modify_self fun _ _ => rfl) (by simp)
    · next hcancelled =>
      split
      · exact effort_modify (r := r) (q := r.count .resync)
          (m := r.effort.metrics.count .resync) hs rfl (.resynced (Bool.eq_false_iff.2 hcancelled))
      · exact .quiet (by simp)
  · exact .quiet (by simp)

theorem effort_deliver (r : Resolver) (i : Nat) (s : Session) (t : Nat) :
    Effort.Step r.effort (r.deliver i s t).2 (r.deliver i s t).1.effort := by
  refine effort_quiet (effort_modify_self fun _ _ => rfl) ?_
  intro n hn
  unfold deliver at hn
  dsimp only at hn
  split at hn
  · rw [List.mem_singleton.1 hn]
    rfl
  · exact absurd hn List.not_mem_nil

theorem effort_step (r : Resolver) (t : Task) :
    Effort.Step r.effort (r.step t).2 (r.step t).1.effort := by
  unfold step
  cases hs : r.session? t.session with
  | none => exact .quiet (by simp)
  | some s =>
    cases t with
    | evaluate i => exact effort_evaluate hs
    | ingest i => exact effort_ingest hs
    | resync i => exact effort_resync hs
    | deliver i ticket => exact r.effort_deliver i s ticket

/-- Whatever happens to a resolver is one of the steps that its effort can take. -/
theorem effort_react (r : Resolver) (e : Event) :
    Effort.Step r.effort (r.react e).2 (r.react e).1.effort := by
  cases e with
  | change c => exact effort_quiet rfl (by simp [react])
  | step t => exact r.effort_step t
  | pass nanos => exact .passed nanos
  | _ => exact r.effort_call rfl

end Resolver

end Lookout
