import Lookout.Proofs.Resolver.Ledger

/-!
# Aspects of sessions

An aspect of a session is what a function reads off it. Calls change who watches a session and
whether it is cancelled, and nothing else. So an aspect that has nothing to do with watchers is
after a call, or a part of one, what it was before, in every session that is not cancelled by it,
and at most there is a session more. Around the sessions a call leaves all that tasks work with as
it is.
-/
set_option autoImplicit false

namespace Lookout

variable {α : Type}

/-- The list with those halted that are hit. -/
def halted (halt : α → α) (hit : Nat → Bool) (xs : List α) : List α :=
  xs.mapIdx fun i x => if hit i then halt x else x

@[simp]
theorem halted_getElem? (halt : α → α) (hit : Nat → Bool) (xs : List α) (i : Nat) :
    (halted halt hit xs)[i]? = xs[i]?.map fun x => if hit i then halt x else x :=
  List.getElem?_mapIdx

theorem halted_none (halt : α → α) (xs : List α) : halted halt (fun _ => false) xs = xs := by
  apply List.ext_getElem?
  intro i
  simp

theorem halted_all (halt : α → α) (xs : List α) : halted halt (fun _ => true) xs = xs.map halt := by
  apply List.ext_getElem?
  intro i
  simp

theorem halted_id (hit : Nat → Bool) (xs : List α) : halted id hit xs = xs := by
  apply List.ext_getElem?
  intro i
  simp

/-- An aspect that does not depend on who watches a session, and is halted when the session is
cancelled. -/
structure Session.Aspect (f : Session → α) (halt : α → α) : Prop where
  registry : ∀ (s : Session) (registry : Registry), f { s with registry } = f s
  cancel : ∀ s : Session, f s.cancel = halt (f s)

namespace Resolver

theorem aspect_service : Session.Aspect Session.service id := ⟨fun _ _ => rfl, fun _ => rfl⟩

/-- Whether an event is a call or the next part of one. -/
def Event.isCall : Event → Bool
  | .change _ => false
  | .step _ => false
  | .pass _ => false
  | _ => true

/-- Two resolvers that agree in all that tasks work with apart from their sessions. -/
structure Alike (r q : Resolver) : Prop where
  name : q.name = r.name
  config : q.config = r.config
  backoff : q.backoff = r.backoff
  hooked : q.hooked = r.hooked
  stamp : q.stamp = r.stamp
  source : q.source = r.source
  now : q.now = r.now
  /-- Calls count deliveries and nothing else. -/
  metrics : ∃ report : Report, q.metrics = report.countIn r.metrics

theorem Alike.refl (r : Resolver) : Alike r r :=
  ⟨rfl, rfl, rfl, rfl, rfl, rfl, rfl, .zero, (Report.countIn_zero _).symm⟩

theorem alike_join (r : Resolver) (i : Nat) (w : WatcherId) : Alike r (r.join i w).1 := by
  unfold join
  split
  · exact .refl r
  · exact ⟨rfl, rfl, rfl, rfl, rfl, rfl, rfl, _, rfl⟩

theorem Alike.of_join {r q : Resolver} {i : Nat} {w : WatcherId} (watched : Dict Nat)
    (call? : Option Call) (h : q = { (r.join i w).1 with watched, call? }) : Alike r q := by
  obtain ⟨hname, hconfig, hbackoff, hhooked, hstamp, hsource, hnow, hmetrics⟩ := r.alike_join i w
  rw [h]
  exact ⟨hname, hconfig, hbackoff, hhooked, hstamp, hsource, hnow, hmetrics⟩

theorem alike_addWatch (r : Resolver) (service : String) (w : WatcherId) :
    Alike r (r.addWatch service w).1 := by
  rcases r.addWatch_cases service w with ⟨f, -, heq⟩ | ⟨-, ⟨i, -, heq⟩ | ⟨-, heq⟩⟩
  · rw [heq]
    exact .refl r
  · rw [heq]
    exact r.alike_join i w
  · rw [heq]
    exact ⟨rfl, rfl, rfl, rfl, rfl, rfl, rfl, .zero, (Report.countIn_zero _).symm⟩

theorem alike_delWatch (r : Resolver) (service : String) (w : WatcherId) :
    Alike r (r.delWatch service w) := by
  have hzero := (Report.countIn_zero r.metrics).symm
  unfold delWatch
  split
  · exact .refl r
  · split
    · exact .refl r
    · dsimp only
      split
      · exact ⟨rfl, rfl, rfl, rfl, rfl, rfl, rfl, .zero, hzero⟩
      · exact ⟨rfl, rfl, rfl, rfl, rfl, rfl, rfl, .zero, hzero⟩

theorem alike_proceed (r : Resolver) (service : String) : Alike r (r.proceed service).1 := by
  have hzero := (Report.countIn_zero r.metrics).symm
  rcases r.proceed_cases service with heq | ⟨i, w, -, heq⟩ | ⟨i, -, heq⟩ | ⟨i, -, heq⟩ |
    ⟨i, sessions, -, -, heq⟩
  · rw [heq]
    exact .refl r
  · rw [heq]
    rcases r.register_cases service i w with ⟨-, hregister⟩ | ⟨-, hregister⟩
    · exact .of_join _ none (by rw [hregister])
    · exact .of_join _ none (by rw [hregister])
  all_goals
    rw [heq]
    exact ⟨rfl, rfl, rfl, rfl, rfl, rfl, rfl, .zero, hzero⟩

theorem alike_stop (r : Resolver) : Alike r r.stop := by
  unfold stop
  split
  · exact .refl r
  · exact ⟨rfl, rfl, rfl, rfl, rfl, rfl, rfl, .zero, (Report.countIn_zero _).symm⟩

/-- A call leaves all that tasks work with apart from their sessions, and gives no notice. -/
theorem alike_call (r : Resolver) {e : Event} (he : e.isCall = true) :
    Alike r (r.react e).1 ∧ (r.react e).2 = [] := by
  have hcall : ∀ call : Resolver → Resolver, Alike r (call r) → Alike r (r.whenFree call) := by
    intro call h
    rcases r.whenFree_cases call with heq | ⟨-, heq⟩
    · rw [heq]
      exact .refl r
    · rw [heq]
      exact h
  cases e with
  | watch service w =>
    exact ⟨hcall (fun r => (r.addWatch service w).1) (r.alike_addWatch service w), rfl⟩
  | unwatch service w => exact ⟨hcall (·.delWatch service w) (r.alike_delWatch service w), rfl⟩
  | stop => exact ⟨hcall _ r.alike_stop, rfl⟩
  | drop =>
    exact ⟨hcall _ ⟨rfl, rfl, rfl, rfl, rfl, rfl, rfl, .zero, (Report.countIn_zero _).symm⟩, rfl⟩
  | proceed service => exact ⟨r.alike_proceed service, rfl⟩
  | change c => exact Bool.noConfusion he
  | step t => exact Bool.noConfusion he
  | pass nanos => exact Bool.noConfusion he

/-! ## Sessions -/

section
variable {f : Session → α} {halt : α → α}

theorem map_sessions_getElem? (f : Session → α) (r : Resolver) (i : Nat) :
    (r.sessions.map f)[i]? = (r.session? i).map f := by
  simp [session?]

theorem map_sessions_modify {r : Resolver} {i : Nat} {s : Session} (hs : r.session? i = some s)
    (f : Session → α) (g : Session → Session) :
    (r.modify i g).sessions.map f = (r.sessions.map f).set i (f (g s)) := by
  apply List.ext_getElem?
  intro j
  have hi : i < (r.sessions.map f).length := by
    have hlt : i < r.sessions.length := (List.getElem?_eq_some_iff.1 hs).1
    rwa [List.length_map]
  rw [map_sessions_getElem?, modify_session?, List.getElem?_set]
  by_cases hij : i = j
  · subst hij
    rw [if_pos rfl, if_pos rfl, if_pos hi, hs]
    rfl
  · rw [if_neg hij, if_neg hij, map_sessions_getElem?]

theorem map_sessions_modify_self (r : Resolver) (i : Nat) {g : Session → Session}
    (hg : ∀ s, r.session? i = some s → f (g s) = f s) :
    (r.modify i g).sessions.map f = r.sessions.map f := by
  apply List.ext_getElem?
  intro j
  rw [map_sessions_getElem?, modify_session?, map_sessions_getElem?]
  split
  · next hij =>
    subst hij
    cases hs : r.session? i with
    | none => rfl
    | some s => exact congrArg some (hg s hs)
  · rfl

theorem map_sessions_join (h : Session.Aspect f halt) (r : Resolver) (i : Nat) (w : WatcherId) :
    (r.join i w).1.sessions.map f = r.sessions.map f := by
  unfold join
  split
  · rfl
  · exact r.map_sessions_modify_self i fun s _ => h.registry s _

theorem map_sessions_begin (f : Session → α) (r : Resolver) (service : String) :
    (r.begin service).1.sessions.map f =
      r.sessions.map f ++ [f (r.newSession service (r.historyOf service))] := by
  simp [begin]

theorem map_sessions_addWatch (h : Session.Aspect f halt) (r : Resolver) (service : String)
    (w : WatcherId) :
    (r.addWatch service w).1.sessions.map f = r.sessions.map f ∨
    (r.addWatch service w).1.sessions.map f =
      r.sessions.map f ++ [f (r.newSession service (r.historyOf service))] := by
  rcases r.addWatch_cases service w with ⟨failure, -, heq⟩ | ⟨-, ⟨i, -, heq⟩ | ⟨-, heq⟩⟩
  · exact .inl (by rw [heq])
  · exact .inl (by rw [heq, map_sessions_join h])
  · rw [heq]
    exact .inr (map_sessions_begin f r service)

theorem map_sessions_delWatch (h : Session.Aspect f halt) (r : Resolver) (service : String)
    (w : WatcherId) : (r.delWatch service w).sessions.map f = r.sessions.map f := by
  have hleft : ∀ (i : Nat) (registry : Registry),
      (r.modify i fun s => { s with registry }).sessions.map f = r.sessions.map f :=
    fun i registry => r.map_sessions_modify_self i fun s _ => h.registry s registry
  unfold delWatch
  split
  · rfl
  · next i _ =>
    split
    · rfl
    · dsimp only
      split
      · exact hleft i _
      · exact hleft i _

theorem map_sessions_cancelOne (h : Session.Aspect f halt) (r : Resolver) (service : String)
    (i : Nat) :
    (r.cancelOne service i).sessions.map f = halted halt (· == i) (r.sessions.map f) := by
  apply List.ext_getElem?
  intro j
  change ((r.modify i Session.cancel).sessions.map f)[j]? = _
  rw [map_sessions_getElem?, modify_session?, halted_getElem?, map_sessions_getElem?]
  by_cases hij : i = j
  · subst hij
    rw [if_pos rfl, Option.map_map, Option.map_map]
    congr 1
    funext s
    simp [h.cancel]
  · rw [if_neg hij, Option.map_map]
    congr 1
    funext s
    simp [Ne.symm hij]

theorem map_sessions_proceed (h : Session.Aspect f halt) (r : Resolver) (service : String) :
    ∃ hit, (r.proceed service).1.sessions.map f = halted halt hit (r.sessions.map f) := by
  have hsame : ∀ {xs : List α}, xs = r.sessions.map f →
      ∃ hit, xs = halted halt hit (r.sessions.map f) :=
    fun heq => ⟨_, heq.trans (halted_none halt _).symm⟩
  rcases r.proceed_cases service with heq | ⟨i, w, -, heq⟩ | ⟨i, -, heq⟩ | ⟨i, -, heq⟩ |
    ⟨i, sessions, -, -, heq⟩
  · exact hsame (by rw [heq])
  · rw [heq]
    rcases r.register_cases service i w with ⟨-, hregister⟩ | ⟨-, hregister⟩
    · exact hsame (by rw [hregister]; exact map_sessions_join h r i w)
    · exact hsame (by rw [hregister]; exact map_sessions_join h r i w)
  · exact hsame (by rw [heq]; rfl)
  · rw [heq]
    exact ⟨_, map_sessions_cancelOne h r service i⟩
  · rw [heq]
    exact hsame (r.map_sessions_modify_self i fun s _ => h.registry s _)

theorem map_sessions_cancelAll (h : Session.Aspect f halt) (r : Resolver) :
    r.cancelAll.sessions.map f = halted halt (fun _ => true) (r.sessions.map f) := by
  simp only [cancelAll, halted_all, List.map_map]
  exact List.map_congr_left fun s _ => h.cancel s

theorem map_sessions_stop (h : Session.Aspect f halt) (r : Resolver) :
    ∃ hit, r.stop.sessions.map f = halted halt hit (r.sessions.map f) := by
  unfold stop
  split
  · exact ⟨_, (halted_none halt _).symm⟩
  · exact ⟨_, map_sessions_cancelAll h r⟩

/-- A call cancels some sessions, or begins one. -/
theorem map_sessions_call (h : Session.Aspect f halt) (r : Resolver) {e : Event}
    (he : e.isCall = true) :
    (∃ hit, (r.react e).1.sessions.map f = halted halt hit (r.sessions.map f)) ∨
    ∃ service, (r.react e).1.sessions.map f =
      r.sessions.map f ++ [f (r.newSession service (r.historyOf service))] := by
  have hsame : ∀ {xs : List α}, xs = r.sessions.map f →
      ∃ hit, xs = halted halt hit (r.sessions.map f) :=
    fun heq => ⟨_, heq.trans (halted_none halt _).symm⟩
  have hcall : ∀ call : Resolver → Resolver,
      (∃ hit, (call r).sessions.map f = halted halt hit (r.sessions.map f)) →
      ∃ hit, (r.whenFree call).sessions.map f = halted halt hit (r.sessions.map f) := by
    intro call hhit
    rcases r.whenFree_cases call with heq | ⟨-, heq⟩
    · exact hsame (by rw [heq])
    · rw [heq]
      exact hhit
  cases e with
  | watch service w =>
    have hreact : (r.react (.watch service w)).1 =
        r.whenFree fun r => (r.addWatch service w).1 := rfl
    rw [hreact]
    rcases r.whenFree_cases fun r => (r.addWatch service w).1 with heq | ⟨-, heq⟩
    · exact .inl (hsame (by rw [heq]))
    · rw [heq]
      exact (map_sessions_addWatch h r service w).imp hsame fun hbegun => ⟨service, hbegun⟩
  | unwatch service w =>
    exact .inl (hcall (·.delWatch service w) (hsame (map_sessions_delWatch h r service w)))
  | stop => exact .inl (hcall _ (map_sessions_stop h r))
  | drop => exact .inl (hcall _ ⟨_, map_sessions_cancelAll h r⟩)
  | proceed service => exact .inl (map_sessions_proceed h r service)
  | change c => exact Bool.noConfusion he
  | step t => exact Bool.noConfusion he
  | pass nanos => exact Bool.noConfusion he

end

end Resolver

end Lookout
