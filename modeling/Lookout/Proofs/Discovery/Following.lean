import Lookout.Proofs.Discovery.Polling
import Lookout.Proofs.Discovery.Replay
import Mathlib.Data.List.Dedup

/-!
# Following a channel

Snapshots are published to a channel, the channel is closed, and a discovery on it is polled, in any
order. The changes that were answered, together with those that are queued, always replay to what
the discovery knows; and what it knows is the latest snapshot once it has looked at it. So at every
poll that has no change to give, a follower has the latest snapshot.
-/
set_option autoImplicit false

namespace Lookout.Discovery

/-! ## What a snapshot comes to -/

def endpointsOf (last? : Option Snapshot) : List Endpoint := last?.elim [] Snapshot.endpoints

/-- What is known when a snapshot was compared last; without one nothing is. -/
structure Reflects (d : Discovery) (last? : Option Snapshot) : Prop where
  known : d.known = last?.elim ∅ byKey
  revision : d.revision = last?.elim 0 Snapshot.revision

theorem find?_byKey (s : Snapshot) (key : String) :
    (byKey s).find? key = (s.endpoints.filter (·.key == key)).getLast? := by
  rw [byKey, Dict.find?_ofList, List.filter_map, List.getLast?_map, Option.map_map]
  exact Option.map_id_apply

theorem Reflects.find?_known {d : Discovery} {last? : Option Snapshot} (h : d.Reflects last?)
    (key : String) :
    d.known.find? key = ((endpointsOf last?).filter (·.key == key)).getLast? := by
  rw [h.known]
  cases last? with
  | none => rfl
  | some s => exact find?_byKey s key

theorem Reflects.size_known {d : Discovery} {last? : Option Snapshot} (h : d.Reflects last?) :
    d.known.size = ((endpointsOf last?).map Endpoint.key).dedup.length := by
  have hsame : ∀ key, key ∈ d.known.keys ↔ key ∈ ((endpointsOf last?).map Endpoint.key).dedup := by
    intro key
    rw [Dict.mem_keys, h.find?_known, List.mem_dedup]
    simp
  have hperm := (List.perm_ext_iff_of_nodup d.known.keys_nodup (List.nodup_dedup _)).2 hsame
  have hsize : d.known.size = d.known.keys.length := (List.length_map _).symm
  exact hsize.trans hperm.length_eq

/-! ## Scenes -/

/-- A channel, a discovery on it and the changes that it has answered. One that is made later is
one that is not polled before. -/
structure Scene where
  channel : Channel
  discovery : Discovery
  emitted : List Change

inductive Event where
  | publish (s : Snapshot)
  | close
  /-- A look inside a poll that has not answered yet: others may publish before it answers. -/
  | look
  | poll

def Event.published? : Event → Option Snapshot
  | .publish s => some s
  | _ => none

def lastPublished? (events : List Event) : Option Snapshot :=
  (events.filterMap Event.published?).getLast?

theorem lastPublished?_cons (e : Event) (events : List Event) :
    lastPublished? (e :: events) = (lastPublished? events).or e.published? := by
  cases h : e.published? with
  | none => simp [lastPublished?, h]
  | some s =>
    cases hrest : (events.filterMap Event.published?).getLast? with
    | none => simp [lastPublished?, h, hrest, List.getLast?_cons]
    | some t => simp [lastPublished?, h, hrest, List.getLast?_cons]

namespace Scene

def start : Scene := ⟨.empty, .empty, []⟩

def answer (s : Scene) : Polled := (s.discovery.poll s.channel).2

def react (s : Scene) : Event → Scene
  | .publish snapshot => { s with channel := s.channel.publish snapshot }
  | .close => { s with channel := s.channel.close }
  | .look => { s with discovery := s.discovery.ready s.channel }
  | .poll =>
    { s with
      discovery := (s.discovery.poll s.channel).1
      emitted := s.emitted ++ s.answer.change?.toList }

def run (s : Scene) (events : List Event) : Scene := events.foldl react s

theorem react_latest? (s : Scene) (e : Event) :
    (s.react e).channel.latest? = e.published?.or s.channel.latest? := by
  cases e <;> rfl

theorem latest?_run (s : Scene) (events : List Event) :
    (s.run events).channel.latest? = (lastPublished? events).or s.channel.latest? := by
  induction events generalizing s with
  | nil => rfl
  | cons e rest ih =>
    have hstep : s.run (e :: rest) = (s.react e).run rest := rfl
    rw [hstep, ih, react_latest?, lastPublished?_cons, Option.or_assoc]

end Scene

/-! ## Following -/

structure Follows (s : Scene) : Prop where
  replayed : Agree (replay (s.emitted ++ s.discovery.queue) ∅) s.discovery.known
  counted : ∀ n, s.discovery.seen? = some n → n ≤ s.channel.version
  reflects : s.discovery.isBehind s.channel = false ∨ s.channel.latest? = none →
    s.discovery.Reflects s.channel.latest?

theorem follows_start : Follows .start where
  replayed := Agree.refl ∅
  counted n h := by cases h
  reflects _ := ⟨rfl, rfl⟩

namespace Follows

variable {s : Scene}

theorem publish (h : Follows s) (snapshot : Snapshot) :
    Follows { s with channel := s.channel.publish snapshot } where
  replayed := h.replayed
  counted n hseen := Nat.le_succ_of_le (h.counted n hseen)
  reflects hcurrent := by
    rcases hcurrent with hseen | hnone
    · have hle := h.counted _ ((isBehind_eq_false ..).1 hseen)
      simp only [Channel.publish] at hle
      omega
    · cases hnone

theorem catchUp (h : Follows s) :
    Follows { s with discovery := s.discovery.catchUp s.channel } := by
  obtain ⟨-, heq⟩ | ⟨-, snapshot, hlatest, heq⟩ | ⟨-, hlatest, heq⟩ :=
    s.discovery.catchUp_cases s.channel
  · rw [heq]
    exact h
  · rw [heq]
    refine ⟨?_, ?_, ?_⟩
    · have hchanges := h.replayed.changes (byKey snapshot)
      rw [← replay_append, List.append_assoc] at hchanges
      exact hchanges
    · intro n hseen
      cases hseen
      exact Nat.le_refl _
    · intro _
      rw [hlatest]
      exact ⟨rfl, rfl⟩
  · rw [heq]
    refine ⟨h.replayed, ?_, ?_⟩
    · intro n hseen
      cases hseen
      exact Nat.le_refl _
    · intro _
      have hbefore := h.reflects (Or.inr hlatest)
      exact ⟨hbefore.known, hbefore.revision⟩

theorem ready (h : Follows s) : Follows { s with discovery := s.discovery.ready s.channel } := by
  by_cases hqueue : s.discovery.queue = []
  · rw [ready_of_nil hqueue]
    exact h.catchUp
  · rw [ready_of_queue hqueue]
    exact h

theorem poll (h : Follows s) : Follows (s.react .poll) := by
  have hready := h.ready
  obtain ⟨change, rest, hqueue, hpoll⟩ | ⟨hqueue, hpoll⟩ := s.discovery.poll_cases s.channel
  · simp only [Scene.react, Scene.answer, hpoll, Polled.change?, Option.toList_some]
    refine ⟨?_, hready.counted, ?_⟩
    · have hreplayed := hready.replayed
      simp only [hqueue] at hreplayed
      simpa using hreplayed
    · intro hcurrent
      have hbefore := hready.reflects hcurrent
      exact ⟨hbefore.known, hbefore.revision⟩
  · have hnothing : s.answer.change? = none := by
      rw [Scene.answer, hpoll]
      exact change?_idle _
    simp only [Scene.react, hnothing, hpoll, Option.toList_none, List.append_nil]
    exact hready

theorem react (h : Follows s) (e : Event) : Follows (s.react e) := by
  cases e with
  | publish snapshot => exact h.publish snapshot
  | close => exact ⟨h.replayed, h.counted, h.reflects⟩
  | look => exact h.ready
  | poll => exact h.poll

theorem run (h : Follows s) (events : List Event) : Follows (s.run events) := by
  induction events generalizing s with
  | nil => exact h
  | cons e rest ih => exact ih (h.react e)

end Follows

/-! ## Rest -/

theorem at_rest {s : Scene} (h : s.answer.change? = none) :
    (s.react .poll).discovery.queue = [] ∧
      (s.react .poll).discovery.isBehind (s.react .poll).channel = false := by
  obtain ⟨change, rest, -, hpoll⟩ | ⟨hqueue, hpoll⟩ := s.discovery.poll_cases s.channel
  · rw [Scene.answer, hpoll] at h
    cases h
  · simp only [Scene.react, hpoll]
    exact ⟨hqueue, isBehind_ready hqueue⟩

/-- Whoever has been polled until there was no change knows what was published last. -/
theorem reflects_at_rest {events : List Event}
    (hrest : (Scene.start.run events).answer.change? = none) :
    (Scene.start.run (events ++ [.poll])).discovery.Reflects (lastPublished? events) := by
  have hlast : Scene.start.run (events ++ [.poll]) = (Scene.start.run events).react .poll := by
    simp [Scene.run]
  rw [hlast]
  have hfollows : Follows ((Scene.start.run events).react .poll) :=
    (follows_start.run events).react .poll
  have hlatest : ((Scene.start.run events).react .poll).channel.latest? =
      lastPublished? events := by
    rw [Scene.react_latest?, Scene.latest?_run]
    exact Option.or_none
  have hreflects := hfollows.reflects (Or.inl (at_rest hrest).2)
  rwa [hlatest] at hreflects

/-- Whenever a poll gives no change, the changes so far replay to the endpoints of the snapshot that
was published last, of several with one key the last. Their number is known, and the revision. -/
theorem replay_at_rest (events : List Event)
    (hrest : (Scene.start.run events).answer.change? = none) :
    let s := Scene.start.run (events ++ [.poll])
    let endpoints := endpointsOf (lastPublished? events)
    (∀ key, Match ((replay s.emitted ∅).find? key) (endpoints.filter (·.key == key)).getLast?) ∧
      s.discovery.known.size = (endpoints.map Endpoint.key).dedup.length ∧
      s.discovery.revision = (lastPublished? events).elim 0 Snapshot.revision := by
  intro s endpoints
  have hs : s = (Scene.start.run events).react .poll := by
    simp [s, Scene.run]
  have hfollows : Follows s := follows_start.run _
  obtain ⟨hqueue, hseen⟩ := at_rest hrest
  rw [← hs] at hqueue hseen
  have hlatest : s.channel.latest? = lastPublished? events := by
    rw [hs, Scene.react_latest?, Scene.latest?_run]
    exact Option.or_none
  have hreflects := hfollows.reflects (Or.inl hseen)
  rw [hlatest] at hreflects
  refine ⟨?_, hreflects.size_known, hreflects.revision⟩
  intro key
  have hreplayed := hfollows.replayed key
  rw [hqueue, List.append_nil, hreflects.find?_known] at hreplayed
  exact hreplayed

def near : Endpoint := ⟨"near", "grpc", "10.0.0.1:9000", ∅⟩
def far : Endpoint := ⟨"far", "grpc", "10.0.0.2:9000", ∅⟩
def farAgain : Endpoint := { far with attributes := Dict.empty.insert "zone" (.str "b") }

def snapshot (endpoints : List Endpoint) (revision : UInt64) : Snapshot :=
  ⟨endpoints, revision, ⟨"", "", "", 0, 0, "", ""⟩⟩

/-- The second snapshot is never seen, and the third while a change of the first is queued. -/
def overwritten : List Event :=
  [.publish (snapshot [near, far] 1), .poll, .publish (snapshot [] 2),
   .publish (snapshot [far, farAgain] 3), .poll, .poll, .poll]

theorem replay_at_rest_overwritten :
    (Scene.start.run overwritten).answer.change? = none ∧
      let s := Scene.start.run (overwritten ++ [.poll])
      Match ((replay s.emitted ∅).find? near.key) none ∧
        Match ((replay s.emitted ∅).find? far.key) (some farAgain) ∧
        s.discovery.known.size = 1 ∧ s.discovery.revision = 3 := by
  have hrest : (Scene.start.run overwritten).answer.change? = none := by decide +kernel
  obtain ⟨hreplay, hsize, hrevision⟩ := replay_at_rest overwritten hrest
  have hcount : ([far, farAgain].map Endpoint.key).dedup.length = 1 := by decide +kernel
  exact ⟨hrest, hreplay near.key, hreplay far.key, hsize.trans hcount, hrevision⟩

end Lookout.Discovery
