import Lookout.Proofs.Discovery.Following

/-!
# Changes that take effect

No change is idle: whoever follows a discovery has under the key of a removal something to remove,
and under the key of an insertion nothing, or an endpoint that is not the same. The changes come in
batches, one for every snapshot that is compared, and snapshots are compared in the order in which
they were published, each once at most. A batch is worked out against what is known, which the
follower has when all earlier batches are through, and names no key twice.
-/
set_option autoImplicit false

namespace Lookout

/-- Whether a change makes a difference to a set. The endpoints that are inserted are under their
own keys. -/
def Change.Effective (set : Dict Endpoint) : Change → Prop
  | .insert key e => e.key = key ∧ ∀ old, set.find? key = some old → old.same e = false
  | .remove key => (set.find? key).isSome = true

namespace Discovery

/-! ## One batch -/

/-- Removals come first and then insertions, each in the order of their keys, and no key comes
twice. -/
def InOrder (batch : List Change) : Prop :=
  ∃ (removed : List String) (inserted : List Endpoint),
    batch = removed.map .remove ++ inserted.map (fun e => .insert e.key e) ∧
    removed.Pairwise (· < ·) ∧ (inserted.map Endpoint.key).Pairwise (· < ·) ∧
    ∀ e ∈ inserted, e.key ∉ removed

theorem InOrder.nodup {batch : List Change} (h : InOrder batch) :
    (batch.map Change.key).Nodup := by
  obtain ⟨removed, inserted, rfl, hremoved, hinserted, happart⟩ := h
  have hkeys : (removed.map Change.remove ++ inserted.map fun e => Change.insert e.key e).map
      Change.key = removed ++ inserted.map Endpoint.key := by
    simp [Function.comp_def, Change.key]
  rw [hkeys]
  refine List.nodup_append.2 ⟨hremoved.nodup, hinserted.nodup, ?_⟩
  intro key hkey key' hkey' heq
  obtain ⟨e, he, rfl⟩ := List.mem_map.1 hkey'
  exact happart e he (heq ▸ hkey)

theorem key_of_find?_byKey {s : Snapshot} {key : String} {e : Endpoint}
    (h : (byKey s).find? key = some e) : e.key = key := by
  rw [find?_byKey] at h
  have hmem := List.mem_filter.1 (List.mem_of_getLast? h)
  exact beq_iff_eq.1 hmem.2

theorem inOrder_changes (known : Dict Endpoint) (s : Snapshot) :
    InOrder (changes known (byKey s)) := by
  let fresh := (byKey s).entries.filter fun e => !(known.find? e.1).any fun old => old.same e.2
  have hkey : ∀ entry ∈ fresh, entry.2.key = entry.1 := by
    intro entry hentry
    exact key_of_find?_byKey ((byKey s).find?_eq_some_of_mem (List.mem_filter.1 hentry).1)
  refine ⟨known.keys.filter fun k => !(byKey s).contains k, fresh.map Prod.snd, ?_, ?_, ?_, ?_⟩
  · rw [List.map_map, changes]
    congr 1
    refine List.map_congr_left ?_
    intro entry hentry
    simp only [Function.comp_apply, hkey entry hentry]
  · have hsorted : known.keys.Pairwise (· < ·) := List.pairwise_map.2 known.sorted
    exact hsorted.filter _
  · have hkeys : (fresh.map Prod.snd).map Endpoint.key = fresh.map Prod.fst := by
      rw [List.map_map]
      exact List.map_congr_left hkey
    rw [hkeys]
    exact List.pairwise_map.2 ((byKey s).sorted.filter _)
  · intro e he hremoved
    obtain ⟨entry, hentry, rfl⟩ := List.mem_map.1 he
    have hfound := (byKey s).find?_eq_some_of_mem (List.mem_filter.1 hentry).1
    have hgone := (List.mem_filter.1 hremoved).2
    rw [hkey entry hentry] at hgone
    simp [Dict.contains, hfound] at hgone

/-- What is worked out against the known makes a difference to all who agree with it. -/
theorem effective_of_mem_changes {set known : Dict Endpoint} (h : Agree set known) {s : Snapshot}
    {c : Change} (hc : c ∈ changes known (byKey s)) : c.Effective set := by
  rcases List.mem_append.1 hc with hremoval | hinsertion
  · obtain ⟨key, hkey, rfl⟩ := List.mem_map.1 hremoval
    obtain ⟨old, hold⟩ := Option.isSome_iff_exists.1
      (known.mem_keys.1 (List.mem_filter.1 hkey).1)
    have hmatch := h key
    rw [hold] at hmatch
    cases hheld : set.find? key with
    | none =>
      rw [hheld] at hmatch
      cases hmatch
    | some held => simp [Change.Effective, hheld]
  · obtain ⟨⟨key, e⟩, hentry, rfl⟩ := List.mem_map.1 hinsertion
    obtain ⟨hmem, hnew⟩ := List.mem_filter.1 hentry
    refine ⟨key_of_find?_byKey ((byKey s).find?_eq_some_of_mem hmem), ?_⟩
    intro held hheld
    have hmatch := h key
    rw [hheld] at hmatch
    cases hknown : known.find? key with
    | none =>
      rw [hknown] at hmatch
      cases hmatch
    | some old =>
      rw [hknown] at hmatch
      cases hmatch with
      | some hsame =>
        -- if what is held were the same as the new one, what is known would be so, too
        refine Bool.eq_false_iff.2 fun hkept => ?_
        have hagain := Endpoint.same_trans (Endpoint.same_symm hsame) hkept
        simp [hknown, hagain] at hnew

/-! ## Many batches -/

/-- Each change makes a difference to what those before it have left. -/
def AllEffective (set : Dict Endpoint) : List Change → Prop
  | [] => True
  | c :: rest => c.Effective set ∧ AllEffective (c.perform set) rest

theorem allEffective_append {set : Dict Endpoint} {first second : List Change} :
    AllEffective set (first ++ second) ↔
      AllEffective set first ∧ AllEffective (replay first set) second := by
  induction first generalizing set with
  | nil => simp [AllEffective, replay]
  | cons c rest ih =>
    have hstep : replay (c :: rest) set = replay rest (c.perform set) := rfl
    simp only [List.cons_append, AllEffective, ih, hstep, and_assoc]

theorem effective_congr {set set' : Dict Endpoint} {c : Change}
    (h : set'.find? c.key = set.find? c.key) : c.Effective set' ↔ c.Effective set := by
  cases c <;> simp only [Change.Effective, Change.key] at * <;> rw [h]

theorem allEffective_of_nodup {set : Dict Endpoint} {batch : List Change}
    (hnodup : (batch.map Change.key).Nodup) (h : ∀ c ∈ batch, c.Effective set) :
    AllEffective set batch := by
  induction batch generalizing set with
  | nil => trivial
  | cons c rest ih =>
    obtain ⟨hother, hrest⟩ := List.nodup_cons.1 hnodup
    refine ⟨h c List.mem_cons_self, ih hrest ?_⟩
    intro d hd
    have hne : d.key ≠ c.key := fun heq => hother (heq ▸ List.mem_map_of_mem hd)
    refine (effective_congr ?_).2 (h d (List.mem_cons_of_mem _ hd))
    rw [Change.find?_perform, if_neg hne]

/-- The changes that each of several snapshots makes, compared with the one before it. -/
def batches (known : Dict Endpoint) : List Snapshot → List (List Change)
  | [] => []
  | s :: rest => changes known (byKey s) :: batches (byKey s) rest

theorem batches_append (known : Dict Endpoint) (compared : List Snapshot) (s : Snapshot) :
    batches known (compared ++ [s]) =
      batches known compared ++ [changes (compared.getLast?.elim known byKey) (byKey s)] := by
  induction compared generalizing known with
  | nil => rfl
  | cons t rest ih =>
    simp only [List.cons_append, batches, ih, List.getLast?_cons]
    cases rest.getLast? <;> rfl

theorem inOrder_batches (known : Dict Endpoint) (compared : List Snapshot) :
    ∀ batch ∈ batches known compared, InOrder batch := by
  induction compared generalizing known with
  | nil => simp [batches]
  | cons s rest ih =>
    intro batch hbatch
    rcases List.mem_cons.1 hbatch with rfl | hlater
    · exact inOrder_changes known s
    · exact ih (byKey s) batch hlater

theorem allEffective_batches {set known : Dict Endpoint} (h : Agree set known)
    (compared : List Snapshot) : AllEffective set (batches known compared).flatten := by
  induction compared generalizing set known with
  | nil => trivial
  | cons s rest ih =>
    rw [batches, List.flatten_cons, allEffective_append]
    exact ⟨allEffective_of_nodup (inOrder_changes known s).nodup fun _ =>
      effective_of_mem_changes h, ih (h.changes (byKey s))⟩

/-! ## A run -/

def compared? (d : Discovery) (c : Channel) : Option Snapshot :=
  if d.queue.isEmpty && d.isBehind c then c.latest? else none

namespace Scene

def compared? (s : Scene) : Event → Option Snapshot
  | .publish _ | .close => none
  | .look | .poll => s.discovery.compared? s.channel

/-- The snapshots that are compared in a run. -/
def comparisons (s : Scene) : List Event → List Snapshot
  | [] => []
  | e :: rest => (s.compared? e).toList ++ comparisons (s.react e) rest

end Scene

/-- How a scene stands when these snapshots have been published and, of them, these compared. -/
structure Keeps (s : Scene) (published compared : List Snapshot) : Prop where
  changes : s.emitted ++ s.discovery.queue = (batches ∅ compared).flatten
  known : s.discovery.known = compared.getLast?.elim ∅ byKey
  latest : s.channel.latest? = published.getLast?
  version : s.channel.version = published.length
  seen : s.discovery.seen?.getD 0 ≤ published.length
  /-- Only what had been published at the last look has been compared. -/
  sublist : compared.Sublist (published.take (s.discovery.seen?.getD 0))

theorem keeps_start : Keeps .start [] [] :=
  ⟨rfl, rfl, rfl, rfl, Nat.le_refl _, List.Sublist.refl _⟩

namespace Keeps

variable {s : Scene} {published compared : List Snapshot}

theorem publish (h : Keeps s published compared) (t : Snapshot) :
    Keeps (s.react (.publish t)) (published ++ [t]) compared where
  changes := h.changes
  known := h.known
  latest := by simp [Scene.react, Channel.publish]
  version := by simp [Scene.react, Channel.publish, h.version]
  seen := by
    rw [List.length_append]
    exact Nat.le_add_right_of_le h.seen
  sublist := by
    have hkept : (published ++ [t]).take (s.discovery.seen?.getD 0) =
        published.take (s.discovery.seen?.getD 0) := List.take_append_of_le_length h.seen
    exact hkept ▸ h.sublist

theorem catchUp (h : Keeps s published compared) (hqueue : s.discovery.queue = []) :
    Keeps { s with discovery := s.discovery.catchUp s.channel } published
      (compared ++ (s.discovery.compared? s.channel).toList) := by
  obtain ⟨hseen, heq⟩ | ⟨hbehind, t, hlatest, heq⟩ | ⟨hbehind, hlatest, heq⟩ :=
    s.discovery.catchUp_cases s.channel
  · rw [heq, Discovery.compared?, hseen, Bool.and_false]
    simpa using h
  · have hcompared : s.discovery.compared? s.channel = some t := by
      simp [Discovery.compared?, hqueue, hbehind, hlatest]
    rw [heq, hcompared, Option.toList_some]
    have hpublished := h.latest
    rw [hlatest] at hpublished
    obtain ⟨front, hfront⟩ := List.getLast?_eq_some_iff.1 hpublished.symm
    -- the last look was at an earlier snapshot, or there has been none
    have hearlier : s.discovery.seen?.getD 0 ≤ front.length := by
      have hne : s.discovery.seen? ≠ some published.length := by
        rw [← h.version]
        simpa [isBehind] using hbehind
      have hle := h.seen
      rw [hfront, List.length_append, List.length_singleton] at hne hle
      cases hseen : s.discovery.seen? with
      | none => exact Nat.zero_le _
      | some n =>
        rw [hseen] at hne hle
        simp only [ne_eq, Option.some.injEq, Option.getD_some] at hne hle ⊢
        omega
    refine ⟨?_, ?_, hlatest.trans hpublished, h.version, ?_, ?_⟩
    · have hchanges := h.changes
      rw [hqueue, List.append_nil] at hchanges
      simp only [absorb, hqueue, List.nil_append]
      rw [batches_append, List.flatten_append, ← hchanges, ← h.known]
      simp
    · simp [absorb]
    · simp [absorb, h.version]
    · have hsublist := h.sublist
      rw [hfront, List.take_append_of_le_length hearlier] at hsublist
      have hall : published.take s.channel.version = front ++ [t] := by
        rw [h.version, List.take_length, hfront]
      simp only [absorb, Option.getD_some]
      rw [hall]
      exact (hsublist.trans (List.take_sublist ..)).append (List.Sublist.refl _)
  · have hcompared : s.discovery.compared? s.channel = none := by
      simp [Discovery.compared?, hlatest]
    have hpublished := h.latest
    rw [hlatest, eq_comm, List.getLast?_eq_none_iff] at hpublished
    have hsublist := h.sublist
    rw [hpublished, List.take_nil, List.sublist_nil] at hsublist
    rw [heq, hcompared, Option.toList_none, List.append_nil]
    refine ⟨h.changes, h.known, h.latest, h.version, ?_, ?_⟩
    · simp [h.version]
    · rw [hsublist]
      exact List.nil_sublist _

theorem ready (h : Keeps s published compared) :
    Keeps { s with discovery := s.discovery.ready s.channel } published
      (compared ++ (s.discovery.compared? s.channel).toList) := by
  cases hqueue : s.discovery.queue with
  | nil =>
    rw [ready_of_nil hqueue]
    exact h.catchUp hqueue
  | cons change rest =>
    have hbusy : s.discovery.queue ≠ [] := by simp [hqueue]
    rw [ready_of_queue hbusy, Discovery.compared?, hqueue]
    simpa using h

theorem poll (h : Keeps s published compared) :
    Keeps (s.react .poll) published (compared ++ (s.discovery.compared? s.channel).toList) := by
  have hready := h.ready
  obtain ⟨change, rest, hqueue, hpoll⟩ | ⟨hqueue, hpoll⟩ := s.discovery.poll_cases s.channel
  · simp only [Scene.react, Scene.answer, hpoll, Polled.change?, Option.toList_some]
    refine ⟨?_, hready.known, hready.latest, hready.version, hready.seen, hready.sublist⟩
    have hchanges := hready.changes
    simp only [hqueue] at hchanges
    simpa using hchanges
  · have hnothing : s.answer.change? = none := by
      rw [Scene.answer, hpoll]
      exact change?_idle _
    simp only [Scene.react, hnothing, hpoll, Option.toList_none, List.append_nil]
    exact hready

theorem react (h : Keeps s published compared) (e : Event) :
    Keeps (s.react e) (published ++ e.published?.toList)
      (compared ++ (s.compared? e).toList) := by
  cases e with
  | publish t => simpa [Event.published?, Scene.compared?] using h.publish t
  | close =>
    simp only [Event.published?, Scene.compared?, Option.toList_none, List.append_nil]
    exact ⟨h.changes, h.known, h.latest, h.version, h.seen, h.sublist⟩
  | look =>
    simp only [Event.published?, Scene.compared?, Option.toList_none, List.append_nil]
    exact h.ready
  | poll =>
    simp only [Event.published?, Scene.compared?, Option.toList_none, List.append_nil]
    exact h.poll

theorem run (h : Keeps s published compared) (events : List Event) :
    Keeps (s.run events) (published ++ events.filterMap Event.published?)
      (compared ++ s.comparisons events) := by
  induction events generalizing s published compared with
  | nil => simpa [Scene.run, Scene.comparisons] using h
  | cons e rest ih =>
    have hrest := ih (h.react e)
    have hpublished : e.published?.toList ++ rest.filterMap Event.published? =
        (e :: rest).filterMap Event.published? := by
      cases hp : e.published? <;> simp [hp]
    rw [List.append_assoc, List.append_assoc, hpublished] at hrest
    exact hrest

end Keeps

/-- Every change that is emitted makes a difference to what the changes before it replay to. The
changes are those of the snapshots that have been compared, which are some of those published in
their order; and the changes of one snapshot are first removals and then insertions, each in the
order of keys, with no key twice. -/
theorem emitted_take_effect (events : List Event) :
    let s := Scene.start.run events
    let compared := Scene.start.comparisons events
    (∀ before c after, s.emitted = before ++ c :: after → c.Effective (replay before ∅)) ∧
    s.emitted ++ s.discovery.queue = (batches ∅ compared).flatten ∧
    compared.Sublist (events.filterMap Event.published?) ∧
    ∀ batch ∈ batches ∅ compared, InOrder batch := by
  intro s compared
  have hkeeps := keeps_start.run events
  simp only [List.nil_append] at hkeeps
  refine ⟨?_, hkeeps.changes, ?_, inOrder_batches ∅ compared⟩
  · intro before c after hemitted
    have heffective := allEffective_batches (Agree.refl ∅) compared
    rw [← hkeeps.changes] at heffective
    have hfirst := (allEffective_append.1 heffective).1
    rw [show (Scene.start.run events).emitted = before ++ c :: after from hemitted] at hfirst
    exact (allEffective_append.1 hfirst).2.1
  · exact hkeeps.sublist.trans (List.take_sublist ..)

/-- One endpoint gets another name, which is no change, and the other one more attribute. -/
def relabelled : List Event :=
  [.publish (snapshot [near, far] 1), .poll, .poll,
   .publish (snapshot [{ near with name := "other" }, farAgain] 2), .poll, .poll]

theorem emitted_take_effect_of_relabelled :
    (Scene.start.run relabelled).emitted =
        [.insert near.key near, .insert far.key far] ++ .insert far.key farAgain :: [] ∧
      (Change.insert far.key farAgain).Effective
        (replay [.insert near.key near, .insert far.key far] ∅) := by
  have hemitted : (Scene.start.run relabelled).emitted =
      [.insert near.key near, .insert far.key far] ++ .insert far.key farAgain :: [] := rfl
  exact ⟨hemitted, (emitted_take_effect relabelled).1 _ _ _ hemitted⟩

end Discovery

end Lookout
