import Lookout.Proofs.Backoff
import Lookout.Proofs.Consul.Signals
import Mathlib.Data.List.Induction

/-!
# The pace of polls

A poll that names index zero is answered at once, so whoever sent such polls one after the other
would never rest. Nobody does: an answer to a poll with index zero leaves another index to be named,
and after a failure there is a wait. How long a poll takes is up to the agent.
-/
set_option autoImplicit false

namespace Lookout.Consul

/-- How many of the outcomes, the latest ones, are failures. -/
def failuresInARow (outcomes : List Outcome) : Nat :=
  (outcomes.reverse.takeWhile fun o => o.index?.isNone).length

/-- A poll of which something came. -/
structure Poll where
  index : UInt64
  outcome : Outcome
  sentAt : Instant
  endedAt : Instant

def Poll.request (p : Poll) : Instant × UInt64 := (p.sentAt, p.index)

namespace Follower

/-- The polls of a follower who has those outcomes, with the times that the polls take, if the first
one is sent now. -/
def polls (f : Follower) (now : Instant) : List (Nat × Outcome) → List Poll
  | [] => []
  | (took, o) :: rest =>
    ⟨f.index, o, now, now + took⟩ ::
      (f.absorb o).1.polls (now + took + (f.absorb o).2.nanos) rest

/-- What a follower keeps is what the outcomes so far make of it. -/
structure Recalls (f : Follower) (past : List Outcome) : Prop where
  index : f.index = kept (answers past)
  failures : f.failures = failuresInARow past

end Follower

/-- What is expected of the polls of a follower. -/
structure Paced (polls : List Poll) : Prop where
  /-- A poll names zero or the index of the latest answer. -/
  names_latest : ∀ k p, polls[k]? = some p →
    p.index = 0 ∨ (answers ((polls.take k).map (·.outcome))).head? = some p.index
  after_answer : ∀ k p q index, polls[k]? = some p → polls[k + 1]? = some q →
    p.outcome = .answered index → q.sentAt = p.endedAt ∧ (p.index = 0 → q.index ≠ 0)
  after_failure : ∀ k p q, polls[k]? = some p → polls[k + 1]? = some q → p.outcome = .failed →
    q.sentAt = p.endedAt +
      (Backoff.standard.delay
        (failuresInARow ((polls.take (k + 1)).map (·.outcome)) - 1)).nanos
  /-- Between two polls that name zero there is another poll or a wait. -/
  apart : ∀ i j (p q : Poll), i < j → polls[i]? = some p → polls[j]? = some q →
    p.index = 0 → q.index = 0 →
    (∃ (k : Nat) (r : Poll), i < k ∧ k < j ∧ polls[k]? = some r ∧ r.index ≠ 0) ∨
    p.outcome = .failed ∧ p.endedAt + Backoff.standard.base.nanos ≤ q.sentAt

/-! ## Outcomes -/

theorem answers_concat (past : List Outcome) (o : Outcome) :
    answers (past ++ [o]) = o.index?.toList ++ answers past := by
  cases o <;> simp [answers, Outcome.index?]

theorem failuresInARow_failed (past : List Outcome) :
    failuresInARow (past ++ [.failed]) = failuresInARow past + 1 := by
  simp [failuresInARow, Outcome.index?]

theorem failuresInARow_answered (past : List Outcome) (index : UInt64) :
    failuresInARow (past ++ [.answered index]) = 0 := by
  simp [failuresInARow, Outcome.index?]

theorem kept_cases (history : List UInt64) :
    kept history = 0 ∨ history.head? = some (kept history) := by
  cases history with
  | nil => exact Or.inl rfl
  | cons last earlier =>
    unfold kept
    split
    · exact Or.inl rfl
    · exact Or.inr rfl

theorem base_le_delay (attempt : Nat) :
    Backoff.standard.base.nanos ≤ (Backoff.standard.delay attempt).nanos := by
  have hfits : Backoff.standard.Fits := Backoff.standard.fits_iff.2 (by decide)
  exact hfits.base_le_iff.2 (Or.inl (by decide)) attempt

namespace Follower

/-! ## One outcome -/

section
variable {f : Follower} {past : List Outcome}

theorem recalls_fresh : fresh.Recalls [] := ⟨rfl, rfl⟩

theorem Recalls.absorb (h : f.Recalls past) (o : Outcome) :
    (f.absorb o).1.Recalls (past ++ [o]) where
  index := by rw [index_absorb h.index o, answers_concat]
  failures := by
    cases o with
    | answered index => rw [failuresInARow_answered]; rfl
    | failed =>
      rw [failuresInARow_failed, ← h.failures]
      rfl

theorem Recalls.wait_failed (h : f.Recalls past) :
    (f.absorb .failed).2 =
      Backoff.standard.delay (failuresInARow (past ++ [.failed]) - 1) := by
  rw [failuresInARow_failed, Nat.add_sub_cancel, ← h.failures]
  rfl

/-- An answer to a poll with index zero leaves its own index. -/
theorem index_absorb_answered {index : UInt64} (hf : f.index = 0) :
    (f.absorb (.answered index)).1.index = index := by
  change (if index < f.index then 0 else index) = index
  rw [hf]
  split
  · next hlt => simp at hlt
  · rfl

/-! ## Many outcomes -/

theorem Recalls.absorbAll (h : f.Recalls past) (outcomes : List Outcome) :
    (f.absorbAll outcomes).Recalls (past ++ outcomes) := by
  induction outcomes generalizing f past with
  | nil => simpa [Follower.absorbAll] using h
  | cons o rest ih =>
    have hrest := ih (h.absorb o)
    rwa [List.append_assoc] at hrest

theorem le_sentAt {now : Instant} {trips : List (Nat × Outcome)} {p : Poll}
    (hp : p ∈ f.polls now trips) : now ≤ p.sentAt := by
  induction trips generalizing f now with
  | nil => cases hp
  | cons trip rest ih =>
    rcases List.mem_cons.1 hp with rfl | hrest
    · exact Nat.le_refl now
    · have hbefore : now ≤ now + trip.1 + (f.absorb trip.2).2.nanos :=
        Nat.le_trans (Nat.le_add_right _ _) (Nat.le_add_right _ _)
      exact Nat.le_trans hbefore (ih hrest)

/-- A poll is sent by a follower who has taken in what came of the polls before, and so are those
after it. -/
theorem polls_split {now : Instant} {trips : List (Nat × Outcome)} {k : Nat} {p : Poll}
    (hp : (f.polls now trips)[k]? = some p) :
    ∃ front rest,
      ((f.polls now trips).take k).map (·.outcome) = front ∧
      p.index = (f.absorbAll front).index ∧
      (f.polls now trips).drop (k + 1) =
        ((f.absorbAll front).absorb p.outcome).1.polls
          (p.endedAt + ((f.absorbAll front).absorb p.outcome).2.nanos) rest := by
  induction trips generalizing f now k with
  | nil => cases hp
  | cons trip rest ih =>
    obtain ⟨took, o⟩ := trip
    cases k with
    | zero =>
      obtain rfl := Option.some.inj hp
      exact ⟨[], rest, rfl, rfl, rfl⟩
    | succ k =>
      obtain ⟨front, later, hfront, hindex, hdrop⟩ := ih hp
      exact ⟨o :: front, later, congrArg (o :: ·) hfront, hindex, hdrop⟩

theorem outcome_mem_of_polls {now : Instant} {trips : List (Nat × Outcome)} {p : Poll}
    (hp : p ∈ f.polls now trips) : p.outcome ∈ trips.map Prod.snd := by
  induction trips generalizing f now with
  | nil => cases hp
  | cons trip rest ih =>
    rcases List.mem_cons.1 hp with rfl | hrest
    · exact List.mem_cons_self
    · exact List.mem_cons_of_mem _ (ih hrest)

theorem head_polls {now : Instant} {trips : List (Nat × Outcome)} {q : Poll}
    (hq : (f.polls now trips)[0]? = some q) : q.index = f.index ∧ q.sentAt = now := by
  cases trips with
  | nil => cases hq
  | cons trip rest =>
    obtain rfl := Option.some.inj hq
    exact ⟨rfl, rfl⟩

theorem exists_sender {now : Instant} {trips : List (Nat × Outcome)} {k : Nat} {p q : Poll}
    (hp : (fresh.polls now trips)[k]? = some p) (hq : (fresh.polls now trips)[k + 1]? = some q) :
    ∃ g : Follower, g.Recalls (((fresh.polls now trips).take k).map (·.outcome)) ∧
      p.index = g.index ∧ q.index = (g.absorb p.outcome).1.index ∧
      q.sentAt = p.endedAt + (g.absorb p.outcome).2.nanos := by
  obtain ⟨front, rest, hfront, hindex, hdrop⟩ := polls_split hp
  have hhead : ((fresh.polls now trips).drop (k + 1))[0]? = some q := by
    rw [List.getElem?_drop]
    exact hq
  rw [hdrop] at hhead
  exact ⟨fresh.absorbAll front, hfront ▸ recalls_fresh.absorbAll front, hindex, head_polls hhead⟩

theorem polls_after_answer {now : Instant} {trips : List (Nat × Outcome)}
    (htrips : .answered 0 ∉ trips.map Prod.snd) {k : Nat} {p q : Poll} {index : UInt64}
    (hp : (fresh.polls now trips)[k]? = some p) (hq : (fresh.polls now trips)[k + 1]? = some q)
    (houtcome : p.outcome = .answered index) :
    q.sentAt = p.endedAt ∧ (p.index = 0 → q.index ≠ 0) := by
  obtain ⟨g, -, hindex, hnext, hsent⟩ := exists_sender hp hq
  rw [houtcome] at hnext hsent
  refine ⟨hsent, ?_⟩
  intro hzero hnextzero
  rw [index_absorb_answered (hindex ▸ hzero)] at hnext
  obtain rfl : index = 0 := hnext ▸ hnextzero
  exact htrips (houtcome ▸ outcome_mem_of_polls (List.mem_of_getElem? hp))

theorem polls_after_failure {now : Instant} {trips : List (Nat × Outcome)} {k : Nat} {p q : Poll}
    (hp : (fresh.polls now trips)[k]? = some p) (hq : (fresh.polls now trips)[k + 1]? = some q)
    (houtcome : p.outcome = .failed) :
    q.sentAt = p.endedAt +
      (Backoff.standard.delay
        (failuresInARow (((fresh.polls now trips).take (k + 1)).map (·.outcome)) - 1)).nanos := by
  obtain ⟨g, hg, -, -, hsent⟩ := exists_sender hp hq
  have hpast : ((fresh.polls now trips).take (k + 1)).map (·.outcome) =
      ((fresh.polls now trips).take k).map (·.outcome) ++ [.failed] := by
    rw [List.take_add_one, hp, List.map_append, ← houtcome]
    rfl
  rw [hsent, houtcome, hg.wait_failed, hpast]

theorem polls_wait {now : Instant} {trips : List (Nat × Outcome)} {i j : Nat} {p q : Poll}
    (hij : i < j) (hp : (fresh.polls now trips)[i]? = some p)
    (hq : (fresh.polls now trips)[j]? = some q) (houtcome : p.outcome = .failed) :
    p.endedAt + Backoff.standard.base.nanos ≤ q.sentAt := by
  obtain ⟨front, rest, -, -, hdrop⟩ := polls_split hp
  have hlater : q ∈ (fresh.polls now trips).drop (i + 1) := by
    refine List.mem_of_getElem? (i := j - (i + 1)) ?_
    rw [List.getElem?_drop, Nat.add_sub_of_le hij]
    exact hq
  rw [hdrop, houtcome] at hlater
  have hwait := base_le_delay (fresh.absorbAll front).failures
  exact Nat.le_trans (Nat.add_le_add_left hwait _) (le_sentAt hlater)

theorem paced_polls (now : Instant) {trips : List (Nat × Outcome)}
    (htrips : .answered 0 ∉ trips.map Prod.snd) : Paced (fresh.polls now trips) where
  names_latest := by
    intro k p hp
    obtain ⟨front, -, hfront, hindex, -⟩ := polls_split hp
    rw [hfront, hindex, (recalls_fresh.absorbAll front).index]
    exact kept_cases (answers front)
  after_answer := fun k p q index hp hq => polls_after_answer htrips hp hq
  after_failure := fun k p q hp hq => polls_after_failure hp hq
  apart := by
    intro i j p q hij hp hq hzero hqzero
    cases houtcome : p.outcome with
    | failed => exact Or.inr ⟨rfl, polls_wait hij hp hq houtcome⟩
    | answered index =>
      -- The very next poll names another index, so it is not the one that names zero again.
      have hbound : i + 1 < (fresh.polls now trips).length :=
        Nat.lt_of_le_of_lt hij (List.getElem?_eq_some_iff.1 hq).1
      have hr := List.getElem?_eq_getElem hbound
      have hother := (polls_after_answer htrips hp hr houtcome).2 hzero
      refine Or.inl ⟨i + 1, _, Nat.lt_succ_self i, ?_, hr, hother⟩
      refine Nat.lt_of_le_of_ne hij ?_
      rintro rfl
      exact hother ((Option.some.inj (hr.symm.trans hq)) ▸ hqzero)

/-- The requests of a follower are its polls, each of which comes to its end at once. Of the last
one nothing has come yet. -/
theorem requests_run (end? : Option Instant) (now : Instant) (outcomes : List Outcome)
    (f : Follower) :
    ∃ n, (end? = none → n = outcomes.length + 1) ∧
      (run end? now outcomes f).1 =
        ((f.polls now ((outcomes ++ [Outcome.failed]).map (Prod.mk 0))).take n).map
          Poll.request := by
  induction outcomes generalizing now f with
  | nil =>
    unfold run
    split
    · next hend =>
      refine ⟨0, ?_, rfl⟩
      rintro rfl
      cases hend
    · exact ⟨1, fun _ => rfl, rfl⟩
  | cons o rest ih =>
    unfold run
    split
    · next hend =>
      refine ⟨0, ?_, rfl⟩
      rintro rfl
      cases hend
    · obtain ⟨n, hall, hrequests⟩ := ih (now + (f.absorb o).2.nanos) (f.absorb o).1
      refine ⟨n + 1, fun hnone => congrArg (· + 1) (hall hnone), ?_⟩
      exact congrArg ((now, f.index) :: ·) hrequests

end

end Follower

/-- Whatever the replies are and however long they take: a poll names zero or the index of the
latest answer, an answer to a poll that names zero leaves another index, and after a failure there
is the wait that belongs to so many failures in a row. So between two polls that name zero there is
a poll that does not, or a wait no shorter than the first one. The requests of a follower whose
polls come to their ends at once are such polls. -/
theorem polls_are_paced (now : Instant) (replies : List (Nat × Option Response)) :
    Paced (Follower.fresh.polls now (replies.map fun r => (r.1, outcomeOf r.2))) ∧
    ∀ (end? : Option Instant) (outcomes : List Outcome),
      ∃ n, (end? = none → n = outcomes.length + 1) ∧
        (Follower.run end? now outcomes .fresh).1 =
          ((Follower.fresh.polls now ((outcomes ++ [Outcome.failed]).map (Prod.mk 0))).take n).map
            Poll.request := by
  refine ⟨Follower.paced_polls now ?_, fun end? outcomes => ?_⟩
  · intro hzero
    rw [List.map_map] at hzero
    obtain ⟨reply, -, hreply⟩ := List.mem_map.1 hzero
    exact outcomeOf_ne_zero reply.2 hreply
  · exact Follower.requests_run end? now outcomes .fresh

end Lookout.Consul
