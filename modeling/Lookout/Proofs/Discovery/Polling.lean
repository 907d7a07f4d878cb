import Lookout.Discovery

/-!
# Polling

A poll first makes the discovery ready, which is to look at the channel if nothing is queued, and
then takes what is queued first (`poll_cases`). The changes that are still to come are those that
are queued and those of a snapshot not seen yet; polling on gives them one by one.
-/
set_option autoImplicit false

namespace Lookout.Discovery

/-! ## One poll -/

def Polled.change? : Polled → Option Change
  | .change c => some c
  | _ => none

/-- What a poll answers when there is no change to give. -/
def idle (c : Channel) : Polled := if c.closed then .ended else .pending

theorem change?_idle (c : Channel) : (idle c).change? = none := by
  cases h : c.closed <;> simp [idle, h, Polled.change?]

/-- The discovery when it takes its next change. With nothing queued it looks at the channel. -/
def ready (d : Discovery) (c : Channel) : Discovery :=
  match d.queue with
  | _ :: _ => d
  | [] => d.catchUp c

theorem ready_of_queue {d : Discovery} (h : d.queue ≠ []) (c : Channel) : d.ready c = d := by
  cases hqueue : d.queue with
  | nil => exact absurd hqueue h
  | cons change rest => simp [ready, hqueue]

theorem ready_of_nil {d : Discovery} (h : d.queue = []) (c : Channel) :
    d.ready c = d.catchUp c := by
  simp [ready, h]

section
variable (d : Discovery) (c : Channel)

theorem isBehind_eq_false : d.isBehind c = false ↔ d.seen? = some c.version := by
  simp [isBehind]

theorem poll_cases :
    (∃ change rest, (d.ready c).queue = change :: rest ∧
      d.poll c = ({ d.ready c with queue := rest }, .change change)) ∨
    ((d.ready c).queue = [] ∧ d.poll c = (d.ready c, idle c)) := by
  cases hqueue : d.queue with
  | cons change rest =>
    refine Or.inl ⟨change, rest, ?_⟩
    simp [ready, poll, hqueue]
  | nil =>
    rw [ready_of_nil hqueue]
    cases hnew : (d.catchUp c).queue with
    | cons change rest =>
      refine Or.inl ⟨change, rest, rfl, ?_⟩
      simp [poll, hqueue, hnew]
    | nil =>
      refine Or.inr ⟨rfl, ?_⟩
      simp [poll, hqueue, hnew, idle]

theorem catchUp_cases :
    (d.isBehind c = false ∧ d.catchUp c = d) ∨
    (d.isBehind c = true ∧ ∃ s, c.latest? = some s ∧
      d.catchUp c = { d with seen? := some c.version }.absorb s) ∨
    (d.isBehind c = true ∧ c.latest? = none ∧
      d.catchUp c = { d with seen? := some c.version }) := by
  cases hbehind : d.isBehind c with
  | false => exact Or.inl ⟨rfl, by simp [catchUp, hbehind]⟩
  | true =>
    cases hlatest : c.latest? with
    | some s => exact Or.inr (Or.inl ⟨rfl, s, rfl, by simp [catchUp, hbehind, hlatest]⟩)
    | none => exact Or.inr (Or.inr ⟨rfl, rfl, by simp [catchUp, hbehind, hlatest]⟩)

theorem isBehind_catchUp : (d.catchUp c).isBehind c = false := by
  obtain ⟨hbehind, heq⟩ | ⟨-, s, -, heq⟩ | ⟨-, -, heq⟩ := d.catchUp_cases c
  · rw [heq]
    exact hbehind
  · rw [heq]
    simp [isBehind, absorb]
  · rw [heq]
    simp [isBehind]

end

theorem isBehind_ready {d : Discovery} {c : Channel} (h : (d.ready c).queue = []) :
    (d.ready c).isBehind c = false := by
  by_cases hqueue : d.queue = []
  · rw [ready_of_nil hqueue]
    exact d.isBehind_catchUp c
  · rw [ready_of_queue hqueue] at h
    exact absurd h hqueue

/-! ## Polling on -/

/-- The changes that a snapshot not seen yet will make. -/
def unseen (d : Discovery) (c : Channel) : List Change :=
  if d.isBehind c then c.latest?.elim [] fun s => changes d.known (byKey s) else []

/-- The changes that are still to come. -/
def remaining (d : Discovery) (c : Channel) : List Change := d.queue ++ d.unseen c

section
variable {d : Discovery} {c : Channel}

theorem remaining_of_seen (h : d.isBehind c = false) : d.remaining c = d.queue := by
  simp [remaining, unseen, h]

theorem queue_catchUp : (d.catchUp c).queue = d.remaining c := by
  obtain ⟨hseen, heq⟩ | ⟨hbehind, s, hlatest, heq⟩ | ⟨hbehind, hlatest, heq⟩ := d.catchUp_cases c
  · rw [heq, remaining_of_seen hseen]
  · simp [heq, absorb, remaining, unseen, hbehind, hlatest]
  · simp [heq, remaining, unseen, hbehind, hlatest]

theorem remaining_ready : (d.ready c).remaining c = d.remaining c := by
  by_cases hqueue : d.queue = []
  · rw [ready_of_nil hqueue, remaining_of_seen (d.isBehind_catchUp c), queue_catchUp]
  · rw [ready_of_queue hqueue]

theorem poll_of_remaining_nil (h : d.remaining c = []) :
    ∃ after, d.poll c = (after, idle c) := by
  obtain ⟨change, rest, hqueue, -⟩ | ⟨-, hpoll⟩ := d.poll_cases c
  · rw [← remaining_ready, remaining, hqueue] at h
    cases h
  · exact ⟨_, hpoll⟩

theorem poll_of_remaining_cons {change : Change} {rest : List Change}
    (h : d.remaining c = change :: rest) :
    ∃ after, d.poll c = (after, .change change) ∧ after.remaining c = rest := by
  rw [← remaining_ready] at h
  obtain ⟨first, left, hqueue, hpoll⟩ | ⟨hqueue, -⟩ := d.poll_cases c
  · have hcons : first :: (left ++ (d.ready c).unseen c) = change :: rest := by
      rw [← h, remaining, hqueue, List.cons_append]
    injection hcons with hfirst hleft
    subst hfirst
    exact ⟨_, hpoll, hleft⟩
  · rw [remaining_of_seen (isBehind_ready hqueue), hqueue] at h
    cases h

/-- Who polls long enough gets every change to come, in order, and then learns that it is all. -/
theorem drain_answers (d : Discovery) (c : Channel) {limit : Nat}
    (h : (d.remaining c).length < limit) :
    (drain c limit d).2 = (d.remaining c).map .change ++ [idle c] := by
  induction limit generalizing d with
  | zero => cases h
  | succ limit ih =>
    cases hremaining : d.remaining c with
    | nil =>
      obtain ⟨after, hpoll⟩ := poll_of_remaining_nil hremaining
      cases hclosed : c.closed <;> simp [drain, hpoll, idle, hclosed]
    | cons change rest =>
      obtain ⟨after, hpoll, hafter⟩ := poll_of_remaining_cons hremaining
      have hlimit : (after.remaining c).length < limit := by
        rw [hremaining, List.length_cons] at h
        rw [hafter]
        omega
      have hrest := ih after hlimit
      simp [drain, hpoll, hrest, hafter]

end

end Lookout.Discovery
