import Lookout.Consul

/-!
# Which answers are signalled

Whoever follows an index keeps one number: the index of the last answer, or zero. Zero stands for
two things, that nothing has been answered yet and that the count began anew. So it is not only the
first answer that has nothing to be compared with: an answer whose index is below that of the one
before is signalled itself, and the answer after it is not, whatever its index. What came after such
an answer is compared again.
-/
set_option autoImplicit false

namespace Lookout.Consul

def Outcome.index? : Outcome → Option UInt64
  | .answered index => some index
  | .failed => none

/-- The indices of the answers, the latest first. -/
def answers (outcomes : List Outcome) : List UInt64 := (outcomes.filterMap Outcome.index?).reverse

/-- By the latest of these answers, the latest first, the count began anew: its index is below that
of the answer before, and it was compared with it. -/
def startsOver : List UInt64 → Bool
  | next :: last :: earlier => next < last && !startsOver (last :: earlier)
  | _ => false

def kept (history : List UInt64) : UInt64 := if startsOver history then 0 else history.headD 0

theorem kept_cons (next : UInt64) (history : List UInt64) :
    kept (next :: history) = if next < kept history then 0 else next := by
  cases history with
  | nil => simp [kept, startsOver]
  | cons last earlier =>
    cases hover : startsOver (last :: earlier) with
    | true => simp [kept, startsOver, hover]
    | false => simp [kept, startsOver, hover]

namespace Follower

def heeds (f : Follower) : Outcome → Bool
  | .answered next => f.isChange next
  | .failed => false

def absorbAll (f : Follower) (outcomes : List Outcome) : Follower :=
  outcomes.foldl (fun f o => (f.absorb o).1) f

def offers (f : Follower) : List Outcome → List Bool
  | [] => []
  | o :: rest => f.heeds o :: (f.absorb o).1.offers rest

section
variable {f : Follower} {history : List UInt64}

/-! ## One answer -/

theorem index_absorb (hf : f.index = kept history) (o : Outcome) :
    (f.absorb o).1.index = kept (o.index?.toList ++ history) := by
  cases o with
  | answered next =>
    change (if next < f.index then 0 else next) = kept (next :: history)
    rw [kept_cons, hf]
  | failed => exact hf

theorem heeds_iff (hf : f.index = kept history) (hpos : 0 ∉ history) (o : Outcome) :
    f.heeds o = true ↔ ∃ next last earlier, o = .answered next ∧ history = last :: earlier ∧
      next ≠ last ∧ startsOver (last :: earlier) = false := by
  cases o with
  | failed => simp [heeds]
  | answered next =>
    cases history with
    | nil => simp [heeds, isChange, hf, kept, startsOver]
    | cons last earlier =>
      cases hover : startsOver (last :: earlier) with
      | true => simp [heeds, isChange, hf, kept, hover]
      | false =>
        have hlast : last ≠ 0 := fun hzero => hpos (by simp [hzero])
        have hchange : f.heeds (.answered next) = true ↔ next ≠ last := by
          simp [heeds, isChange, hf, kept, hover, hlast]
        rw [hchange]
        constructor
        · intro hne
          exact ⟨next, last, earlier, rfl, rfl, hne, hover⟩
        · rintro ⟨_, _, _, ⟨⟩, ⟨⟩, hne, -⟩
          exact hne

theorem subscription_absorb (f : Follower) (o : Outcome) :
    (f.absorb o).1.subscription =
      if f.heeds o then f.subscription.offer .changed else f.subscription := by
  cases o <;> rfl

/-! ## Many answers -/

theorem offers_iff (hf : f.index = kept history) (hpos : 0 ∉ history) {outcomes : List Outcome}
    (houtcomes : .answered 0 ∉ outcomes) (k : Nat) :
    (f.offers outcomes)[k]? = some true ↔
      ∃ next last earlier, outcomes[k]? = some (.answered next) ∧
        answers (outcomes.take k) ++ history = last :: earlier ∧ next ≠ last ∧
        startsOver (last :: earlier) = false := by
  induction outcomes generalizing f history k with
  | nil => simp [offers]
  | cons o rest ih =>
    cases k with
    | zero => simp [offers, answers, heeds_iff hf hpos]
    | succ k =>
      have hpos' : 0 ∉ o.index?.toList ++ history := by
        cases o with
        | failed => exact hpos
        | answered next =>
          have hnext : next ≠ 0 := fun hzero => houtcomes (by simp [hzero])
          simp [Outcome.index?, hnext.symm, hpos]
      have hanswers : answers (o :: rest.take k) ++ history =
          answers (rest.take k) ++ (o.index?.toList ++ history) := by
        cases o with
        | failed => rfl
        | answered next => simp [answers, Outcome.index?]
      rw [offers, List.getElem?_cons_succ, ih (index_absorb hf o) hpos'
        (fun hzero => houtcomes (List.mem_cons_of_mem _ hzero)), List.getElem?_cons_succ,
        List.take_succ_cons, hanswers]

theorem unread_absorbAll {m : Nat} (hm : m ≤ Subscription.capacity)
    (hunread : f.subscription.unread = List.replicate m .changed) (outcomes : List Outcome) :
    (f.absorbAll outcomes).subscription.unread =
      List.replicate (min (m + (f.offers outcomes).count true) Subscription.capacity)
        .changed := by
  induction outcomes generalizing f m with
  | nil => simp [absorbAll, offers, hunread, Nat.min_eq_left hm]
  | cons o rest ih =>
    have hsub := f.subscription_absorb o
    cases hheeds : f.heeds o with
    | false =>
      rw [hheeds, if_neg Bool.false_ne_true] at hsub
      have hrest := ih hm (by rw [hsub]; exact hunread)
      simpa [absorbAll, offers, hheeds] using hrest
    | true =>
      rw [hheeds, if_pos rfl] at hsub
      by_cases hroom : m < Subscription.capacity
      · have hoffered : (f.absorb o).1.subscription.unread =
            List.replicate (m + 1) .changed := by
          rw [hsub]
          simp [Subscription.offer, hunread, hroom, List.replicate_succ']
        have hrest := ih hroom hoffered
        simpa [absorbAll, offers, hheeds, Nat.add_assoc, Nat.add_comm 1] using hrest
      · have hfull : m = Subscription.capacity := by omega
        have hkept : (f.absorb o).1.subscription.unread = List.replicate m .changed := by
          rw [hsub]
          simp [Subscription.offer, hunread, hroom]
        have hrest := ih hm hkept
        subst hfull
        simpa [absorbAll, offers, hheeds] using hrest

theorem offers_take (f : Follower) (outcomes : List Outcome) (n : Nat) :
    f.offers (outcomes.take n) = (f.offers outcomes).take n := by
  induction outcomes generalizing f n with
  | nil => simp [offers]
  | cons o rest ih =>
    cases n with
    | zero => rfl
    | succ n => simp [offers, ih]

theorem run_eq_absorbAll (end? : Option Instant) (now : Instant) (outcomes : List Outcome)
    (f : Follower) :
    ∃ n, (run end? now outcomes f).2 = f.absorbAll (outcomes.take n) ∧
      (end? = none → outcomes.length ≤ n) := by
  induction outcomes generalizing now f with
  | nil =>
    refine ⟨0, ?_, fun _ => Nat.le_refl _⟩
    unfold run
    split <;> rfl
  | cons o rest ih =>
    unfold run
    split
    · next hend =>
      refine ⟨0, rfl, ?_⟩
      rintro rfl
      cases hend
    · obtain ⟨n, htaken, hall⟩ := ih (now + (f.absorb o).2.nanos) (f.absorb o).1
      refine ⟨n + 1, htaken, ?_⟩
      intro hnone
      exact Nat.succ_le_succ (hall hnone)

end

end Follower

/-! ## Replies -/

/-- What comes of a request that got this reply, or none. -/
def outcomeOf (reply? : Option Response) : Outcome := (reply?.map Response.outcome).getD .failed

theorem indexOf?_ne_zero {header : String} {index : UInt64} (h : indexOf? header = some index) :
    index ≠ 0 := by
  obtain ⟨n, hn, rfl⟩ := Option.map_eq_some_iff.1 h
  have hle : n ≤ UInt64.size - 1 := of_decide_eq_true (Option.filter_eq_some_iff.1 hn).2
  have hlt : max n 1 < UInt64.size := by
    simp only [UInt64.size] at hle ⊢
    omega
  intro hzero
  have hnat : max n 1 = 0 := by
    rw [← UInt64.toNat_ofNat_of_lt' hlt]
    exact congrArg UInt64.toNat hzero
  omega

theorem outcomeOf_ne_zero (reply? : Option Response) : outcomeOf reply? ≠ .answered 0 := by
  cases reply? with
  | none => simp [outcomeOf]
  | some r =>
    change r.outcome ≠ .answered 0
    unfold Response.outcome
    split
    · simp
    · split
      · next index hindex =>
        obtain ⟨header, -, hheader⟩ := Option.bind_eq_some_iff.1 hindex
        simpa using indexOf?_ne_zero hheader
      · simp

/-- A reply is signalled exactly if it is an answer whose index differs from that of the answer
before it, unless by that one the count began anew. What waits for a reader are the signals of the
replies that came in time, as many of them as fit. -/
theorem signalled_iff (replies : List (Option Response)) :
    let outcomes := replies.map outcomeOf
    let signalled := Follower.fresh.offers outcomes
    (∀ k, signalled[k]? = some true ↔
      ∃ next last earlier, outcomes[k]? = some (.answered next) ∧
        answers (outcomes.take k) = last :: earlier ∧ next ≠ last ∧
        startsOver (last :: earlier) = false) ∧
    ∀ end? now, ∃ n, (end? = none → outcomes.length ≤ n) ∧
      (Follower.run end? now outcomes .fresh).2.subscription.unread =
        List.replicate (min ((signalled.take n).count true) Subscription.capacity) .changed := by
  intro outcomes signalled
  refine ⟨?_, ?_⟩
  · intro k
    have hpositive : .answered 0 ∉ outcomes := by
      intro hzero
      obtain ⟨reply?, -, hreply⟩ := List.mem_map.1 hzero
      exact outcomeOf_ne_zero reply? hreply
    have hiff := Follower.offers_iff (f := .fresh) (show Follower.fresh.index = kept [] from rfl)
      List.not_mem_nil hpositive k
    rw [List.append_nil] at hiff
    exact hiff
  · intro end? now
    obtain ⟨n, htaken, hall⟩ := Follower.run_eq_absorbAll end? now outcomes .fresh
    refine ⟨n, hall, ?_⟩
    have hunread := Follower.unread_absorbAll (f := .fresh) (Nat.zero_le _) rfl (outcomes.take n)
    rw [htaken, hunread, Follower.offers_take, Nat.zero_add]

/-- Three answers with different indices, of which the second is lower than the first: the third one
is not signalled. -/
theorem change_after_restart_not_signalled :
    let outcomes := ["5", "3", "4"].map fun index => outcomeOf (some ⟨200, some index, ""⟩)
    outcomes = [.answered 5, .answered 3, .answered 4] ∧
    Follower.fresh.offers outcomes = [false, true, false] ∧
    (Follower.run none 0 outcomes .fresh).2.subscription.unread = [.changed] := by
  have houtcomes : (["5", "3", "4"].map fun index => outcomeOf (some ⟨200, some index, ""⟩)) =
      [.answered 5, .answered 3, .answered 4] := by rfl
  intro outcomes
  rw [show outcomes = _ from houtcomes]
  have hoffers : Follower.fresh.offers [.answered 5, .answered 3, .answered 4] =
      [false, true, false] := by decide
  obtain ⟨n, htaken, hall⟩ := Follower.run_eq_absorbAll none 0
    [.answered 5, .answered 3, .answered 4] .fresh
  refine ⟨rfl, hoffers, ?_⟩
  rw [htaken, List.take_of_length_le (hall rfl)]
  decide

end Lookout.Consul
