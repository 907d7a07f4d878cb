import Lookout.Debouncer.Wait

/-!
# Debouncers over time

A scene is a debouncer with a clock and with whoever waits for it, one at a time. Calls, waits,
looks of the one that waits and the passing of time come in any order, and a wait may be given up at
any time. The scene keeps an account of what was called and returned, and from the calls since the
last trigger alone `Past.due?` says which trigger is due. The flags of the debouncer never say
anything else: every operation keeps `Recalls`.
-/
set_option autoImplicit false

namespace Lookout.Debouncer

/-! ## Accounts -/

namespace Call

def isSignal : Call → Bool
  | .signal => true
  | _ => false

def isCompletion : Call → Bool
  | .complete => true
  | _ => false

def forced? : Call → Option Trigger
  | .force trigger => some trigger
  | _ => none

/-- Whether it asks for an evaluation. -/
def isRequest (c : Call) : Bool := c.isSignal || c.forced?.isSome

end Call

/-- The calls since the last trigger, or since the beginning. -/
structure Past where
  /-- There has been a trigger, so an evaluation was in flight when these calls began. -/
  triggered : Bool
  calls : List (Instant × Call)

namespace Past

def add (p : Past) (now : Instant) (c : Call) : Past := { p with calls := p.calls ++ [(now, c)] }

/-- What had been called by an instant. -/
def upTo (p : Past) (t : Instant) : Past := { p with calls := p.calls.filter fun c => c.1 ≤ t }

def isInFlight (p : Past) : Bool := p.triggered && p.calls.all fun c => !c.2.isCompletion

/-- Whether a signal came while the evaluation was in flight. -/
def isOverrun (p : Past) : Bool :=
  p.triggered && (p.calls.takeWhile fun c => !c.2.isCompletion).any fun c => c.2.isSignal

def isRequested (p : Past) : Bool := p.calls.any fun c => c.2.isRequest

def firstForce? (p : Past) : Option Trigger := p.calls.findSome? fun c => c.2.forced?

def lastSignal? (p : Past) : Option Instant :=
  (p.calls.filter fun c => c.2.isSignal).getLast?.map Prod.fst

/-- The trigger that is due at an instant: the first that was forced, else a catch-up for signals
during the evaluation, else a debounced one when the last signal is a full window old. -/
def due? (p : Past) (window : Duration) (now : Instant) : Option Trigger :=
  match p.firstForce? with
  | some trigger => some trigger
  | none =>
    if p.isOverrun then some .catchUp
    else if p.lastSignal?.any (· + window.nanos ≤ now) then some .debounced
    else none

theorem any_takeWhile_concat {α : Type} (keep p : α → Bool) (xs : List α) (x : α) :
    ((xs ++ [x]).takeWhile keep).any p =
      ((xs.takeWhile keep).any p || (xs.all keep && (keep x && p x))) := by
  induction xs with
  | nil => cases h : keep x <;> simp [h]
  | cons y xs ih =>
    cases hy : keep y with
    | true => simp [hy, ih, Bool.or_assoc]
    | false => simp [hy]

section
variable (p : Past) (now : Instant) (c : Call)

theorem firstForce?_add : (p.add now c).firstForce? = p.firstForce?.or c.forced? := by
  cases c <;> simp [firstForce?, add, Call.forced?, List.findSome?_append]

theorem lastSignal?_add :
    (p.add now c).lastSignal? = if c.isSignal then some now else p.lastSignal? := by
  cases c <;> simp [lastSignal?, add, Call.isSignal]

theorem isInFlight_add : (p.add now c).isInFlight = (p.isInFlight && !c.isCompletion) := by
  simp [isInFlight, add, Bool.and_assoc]

theorem isOverrun_add :
    (p.add now c).isOverrun = (p.isOverrun || (p.isInFlight && c.isSignal)) := by
  simp only [isOverrun, isInFlight, add]
  rw [any_takeWhile_concat, Bool.and_or_distrib_left, Bool.and_assoc]
  cases c <;> rfl

end

theorem isRequested_eq (p : Past) :
    p.isRequested = (p.lastSignal?.isSome || p.firstForce?.isSome) := by
  have hforced : p.firstForce?.isSome = p.calls.any fun c => c.2.forced?.isSome :=
    List.isSome_findSome? ..
  have hsignal : p.lastSignal?.isSome = p.calls.any fun c => c.2.isSignal := by
    rw [Bool.eq_iff_iff]
    simp [lastSignal?]
  rw [hforced, hsignal]
  simp only [isRequested, Call.isRequest]
  induction p.calls with
  | nil => rfl
  | cons c rest ih => simp [ih, Bool.or_assoc, Bool.or_left_comm]

theorem isRequested_of_isOverrun {p : Past} (h : p.isOverrun = true) : p.isRequested = true := by
  simp only [isOverrun, Bool.and_eq_true, List.any_eq_true] at h
  obtain ⟨-, c, hmem, hsignal⟩ := h
  have hcall : c ∈ p.calls := (List.takeWhile_sublist _).subset hmem
  refine List.any_eq_true.2 ⟨c, hcall, ?_⟩
  simp [Call.isRequest, hsignal]

end Past

/-! ## Looks -/

/-- What a look makes of the wake-up that is kept: only a waiter that slept uses it up. -/
def hear (d : Debouncer) : Waiter → Debouncer
  | .fresh => d
  | .parked _ => { d with bell := false }

theorem hear_due? (d : Debouncer) (w : Waiter) (now : Instant) :
    (d.hear w).due? now = d.due? now := by
  cases w <;> rfl

/-- A look that is not woken does nothing, and one that is woken returns what is due. -/
theorem poll_cases (d : Debouncer) (now : Instant) (w : Waiter) :
    (d.wakes now w = false ∧ d.poll now w = (d, .waiting w)) ∨
    (d.wakes now w = true ∧ d.due? now = none ∧
      d.poll now w = (d.hear w, .waiting (.parked d.deadline?))) ∨
    ∃ trigger, d.wakes now w = true ∧ d.due? now = some trigger ∧
      d.poll now w = ((d.hear w).fire, .fired trigger) := by
  cases hwakes : d.wakes now w with
  | false =>
    refine Or.inl ⟨rfl, ?_⟩
    simp [poll, hwakes]
  | true =>
    refine Or.inr ?_
    cases hdue : d.due? now with
    | none =>
      refine Or.inl ⟨rfl, rfl, ?_⟩
      have hheard := (d.hear_due? w now).trans hdue
      cases w <;> simp [poll, hwakes, hear] at hheard ⊢ <;> simp [hheard]
    | some trigger =>
      refine Or.inr ⟨trigger, rfl, rfl, ?_⟩
      have hheard := (d.hear_due? w now).trans hdue
      cases w <;> simp [poll, hwakes, hear] at hheard ⊢ <;> simp [hheard]

/-! ## Flags and accounts -/

/-- The flags of a debouncer are what the calls since the last trigger make of them. -/
structure Recalls (window : Duration) (d : Debouncer) (p : Past) : Prop where
  width : d.window = window
  forced : d.forced? = p.firstForce?
  inFlight : d.inFlight = p.isInFlight
  catchUp : d.catchUp = p.isOverrun
  /-- After an overrun the deadline may be that of a later signal, or none. -/
  deadline : p.isOverrun = false → d.deadline? = p.lastSignal?.map (· + window.nanos)

theorem recalls_create (window : Duration) : Recalls window (create window) ⟨false, []⟩ := by
  constructor <;> intros <;> rfl

section
variable {window : Duration} {d : Debouncer} {p : Past} (h : Recalls window d p)
include h

theorem Recalls.signal (now : Instant) : Recalls window (d.signal now) (p.add now .signal) := by
  have hforced : d.forced? = (p.add now .signal).firstForce? := by
    rw [Past.firstForce?_add, h.forced]
    exact Option.or_none.symm
  have hstill : d.inFlight = (p.add now .signal).isInFlight := by
    rw [Past.isInFlight_add, h.inFlight]
    exact (Bool.and_true _).symm
  have hover : (p.add now .signal).isOverrun = (p.isOverrun || p.isInFlight) := by
    rw [Past.isOverrun_add]
    exact congrArg _ (Bool.and_true _)
  unfold Debouncer.signal
  split
  · next hflag =>
    have hinFlight : p.isInFlight = true := h.inFlight.symm.trans hflag
    rw [hinFlight, Bool.or_true] at hover
    refine ⟨h.width, hforced, hstill, hover.symm, ?_⟩
    intro hnot
    rw [hover] at hnot
    contradiction
  · next hflag =>
    have hinFlight : p.isInFlight = false := h.inFlight ▸ Bool.eq_false_iff.2 hflag
    rw [hinFlight, Bool.or_false] at hover
    refine ⟨h.width, hforced, hstill, h.catchUp.trans hover.symm, ?_⟩
    intro _
    rw [Past.lastSignal?_add, h.width]
    rfl

theorem Recalls.other {e : Debouncer} {c : Call} (now : Instant) (hc : c.isSignal = false)
    (hwidth : e.window = d.window) (hforced : e.forced? = d.forced?.or c.forced?)
    (hinFlight : e.inFlight = (d.inFlight && !c.isCompletion)) (hcatchUp : e.catchUp = d.catchUp)
    (hdeadline : e.deadline? = d.deadline?) : Recalls window e (p.add now c) := by
  have hover : (p.add now c).isOverrun = p.isOverrun := by
    rw [Past.isOverrun_add, hc, Bool.and_false, Bool.or_false]
  refine ⟨hwidth.trans h.width, ?_, ?_, ?_, ?_⟩
  · rw [Past.firstForce?_add, hforced, h.forced]
  · rw [Past.isInFlight_add, hinFlight, h.inFlight]
  · rw [hover, hcatchUp, h.catchUp]
  · intro hnot
    rw [hover] at hnot
    rw [Past.lastSignal?_add, hc, hdeadline]
    exact h.deadline hnot

theorem Recalls.force (now : Instant) (trigger : Trigger) :
    Recalls window (d.force trigger) (p.add now (.force trigger)) := by
  have hfirst : (d.force trigger).forced? = d.forced?.or (some trigger) := by
    cases hforced : d.forced? <;> simp [Debouncer.force, hforced]
  exact h.other now rfl rfl hfirst (Bool.and_true _).symm rfl rfl

theorem Recalls.complete (now : Instant) : Recalls window d.complete (p.add now .complete) :=
  h.other now rfl rfl Option.or_none.symm (Bool.and_false _).symm rfl rfl

theorem Recalls.apply (now : Instant) (c : Call) :
    Recalls window (d.apply now c) (p.add now c) := by
  cases c with
  | signal => exact h.signal now
  | force trigger => exact h.force now trigger
  | complete => exact h.complete now

theorem Recalls.fire : Recalls window d.fire ⟨true, []⟩ :=
  ⟨h.width, rfl, rfl, rfl, fun _ => rfl⟩

theorem Recalls.hear (w : Waiter) : Recalls window (d.hear w) p := by
  cases w with
  | fresh => exact h
  | parked until? => exact ⟨h.width, h.forced, h.inFlight, h.catchUp, h.deadline⟩

theorem Recalls.due?_eq (now : Instant) : d.due? now = p.due? window now := by
  simp only [Debouncer.due?, Past.due?, h.forced, h.catchUp]
  cases p.firstForce? with
  | some trigger => rfl
  | none =>
    cases hover : p.isOverrun with
    | true => rfl
    | false =>
      rw [h.deadline hover]
      cases p.lastSignal? <;> rfl

theorem Recalls.isPending_eq : d.isPending = p.isRequested := by
  cases hover : p.isOverrun with
  | false =>
    rw [Past.isRequested_eq]
    simp only [isPending, h.forced, h.catchUp, hover, h.deadline hover, Option.isSome_map,
      Bool.or_false]
  | true =>
    rw [Past.isRequested_of_isOverrun hover]
    simp [isPending, h.catchUp, hover]

end

/-! ## Scenes -/

/-- A wait that ended with a trigger, and what had been called since the trigger before. -/
structure Round where
  began : Instant
  past : Past
  trigger : Trigger
  time : Instant

structure Scene where
  debouncer : Debouncer
  now : Instant
  /-- When the wait that is going on began, and how far the waiter is. -/
  wait? : Option (Instant × Waiter)
  past : Past
  /-- The waits that have ended with a trigger, the latest last. -/
  rounds : List Round

inductive Event where
  | call (c : Call)
  /-- A wait begins; one that is still going on is given up. -/
  | wait
  | giveUp
  | look
  | pass (nanos : Nat)

namespace Scene

def start (window : Duration) : Scene := ⟨create window, 0, none, ⟨false, []⟩, []⟩

/-- The waiter looks. When that gives a trigger the wait is over. -/
def look (s : Scene) : Scene × Option Trigger :=
  match s.wait? with
  | none => (s, none)
  | some (began, w) =>
    match s.debouncer.poll s.now w with
    | (d, .waiting w) => ({ s with debouncer := d, wait? := some (began, w) }, none)
    | (d, .fired trigger) =>
      ({ s with
          debouncer := d
          wait? := none
          past := ⟨true, []⟩
          rounds := s.rounds ++ [⟨began, s.past, trigger, s.now⟩] }, some trigger)

def react (s : Scene) : Event → Scene
  | .call c => { s with debouncer := s.debouncer.apply s.now c, past := s.past.add s.now c }
  | .wait => { s with wait? := some (s.now, .fresh) }
  | .giveUp => { s with wait? := none }
  | .look => s.look.1
  | .pass nanos => { s with now := s.now + nanos }

def run (s : Scene) (events : List Event) : Scene := events.foldl react s

@[simp]
theorem run_nil (s : Scene) : s.run [] = s := rfl

@[simp]
theorem run_cons (s : Scene) (e : Event) (rest : List Event) :
    s.run (e :: rest) = (s.react e).run rest := rfl

theorem run_keeps {P : Scene → Prop} (hstep : ∀ s e, P s → P (s.react e)) {s : Scene} (hs : P s)
    (events : List Event) : P (s.run events) := by
  induction events generalizing s with
  | nil => exact hs
  | cons e rest ih => exact ih (hstep s e hs)

theorem look_cases (s : Scene) :
    s.look = (s, none) ∨
    (∃ began w, s.wait? = some (began, w) ∧ s.debouncer.due? s.now = none ∧
      s.look = ({ s with
        debouncer := s.debouncer.hear w
        wait? := some (began, .parked s.debouncer.deadline?) }, none)) ∨
    ∃ began w trigger, s.wait? = some (began, w) ∧ s.debouncer.due? s.now = some trigger ∧
      s.look = ({ s with
        debouncer := (s.debouncer.hear w).fire
        wait? := none
        past := ⟨true, []⟩
        rounds := s.rounds ++ [⟨began, s.past, trigger, s.now⟩] }, some trigger) := by
  cases hwait : s.wait? with
  | none => exact Or.inl (by simp [look, hwait])
  | some wait =>
    obtain ⟨began, w⟩ := wait
    rcases s.debouncer.poll_cases s.now w with ⟨-, hpoll⟩ | ⟨-, hdue, hpoll⟩ |
      ⟨trigger, -, hdue, hpoll⟩
    · refine Or.inl ?_
      simp only [look, hwait, hpoll]
      cases s
      cases hwait
      rfl
    · refine Or.inr (Or.inl ⟨began, w, rfl, hdue, ?_⟩)
      simp only [look, hwait, hpoll]
    · refine Or.inr (Or.inr ⟨began, w, trigger, rfl, hdue, ?_⟩)
      simp only [look, hwait, hpoll]

end Scene

end Lookout.Debouncer
