import Lookout.Dict.Lemmas
import Lookout.Discovery
import Lookout.Proofs.Endpoint
import Mathlib.Data.List.Basic

/-!
# Replaying changes

Whoever follows a discovery has a set of its own and performs every change on it. A comparison of
two sets names every key at most once, so under a key a replay leaves what that one change says, and
without one what was there (`find?_replay`, `changes_filter_key`). A set that agreed with what is
known thus comes to agree with what is next.
-/
set_option autoImplicit false

namespace Lookout

namespace Change

def key : Change → String
  | .insert key _ => key
  | .remove key => key

/-- What it leaves under its key. -/
def outcome? : Change → Option Endpoint
  | .insert _ e => some e
  | .remove _ => none

def perform (set : Dict Endpoint) : Change → Dict Endpoint
  | .insert key e => set.insert key e
  | .remove key => set.erase key

theorem find?_perform (set : Dict Endpoint) (c : Change) (key : String) :
    (perform set c).find? key = if key = c.key then c.outcome? else set.find? key := by
  cases c with
  | insert k e => exact set.find?_insert k key e
  | remove k => exact set.find?_erase k key

end Change

namespace Discovery

def replay (changes : List Change) (set : Dict Endpoint) : Dict Endpoint :=
  changes.foldl Change.perform set

theorem replay_append (first second : List Change) (set : Dict Endpoint) :
    replay (first ++ second) set = replay second (replay first set) := List.foldl_append

theorem find?_replay (changes : List Change) (set : Dict Endpoint) (key : String) :
    (replay changes set).find? key =
      ((changes.filter (·.key == key)).getLast?.map Change.outcome?).getD (set.find? key) := by
  induction changes generalizing set with
  | nil => rfl
  | cons c rest ih =>
    have hstep : replay (c :: rest) set = replay rest (c.perform set) := rfl
    rw [hstep, ih, Change.find?_perform]
    by_cases heq : key = c.key
    · subst heq
      cases h : (rest.filter (·.key == c.key)).getLast? with
      | none => simp [List.getLast?_cons, h]
      | some last => simp [List.getLast?_cons, h]
    · have hne : ¬ c.key = key := fun h => heq h.symm
      simp [heq, hne]

/-! ## The changes of one key -/

/-- What turns what is known under a key into what is next. -/
def change? (key : String) : Option Endpoint → Option Endpoint → Option Change
  | some _, none => some (.remove key)
  | none, none => none
  | old?, some e => if old?.any (·.same e) then none else some (.insert key e)

theorem changes_filter_key (known next : Dict Endpoint) (key : String) :
    (changes known next).filter (·.key == key) =
      (change? key (known.find? key) (next.find? key)).toList := by
  simp only [changes, Dict.keys, List.filter_append, List.filter_map, List.map_map]
  rw [List.filter_comm _ _ known.entries, List.filter_comm _ _ next.entries]
  simp only [Function.comp_def, Change.key]
  rw [Dict.entries_filter_key, Dict.entries_filter_key]
  cases hknown : known.find? key with
  | none =>
    cases hnext : next.find? key with
    | none => simp [change?]
    | some e => simp [change?, hknown]
  | some old =>
    cases hnext : next.find? key with
    | none => simp [change?, Dict.contains, hnext]
    | some e =>
      by_cases hsame : old.same e = true
      · simp [change?, Dict.contains, hnext, hknown, hsame]
      · simp [change?, Dict.contains, hnext, hknown, hsame]

/-! ## Agreement -/

/-- Nothing in either place, or the same endpoint in both. -/
def Match (a b : Option Endpoint) : Prop := Option.Rel (fun x y => x.same y = true) a b

/-- Both have the same keys, and under each of them the same endpoint. -/
def Agree (a b : Dict Endpoint) : Prop := ∀ key, Match (a.find? key) (b.find? key)

theorem Match.refl (a : Option Endpoint) : Match a a := by
  cases a with
  | none => exact .none
  | some e => exact .some e.same_refl

theorem Agree.refl (a : Dict Endpoint) : Agree a a := fun _ => Match.refl _

theorem Match.change? {held old? next? : Option Endpoint} (h : Match held old?) (key : String) :
    Match (((change? key old? next?).map Change.outcome?).getD held) next? := by
  cases next? with
  | none =>
    cases h with
    | none => exact .none
    | some _ => exact .none
  | some e =>
    cases h with
    | none => exact .some e.same_refl
    | @some x old hsame =>
      by_cases hkept : old.same e = true
      · have hnothing : Discovery.change? key (some old) (some e) = none := by
          simp [Discovery.change?, hkept]
        rw [hnothing]
        exact .some (Endpoint.same_trans hsame hkept)
      · have hinsert : Discovery.change? key (some old) (some e) = some (.insert key e) := by
          simp [Discovery.change?, hkept]
        rw [hinsert]
        exact .some e.same_refl

theorem Agree.changes {set known : Dict Endpoint} (h : Agree set known) (next : Dict Endpoint) :
    Agree (replay (changes known next) set) next := by
  intro key
  have hlast : (change? key (known.find? key) (next.find? key)).toList.getLast? =
      change? key (known.find? key) (next.find? key) := by
    cases change? key (known.find? key) (next.find? key) <;> rfl
  rw [find?_replay, changes_filter_key, hlast]
  exact (h key).change? key

end Discovery

end Lookout
