import Lookout.Proofs.Endpoint
import Lookout.Snapshot
import Mathlib.Data.List.Perm.Basic

/-!
# Snapshots that hold the same endpoints

`Snapshot.sameEndpoints` gives every endpoint of one snapshot the first partner among those of the
other that are left, and fills the gap with the last of them. Sameness is an equivalence, so neither
the choice of a partner nor the order of those that are left matters: the snapshots match if every
kind of endpoint occurs in both equally often, which is to say if one can be rearranged to agree
with the other endpoint by endpoint.
-/
set_option autoImplicit false

namespace Lookout

namespace Endpoint

def sameness : Setoid Endpoint where
  r a b := a.same b = true
  iseqv := ⟨same_refl, same_symm, same_trans⟩

/-- The endpoint up to sameness. -/
def kind (e : Endpoint) : Quotient sameness := Quotient.mk sameness e

theorem kind_eq_iff {a b : Endpoint} : a.kind = b.kind ↔ a.same b = true :=
  ⟨Quotient.exact, Quotient.sound (s := sameness)⟩

theorem key_eq_of_same {a b : Endpoint} (h : a.same b = true) : a.key = b.key := by
  obtain ⟨hprotocol, haddress, -⟩ := same_iff.1 h
  rw [key, key, hprotocol, haddress]

end Endpoint

namespace Snapshot

theorem removeAt_perm {cs : List Endpoint} {i : Nat} (h : i < cs.length) :
    (cs[i] :: removeAt cs i).Perm cs := by
  have hne : cs ≠ [] := List.ne_nil_of_length_pos (Nat.zero_lt_of_lt h)
  have hset : cs.set i (cs.getLast hne) ≠ [] := by simpa using hne
  have hremove : removeAt cs i = (cs.set i (cs.getLast hne)).dropLast := by
    simp [removeAt, List.getLast?_eq_some_getLast hne]
  -- the last endpoint is last after the exchange, too, even where it was exchanged for itself
  have hlast : (cs.set i (cs.getLast hne)).getLast hset = cs.getLast hne := by
    simp only [List.getLast_eq_getElem, List.getElem_set, List.length_set]
    split <;> rfl
  have hparts := List.dropLast_append_getLast hset
  rw [hlast, ← hremove] at hparts
  have hexchanged := List.set_perm_cons_eraseIdx h (cs.getLast hne)
  rw [← hparts] at hexchanged
  have hothers : (removeAt cs i).Perm (cs.eraseIdx i) :=
    (List.perm_cons _).1 (List.perm_append_comm.trans hexchanged)
  exact (hothers.cons _).trans (List.getElem_cons_eraseIdx_perm h)

theorem perm_of_removeSame? {e : Endpoint} {cs left : List Endpoint}
    (h : removeSame? e cs = some left) :
    (cs.map Endpoint.kind).Perm (e.kind :: left.map Endpoint.kind) := by
  obtain ⟨i, hfound, rfl⟩ := Option.map_eq_some_iff.1 h
  obtain ⟨hi, hsame, -⟩ := List.findIdx?_eq_some_iff_getElem.1 hfound
  rw [← Endpoint.kind_eq_iff.2 hsame, ← List.map_cons]
  exact ((removeAt_perm hi).map _).symm

theorem not_mem_of_removeSame? {e : Endpoint} {cs : List Endpoint} (h : removeSame? e cs = none) :
    e.kind ∉ cs.map Endpoint.kind := by
  intro hmem
  obtain ⟨c, hc, hkind⟩ := List.mem_map.1 hmem
  have hother := List.findIdx?_eq_none_iff.1 (Option.map_eq_none_iff.1 h) c hc
  rw [Endpoint.kind_eq_iff.1 hkind] at hother
  cases hother

theorem pairsOff_iff {es cs : List Endpoint} (h : es.length = cs.length) :
    pairsOff es cs = true ↔ (es.map Endpoint.kind).Perm (cs.map Endpoint.kind) := by
  induction es generalizing cs with
  | nil =>
    rw [List.eq_nil_of_length_eq_zero h.symm]
    simp [pairsOff]
  | cons e rest ih =>
    simp only [pairsOff, List.map_cons]
    split
    · next left hleft =>
      have hperm := perm_of_removeSame? hleft
      have hlength := hperm.length_eq
      simp only [List.length_map, List.length_cons] at hlength h
      rw [ih (by omega), hperm.congr_right, List.perm_cons]
    · next hnone =>
      simp only [Bool.false_eq_true, false_iff]
      intro hperm
      exact not_mem_of_removeSame? hnone (hperm.subset List.mem_cons_self)

theorem sameEndpoints_iff {s t : Snapshot} : s.sameEndpoints t = true ↔
    (s.endpoints.map Endpoint.kind).Perm (t.endpoints.map Endpoint.kind) := by
  simp only [sameEndpoints, Bool.and_eq_true, beq_iff_eq]
  constructor
  · rintro ⟨hlength, hpairs⟩
    exact (pairsOff_iff hlength).1 hpairs
  · intro hperm
    have hlength := hperm.length_eq
    rw [List.length_map, List.length_map] at hlength
    exact ⟨hlength, (pairsOff_iff hlength).2 hperm⟩

/-! ## Rearranging -/

theorem map_kind_eq_iff {as bs : List Endpoint} : as.map Endpoint.kind = bs.map Endpoint.kind ↔
    List.Forall₂ (fun a b => a.same b = true) as bs := by
  simp only [← List.forall₂_eq_eq_eq, List.forall₂_map_left_iff, List.forall₂_map_right_iff,
    Endpoint.kind_eq_iff]

theorem map_kind_perm_iff {as bs : List Endpoint} :
    (as.map Endpoint.kind).Perm (bs.map Endpoint.kind) ↔
      ∃ es : List Endpoint, es.Perm bs ∧ List.Forall₂ (fun a b => a.same b = true) as es := by
  have hcomp := congrFun (congrFun (List.eq_map_comp_perm Endpoint.kind)
    (as.map Endpoint.kind)) bs
  rw [← hcomp]
  constructor
  · rintro ⟨es, hkinds, hperm⟩
    exact ⟨es, hperm, map_kind_eq_iff.1 hkinds⟩
  · rintro ⟨es, hperm, hsame⟩
    exact ⟨es, map_kind_eq_iff.2 hsame, hperm⟩

theorem keys_eq_of_perm {s t : Snapshot}
    (h : (s.endpoints.map Endpoint.key).Perm (t.endpoints.map Endpoint.key)) : s.keys = t.keys := by
  have hsorted : ∀ u : Snapshot, u.keys.Pairwise fun a b => decide (a ≤ b) = true := by
    intro u
    refine List.pairwise_mergeSort ?_ ?_ _
    · intro a b c hab hbc
      exact decide_eq_true (String.le_trans (of_decide_eq_true hab) (of_decide_eq_true hbc))
    · intro a b
      simpa using String.le_total a b
  refine List.Perm.eq_of_pairwise ?_ (hsorted s) (hsorted t) ?_
  · intro a b _ _ hab hba
    exact String.le_antisymm (of_decide_eq_true hab) (of_decide_eq_true hba)
  · exact (List.mergeSort_perm _ _).trans (h.trans (List.mergeSort_perm _ _).symm)

/-- Two snapshots hold the same endpoints exactly if one can be rearranged to be the same as the
other, endpoint by endpoint. This is an equivalence, the order of the endpoints is of no consequence
on either side, and snapshots that hold the same endpoints have the same keys. -/
theorem sameEndpoints_iff_rearranged :
    (∀ s t : Snapshot, s.sameEndpoints t = true ↔
      ∃ es : List Endpoint, es.Perm t.endpoints ∧
        List.Forall₂ (fun a b => a.same b = true) s.endpoints es) ∧
    Equivalence (fun s t : Snapshot => s.sameEndpoints t = true) ∧
    (∀ s s' t t' : Snapshot, s.endpoints.Perm s'.endpoints → t.endpoints.Perm t'.endpoints →
      s.sameEndpoints t = s'.sameEndpoints t') ∧
    ∀ s t : Snapshot, s.sameEndpoints t = true → s.keys = t.keys := by
  refine ⟨?_, ⟨?_, ?_, ?_⟩, ?_, ?_⟩
  · intro s t
    exact sameEndpoints_iff.trans map_kind_perm_iff
  · intro s
    exact sameEndpoints_iff.2 (List.Perm.refl _)
  · intro s t h
    exact sameEndpoints_iff.2 (sameEndpoints_iff.1 h).symm
  · intro s t u hst htu
    exact sameEndpoints_iff.2 ((sameEndpoints_iff.1 hst).trans (sameEndpoints_iff.1 htu))
  · intro s s' t t' hs ht
    rw [Bool.eq_iff_iff, sameEndpoints_iff, sameEndpoints_iff, (hs.map _).congr_left,
      (ht.map _).congr_right]
  · intro s t h
    obtain ⟨es, hperm, hsame⟩ := map_kind_perm_iff.1 (sameEndpoints_iff.1 h)
    have hkeys : s.endpoints.map Endpoint.key = es.map Endpoint.key := by
      simp only [← List.forall₂_eq_eq_eq, List.forall₂_map_left_iff, List.forall₂_map_right_iff]
      exact hsame.imp fun _ _ => Endpoint.key_eq_of_same
    refine keys_eq_of_perm ?_
    rw [hkeys]
    exact hperm.map _

/-! Two endpoints that differ in their names and in the sign of a zero, and a third. -/

def minusZero : Double := ⟨0x8000000000000000, by decide⟩

def idle : Endpoint := ⟨"a", "grpc", "10.0.0.1:9000", Dict.empty.insert "load" (.real .zero)⟩
def idleAgain : Endpoint :=
  ⟨"b", "grpc", "10.0.0.1:9000", Dict.empty.insert "load" (.real minusZero)⟩
def busy : Endpoint := ⟨"c", "grpc", "10.0.0.2:9000", Dict.empty.insert "load" (.int 7)⟩

def holding (endpoints : List Endpoint) (revision : UInt64) : Snapshot :=
  ⟨endpoints, revision, ⟨"", "", "", 0, 0, "", ""⟩⟩

/-- Also with both in another order. -/
theorem sameEndpoints_of_rearranged_three :
    (holding [idle, busy, idleAgain] 1).sameEndpoints (holding [busy, idleAgain, idle] 2) = true ∧
    (holding [idleAgain, idle, busy] 1).sameEndpoints (holding [idle, busy, idleAgain] 2) = true ∧
    (holding [idleAgain, idle, busy] 1).keys = (holding [idle, busy, idleAgain] 2).keys := by
  obtain ⟨-, -, hmoved, hkeys⟩ := sameEndpoints_iff_rearranged
  have hsame : (holding [idle, busy, idleAgain] 1).sameEndpoints
      (holding [busy, idleAgain, idle] 2) = true := by decide +kernel
  have hleft : [idle, busy, idleAgain].Perm [idleAgain, idle, busy] :=
    (List.Perm.cons _ (List.Perm.swap ..)).trans (List.Perm.swap ..)
  have hright : [busy, idleAgain, idle].Perm [idle, busy, idleAgain] :=
    (List.Perm.cons _ (List.Perm.swap ..)).trans (List.Perm.swap ..)
  have hagain : (holding [idleAgain, idle, busy] 1).sameEndpoints
      (holding [idle, busy, idleAgain] 2) = true := by
    rw [← hmoved (holding [idle, busy, idleAgain] 1) (holding [idleAgain, idle, busy] 1)
      (holding [busy, idleAgain, idle] 2) (holding [idle, busy, idleAgain] 2) hleft hright]
    exact hsame
  exact ⟨hsame, hagain, hkeys _ _ hagain⟩

end Snapshot

end Lookout
