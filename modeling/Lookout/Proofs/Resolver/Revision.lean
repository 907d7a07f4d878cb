import Lookout.Proofs.Resolver.Orderly

/-!
# Revisions

The successful builds of a service are numbered from one on, over all its sessions: a build that
fails or is given up uses no number, and ending a session neither resets nor reuses one. The counter
has 64 bits, so this holds for as long as there are fewer than `2 ^ 64` successful builds.
-/
set_option autoImplicit false

namespace Lookout

namespace Ledger

theorem historyOf_insert {g g' : Ledger} {service : String} {h : History}
    (hinsert : g'.histories = g.histories.insert service h) (a : String) :
    g'.historyOf a = if a = service then h else g.historyOf a := by
  simp only [historyOf]
  rw [hinsert, Dict.find?_insert]
  split <;> rfl

theorem revision_insert {g g' : Ledger} {service : String} {last? : Option Snapshot}
    (hinsert : g'.histories = g.histories.insert service { g.historyOf service with last? })
    (a : String) : (g'.historyOf a).revision = (g.historyOf a).revision := by
  rw [historyOf_insert hinsert]
  split
  · next ha => rw [ha]
  · rfl

theorem Step.revision {g g' : Ledger} {ns : List Notice} (h : Step g ns g') (service : String) :
    (builds service ns = [] ∧
      (g'.historyOf service).revision = (g.historyOf service).revision) ∨
    ∃ s, builds service ns = [s] ∧ s.revision = (g.historyOf service).revision + 1 ∧
      (g'.historyOf service).revision = s.revision := by
  cases h with
  | quiet hns => exact Or.inl ⟨builds_quiet hns service, rfl⟩
  | begun a w hfree hopen hwatched => exact Or.inl ⟨rfl, revision_insert rfl service⟩
  | kept hcall => exact Or.inl ⟨rfl, revision_insert rfl service⟩
  | @built i d s hd hcancelled hready hrevision =>
    rw [builds_built]
    by_cases hservice : d.service = service
    · rw [if_pos hservice]
      refine Or.inr ⟨s, rfl, ?_, ?_⟩
      · rw [hrevision, hservice]
      · rw [historyOf_insert rfl, if_pos hservice.symm]
    · rw [if_neg hservice]
      refine Or.inl ⟨rfl, ?_⟩
      rw [historyOf_insert rfl, if_neg fun h => hservice h.symm]
  | delivered t hd => exact Or.inl ⟨builds_deliveryNotices service _ _ _ _, rfl⟩
  | _ => exact Or.inl ⟨rfl, rfl⟩

/-- The counter counts the successful builds, and each of them gets the next number. -/
theorem Reached.revisions {buffer : Nat} {ns : List Notice} {g : Ledger}
    (h : Reached buffer ns g) (service : String) :
    (builds service ns).map (·.revision) =
      (List.range' 1 (builds service ns).length).map UInt64.ofNat ∧
    (g.historyOf service).revision = UInt64.ofNat (builds service ns).length := by
  induction h with
  | create => exact ⟨rfl, rfl⟩
  | @step ns ms g g' _ hstep ih =>
    obtain ⟨hnumbered, hcounter⟩ := ih
    rw [builds_append]
    rcases hstep.revision service with ⟨hnone, hkept⟩ | ⟨s, hone, hrevision, hmoved⟩
    · rw [hnone, List.append_nil, hkept]
      exact ⟨hnumbered, hcounter⟩
    · have hnext : s.revision = UInt64.ofNat ((builds service ns).length + 1) := by
        rw [hrevision, hcounter, UInt64.ofNat_add]
        rfl
      rw [hone, List.length_append, List.map_append, hnumbered]
      refine ⟨?_, hmoved.trans hnext⟩
      rw [List.length_singleton, List.range'_1_concat, List.map_append, List.map_singleton,
        List.map_singleton, hnext, Nat.add_comm]

theorem Reached.revisions_toNat {buffer : Nat} {ns : List Notice} {g : Ledger}
    (h : Reached buffer ns g) {service : String}
    (hfew : (builds service ns).length < UInt64.size) :
    (builds service ns).map (·.revision.toNat) =
      List.range' 1 (builds service ns).length := by
  have hnumbered := congrArg (List.map UInt64.toNat) (h.revisions service).1
  rw [List.map_map, List.map_map] at hnumbered
  refine hnumbered.trans ?_
  refine List.map_congr_left ?_ |>.trans (List.map_id _)
  intro n hn
  obtain ⟨k, hk, rfl⟩ := List.mem_range'.1 hn
  have hsmall : 1 + 1 * k < UInt64.size := by omega
  exact UInt64.toNat_ofNat_of_lt hsmall

theorem Reached.builds_pairwise {buffer : Nat} {ns : List Notice} {g : Ledger}
    (h : Reached buffer ns g) {service : String}
    (hfew : (builds service ns).length < UInt64.size) :
    (builds service ns).Pairwise fun s t => s.revision < t.revision := by
  have hsorted : (List.range' 1 (builds service ns).length).Pairwise (· < ·) :=
    List.pairwise_lt_range'
  rw [← h.revisions_toNat hfew, List.pairwise_map] at hsorted
  exact hsorted.imp fun hlt => UInt64.lt_iff_toNat_lt.2 hlt

/-! ## Publications -/

def product? (service : String) (p : String × Option Snapshot) : Option Snapshot :=
  if p.1 = service then p.2 else none

/-- The snapshots of a service that are built and still to be published. -/
def unpublished (g : Ledger) (service : String) : List Snapshot :=
  g.ready.filterMap (product? service)

theorem filterMap_cons_toList {α β : Type} (f : α → Option β) (x : α) (xs : List α) :
    (x :: xs).filterMap f = (f x).toList ++ xs.filterMap f := by
  rw [List.filterMap_cons]
  cases f x <;> rfl

theorem filterMap_set_perm {α β : Type} (f : α → Option β) {xs : List α} {i : Nat} {x : α}
    (hx : xs[i]? = some x) (y : α) :
    ((xs.set i y).filterMap f ++ (f x).toList).Perm (xs.filterMap f ++ (f y).toList) := by
  obtain ⟨hlt, hget⟩ := List.getElem?_eq_some_iff.1 hx
  have hold : xs.filterMap f = (xs.take i).filterMap f ++
      ((f x).toList ++ (xs.drop (i + 1)).filterMap f) := by
    rw [← filterMap_cons_toList, ← hget, ← List.drop_eq_getElem_cons hlt, ← List.filterMap_append,
      List.take_append_drop]
  have hnew : (xs.set i y).filterMap f = (xs.take i).filterMap f ++
      ((f y).toList ++ (xs.drop (i + 1)).filterMap f) := by
    rw [List.set_eq_take_append_cons_drop, if_pos hlt, List.filterMap_append,
      filterMap_cons_toList]
  rw [hold, hnew]
  simp only [List.append_assoc]
  refine List.Perm.append_left _ (List.perm_append_comm.trans ?_)
  rw [← List.append_assoc]
  exact List.perm_append_comm.append_right _

theorem unpublished_set {g g' : Ledger} {i : Nat} {x y : String × Option Snapshot}
    (hx : g.ready[i]? = some x) (hready : g'.ready = g.ready.set i y) (service : String) :
    (g'.unpublished service ++ (product? service x).toList).Perm
      (g.unpublished service ++ (product? service y).toList) := by
  simp only [unpublished, hready]
  exact filterMap_set_perm _ hx y

/-- What is built is published or comes to be unpublished, and what is published was unpublished. -/
theorem Step.builds_perm {g g' : Ledger} {ns : List Notice} (h : Step g ns g') (service : String) :
    (g.unpublished service ++ builds service ns).Perm
      (publications service ns ++ g'.unpublished service) := by
  have hsame : ∀ {ms : List Notice} {g' : Ledger}, builds service ms = [] →
      publications service ms = [] → g'.unpublished service = g.unpublished service →
      (g.unpublished service ++ builds service ms).Perm
        (publications service ms ++ g'.unpublished service) := by
    intro ms g' hbuilt hpublished hready
    rw [hbuilt, hpublished, hready, List.append_nil]
    exact List.Perm.refl _
  cases h with
  | quiet hns => exact hsame (builds_quiet hns service) (publications_quiet hns service) rfl
  | begun a w hfree hopen hwatched =>
    refine hsame rfl rfl ?_
    simp [unpublished, begin, product?]
  | @built i d s hd hcancelled hready hrevision =>
    have hset : (g.build i d s).ready = g.ready.set i (d.service, some s) := rfl
    have hmoved := unpublished_set hready hset service
    have hnone : product? service (d.service, none) = none := by simp [product?]
    have hone : (product? service (d.service, some s)).toList =
        builds service [.built i d.service s] := by
      rw [builds_built]
      unfold product?
      split <;> rfl
    rw [hnone, hone] at hmoved
    rw [publications_built, List.nil_append]
    simpa using hmoved.symm
  | @published i d s hd hready =>
    have hset : (g.publish i d s).ready = g.ready.set i (d.service, none) := rfl
    have hmoved := unpublished_set hready hset service
    have hnone : product? service (d.service, none) = none := by simp [product?]
    have hone : (product? service (d.service, some s)).toList =
        publications service [.published i d.service s (d.registry.notify s).2] := by
      rw [publications_published]
      unfold product?
      split <;> rfl
    rw [hnone, hone] at hmoved
    rw [builds_published, List.append_nil]
    refine List.Perm.trans ?_ List.perm_append_comm
    simpa using hmoved.symm
  | delivered t hd =>
    exact hsame (builds_deliveryNotices service _ _ _ _)
      (publications_deliveryNotices service _ _ _ _) rfl
  | _ => exact hsame rfl rfl rfl

theorem Reached.builds_perm {buffer : Nat} {ns : List Notice} {g : Ledger}
    (h : Reached buffer ns g) (service : String) :
    (builds service ns).Perm (publications service ns ++ g.unpublished service) := by
  induction h with
  | create => exact List.Perm.refl _
  | @step ns ms g g' _ hstep ih =>
    rw [builds_append, publications_append, List.append_assoc]
    refine (ih.append_right _).trans ?_
    rw [List.append_assoc]
    exact (hstep.builds_perm service).append_left _

theorem Reached.publications_nodup {buffer : Nat} {ns : List Notice} {g : Ledger}
    (h : Reached buffer ns g) {service : String}
    (hfew : (builds service ns).length < UInt64.size) :
    ((publications service ns).map (·.revision)).Nodup := by
  have hbuilt : ((builds service ns).map (·.revision)).Nodup := by
    refine List.pairwise_map.2 ((h.builds_pairwise hfew).imp ?_)
    intro s t hlt heq
    exact UInt64.lt_irrefl _ (heq ▸ hlt)
  have hall := ((h.builds_perm service).map (·.revision)).nodup_iff.1 hbuilt
  rw [List.map_append] at hall
  exact (List.nodup_append.1 hall).1

theorem Reached.built_of_published {buffer : Nat} {ns : List Notice} {g : Ledger}
    (h : Reached buffer ns g) {service : String} {s : Snapshot}
    (hs : s ∈ publications service ns) : s ∈ builds service ns :=
  (h.builds_perm service).mem_iff.2 (List.mem_append_left _ hs)

end Ledger

namespace Resolver

variable (name : String) (config : ResolverConfig) (source : Source) (backoff : Backoff)
  (hooked : Bool) (stamp : String)

/-- The successful builds of a service have the revisions one, two and so on, whatever else happens
and whichever session they belong to; the service's counter has counted them and nothing else. -/
theorem builds_are_numbered (events : List Event) (service : String)
    (hfew : (builds service
      ((create name config source backoff hooked stamp).run events).2).length < UInt64.size) :
    (builds service ((create name config source backoff hooked stamp).run events).2).map
        (·.revision.toNat) =
      List.range' 1 (builds service
        ((create name config source backoff hooked stamp).run events).2).length ∧
    (((create name config source backoff hooked stamp).run events).1.historyOf
        service).revision.toNat =
      (builds service
        ((create name config source backoff hooked stamp).run events).2).length := by
  have hreached := Ledger.reached_run name config source backoff hooked stamp events
  refine ⟨hreached.revisions_toNat hfew, ?_⟩
  have hcounter := (hreached.revisions service).2
  exact (congrArg UInt64.toNat hcounter).trans (UInt64.toNat_ofNat_of_lt hfew)

/-- Three sessions of one service, the first with a build that fails. -/
theorem builds_are_numbered_over_sessions :
    (builds "a" ((create "r" (.create "n" ["http"]) (.memory .empty) .standard true "").run
      [.watch "a" "w", .proceed "a", .change (.failLists (some "down")), .step (.evaluate 0),
        .step (.evaluate 0), .change (.failLists none), .unwatch "a" "w", .proceed "a",
        .proceed "a", .proceed "a", .watch "a" "v", .proceed "a", .step (.evaluate 1),
        .step (.evaluate 1), .unwatch "a" "v", .proceed "a", .proceed "a", .proceed "a",
        .watch "a" "w", .proceed "a", .step (.evaluate 2), .step (.evaluate 2)]).2).map
      (·.revision.toNat) = [1, 2] := by
  have hnumbered := builds_are_numbered "r" (.create "n" ["http"]) (.memory .empty) .standard true
    "" [.watch "a" "w", .proceed "a", .change (.failLists (some "down")), .step (.evaluate 0),
        .step (.evaluate 0), .change (.failLists none), .unwatch "a" "w", .proceed "a",
        .proceed "a", .proceed "a", .watch "a" "v", .proceed "a", .step (.evaluate 1),
        .step (.evaluate 1), .unwatch "a" "v", .proceed "a", .proceed "a", .proceed "a",
        .watch "a" "w", .proceed "a", .step (.evaluate 2), .step (.evaluate 2)] "a" (by decide)
  exact hnumbered.1.trans (by decide)

end Resolver

end Lookout
