import Lookout.Proofs.Source.Memory
import Lookout.Source.Memory.Run
import Mathlib.Data.List.Induction

/-!
# The registry in memory as a keyed store

Among the records of a service no two have one id, those without an id aside, as long as no list is
loaded in which two do. So to register a record with an id is to replace the one record of that id
where it stands, or to append; to take an id out is to take out its one record. Records without an
id are only ever appended.
-/
set_option autoImplicit false

namespace Lookout.Memory

/-- No two of the records have one id. Records without an id do not count. -/
def Keyed (records : List Record) : Prop :=
  records.Pairwise fun a b => a.instanceId = b.instanceId → a.instanceId = ""

instance (records : List Record) : Decidable (Keyed records) :=
  inferInstanceAs (Decidable (records.Pairwise _))

/-- In `m'` a record has been stored under a service of `m`. -/
structure Stored (m : Memory) (service : String) (r : Record) (m' : Memory) : Prop where
  replaced : ∀ k old, (m.recordsOf service)[k]? = some old → r.instanceId ≠ "" →
    old.instanceId = r.instanceId → m'.recordsOf service = (m.recordsOf service).set k r
  appended : (r.instanceId = "" ∨ ∀ old ∈ m.recordsOf service, old.instanceId ≠ r.instanceId) →
    m'.recordsOf service = m.recordsOf service ++ [r]
  others : ∀ a, a ≠ service → m'.recordsOf a = m.recordsOf a

/-- In `m'` the record with an id has been taken out of the list of a service of `m`, if one was
found. -/
structure TakenOut (m : Memory) (service instanceId : String) (m' : Memory) (found : Bool) :
    Prop where
  found_iff : found = true ↔ ∃ old ∈ m.recordsOf service, old.instanceId = instanceId
  erased : ∀ k old, (m.recordsOf service)[k]? = some old → old.instanceId = instanceId →
    m'.recordsOf service = (m.recordsOf service).eraseIdx k
  unchanged : found = false → m' = m
  others : ∀ a, a ≠ service → m'.recordsOf a = m.recordsOf a

/-! ## One list -/

section
variable {records : List Record} {r first old : Record} {k : Nat}

theorem place_eq_append (h : r.instanceId = "" ∨ ∀ old ∈ records, old.instanceId ≠ r.instanceId) :
    place r records = records ++ [r] := by
  induction records with
  | nil => rfl
  | cons first rest ih =>
    have hfirst : ¬(r.instanceId ≠ "" ∧ first.instanceId = r.instanceId) := by
      rintro ⟨hid, heq⟩
      rcases h with hnone | hnew
      · exact hid hnone
      · exact hnew first List.mem_cons_self heq
    have hrest : r.instanceId = "" ∨ ∀ old ∈ rest, old.instanceId ≠ r.instanceId :=
      h.imp_right fun hnew old hold => hnew old (List.mem_cons_of_mem _ hold)
    rw [place, if_neg hfirst, ih hrest, List.cons_append]

theorem mem_place (h : old ∈ place r records) : old = r ∨ old ∈ records := by
  induction records with
  | nil => exact Or.inl (List.mem_singleton.1 h)
  | cons first rest ih =>
    unfold place at h
    split at h
    · rcases List.mem_cons.1 h with rfl | hrest
      · exact Or.inl rfl
      · exact Or.inr (List.mem_cons_of_mem _ hrest)
    · rcases List.mem_cons.1 h with rfl | hplaced
      · exact Or.inr List.mem_cons_self
      · exact (ih hplaced).imp_right (List.mem_cons_of_mem _)

theorem keyed_cons_iff : Keyed (first :: records) ↔
    (∀ old ∈ records, first.instanceId = old.instanceId → first.instanceId = "") ∧
      Keyed records :=
  List.pairwise_cons

theorem Keyed.place (h : Keyed records) (r : Record) : Keyed (place r records) := by
  induction records with
  | nil => exact List.pairwise_singleton _ _
  | cons first rest ih =>
    obtain ⟨hfirst, hrest⟩ := keyed_cons_iff.1 h
    unfold Memory.place
    split
    · next hsame =>
      refine keyed_cons_iff.2 ⟨?_, hrest⟩
      intro old hold heq
      exact hsame.2 ▸ hfirst old hold (hsame.2.trans heq)
    · next hother =>
      refine keyed_cons_iff.2 ⟨?_, ih hrest⟩
      intro old hold heq
      rcases mem_place hold with rfl | hold
      · by_contra hid
        exact hother ⟨heq ▸ hid, heq⟩
      · exact hfirst old hold heq

theorem Keyed.filter (h : Keyed records) (p : Record → Bool) : Keyed (records.filter p) :=
  List.Pairwise.filter p h

theorem Keyed.place_eq_set (h : Keyed records) (hid : r.instanceId ≠ "")
    (hold : records[k]? = some old) (heq : old.instanceId = r.instanceId) :
    Memory.place r records = records.set k r := by
  induction records generalizing k with
  | nil => cases hold
  | cons first rest ih =>
    obtain ⟨hfirst, hrest⟩ := keyed_cons_iff.1 h
    cases k with
    | zero =>
      obtain rfl : first = old := by simpa using hold
      rw [Memory.place, if_pos ⟨hid, heq⟩, List.set_cons_zero]
    | succ k =>
      rw [List.getElem?_cons_succ] at hold
      have hother : ¬(r.instanceId ≠ "" ∧ first.instanceId = r.instanceId) := by
        rintro ⟨-, hsame⟩
        have hnone := hfirst old (List.mem_of_getElem? hold) (hsame.trans heq.symm)
        exact hid (hsame ▸ hnone)
      rw [Memory.place, if_neg hother, ih hrest hold, List.set_cons_succ]

theorem Keyed.filter_eq_eraseIdx (h : Keyed records) (hid : old.instanceId ≠ "")
    (hold : records[k]? = some old) :
    records.filter (·.instanceId ≠ old.instanceId) = records.eraseIdx k := by
  induction records generalizing k with
  | nil => cases hold
  | cons first rest ih =>
    obtain ⟨hfirst, hrest⟩ := keyed_cons_iff.1 h
    cases k with
    | zero =>
      obtain rfl : first = old := by simpa using hold
      rw [List.filter_cons_of_neg (by simp), List.eraseIdx_cons_zero, List.filter_eq_self]
      intro other hother
      have hne : other.instanceId ≠ first.instanceId := fun heq =>
        hid (hfirst other hother heq.symm)
      simpa using hne
    | succ k =>
      rw [List.getElem?_cons_succ] at hold
      have hne : first.instanceId ≠ old.instanceId := by
        intro heq
        exact hid (heq ▸ hfirst old (List.mem_of_getElem? hold) heq)
      rw [List.filter_cons_of_pos (by simpa using hne), ih hrest hold, List.eraseIdx_cons_succ]

end

/-! ## One call -/

section
variable {m : Memory} {service a : String}

theorem recordsOf_insert_self {m' : Memory} {records : List Record}
    (hinsert : m'.records = m.records.insert service records) :
    m'.recordsOf service = records := by
  simp only [recordsOf]
  rw [hinsert, Dict.find?_insert_self, Option.getD_some]

theorem recordsOf_registerUnder_self (m : Memory) (service : String) (r : Record) :
    (m.registerUnder service r).recordsOf service = place r (m.recordsOf service) :=
  recordsOf_insert_self rfl

theorem recordsOf_registerUnder_of_ne (m : Memory) (r : Record) (ha : a ≠ service) :
    (m.registerUnder service r).recordsOf a = m.recordsOf a :=
  recordsOf_insert rfl ha

theorem stored_registerUnder (h : Keyed (m.recordsOf service)) (r : Record) :
    Stored m service r (m.registerUnder service r) where
  replaced := by
    intro k old hold hid heq
    rw [recordsOf_registerUnder_self, h.place_eq_set hid hold heq]
  appended := by
    intro hnew
    rw [recordsOf_registerUnder_self, place_eq_append hnew]
  others := fun a ha => m.recordsOf_registerUnder_of_ne r ha

theorem deregister_cases (m : Memory) (service instanceId : String) :
    (m.deregister service instanceId = (m, false) ∧
      ∀ old ∈ m.recordsOf service, old.instanceId ≠ instanceId) ∨
    ∃ m', m.deregister service instanceId = (m', true) ∧
      (∃ old ∈ m.recordsOf service, old.instanceId = instanceId) ∧
      m'.records = m.records.insert service
        ((m.recordsOf service).filter (·.instanceId ≠ instanceId)) := by
  unfold deregister
  dsimp only
  split
  · next hlength =>
    refine Or.inl ⟨rfl, ?_⟩
    intro old hold
    simpa using List.length_filter_eq_length_iff.1 hlength old hold
  · next hlength =>
    refine Or.inr ⟨_, rfl, ?_, rfl⟩
    by_contra hnone
    refine hlength (List.length_filter_eq_length_iff.2 ?_)
    intro old hold
    have hne : old.instanceId ≠ instanceId := fun heq => hnone ⟨old, hold, heq⟩
    simpa using hne

theorem takenOut_deregister {instanceId : String} (h : Keyed (m.recordsOf service))
    (hid : instanceId ≠ "") :
    TakenOut m service instanceId (m.deregister service instanceId).1
      (m.deregister service instanceId).2 := by
  rcases m.deregister_cases service instanceId with ⟨hsame, hnone⟩ | ⟨m', htaken, hsome, hrecords⟩
  · rw [hsame]
    refine ⟨iff_of_false Bool.false_ne_true ?_, ?_, fun _ => rfl, fun _ _ => rfl⟩
    · rintro ⟨old, hold, heq⟩
      exact hnone old hold heq
    · intro k old hold heq
      exact absurd heq (hnone old (List.mem_of_getElem? hold))
  · rw [htaken]
    refine ⟨iff_of_true rfl hsome, ?_, nofun, ?_⟩
    · rintro k old hold rfl
      rw [recordsOf_insert_self hrecords, h.filter_eq_eraseIdx hid hold]
    · intro a ha
      exact recordsOf_insert hrecords ha

theorem recordsOf_deregister_registerUnder {r : Record}
    (hnew : ∀ old ∈ m.recordsOf service, old.instanceId ≠ r.instanceId) (a : String) :
    ((m.registerUnder service r).deregister service r.instanceId).1.recordsOf a =
      m.recordsOf a := by
  have hplaced : (m.registerUnder service r).recordsOf service = m.recordsOf service ++ [r] := by
    rw [recordsOf_registerUnder_self, place_eq_append (Or.inr hnew)]
  rcases (m.registerUnder service r).deregister_cases service r.instanceId with
    ⟨-, hnone⟩ | ⟨m', htaken, -, hrecords⟩
  · exact absurd rfl (hnone r (by simp [hplaced]))
  · rw [htaken]
    by_cases ha : a = service
    · subst ha
      have hkept : (m.recordsOf a).filter (·.instanceId ≠ r.instanceId) = m.recordsOf a :=
        List.filter_eq_self.2 fun old hold => by simpa using hnew old hold
      rw [recordsOf_insert_self hrecords, hplaced, List.filter_append, hkept]
      simp
    · rw [recordsOf_insert hrecords ha, recordsOf_registerUnder_of_ne m r ha]

/-! ## Runs -/

/-- The lists of all services are keyed. -/
def AllKeyed (m : Memory) : Prop := ∀ service, Keyed (m.recordsOf service)

theorem AllKeyed.insert (h : m.AllKeyed) {m' : Memory} {records : List Record}
    (hinsert : m'.records = m.records.insert service records) (hrecords : Keyed records) :
    m'.AllKeyed := by
  intro a
  by_cases ha : a = service
  · subst ha
    rw [recordsOf_insert_self hinsert]
    exact hrecords
  · rw [recordsOf_insert hinsert ha]
    exact h a

theorem AllKeyed.apply (h : m.AllKeyed) {c : Change}
    (hc : ∀ service records, c = .setRecords service records → Keyed records) :
    (m.apply c).AllKeyed := by
  cases c with
  | register r => exact h.insert rfl ((h r.service).place r)
  | registerUnder service r => exact h.insert rfl ((h service).place r)
  | setRecords service records => exact h.insert rfl (hc service records rfl)
  | deregister service instanceId =>
    change (m.deregister service instanceId).1.AllKeyed
    rcases m.deregister_cases service instanceId with ⟨hsame, -⟩ | ⟨m', htaken, -, hrecords⟩
    · rw [hsame]
      exact h
    · rw [htaken]
      exact h.insert hrecords ((h service).filter _)
  | publish service signal => exact h
  | failLists reason? => exact h
  | failSubscribes reason? => exact h
  | closeSubscriptions service => exact h
  | delayLists delay => exact h

theorem AllKeyed.react (h : m.AllKeyed) {e : Event}
    (he : ∀ service records, e = .change (.setRecords service records) → Keyed records) :
    (m.react e).AllKeyed := by
  cases e with
  | change c => exact h.apply fun service records hc => he service records (by rw [hc])
  | list service => exact h
  | subscribe service =>
    simp only [Memory.react]
    split
    · next made hmade =>
      unfold Memory.subscribe at hmade
      split at hmade
      · cases hmade
      · cases hmade
        exact h
    · exact h
  | receive id =>
    simp only [Memory.react, Memory.receive]
    split <;> exact h
  | cancel id => exact h
  | drop id => exact h

theorem allKeyed_run {events : List Event}
    (hloaded : ∀ service records, .change (.setRecords service records) ∈ events →
      Keyed records) :
    (empty.run events).AllKeyed := by
  induction events using List.reverseRecOn with
  | nil =>
    intro service
    exact List.Pairwise.nil
  | append_singleton events e ih =>
    rw [run_concat]
    refine (ih ?_).react ?_
    · intro service records hmem
      exact hloaded service records (List.mem_append_left _ hmem)
    · rintro service records rfl
      exact hloaded service records (by simp)

end

/-- Where every list that was loaded is keyed, so are all lists at any time. There a record with an
id is stored in the place of the one with that id or at the end, one without an id at the end; an id
is taken out with its one record, which is reported, or nothing happens; and to take out an id that
was new is to undo its registration. -/
theorem records_are_keyed {events : List Event}
    (hloaded : ∀ service records, .change (.setRecords service records) ∈ events →
      Keyed records) :
    let m := empty.run events
    (∀ service, Keyed (m.recordsOf service)) ∧
    (∀ r, Stored m r.service r (m.register r)) ∧
    (∀ service r, Stored m service r (m.registerUnder service r)) ∧
    (∀ service instanceId, instanceId ≠ "" →
      TakenOut m service instanceId (m.deregister service instanceId).1
        (m.deregister service instanceId).2) ∧
    ∀ service r, r.instanceId ≠ "" →
      (∀ old ∈ m.recordsOf service, old.instanceId ≠ r.instanceId) →
      ∀ a, ((m.registerUnder service r).deregister service r.instanceId).1.recordsOf a =
        m.recordsOf a := by
  intro m
  have hkeyed : m.AllKeyed := allKeyed_run hloaded
  refine ⟨hkeyed, ?_, ?_, ?_, ?_⟩
  · intro r
    exact stored_registerUnder (hkeyed r.service) r
  · intro service r
    exact stored_registerUnder (hkeyed service) r
  · intro service instanceId hid
    exact takenOut_deregister (hkeyed service) hid
  · intro service r _ hnew
    exact recordsOf_deregister_registerUnder hnew

def recordAt (host instanceId : String) : Record :=
  ⟨"a", "default", "grpc", host, 80, instanceId, ∅⟩

/-- Two records with an id and one without: the last one is replaced, the first one taken out. -/
theorem records_are_keyed_of_three :
    let loaded := [recordAt "h1" "x", recordAt "h2" "", recordAt "h3" "y"]
    let m := empty.run [.change (.setRecords "a" loaded)]
    Keyed loaded ∧
    (m.register (recordAt "h4" "y")).recordsOf "a" =
      [recordAt "h1" "x", recordAt "h2" "", recordAt "h4" "y"] ∧
    (m.deregister "a" "x").2 = true ∧
    (m.deregister "a" "x").1.recordsOf "a" = [recordAt "h2" "", recordAt "h3" "y"] := by
  intro loaded m
  have hloaded : Keyed loaded := by decide
  obtain ⟨-, hstored, -, htaken, -⟩ :=
    @records_are_keyed [.change (.setRecords "a" loaded)] (by
      rintro service records hmem
      obtain ⟨rfl, rfl⟩ : service = "a" ∧ records = loaded := by simpa using hmem
      exact hloaded)
  have hreplaced := (hstored (recordAt "h4" "y")).replaced 2 (recordAt "h3" "y") rfl (by decide) rfl
  have hfound := (htaken "a" "x" (by decide)).found_iff.2
    ⟨recordAt "h1" "x", List.mem_cons_self, rfl⟩
  have herased := (htaken "a" "x" (by decide)).erased 0 (recordAt "h1" "x") rfl rfl
  exact ⟨hloaded, hreplaced, hfound, herased⟩

end Lookout.Memory
