import Lookout.Dict

/-!
# Look-ups in dictionaries

What every operation does to look-ups: an insertion and an erasure change the answer for one key
only, and of a list the last entry of each key counts. A dictionary is determined by its look-ups.
-/
set_option autoImplicit false

namespace Lookout

namespace Entries

variable {α : Type}

theorem find?_put_self (key : String) (value : α) (entries : List (String × α)) :
    (put key value entries).find? (·.1 == key) = some (key, value) := by
  induction entries with
  | nil => simp [put]
  | cons head rest ih =>
    obtain ⟨k, v⟩ := head
    by_cases hlt : key < k
    · simp [put, hlt]
    · by_cases heq : key = k
      · simp [put, heq]
      · have hne : k ≠ key := fun h => heq h.symm
        simp [put, hlt, heq, hne, ih]

theorem find?_put_of_ne {key other : String} (h : other ≠ key) (value : α)
    (entries : List (String × α)) :
    (put key value entries).find? (·.1 == other) = entries.find? (·.1 == other) := by
  have hkey : key ≠ other := fun heq => h heq.symm
  induction entries with
  | nil => simp [put, hkey]
  | cons head rest ih =>
    obtain ⟨k, v⟩ := head
    by_cases hlt : key < k
    · simp [put, hlt, hkey]
    · by_cases heq : key = k
      · subst heq
        simp [put, hkey]
      · simp only [put, hlt, heq, if_false, List.find?_cons, ih]

theorem eq_of_mem_iff {as bs : List (String × α)} (ha : Sorted as) (hb : Sorted bs)
    (h : ∀ e, e ∈ as ↔ e ∈ bs) : as = bs := by
  induction as generalizing bs with
  | nil =>
    cases bs with
    | nil => rfl
    | cons b _ => simpa using (h b).2 List.mem_cons_self
  | cons a as ih =>
    cases bs with
    | nil => simpa using (h a).1 List.mem_cons_self
    | cons b bs =>
      obtain ⟨hbeyond, hrest⟩ := List.pairwise_cons.1 ha
      obtain ⟨hlater, hrest'⟩ := List.pairwise_cons.1 hb
      have heq : a = b := by
        rcases List.mem_cons.1 ((h a).1 List.mem_cons_self) with hab | hab
        · exact hab
        · rcases List.mem_cons.1 ((h b).2 List.mem_cons_self) with hba | hba
          · exact hba.symm
          · exact absurd (hbeyond b hba) (String.lt_asymm (hlater a hab))
      subst heq
      refine congrArg (a :: ·) (ih hrest hrest' fun e => ⟨fun he => ?_, fun he => ?_⟩)
      · rcases List.mem_cons.1 ((h e).1 (List.mem_cons_of_mem _ he)) with rfl | h'
        · exact absurd (hbeyond e he) (String.lt_irrefl _)
        · exact h'
      · rcases List.mem_cons.1 ((h e).2 (List.mem_cons_of_mem _ he)) with rfl | h'
        · exact absurd (hlater e he) (String.lt_irrefl _)
        · exact h'

end Entries

namespace Dict

variable {α : Type}

@[simp]
theorem find?_empty (key : String) : (∅ : Dict α).find? key = none := rfl

theorem find?_insert (d : Dict α) (key other : String) (value : α) :
    (d.insert key value).find? other = if other = key then some value else d.find? other := by
  by_cases h : other = key
  · subst h
    simp [find?, insert, Entries.find?_put_self]
  · simp [find?, insert, Entries.find?_put_of_ne h, h]

@[simp]
theorem find?_insert_self (d : Dict α) (key : String) (value : α) :
    (d.insert key value).find? key = some value := by
  simp [find?_insert]

theorem find?_insert_of_ne (d : Dict α) {key other : String} (value : α) (h : other ≠ key) :
    (d.insert key value).find? other = d.find? other := by
  simp [find?_insert, h]

theorem find?_erase (d : Dict α) (key other : String) :
    (d.erase key).find? other = if other = key then none else d.find? other := by
  by_cases h : other = key
  · subst h
    simp [find?, erase, List.find?_filter]
  · simp only [find?, erase, List.find?_filter, h, if_false]
    congr 2
    funext e
    by_cases he : e.1 = other
    · simp [he, h]
    · simp [he]

@[simp]
theorem find?_erase_self (d : Dict α) (key : String) : (d.erase key).find? key = none := by
  simp [find?_erase]

theorem find?_erase_of_ne (d : Dict α) {key other : String} (h : other ≠ key) :
    (d.erase key).find? other = d.find? other := by
  simp [find?_erase, h]

theorem find?_eq_some_of_mem (d : Dict α) {key : String} {value : α}
    (h : (key, value) ∈ d.entries) : d.find? key = some value := by
  obtain ⟨entries, sorted⟩ := d
  simp only [find?] at *
  induction entries with
  | nil => simp at h
  | cons head rest ih =>
    obtain ⟨hall, hrest⟩ := List.pairwise_cons.1 sorted
    rcases List.mem_cons.1 h with h | h
    · simp [← h]
    · have hlt := hall _ h
      have hne : head.1 ≠ key := fun heq => String.lt_irrefl key (heq ▸ hlt)
      simp [hne, ih hrest h]

theorem mem_of_find?_eq_some (d : Dict α) {key : String} {value : α}
    (h : d.find? key = some value) : (key, value) ∈ d.entries := by
  simp only [find?, Option.map_eq_some_iff] at h
  obtain ⟨⟨k, v⟩, hfind, rfl⟩ := h
  have hk := List.find?_some hfind
  simp only [beq_iff_eq] at hk
  exact hk ▸ List.mem_of_find?_eq_some hfind

theorem find?_eq_some_iff (d : Dict α) {key : String} {value : α} :
    d.find? key = some value ↔ (key, value) ∈ d.entries :=
  ⟨d.mem_of_find?_eq_some, d.find?_eq_some_of_mem⟩

theorem ext_find? {d e : Dict α} (h : ∀ key, d.find? key = e.find? key) : d = e :=
  ext <| Entries.eq_of_mem_iff d.sorted e.sorted fun (key, value) => by
    rw [← find?_eq_some_iff, ← find?_eq_some_iff, h]

/-! ## Keys -/

theorem mem_keys (d : Dict α) {key : String} : key ∈ d.keys ↔ (d.find? key).isSome := by
  simp only [keys, List.mem_map, Option.isSome_iff_exists]
  constructor
  · rintro ⟨⟨k, value⟩, hmem, rfl⟩
    exact ⟨value, d.find?_eq_some_of_mem hmem⟩
  · rintro ⟨value, hfind⟩
    exact ⟨(key, value), d.mem_of_find?_eq_some hfind, rfl⟩

theorem keys_nodup (d : Dict α) : d.keys.Nodup := by
  have hsorted : d.keys.Pairwise (· < ·) := List.pairwise_map.2 d.sorted
  refine hsorted.imp ?_
  intro a b hlt heq
  exact String.lt_irrefl b (heq ▸ hlt)

theorem entries_filter_key (d : Dict α) (key : String) :
    d.entries.filter (·.1 == key) = ((d.find? key).map fun value => (key, value)).toList := by
  obtain ⟨entries, sorted⟩ := d
  simp only [find?]
  induction entries with
  | nil => rfl
  | cons head rest ih =>
    obtain ⟨hbeyond, hrest⟩ := List.pairwise_cons.1 sorted
    obtain ⟨k, value⟩ := head
    by_cases heq : k = key
    · subst heq
      have hnone : rest.filter (·.1 == k) = [] := by
        refine List.filter_eq_nil_iff.2 ?_
        intro e he hk
        have hlt := hbeyond e he
        rw [beq_iff_eq.1 hk] at hlt
        exact String.lt_irrefl k hlt
      simp [hnone]
    · simp [heq, ih hrest]

/-! ## Dictionaries of lists -/

theorem find?_foldl_insert (entries : List (String × α)) (d : Dict α) (key : String) :
    (entries.foldl (fun d e => d.insert e.1 e.2) d).find? key =
      ((entries.filter (·.1 == key)).getLast?.map Prod.snd).or (d.find? key) := by
  induction entries generalizing d with
  | nil => rfl
  | cons head rest ih =>
    obtain ⟨k, value⟩ := head
    rw [List.foldl_cons, ih, find?_insert]
    by_cases heq : key = k
    · subst heq
      cases h : (rest.filter (·.1 == key)).getLast? with
      | none => simp [List.getLast?_cons, h]
      | some e => simp [List.getLast?_cons, h]
    · have hne : ¬ k = key := fun h => heq h.symm
      simp [heq, hne]

theorem find?_ofList (entries : List (String × α)) (key : String) :
    (ofList entries).find? key = (entries.filter (·.1 == key)).getLast?.map Prod.snd := by
  have hempty : (empty : Dict α).find? key = none := rfl
  rw [ofList, find?_foldl_insert, hempty, Option.or_none]

end Dict

end Lookout
