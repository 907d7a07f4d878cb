import Lookout.Dict.Lemmas

/-!
# Shares

Where every item of a list has an owner, the share of an owner is the list of its items in their
order, and the rank of a place is how many items of the share come before it. What is done to one
item is done to the share at the rank of its place, or not at all if it belongs to somebody else.
The share of a dictionary is what it says of one key.
-/
set_option autoImplicit false

namespace Lookout

/-- How many of the owners before place `i` are `a`. -/
def rank (a : String) (owners : List String) (i : Nat) : Nat := (owners.take i).count a

def share {α : Type} (o : α → String) (a : String) (xs : List α) : List α :=
  xs.filter fun x => o x == a

section
variable {a b : String} {owners more : List String} {i j : Nat}

@[simp]
theorem rank_zero : rank a owners 0 = 0 := by simp [rank]

theorem rank_cons_self : rank a (a :: owners) (i + 1) = rank a owners i + 1 := by
  simp [rank]

theorem rank_cons_of_ne (h : b ≠ a) : rank a (b :: owners) (i + 1) = rank a owners i := by
  simp [rank, h]

theorem rank_append (h : i ≤ owners.length) : rank a (owners ++ more) i = rank a owners i := by
  simp only [rank]
  rw [List.take_append_of_le_length h]

theorem rank_lt_rank (hi : owners[i]? = some a) (h : i < j) :
    rank a owners i < rank a owners j := by
  induction owners generalizing i j with
  | nil => simp at hi
  | cons b rest ih =>
    cases j with
    | zero => omega
    | succ j =>
      cases i with
      | zero =>
        obtain rfl : b = a := by simpa using hi
        rw [rank_cons_self, rank_zero]
        omega
      | succ i =>
        have hrest := ih (i := i) (j := j) (by simpa using hi) (by omega)
        by_cases ho : b = a
        · subst ho
          rw [rank_cons_self, rank_cons_self]
          omega
        · rw [rank_cons_of_ne ho, rank_cons_of_ne ho]
          exact hrest

theorem rank_lt_count (hi : owners[i]? = some a) : rank a owners i < owners.count a := by
  have hlt := rank_lt_rank hi (List.getElem?_eq_some_iff.1 hi).1
  simp only [rank, List.take_length] at hlt ⊢
  exact hlt

theorem rank_of_sole (h : ∀ b ∈ owners, b = a) (hi : i ≤ owners.length) :
    rank a owners i = i := by
  induction owners generalizing i with
  | nil =>
    obtain rfl : i = 0 := by simpa using hi
    exact rank_zero
  | cons b rest ih =>
    obtain rfl : b = a := h b List.mem_cons_self
    cases i with
    | zero => exact rank_zero
    | succ i =>
      rw [rank_cons_self, ih (fun p hp => h p (List.mem_cons_of_mem _ hp)) (by simpa using hi)]

theorem rank_inj (hi : owners[i]? = some a) (hj : owners[j]? = some a)
    (h : rank a owners i = rank a owners j) : i = j := by
  rcases Nat.lt_trichotomy i j with hlt | heq | hlt
  · have hrank := rank_lt_rank hi hlt
    omega
  · exact heq
  · have hrank := rank_lt_rank hj hlt
    omega

end

section
variable {α β : Type} {o : α → String} {a : String} {xs : List α} {i : Nat} {x : α}

theorem share_cons_self (h : o x = a) :
    share o a (x :: xs) = x :: share o a xs := by
  simp [share, h]

theorem share_cons_of_ne (h : o x ≠ a) : share o a (x :: xs) = share o a xs := by
  simp [share, h]

theorem mem_share : x ∈ share o a xs ↔ x ∈ xs ∧ o x = a := by
  simp [share]

theorem share_append (xs ys : List α) :
    share o a (xs ++ ys) = share o a xs ++ share o a ys :=
  List.filter_append ..

theorem share_map {f : α → α} (hf : ∀ x, o (f x) = o x) (xs : List α) :
    share o a (xs.map f) = (share o a xs).map f := by
  simp only [share, List.filter_map, Function.comp_def, hf]

theorem rank_length (xs : List α) : rank a (xs.map o) xs.length = (share o a xs).length := by
  induction xs with
  | nil => rfl
  | cons x rest ih =>
    rw [List.map_cons, List.length_cons]
    by_cases hx : o x = a
    · rw [share_cons_self hx, hx, rank_cons_self, ih, List.length_cons]
    · rw [share_cons_of_ne hx, rank_cons_of_ne hx, ih]

theorem share_getElem? (hx : xs[i]? = some x) (ha : o x = a) :
    (share o a xs)[rank a (xs.map o) i]? = some x := by
  induction xs generalizing i with
  | nil => simp at hx
  | cons y rest ih =>
    cases i with
    | zero =>
      obtain rfl : y = x := by simpa using hx
      rw [share_cons_self ha, rank_zero]
      rfl
    | succ i =>
      have hrest := ih (i := i) (by simpa using hx)
      rw [List.map_cons]
      by_cases hy : o y = a
      · rw [share_cons_self hy, hy, rank_cons_self, List.getElem?_cons_succ]
        exact hrest
      · rw [share_cons_of_ne hy, rank_cons_of_ne hy]
        exact hrest

theorem share_modify {f : α → α} (hx : xs[i]? = some x) (ha : o x = a)
    (hf : o (f x) = a) :
    share o a (xs.modify i f) =
      (share o a xs).modify (rank a (xs.map o) i) f := by
  induction xs generalizing i with
  | nil => simp at hx
  | cons y rest ih =>
    cases i with
    | zero =>
      obtain rfl : y = x := by simpa using hx
      rw [List.modify_zero_cons, share_cons_self hf, share_cons_self ha, rank_zero,
        List.modify_zero_cons]
    | succ i =>
      have hrest := ih (i := i) (by simpa using hx)
      rw [List.modify_succ_cons, List.map_cons]
      by_cases hy : o y = a
      · rw [share_cons_self hy, share_cons_self hy, hy, rank_cons_self, List.modify_succ_cons,
          hrest]
      · rw [share_cons_of_ne hy, share_cons_of_ne hy, rank_cons_of_ne hy, hrest]

theorem share_modify_of_ne {f : α → α} (hx : xs[i]? = some x) (ha : o x ≠ a)
    (hf : o (f x) ≠ a) : share o a (xs.modify i f) = share o a xs := by
  induction xs generalizing i with
  | nil => simp at hx
  | cons y rest ih =>
    cases i with
    | zero =>
      obtain rfl : y = x := by simpa using hx
      rw [List.modify_zero_cons, share_cons_of_ne hf, share_cons_of_ne ha]
    | succ i =>
      have hrest := ih (i := i) (by simpa using hx)
      rw [List.modify_succ_cons]
      by_cases hy : o y = a
      · rw [share_cons_self hy, share_cons_self hy, hrest]
      · rw [share_cons_of_ne hy, share_cons_of_ne hy, hrest]

theorem map_owner_modify {f : α → α} (hx : xs[i]? = some x) (hf : o (f x) = o x) :
    (xs.modify i f).map o = xs.map o := by
  apply List.ext_getElem?
  intro j
  rw [List.getElem?_map, List.getElem?_map, List.getElem?_modify]
  by_cases hij : i = j
  · subst hij
    simp [hx, hf]
  · simp [hij]

end

namespace Dict

variable {α β : Type} {d : Dict α} {key other : String} {f : α → β}

/-- What a dictionary says of one key, with its value changed. -/
def only (d : Dict α) (key : String) (f : α → β) : Dict β :=
  match d.find? key with
  | some v => (∅ : Dict β).insert key (f v)
  | none => ∅

theorem find?_only (d : Dict α) (key other : String) (f : α → β) :
    (d.only key f).find? other = if other = key then (d.find? key).map f else none := by
  unfold only
  split
  · next v hv =>
    rw [find?_insert, hv]
    rfl
  · next hnone =>
    rw [hnone]
    simp

theorem find?_only_self (d : Dict α) (key : String) (f : α → β) :
    (d.only key f).find? key = (d.find? key).map f := by
  rw [find?_only, if_pos rfl]

theorem only_congr {e : Dict α} {g : α → β}
    (h : (d.find? key).map f = (e.find? key).map g) : d.only key f = e.only key g := by
  refine ext_find? fun other => ?_
  rw [find?_only, find?_only, h]

theorem only_insert_of_ne (v : α) (h : key ≠ other) :
    (d.insert other v).only key f = d.only key f :=
  only_congr (by rw [find?_insert_of_ne _ _ h])

theorem only_erase_of_ne (h : key ≠ other) : (d.erase other).only key f = d.only key f :=
  only_congr (by rw [find?_erase_of_ne _ h])

theorem only_insert_self (d : Dict α) (key : String) (v : α) (f : α → β) :
    (d.insert key v).only key f = (d.only key f).insert key (f v) := by
  refine ext_find? fun other => ?_
  rw [find?_only, find?_insert_self, find?_insert, find?_only]
  split <;> rfl

theorem only_erase_self (d : Dict α) (key : String) (f : α → β) :
    (d.erase key).only key f = (d.only key f).erase key := by
  refine ext_find? fun other => ?_
  rw [find?_only, find?_erase_self, find?_erase, find?_only]
  split <;> rfl

end Dict

end Lookout
