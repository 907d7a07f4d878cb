import Lookout.Dict.Lemmas
import Lookout.Json.Reader

/-!
# Parts of a value

A part of a value is found by a path of keys. A value is tidy if every object in it holds each key
once, in order; then there is one member to be found under a key. All that the reader gives is tidy.
-/
set_option autoImplicit false

namespace Lookout.Json

/-- The part of a value that a path of keys leads to. -/
def at? (j : Json) : List String → Option Json
  | [] => some j
  | key :: path => (j.get? key).bind fun part => part.at? path

def textAt? (j : Json) (path : List String) : Option String := (j.at? path).bind text?

mutual

def Tidy : Json → Prop
  | .arr items => ItemsTidy items
  | .obj members => Entries.Sorted members ∧ MembersTidy members
  | _ => True

def ItemsTidy : List Json → Prop
  | [] => True
  | item :: rest => Tidy item ∧ ItemsTidy rest

def MembersTidy : List (String × Json) → Prop
  | [] => True
  | (_, value) :: rest => Tidy value ∧ MembersTidy rest

end

theorem itemsTidy_iff {items : List Json} : ItemsTidy items ↔ ∀ item ∈ items, item.Tidy := by
  induction items with
  | nil => simp [ItemsTidy]
  | cons item rest ih => simp [ItemsTidy, ih]

theorem membersTidy_iff {members : List (String × Json)} :
    MembersTidy members ↔ ∀ e ∈ members, e.2.Tidy := by
  induction members with
  | nil => simp [MembersTidy]
  | cons head rest ih =>
    obtain ⟨key, value⟩ := head
    simp [MembersTidy, ih]

/-! ## Members -/

theorem get?_obj (members : List (String × Json)) (key : String) :
    (obj members).get? key = (members.find? (·.1 == key)).map Prod.snd := by
  simp only [get?]
  induction members with
  | nil => rfl
  | cons head rest ih =>
    obtain ⟨k, value⟩ := head
    by_cases heq : k = key
    · simp [heq]
    · have hne : (key == k) = false := by simpa using fun h => heq h.symm
      simp [List.lookup_cons, hne, heq, ih]

theorem get?_ofDict (d : Dict Json) (key : String) : (ofDict d).get? key = d.find? key :=
  get?_obj d.entries key

theorem Tidy.get? {j part : Json} {key : String} (h : j.Tidy) (hpart : j.get? key = some part) :
    part.Tidy := by
  cases j with
  | obj members =>
    rw [get?_obj] at hpart
    obtain ⟨e, he, rfl⟩ := Option.map_eq_some_iff.1 hpart
    exact membersTidy_iff.1 h.2 e (List.mem_of_find?_eq_some he)
  | _ => cases hpart

theorem members_filter_key {members : List (String × Json)} (h : Entries.Sorted members)
    (key : String) :
    members.filter (·.1 == key) =
      (((obj members).get? key).map fun value => (key, value)).toList := by
  rw [get?_obj]
  exact Dict.entries_filter_key ⟨members, h⟩ key

/-! ## What the reader gives -/

theorem tidy_object {members : List (String × Json)} (h : ∀ e ∈ members, e.2.Tidy) :
    (object members).Tidy := by
  refine ⟨(Dict.ofList members).sorted, membersTidy_iff.2 ?_⟩
  rintro ⟨key, value⟩ he
  have hfound := (Dict.ofList members).find?_eq_some_of_mem he
  rw [Dict.find?_ofList] at hfound
  obtain ⟨e, hlast, rfl⟩ := Option.map_eq_some_iff.1 hfound
  exact h e (List.mem_filter.1 (List.mem_of_getLast? hlast)).1

theorem int_or_real_of_value? {n : Numeral} {j : Json} (h : n.value? = some j) :
    (∃ whole, j = .int whole) ∨ ∃ x, j = .real x := by
  unfold Numeral.value? at h
  dsimp only at h
  split at h
  · split at h
    · cases h
      exact Or.inl ⟨_, rfl⟩
    · split at h
      · cases h
        exact Or.inl ⟨_, rfl⟩
      · obtain ⟨x, -, rfl⟩ := Option.map_eq_some_iff.1 h
        exact Or.inr ⟨x, rfl⟩
  · obtain ⟨x, -, rfl⟩ := Option.map_eq_some_iff.1 h
    exact Or.inr ⟨x, rfl⟩

theorem tidy_of_readNumber {cs : List Char} {r : Json × List Char}
    (h : readNumber cs = some r) : r.1.Tidy := by
  unfold readNumber at h
  split at h
  · cases h
  · obtain ⟨value, hvalue, rfl⟩ := Option.map_eq_some_iff.1 h
    rcases int_or_real_of_value? hvalue with ⟨_, rfl⟩ | ⟨_, rfl⟩ <;> trivial

/-- By induction on the bound of steps: a value is read in fewer steps than the list it is in. -/
theorem tidy_of_read (fuel : Nat) :
    (∀ depth cs r, readValue fuel depth cs = some r → r.1.Tidy) ∧
    (∀ depth cs r, readItems fuel depth cs = some r → ∀ item ∈ r.1, item.Tidy) ∧
    (∀ depth cs r, readMembers fuel depth cs = some r → ∀ e ∈ r.1, e.2.Tidy) := by
  induction fuel with
  | zero => simp [readValue, readItems, readMembers]
  | succ fuel ih =>
    obtain ⟨hvalue, hitems, hmembers⟩ := ih
    refine ⟨?_, ?_, ?_⟩
    · intro depth cs r h
      unfold readValue at h
      split at h
      · obtain ⟨_, -, rfl⟩ := Option.map_eq_some_iff.1 h
        trivial
      · obtain ⟨_, -, rfl⟩ := Option.map_eq_some_iff.1 h
        trivial
      · obtain ⟨_, -, rfl⟩ := Option.map_eq_some_iff.1 h
        trivial
      · obtain ⟨_, -, rfl⟩ := Option.map_eq_some_iff.1 h
        trivial
      · split at h
        · cases h
        · cases h
          trivial
        · obtain ⟨items, hread, rfl⟩ := Option.map_eq_some_iff.1 h
          exact itemsTidy_iff.2 (hitems _ _ _ hread)
      · split at h
        · cases h
        · cases h
          exact ⟨List.Pairwise.nil, trivial⟩
        · obtain ⟨members, hread, rfl⟩ := Option.map_eq_some_iff.1 h
          exact tidy_object (hmembers _ _ _ hread)
      · exact tidy_of_readNumber h
    · intro depth cs r h
      unfold readItems at h
      split at h
      · cases h
      · next item rest hitem =>
        have htidy : item.Tidy := hvalue _ _ _ hitem
        split at h
        · obtain ⟨items, hread, rfl⟩ := Option.map_eq_some_iff.1 h
          exact List.forall_mem_cons.2 ⟨htidy, hitems _ _ _ hread⟩
        · cases h
          simpa using htidy
        · cases h
    · intro depth cs r h
      unfold readMembers at h
      split at h
      · cases h
      · split at h
        · split at h
          · cases h
          · next value rest hread =>
            have htidy : value.Tidy := hvalue _ _ _ hread
            split at h
            · obtain ⟨members, hread, rfl⟩ := Option.map_eq_some_iff.1 h
              exact List.forall_mem_cons.2 ⟨htidy, hmembers _ _ _ hread⟩
            · cases h
              simpa using htidy
            · cases h
        · cases h

theorem tidy_of_parse? {cs : List Char} {j : Json} (h : parse? cs = some j) : j.Tidy := by
  unfold parse? at h
  split at h
  · next value rest hread =>
    split at h
    · cases h
      exact (tidy_of_read _).1 _ _ _ hread
    · cases h
  · cases h

end Lookout.Json
