import Lookout.Text.Blank
import Mathlib.Data.List.DropRight
import Mathlib.Data.List.Infix

/-!
# Texts without the blanks around them

What `trim` takes off and what it leaves.
-/
set_option autoImplicit false

namespace Lookout.Text

section
variable {p : Char → Bool} {cs : List Char}

theorem dropTrailing_eq_nil_iff : dropTrailing p cs = [] ↔ ∀ c ∈ cs, p c = true :=
  List.rdropWhile_eq_nil_iff

theorem prefix_dropTrailing : dropTrailing p cs <+: cs := List.rdropWhile_prefix p cs

theorem dropTrailing_map {f : Char → Char} (hf : ∀ c, p (f c) = p c) (cs : List Char) :
    dropTrailing p (cs.map f) = (dropTrailing p cs).map f := by
  have hcomp : p ∘ f = p := funext hf
  rw [dropTrailing, ← List.map_reverse, List.dropWhile_map, hcomp, ← List.map_reverse, dropTrailing]

theorem dropTrailing_append {back : List Char} (h : ∀ c ∈ back, p c = true) :
    dropTrailing p (cs ++ back) = dropTrailing p cs := by
  rw [dropTrailing, List.reverse_append, List.dropWhile_append_of_pos (by simpa using h),
    dropTrailing]

theorem dropTrailing_append_of_forall_not {back : List Char} (hempty : back ≠ [])
    (h : ∀ c ∈ back, p c = false) : dropTrailing p (cs ++ back) = cs ++ back := by
  refine List.rdropWhile_eq_self_iff.2 fun hne => ?_
  rw [List.getLast_append_of_right_ne_nil _ _ hempty]
  simp [h _ (List.getLast_mem hempty)]

theorem dropTrailing_concat {c : Char} (h : p c = false) :
    dropTrailing p (cs ++ [c]) = cs ++ [c] :=
  List.rdropWhile_concat_neg p cs c (by simp [h])

theorem dropTrailing_append_cons {c : Char} (h : p c = false) (front back : List Char) :
    dropTrailing p (front ++ c :: back) = front ++ c :: dropTrailing p back := by
  have hreverse : (front ++ c :: back).reverse = back.reverse ++ c :: front.reverse := by simp
  rw [dropTrailing, hreverse, List.dropWhile_append]
  split
  · next hnone =>
    rw [List.isEmpty_iff] at hnone
    simp [dropTrailing, hnone, h]
  · simp [dropTrailing]

end

theorem isBlank_eq_false {c : Char} (hlow : 0x21 ≤ c.toNat) (hhigh : c.toNat ≤ 0x7E) :
    isBlank c = false := by
  have hranges : ∀ r ∈ blankRanges, r.2 < 0x21 ∨ 0x7E < r.1 := by decide
  rw [isBlank, List.any_eq_false]
  intro r hr
  have hapart := hranges r hr
  simp only [Bool.and_eq_true, decide_eq_true_eq]
  omega

theorem trim_eq_nil_iff {s : String} : trim s.toList = [] ↔ allBlank s = true := by
  rw [trim, dropTrailing_eq_nil_iff, allBlank, List.all_eq_true]
  constructor
  · intro h
    have hnone : s.toList.dropWhile isBlank = [] := by
      cases hrest : s.toList.dropWhile isBlank with
      | nil => rfl
      | cons c rest =>
        -- what is left when the blanks at the front are gone begins with another character
        have hhead := List.head?_dropWhile_not isBlank s.toList
        rw [hrest] at h hhead
        simp [h c List.mem_cons_self] at hhead
    exact List.dropWhile_eq_nil_iff.1 hnone
  · intro h c hc
    exact h c ((List.dropWhile_sublist _).subset hc)

theorem infix_trim (cs : List Char) : trim cs <:+: cs :=
  prefix_dropTrailing.isInfix.trans (List.dropWhile_suffix _).isInfix

theorem trim_eq_self_iff {cs : List Char} :
    trim cs = cs ↔ cs.dropWhile isBlank = cs ∧ dropTrailing isBlank cs = cs := by
  constructor
  · intro h
    have hfront : cs.dropWhile isBlank = cs :=
      (List.dropWhile_suffix _).eq_of_length_le (by
        conv_lhs => rw [← h]
        exact prefix_dropTrailing.length_le)
    rw [trim, hfront] at h
    exact ⟨hfront, h⟩
  · rintro ⟨hfront, hback⟩
    rw [trim, hfront, hback]

theorem trim_of_forall_mem {cs : List Char} (h : ∀ c ∈ cs, isBlank c = false) : trim cs = cs := by
  refine trim_eq_self_iff.2 ⟨List.dropWhile_eq_self_iff.2 fun hne => ?_,
    List.rdropWhile_eq_self_iff.2 fun hne => ?_⟩
  · simp [h _ (List.getElem_mem hne)]
  · simp [h _ (List.getLast_mem hne)]

theorem trim_around {front core back : List Char} (hfront : ∀ c ∈ front, isBlank c = true)
    (hback : ∀ c ∈ back, isBlank c = true) (hcore : trim core = core) :
    trim (front ++ core ++ back) = core := by
  obtain ⟨hhead, hlast⟩ := trim_eq_self_iff.1 hcore
  rw [trim, List.append_assoc, List.dropWhile_append_of_pos hfront]
  cases core with
  | nil =>
    rw [List.nil_append, List.dropWhile_eq_nil_iff.2 hback]
    rfl
  | cons c core =>
    have hc : isBlank c = false := by simpa using List.dropWhile_eq_self_iff.1 hhead
    rw [List.cons_append, List.dropWhile_cons_of_neg (by simp [hc]), ← List.cons_append,
      dropTrailing_append hback, hlast]

end Lookout.Text
