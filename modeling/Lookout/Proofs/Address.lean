import Lookout.Address
import Mathlib.Data.List.Infix

/-!
# Normal spellings

In the normal spelling of an address no colon is followed by a slash: there is no slash in the text
of an IP address or of a port, and no colon in any other host. So a protocol, the mark `://` and an
address can be told apart again, whatever the protocol is.
-/
set_option autoImplicit false

namespace Lookout

/-! ## Texts without slashes -/

namespace Text

theorem mem_toDigitsCore {base fuel n : Nat} {ds : List Char} {c : Char}
    (h : c ∈ Nat.toDigitsCore base fuel n ds) : (∃ d, c = Nat.digitChar d) ∨ c ∈ ds := by
  induction fuel generalizing n ds with
  | zero => exact Or.inr h
  | succ fuel ih =>
    have hcons : c ∈ Nat.digitChar (n % base) :: ds → (∃ d, c = Nat.digitChar d) ∨ c ∈ ds := by
      intro hmem
      rcases List.mem_cons.1 hmem with rfl | hold
      · exact Or.inl ⟨_, rfl⟩
      · exact Or.inr hold
    rw [Nat.toDigitsCore] at h
    split at h
    · exact hcons h
    · rcases ih h with hdigit | hmem
      · exact Or.inl hdigit
      · exact hcons hmem

theorem slash_not_mem_toDigits (base n : Nat) : '/' ∉ Nat.toDigits base n := by
  intro h
  rcases mem_toDigitsCore h with ⟨d, hd⟩ | hmem
  · exact Nat.digitChar_ne _ (by decide) hd.symm
  · cases hmem

end Text

section
open Text

theorem IPv4.slash_not_mem_text (ip : IPv4) : '/' ∉ ip.text := by
  simp [IPv4.text, decimal, slash_not_mem_toDigits]

theorem IPv6.slash_not_mem_groupsText (groups : List UInt16) :
    '/' ∉ IPv6.groupsText groups := by
  induction groups with
  | nil => simp [IPv6.groupsText]
  | cons g rest ih =>
    cases rest with
    | nil => simp [IPv6.groupsText, hex, slash_not_mem_toDigits]
    | cons next rest => simp [IPv6.groupsText, hex, slash_not_mem_toDigits, ih]

theorem IPv6.slash_not_mem_text (ip : IPv6) : '/' ∉ ip.text := by
  unfold IPv6.text
  split
  · next v4 _ => simp [v4.slash_not_mem_text]
  · unfold IPv6.compressed
    dsimp only
    split
    · simp [IPv6.slash_not_mem_groupsText]
    · exact IPv6.slash_not_mem_groupsText _

end

/-! ## Splitting -/

namespace Address

theorem splitFirst?_cons (c d : Char) (rest : List Char) :
    splitFirst? c (d :: rest) =
      if d = c then some ([], rest) else (splitFirst? c rest).map fun r => (d :: r.1, r.2) := by
  by_cases heq : d = c
  · simp [splitFirst?, heq]
  · simp only [splitFirst?, heq, if_false, List.dropWhile_cons, List.takeWhile_cons, bne_iff_ne,
      ne_eq, not_false_eq_true, if_true]
    split <;> rfl

theorem splitFirst?_eq_none_iff {c : Char} {cs : List Char} :
    splitFirst? c cs = none ↔ c ∉ cs := by
  induction cs with
  | nil => simp [splitFirst?]
  | cons d rest ih =>
    rw [splitFirst?_cons]
    by_cases heq : d = c
    · simp [heq]
    · simp [heq, ih, Ne.symm heq]

theorem splitFirst?_eq_some_iff {c : Char} {cs front back : List Char} :
    splitFirst? c cs = some (front, back) ↔ c ∉ front ∧ cs = front ++ c :: back := by
  induction cs generalizing front with
  | nil => simp [splitFirst?]
  | cons d rest ih =>
    rw [splitFirst?_cons]
    by_cases heq : d = c
    · subst heq
      cases front with
      | nil => simp
      | cons e front =>
        simp only [if_true, Option.some.injEq, Prod.mk.injEq, List.cons_append, List.cons.injEq,
          List.mem_cons]
        constructor
        · rintro ⟨⟨⟩, -⟩
        · rintro ⟨hmem, rfl, -⟩
          exact absurd (Or.inl rfl) hmem
    · rw [if_neg heq, Option.map_eq_some_iff]
      constructor
      · rintro ⟨⟨front', back'⟩, hsplit, ⟨⟩⟩
        obtain ⟨hmem, rfl⟩ := ih.1 hsplit
        exact ⟨by simp [hmem, Ne.symm heq], rfl⟩
      · rintro ⟨hmem, hcs⟩
        cases front with
        | nil =>
          obtain ⟨hd, -⟩ := List.cons.inj hcs
          exact absurd hd heq
        | cons e front =>
          obtain ⟨rfl, hrest⟩ := List.cons.inj hcs
          exact ⟨(front, back), ih.2 ⟨fun h => hmem (List.mem_cons_of_mem _ h), hrest⟩, rfl⟩

end Address

/-! ## The mark -/

namespace Address

theorem slash_not_mem_ofIp (ip : Ip) (port : UInt16) : '/' ∉ ofIp ip port := by
  cases ip with
  | v4 ip => simp [ofIp, withPort, Text.decimal, Text.slash_not_mem_toDigits, ip.slash_not_mem_text]
  | v6 ip => simp [ofIp, withPort, Text.decimal, Text.slash_not_mem_toDigits, ip.slash_not_mem_text]

theorem not_infix_withPort {host : List Char} (h : ':' ∉ host) (port : UInt16) :
    ¬[':', '/'] <:+: withPort host port := by
  rintro ⟨front, back, heq⟩
  rw [withPort, List.append_assoc] at heq
  have hslash : '/' ∈ Text.decimal port.toNat := by
    rcases List.append_eq_append_iff.1 heq with ⟨rest, rfl, hrest⟩ | ⟨rest, rfl, hrest⟩
    · cases rest with
      | nil =>
        obtain ⟨-, hdigits⟩ := List.cons.inj hrest
        simp [← hdigits]
      | cons c more =>
        obtain ⟨rfl, -⟩ := List.cons.inj hrest
        simp at h
    · cases rest with
      | nil =>
        obtain ⟨-, hdigits⟩ := List.cons.inj hrest
        simp [hdigits]
      | cons c more =>
        obtain ⟨-, hdigits⟩ := List.cons.inj hrest
        simp [hdigits]
  exact Text.slash_not_mem_toDigits _ _ hslash

theorem colon_not_mem_plainHost {host name : List Char} (h : plainHost? host = some name) :
    ':' ∉ name := by
  simp only [plainHost?] at h
  split at h
  · cases h
  · next hplain =>
    cases h
    rw [Bool.or_eq_true, not_or] at hplain
    simpa [List.contains_iff_mem] using hplain.2

theorem not_infix_of_normalizeChars? {host cs : List Char} {port : UInt16}
    (h : normalizeChars? host port = some cs) : ¬[':', '/'] <:+: cs := by
  unfold normalizeChars? at h
  dsimp only at h
  split at h
  · cases h
  · split at h
    · next ip _ =>
      cases h
      intro hmark
      exact slash_not_mem_ofIp ip port (hmark.subset (by simp))
    · obtain ⟨name, hname, rfl⟩ := Option.map_eq_some_iff.1 h
      exact not_infix_withPort (colon_not_mem_plainHost hname) port

/-- What follows the mark begins with the mark again only if it has a colon before a slash. -/
theorem eq_nil_of_mark {rest a b : List Char} (ha : ¬[':', '/'] <:+: a)
    (h : ':' :: '/' :: '/' :: a = rest ++ ':' :: '/' :: '/' :: b) : rest = [] := by
  match rest with
  | [] => rfl
  | [_] => simp at h
  | [_, _] => simp at h
  | _ :: _ :: _ :: more =>
    refine absurd ⟨more, '/' :: b, ?_⟩ ha
    simp only [List.cons_append, List.cons.injEq] at h
    simp [h.2.2.2]

theorem mark_inj {p q a b : List Char} (ha : ¬[':', '/'] <:+: a) (hb : ¬[':', '/'] <:+: b)
    (h : p ++ ':' :: '/' :: '/' :: a = q ++ ':' :: '/' :: '/' :: b) : p = q ∧ a = b := by
  rcases List.append_eq_append_iff.1 h with ⟨rest, rfl, hrest⟩ | ⟨rest, rfl, hrest⟩
  · obtain rfl := eq_nil_of_mark ha hrest
    simpa using hrest
  · obtain rfl := eq_nil_of_mark hb hrest
    simpa using hrest.symm

end Address

end Lookout
