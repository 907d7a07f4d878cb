import Lookout.Proofs.Address.Canonical

/-!
# Host names

A host that is no IP address keeps its name, in lower case and without the dots at its end. The
blanks around a host go first, the brackets next and the dots last, and what one step lays bare no
earlier step sees again: so a name can be left with a blank at an end or with a bracket in front.
Names that are not can be read back from their addresses, and those that are cannot.
-/
set_option autoImplicit false

namespace Lookout.Address

open Text

/-! ## Lower case -/

theorem lowerAscii_eq_self {c : Char} (h : c.toNat < 0x41 ∨ 0x5A < c.toNat) :
    lowerAscii c = c := by
  refine dif_neg ?_
  simp only [ge_iff_le, UInt32.le_iff_toNat_le]
  change ¬(0x41 ≤ c.toNat ∧ c.toNat ≤ 0x5A)
  omega

theorem toNat_lowerAscii {c : Char} (h : 0x41 ≤ c.toNat ∧ c.toNat ≤ 0x5A) :
    (lowerAscii c).toNat = c.toNat + 32 := by
  have hupper : c.val ≥ 'A'.val ∧ c.val ≤ 'Z'.val := by
    simp only [ge_iff_le, UInt32.le_iff_toNat_le]
    exact h
  have hval : (lowerAscii c).val = c.val + 32 := congrArg Char.val (dif_pos hupper)
  have hadd : (c.val + 32).toNat = (c.toNat + 32) % 2 ^ 32 := UInt32.toNat_add c.val 32
  change (lowerAscii c).val.toNat = c.toNat + 32
  rw [hval]
  omega

theorem lowerAscii_cases (c : Char) :
    lowerAscii c = c ∨ (0x41 ≤ c.toNat ∧ c.toNat ≤ 0x5A) ∧ (lowerAscii c).toNat = c.toNat + 32 := by
  by_cases h : 0x41 ≤ c.toNat ∧ c.toNat ≤ 0x5A
  · exact Or.inr ⟨h, toNat_lowerAscii h⟩
  · exact Or.inl (lowerAscii_eq_self (by omega))

theorem lowerAscii_lowerAscii (c : Char) : lowerAscii (lowerAscii c) = lowerAscii c := by
  rcases lowerAscii_cases c with hsame | ⟨hupper, hlower⟩
  · rw [hsame, hsame]
  · exact lowerAscii_eq_self (by omega)

theorem isBlank_lowerAscii (c : Char) : isBlank (lowerAscii c) = isBlank c := by
  rcases lowerAscii_cases c with hsame | ⟨hupper, hlower⟩
  · rw [hsame]
  · rw [isBlank_eq_false (by omega) (by omega), isBlank_eq_false (by omega) (by omega)]

theorem lowerAscii_eq_iff {c d : Char} (hd : d.toNat < 0x41 ∨ 0x5A < d.toNat ∧ d.toNat < 0x61) :
    lowerAscii c = d ↔ c = d := by
  rcases lowerAscii_cases c with hsame | ⟨hupper, hlower⟩
  · rw [hsame]
  · constructor <;> rintro rfl <;> omega

/-! ## Names -/

/-- The name that a host is left with. -/
def nameOf (host : List Char) : List Char := dropTrailing (· = '.') (unbracket (trim host))

/-- No blank at either end and no bracket in front. -/
def Settled (name : List Char) : Prop := trim name = name ∧ name.head? ≠ some '['

instance (name : List Char) : Decidable (Settled name) :=
  inferInstanceAs (Decidable (_ ∧ _))

def lowered (cs : List Char) : List Char := cs.map lowerAscii

theorem trim_lowered (cs : List Char) : trim (lowered cs) = lowered (trim cs) := by
  have hcomp : isBlank ∘ lowerAscii = isBlank := funext isBlank_lowerAscii
  rw [trim, lowered, List.dropWhile_map, hcomp, dropTrailing_map isBlank_lowerAscii, trim, lowered]

theorem dropDots_lowered (cs : List Char) :
    dropTrailing (· = '.') (lowered cs) = lowered (dropTrailing (· = '.') cs) :=
  dropTrailing_map (fun c => decide_eq_decide.2 (lowerAscii_eq_iff (by decide))) cs

theorem lowered_lowered (cs : List Char) : lowered (lowered cs) = lowered cs := by
  simp [lowered, lowerAscii_lowerAscii]

theorem length_lowered (cs : List Char) : (lowered cs).length = cs.length := List.length_map _

theorem colon_mem_lowered {cs : List Char} : ':' ∈ lowered cs ↔ ':' ∈ cs := by
  simp only [lowered, List.mem_map, lowerAscii_eq_iff (d := ':') (by decide), exists_eq_right]

theorem settled_lowered {name : List Char} : Settled (lowered name) ↔ Settled name := by
  refine and_congr ?_ (not_congr ?_)
  · rw [trim_lowered]
    constructor
    · intro h
      refine (infix_trim name).eq_of_length ?_
      rw [← length_lowered (trim name), h, length_lowered]
    · intro h
      rw [h]
  · rw [lowered, List.head?_map, Option.map_eq_some_iff]
    simp only [lowerAscii_eq_iff (d := '[') (by decide), exists_eq_right]

theorem plainHost?_eq_some_iff {bare name : List Char} :
    plainHost? bare = some name ↔
      name = lowered (dropTrailing (· = '.') bare) ∧ name ≠ [] ∧ ':' ∉ name := by
  simp only [plainHost?, Option.ite_none_left_eq_some, Bool.or_eq_true, List.isEmpty_iff,
    List.contains_iff_mem, not_or, Option.some.injEq]
  constructor
  · rintro ⟨hname, rfl⟩
    exact ⟨rfl, hname⟩
  · rintro ⟨rfl, hname⟩
    exact ⟨hname, rfl⟩

/-- The text of a version 4 address is a name like any other. -/
theorem plainHost?_text (ip : IPv4) : plainHost? ip.text = some ip.text := by
  have hdots : dropTrailing (· = '.') ip.text = ip.text := by
    have hlast : ∀ c ∈ decimal ip.d.toNat, decide (c = '.') = false := fun c hc =>
      decide_eq_false fun hpoint => absurd (isDigit_of_mem_decimal (hpoint ▸ hc)) (by decide)
    rw [IPv4.text, List.append_cons]
    exact dropTrailing_append_of_forall_not Nat.toDigits_ne_nil hlast
  have hlower : lowered ip.text = ip.text := by
    refine (List.map_congr_left fun c hc => ?_).trans (List.map_id _)
    refine lowerAscii_eq_self (Or.inl ?_)
    rcases ip.forall_mem_text c hc with hdigit | rfl
    · rw [isDigit_ten, Char.isDigit_iff_toNat] at hdigit
      exact hdigit.2.trans_lt (by decide)
    · decide
  rw [plainHost?_eq_some_iff, hdots, hlower]
  exact ⟨rfl, (bare_of_parse? (Ip.parse?_text (.v4 ip))).1, ip.colon_not_mem_text⟩

theorem normalizeChars?_eq_plain {host : List Char}
    (h : Ip.parse? (unbracket (trim host)) = none ∨ ':' ∉ unbracket (trim host)) (port : UInt16) :
    normalizeChars? host port = (plainHost? (unbracket (trim host))).map (withPort · port) := by
  unfold normalizeChars?
  dsimp only
  split
  · next hempty =>
    rw [List.isEmpty_iff.1 hempty]
    rfl
  · split
    · next ip hparse =>
      have hcolon : ':' ∉ unbracket (trim host) := h.resolve_left (by simp [hparse])
      obtain ⟨v4, rfl, htext⟩ := Ip.text_of_parse? hparse hcolon
      rw [htext, plainHost?_text]
      rfl
    · rfl

theorem withPort_inj {name name' : List Char} {port : UInt16}
    (h : withPort name port = withPort name' port) : name = name' :=
  List.append_cancel_right h

/-! ## Names in addresses -/

theorem trim_withPort (name : List Char) (port : UInt16) :
    trim (withPort name port) = withPort (name.dropWhile isBlank) port := by
  have hback : ∀ c ∈ ':' :: decimal port.toNat, isBlank c = false := by
    simp only [List.forall_mem_cons]
    exact ⟨by decide, fun _ => not_blank_of_mem_decimal⟩
  have hfront : (withPort name port).dropWhile isBlank =
      withPort (name.dropWhile isBlank) port := by
    rw [withPort, List.dropWhile_append, withPort]
    split
    · next hempty =>
      rw [List.isEmpty_iff.1 hempty, List.dropWhile_cons_of_neg (by decide)]
      rfl
    · rfl
  rw [trim, hfront]
  exact dropTrailing_append_of_forall_not (List.cons_ne_nil _ _) hback

theorem host_of_writes {name host : List Char} {port port' : UInt16}
    (h : Writes (withPort name port) host port') :
    (name = host ∧ host.head? ≠ some '[') ∨ name = '[' :: host ++ [']'] := by
  have hfront : ∀ {front cs : List Char}, WritesPort cs port' →
      withPort name port = front ++ ':' :: cs → name = front := by
    intro front cs hport heq
    have hname : splitLast? ':' (withPort name port) = some (name, decimal port.toNat) :=
      splitLast?_eq_some_iff.2
        ⟨(writesPort_decimal port).not_mem (by decide) (by decide), rfl⟩
    have hcs := splitLast?_eq_some_iff.2 ⟨hport.not_mem (by decide) (by decide), heq⟩
    exact (Prod.mk.inj (Option.some.inj (hname.symm.trans hcs))).1
  generalize htext : withPort name port = text at h
  cases h with
  | bracketed nonempty closed written =>
    exact Or.inr (hfront written (by rw [htext]; simp))
  | plain nonempty single unbracketed written =>
    exact Or.inl ⟨hfront written htext, unbracketed⟩

theorem infix_unbracket (cs : List Char) : unbracket cs <:+: cs := by
  unfold unbracket
  split
  · next rest =>
    split
    · exact (List.dropLast_prefix rest).isInfix.trans (List.suffix_cons _ _).isInfix
    · exact List.infix_rfl
  · exact List.infix_rfl

/-- No host without a colon comes to a longer name. -/
theorem length_le_of_normalizeChars? {name host : List Char} {port : UInt16} (hcolon : ':' ∉ host)
    (h : normalizeChars? host port = some (withPort name port)) :
    name.length ≤ (trim host).length := by
  have hbare : ':' ∉ unbracket (trim host) := fun hmem =>
    hcolon ((infix_trim host).subset ((infix_unbracket _).subset hmem))
  rw [normalizeChars?_eq_plain (Or.inr hbare), Option.map_eq_some_iff] at h
  obtain ⟨name', hplain, heq⟩ := h
  obtain ⟨rfl, -, -⟩ := plainHost?_eq_some_iff.1 hplain
  rw [← withPort_inj heq, length_lowered]
  exact prefix_dropTrailing.length_le.trans (infix_unbracket _).length_le

/-- An address is read back exactly if its name has no blank at either end and no bracket in front:
otherwise part of the name is taken for what surrounds it. -/
theorem read_back_iff {name : List Char} {port : UInt16} (hempty : name ≠ []) (hcolon : ':' ∉ name)
    (hdots : dropTrailing (· = '.') name = name) (hlower : lowered name = name) :
    (∃ host, splitChars? (withPort name port) = some (host, port) ∧
      normalizeChars? host port = some (withPort name port)) ↔ Settled name := by
  constructor
  · rintro ⟨host, hsplit, hnormal⟩
    rw [splitChars?_eq_some_iff, trim_withPort] at hsplit
    have hsuffix : name.dropWhile isBlank <:+ name := List.dropWhile_suffix _
    rcases host_of_writes hsplit with ⟨hhost, hbracket⟩ | hhost
    · have hle := length_le_of_normalizeChars? (hhost ▸ fun h => hcolon (hsuffix.subset h)) hnormal
      rw [← hhost] at hle hbracket
      have hsame : name.dropWhile isBlank = name :=
        hsuffix.eq_of_length_le (hle.trans (infix_trim _).length_le)
      rw [hsame] at hle hbracket
      exact ⟨(infix_trim name).eq_of_length_le hle, hbracket⟩
    · -- a name in brackets would come from what is between them, which is too short
      have hinner : ':' ∉ host := fun h => hcolon (hsuffix.subset (hhost ▸ by simp [h]))
      have hle := length_le_of_normalizeChars? hinner hnormal
      have hlonger : host.length + 2 = (name.dropWhile isBlank).length := by simp [hhost]
      have hshort := hsuffix.length_le
      have hhost := (infix_trim host).length_le
      omega
  · rintro ⟨htrim, hbracket⟩
    refine ⟨name, ?_, ?_⟩
    · rw [splitChars?_eq_some_iff, trim_withPort, (trim_eq_self_iff.1 htrim).1]
      exact .plain hempty hcolon hbracket (writesPort_decimal port)
    · have hbare : unbracket (trim name) = name := by rw [htrim, unbracket_of_head? hbracket]
      have hplain : plainHost? name = some name :=
        plainHost?_eq_some_iff.2 ⟨by rw [hdots, hlower], hempty, hcolon⟩
      rw [normalizeChars?_eq_plain (Or.inr (by rwa [hbare])), hbare, hplain]
      rfl

/-! ## Spellings of a name -/

theorem nameOf_dots (host : List Char) :
    dropTrailing (· = '.') (lowered (nameOf host)) = lowered (nameOf host) := by
  rw [dropDots_lowered, nameOf]
  exact congrArg lowered (List.rdropWhile_idempotent _ _)

theorem trim_append_dots {name dots : List Char} (hempty : name ≠ []) (htrim : trim name = name)
    (hdots : ∀ c ∈ dots, c = '.') : trim (name ++ dots) = name ++ dots := by
  obtain ⟨hfront, hback⟩ := trim_eq_self_iff.1 htrim
  obtain ⟨c, rest, rfl⟩ := List.exists_cons_of_ne_nil hempty
  have hc : isBlank c = false := by simpa using List.dropWhile_eq_self_iff.1 hfront
  refine trim_eq_self_iff.2 ⟨List.dropWhile_cons_of_neg (by simp [hc]), ?_⟩
  cases dots with
  | nil => rwa [List.append_nil]
  | cons dot dots =>
    refine dropTrailing_append_of_forall_not (List.cons_ne_nil _ _) fun d hd => ?_
    rw [hdots d hd]
    decide

theorem normalizeChars?_of_spelling {host name dots : List Char} (hempty : lowered name ≠ [])
    (hcolon : ':' ∉ lowered name) (hsettled : Settled (lowered name))
    (hlast : dropTrailing (· = '.') (lowered name) = lowered name) (hdots : ∀ c ∈ dots, c = '.')
    (hshows : Shows host (name ++ dots)) (port : UInt16) :
    normalizeChars? host port = some (withPort (lowered name) port) := by
  obtain ⟨htrim, hbracket⟩ := settled_lowered.1 hsettled
  have hname : name ≠ [] := by
    rintro rfl
    exact hempty rfl
  have hbare : unbracket (trim host) = name ++ dots := by
    refine unbracket_trim_of_shows hshows (trim_append_dots hname htrim hdots) ?_
    rwa [List.head?_append_of_ne_nil _ hname]
  have hplain : plainHost? (name ++ dots) = some (lowered name) := by
    rw [plainHost?_eq_some_iff, dropTrailing_append (by simpa using hdots), ← dropDots_lowered,
      hlast]
    exact ⟨rfl, hempty, hcolon⟩
  have hcolonless : ':' ∉ name ++ dots := by
    rw [List.mem_append, not_or]
    exact ⟨fun hmem => hcolon (colon_mem_lowered.2 hmem),
      fun hmem => absurd (hdots _ hmem) (by decide)⟩
  rw [normalizeChars?_eq_plain (Or.inr (by rwa [hbare])), hbare, hplain]
  rfl

theorem exists_read_back_iff {address : String} {port : UInt16} :
    (∃ again, split? address = some (again, port) ∧ normalize? again port = some address) ↔
      ∃ host, splitChars? address.toList = some (host, port) ∧
        normalizeChars? host port = some address.toList := by
  simp only [split?_eq_some_iff, ← splitChars?_eq_some_iff, normalize?_eq_some_iff]
  constructor
  · rintro ⟨again, h⟩
    exact ⟨again.toList, h⟩
  · rintro ⟨host, h⟩
    exact ⟨String.ofList host, by rwa [String.toList_ofList]⟩

/-- A host that is no IP address comes to its name in lower case. The address is read back exactly
if the name has no blank at either end and no bracket in front, and then every spelling of the name
comes to the same address. -/
theorem name_read_back_iff {host address : String} {port : UInt16}
    (hname : Ip.parse? (unbracket (trim host.toList)) = none)
    (h : normalize? host port = some address) :
    address.toList = withPort (lowered (nameOf host.toList)) port ∧
    ((∃ again, split? address = some (again, port) ∧ normalize? again port = some address) ↔
      Settled (nameOf host.toList)) ∧
    (Settled (nameOf host.toList) → ∀ (other : String) (name dots : List Char),
      lowered name = lowered (nameOf host.toList) → (∀ c ∈ dots, c = '.') →
      Shows other.toList (name ++ dots) → normalize? other port = some address) := by
  rw [normalize?_eq_some_iff, normalizeChars?_eq_plain (Or.inl hname),
    Option.map_eq_some_iff] at h
  obtain ⟨name, hplain, haddress⟩ := h
  obtain ⟨hlowered, hempty, hcolon⟩ := plainHost?_eq_some_iff.1 hplain
  change name = lowered (nameOf host.toList) at hlowered
  subst hlowered
  have hdots := nameOf_dots host.toList
  refine ⟨haddress.symm, ?_, ?_⟩
  · rw [exists_read_back_iff, ← haddress]
    exact (read_back_iff hempty hcolon hdots (lowered_lowered _)).trans settled_lowered
  · intro hsettled other name dots hsame hend hshows
    rw [normalize?_eq_some_iff, ← haddress]
    rw [← settled_lowered] at hsettled
    rw [← hsame] at hempty hcolon hdots hsettled ⊢
    exact normalizeChars?_of_spelling hempty hcolon hsettled hdots hend hshows port

/-- A name with blanks, capitals and a dot at its end, and one more spelling of it. -/
theorem name_read_back_of_spelling :
    Ip.parse? (unbracket (trim " User.SVC.local. ".toList)) = none ∧
    normalize? " User.SVC.local. " 8080 = some "user.svc.local:8080" ∧
    (∃ again, split? "user.svc.local:8080" = some (again, 8080) ∧
      normalize? again 8080 = some "user.svc.local:8080") ∧
    normalize? "[USER.svc.Local..]\n" 8080 = some "user.svc.local:8080" := by
  have hname : Ip.parse? (unbracket (trim " User.SVC.local. ".toList)) = none := by decide
  have hnormal : normalize? " User.SVC.local. " 8080 = some "user.svc.local:8080" := by decide
  have hsettled : Settled (nameOf " User.SVC.local. ".toList) := by decide
  obtain ⟨-, hback, hspellings⟩ := name_read_back_iff hname hnormal
  refine ⟨hname, hnormal, hback.2 hsettled, ?_⟩
  exact hspellings hsettled "[USER.svc.Local..]\n" "USER.svc.Local".toList ['.', '.'] (by decide)
    (by simp) ⟨[], ['\n'], by simp, List.all_eq_true.1 (by decide), Or.inr (by decide)⟩

/-- When the dots at the end go, the blank before them stays: the address is not read back, and the
name without the blank has another one. -/
theorem blank_before_dots_stays :
    Ip.parse? (unbracket (trim "user .".toList)) = none ∧
    normalize? "user ." 80 = some "user :80" ∧
    ¬(∃ again, split? "user :80" = some (again, 80) ∧ normalize? again 80 = some "user :80") ∧
    normalize? "user" 80 = some "user:80" := by
  refine ⟨by decide, by decide, ?_, by decide⟩
  rintro ⟨again, hsplit, hnormal⟩
  have hagain : split? "user :80" = some ("user ", 80) := by decide
  obtain ⟨rfl, -⟩ := Prod.mk.inj (Option.some.inj (hagain.symm.trans hsplit))
  exact absurd hnormal (by decide)

end Lookout.Address
