import Lookout.Proofs.Address.Splitting
import Lookout.Proofs.Ip
import Lookout.Proofs.Text.Blank

/-!
# One spelling for every host

Every way to write an IP address as a host comes to one address, which is taken apart into a host
that comes to it again; different IP addresses or ports come to different addresses.

-/
set_option autoImplicit false

namespace Lookout.Address

open Text

/-- The host is that text, as it is or in one pair of brackets, with any blanks around. -/
def Shows (host text : List Char) : Prop :=
  ∃ front back, (∀ c ∈ front, isBlank c = true) ∧ (∀ c ∈ back, isBlank c = true) ∧
    (host = front ++ text ++ back ∨ host = front ++ ('[' :: text ++ [']']) ++ back)

/-! ## Brackets -/

theorem unbracket_bracketed (text : List Char) : unbracket ('[' :: text ++ [']']) = text := by
  simp [unbracket]

theorem unbracket_of_head? {text : List Char} (h : text.head? ≠ some '[') :
    unbracket text = text := by
  unfold unbracket
  split
  · exact absurd rfl h
  · rfl

theorem trim_bracketed (text : List Char) : trim ('[' :: text ++ [']']) = '[' :: text ++ [']'] := by
  refine trim_eq_self_iff.2 ⟨?_, dropTrailing_concat (by decide)⟩
  exact List.dropWhile_cons_of_neg (by decide)

theorem unbracket_trim_of_shows {host text : List Char} (h : Shows host text)
    (htrim : trim text = text) (hbracket : text.head? ≠ some '[') :
    unbracket (trim host) = text := by
  obtain ⟨front, back, hfront, hback, rfl | rfl⟩ := h
  · rw [trim_around hfront hback htrim, unbracket_of_head? hbracket]
  · rw [trim_around hfront hback (trim_bracketed text), unbracket_bracketed]

theorem normalize?_eq_some_iff {host address : String} {port : UInt16} :
    normalize? host port = some address ↔
      normalizeChars? host.toList port = some address.toList := by
  rw [normalize?, Option.map_eq_some_iff]
  constructor
  · rintro ⟨cs, hcs, rfl⟩
    rw [hcs, String.toList_ofList]
  · intro h
    exact ⟨_, h, String.ofList_toList⟩

/-! ## IP addresses -/

theorem not_blank_of_isTextChar {c : Char} (h : Ip.IsTextChar c) : isBlank c = false := by
  rcases h with hdigit | rfl | rfl
  · obtain ⟨hlow, hhigh⟩ := toNat_of_isDigit hdigit
    exact isBlank_eq_false (by omega) (by omega)
  · decide
  · decide

theorem bare_of_parse? {text : List Char} {ip : Ip} (h : Ip.parse? text = some ip) :
    text ≠ [] ∧ trim text = text ∧ text.head? ≠ some '[' := by
  have hchars := Ip.isTextChar_of_parse? h
  refine ⟨?_, trim_of_forall_mem fun c hc => not_blank_of_isTextChar (hchars c hc), ?_⟩
  · rintro rfl
    cases h
  · intro hhead
    obtain ⟨rest, rfl⟩ := List.head?_eq_some_iff.1 hhead
    exact absurd (hchars '[' List.mem_cons_self) (by simp only [Ip.IsTextChar]; decide)

theorem normalizeChars?_of_parse? {host text : List Char} {ip : Ip} (h : Ip.parse? text = some ip)
    (hshows : Shows host text) (port : UInt16) :
    normalizeChars? host port = some (ofIp ip port) := by
  obtain ⟨hempty, htrim, hbracket⟩ := bare_of_parse? h
  simp [normalizeChars?, unbracket_trim_of_shows hshows htrim hbracket, hempty, h]

theorem shows_self (text : List Char) : Shows text text :=
  ⟨[], [], by simp, by simp, Or.inl (by simp)⟩

theorem not_blank_of_mem_decimal {n : Nat} {c : Char} (h : c ∈ decimal n) : isBlank c = false :=
  not_blank_of_isTextChar (Or.inl (isDigit_mono (by decide) (isDigit_of_mem_decimal h)))

theorem trim_ofIp (ip : Ip) (port : UInt16) : trim (ofIp ip port) = ofIp ip port := by
  have htext : ∀ c ∈ ip.text, isBlank c = false := fun c hc =>
    not_blank_of_isTextChar (Ip.isTextChar_of_parse? ip.parse?_text c hc)
  refine trim_of_forall_mem ?_
  cases ip with
  | v4 ip =>
    simp only [ofIp, withPort, List.forall_mem_append, List.forall_mem_cons]
    exact ⟨htext, by decide, fun _ => not_blank_of_mem_decimal⟩
  | v6 ip =>
    simp only [ofIp, withPort, List.forall_mem_append, List.forall_mem_cons, List.cons_append]
    exact ⟨by decide, ⟨htext, by decide, by simp⟩, by decide, fun _ => not_blank_of_mem_decimal⟩

theorem splitChars?_ofIp (ip : Ip) (port : UInt16) :
    splitChars? (ofIp ip port) = some (ip.text, port) := by
  obtain ⟨hempty, -, hbracket⟩ := bare_of_parse? ip.parse?_text
  rw [splitChars?_eq_some_iff, trim_ofIp]
  cases ip with
  | v4 ip => exact .plain hempty ip.colon_not_mem_text hbracket (writesPort_decimal port)
  | v6 ip =>
    have hclosed : ']' ∉ ip.text := fun hmem =>
      absurd (Ip.isTextChar_of_parse? (Ip.parse?_text (.v6 ip)) _ hmem)
        (by simp only [Ip.IsTextChar]; decide)
    simpa [ofIp, withPort, Ip.text] using Writes.bracketed hempty hclosed (writesPort_decimal port)

theorem ofIp_inj {ip ip' : Ip} {port port' : UInt16} (h : ofIp ip port = ofIp ip' port') :
    ip = ip' ∧ port = port' := by
  have hsplit := splitChars?_ofIp ip port
  rw [h, splitChars?_ofIp] at hsplit
  obtain ⟨htext, hport⟩ := Prod.mk.inj (Option.some.inj hsplit)
  have hparse := Ip.parse?_text ip
  rw [← htext, Ip.parse?_text] at hparse
  exact ⟨(Option.some.inj hparse).symm, hport.symm⟩

/-- However an IP address is written as a host, it comes to one address. That address is taken apart
into the text of the IP address and its port, which come to it again, and it belongs to no other IP
address or port. -/
theorem ip_has_one_address (ip : Ip) (port : UInt16) :
    let address := String.ofList (ofIp ip port)
    (∀ (host : String) (text : List Char), Ip.parse? text = some ip → Shows host.toList text →
      normalize? host port = some address) ∧
    (∃ host, split? address = some (host, port) ∧ Ip.parse? host.toList = some ip ∧
      normalize? host port = some address) ∧
    ∀ ip' port', String.ofList (ofIp ip' port') = address → ip' = ip ∧ port' = port := by
  intro address
  have haddress : address.toList = ofIp ip port := String.toList_ofList
  have hwritten : ∀ (host : String) (text : List Char), Ip.parse? text = some ip →
      Shows host.toList text → normalize? host port = some address := by
    intro host text hparse hshows
    rw [normalize?_eq_some_iff, haddress]
    exact normalizeChars?_of_parse? hparse hshows port
  refine ⟨hwritten, ⟨String.ofList ip.text, ?_, ?_, ?_⟩, ?_⟩
  · rw [split?, haddress, splitChars?_ofIp]
    rfl
  · rw [String.toList_ofList, ip.parse?_text]
  · refine hwritten _ ip.text ip.parse?_text ?_
    rw [String.toList_ofList]
    exact shows_self _
  · intro ip' port' heq
    exact ofIp_inj (String.ofList_injective heq)

/-- An address mapped from version 4, written with capitals, needless zeros, brackets and blanks. -/
theorem ip_has_one_address_of_mapped :
    ∃ ip, Ip.parse? "0:0:0::FfFf:102:0304".toList = some ip ∧
      normalize? " [0:0:0::FfFf:102:0304]\t" 443 = some "[::ffff:1.2.3.4]:443" ∧
      ∃ host, split? "[::ffff:1.2.3.4]:443" = some (host, 443) ∧
        Ip.parse? host.toList = some ip ∧ normalize? host 443 = some "[::ffff:1.2.3.4]:443" := by
  let ip : Ip := .v6 ⟨[0, 0, 0, 0, 0, 0xFFFF, 0x0102, 0x0304], rfl⟩
  have hparse : Ip.parse? "0:0:0::FfFf:102:0304".toList = some ip := by rfl
  have haddress : String.ofList (ofIp ip 443) = "[::ffff:1.2.3.4]:443" := by decide
  obtain ⟨hwritten, hread, -⟩ := ip_has_one_address ip 443
  rw [haddress] at hwritten hread
  refine ⟨ip, hparse, hwritten _ _ hparse ?_, hread⟩
  exact ⟨[' '], ['\t'], List.all_eq_true.1 (by decide), List.all_eq_true.1 (by decide),
    Or.inr (by decide)⟩

end Lookout.Address
