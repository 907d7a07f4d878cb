import Lookout.Ip
import Lookout.Proofs.Text.Digits
import Mathlib.Data.List.TakeWhile

/-!
# Texts of IP addresses

Every address is read again from the text it is written as. A version 4 address has only that one
text; a version 6 address has many, and every one of them has a colon.
-/
set_option autoImplicit false

namespace Lookout

open Text

namespace Ip

variable {base : Nat}

/-- No digit comes first. -/
def Ends (base : Nat) (cs : List Char) : Prop := ∀ c ∈ cs.head?, isDigit base c = false

theorem ends_nil : Ends base [] := by simp [Ends]

theorem ends_cons {c : Char} {cs : List Char} : Ends base (c :: cs) ↔ isDigit base c = false := by
  simp [Ends]

theorem splitDigits_eq_iff {cs digits rest : List Char} :
    splitDigits base cs = (digits, rest) ↔
      cs = digits ++ rest ∧ (∀ c ∈ digits, isDigit base c = true) ∧ Ends base rest := by
  constructor
  · intro h
    obtain ⟨rfl, rfl⟩ := Prod.mk.inj h
    refine ⟨List.takeWhile_append_dropWhile.symm, fun c => List.mem_takeWhile_imp, ?_⟩
    intro c hc
    have hhead := List.head?_dropWhile_not (isDigit base) cs
    rw [Option.mem_def.1 hc] at hhead
    simpa using hhead
  · rintro ⟨rfl, hdigits, hrest⟩
    rw [splitDigits, List.takeWhile_append_of_pos hdigits, List.dropWhile_append_of_pos hdigits]
    cases rest with
    | nil => simp
    | cons c rest => simp [ends_cons.1 hrest]

/-- Neither a group nor an octet goes on here, and no further octet follows. -/
def Breaks (cs : List Char) : Prop := Ends 16 cs ∧ cs.head? ≠ some '.'

theorem breaks_nil : Breaks [] := ⟨ends_nil, by simp⟩

theorem breaks_colon (cs : List Char) : Breaks (':' :: cs) := ⟨ends_cons.2 (by decide), by simp⟩

end Ip

/-! ## Version 4 -/

namespace IPv4

theorem readOctet_eq_some_iff {cs rest : List Char} {a : UInt8} :
    readOctet cs = some (a, rest) ↔ cs = decimal a.toNat ++ rest ∧ Ip.Ends 10 rest := by
  constructor
  · intro h
    rw [readOctet] at h
    rcases hsplit : Ip.splitDigits 10 cs with ⟨digits, back⟩
    simp only [hsplit, Option.ite_none_left_eq_some, Option.some.injEq, Prod.mk.injEq,
      Bool.or_eq_true, Bool.and_eq_true, decide_eq_true_eq, List.isEmpty_iff, not_or, not_and,
      not_lt] at h
    obtain ⟨⟨⟨⟨hempty, -⟩, hzero⟩, hvalue⟩, rfl, rfl⟩ := h
    obtain ⟨rfl, hdigits, hends⟩ := Ip.splitDigits_eq_iff.1 hsplit
    have hwritten := toDigits_valueOf hdigits hempty fun hhead =>
      le_antisymm (hzero hhead) (List.length_pos_iff.2 hempty)
    refine ⟨?_, hends⟩
    rw [decimal, UInt8.toNat_ofNat_of_lt' (Nat.lt_succ_of_le hvalue), hwritten]
  · rintro ⟨rfl, hends⟩
    have hlt : a.toNat < 256 := a.toNat_lt
    have hempty : decimal a.toNat ≠ [] := Nat.toDigits_ne_nil
    have hlength : (decimal a.toNat).length ≤ 3 :=
      (Nat.length_toDigits_le_iff (by decide) (by decide)).2 (by omega)
    have hzero : (decimal a.toNat).head? = some '0' → (decimal a.toNat).length = 1 :=
      length_toDigits_of_head? (by decide) (by decide)
    have hvalue : valueOf 10 (decimal a.toNat) = a.toNat :=
      valueOf_toDigits (by decide) (by decide) _
    rw [readOctet, Ip.splitDigits_eq_iff.2 ⟨rfl, fun _ => isDigit_of_mem_decimal, hends⟩]
    simp only [hvalue, Option.ite_none_left_eq_some, Bool.or_eq_true, Bool.and_eq_true,
      decide_eq_true_eq, List.isEmpty_iff, not_or, not_and, not_lt]
    exact ⟨⟨⟨⟨hempty, hlength⟩, fun h => (hzero h).le⟩, by omega⟩, by simp⟩

theorem readNext_eq_some_iff {cs rest : List Char} {a : UInt8} :
    readNext cs = some (a, rest) ↔ cs = '.' :: decimal a.toNat ++ rest ∧ Ip.Ends 10 rest := by
  unfold readNext
  split
  · next start => simp [readOctet_eq_some_iff]
  · next hpoint =>
    constructor
    · intro h
      cases h
    · rintro ⟨rfl, -⟩
      exact absurd rfl (hpoint _)

theorem read_eq_some_iff {cs rest : List Char} {ip : IPv4} :
    read cs = some (ip, rest) ↔ cs = ip.text ++ rest ∧ Ip.Ends 10 rest := by
  have hpoint : isDigit 10 '.' = false := by decide
  simp only [read, Option.bind_eq_bind, Option.bind_eq_some_iff, Prod.exists,
    readOctet_eq_some_iff, readNext_eq_some_iff, Option.pure_def, Option.some.injEq,
    Prod.mk.injEq]
  constructor
  · rintro ⟨a, _, ⟨rfl, -⟩, b, _, ⟨rfl, -⟩, c, _, ⟨rfl, -⟩, d, _, ⟨rfl, hends⟩, rfl, rfl⟩
    exact ⟨by simp [text], hends⟩
  · rintro ⟨rfl, hends⟩
    refine ⟨ip.a, _, ⟨?_, ?_⟩, ip.b, _, ⟨rfl, ?_⟩, ip.c, _, ⟨rfl, ?_⟩, ip.d, _, ⟨rfl, hends⟩, rfl,
      rfl⟩
    · simp [text]
    all_goals exact Ip.ends_cons.2 hpoint

theorem forall_mem_text (ip : IPv4) : ∀ c ∈ ip.text, isDigit 10 c = true ∨ c = '.' := by
  have hdecimal : ∀ n, ∀ c ∈ decimal n, isDigit 10 c = true ∨ c = '.' := fun n c hc =>
    Or.inl (isDigit_of_mem_decimal hc)
  simp only [text, List.forall_mem_append, List.forall_mem_cons]
  exact ⟨⟨⟨hdecimal _, by simp, hdecimal _⟩, by simp, hdecimal _⟩, by simp, hdecimal _⟩

theorem colon_not_mem_text (ip : IPv4) : ':' ∉ ip.text := fun h =>
  absurd (ip.forall_mem_text ':' h) (by decide)

theorem read_eq_none {digits rest : List Char} (hdigits : ∀ c ∈ digits, isDigit 16 c = true)
    (hbreaks : Ip.Breaks rest) : read (digits ++ rest) = none := by
  rw [Option.eq_none_iff_forall_ne_some]
  rintro ⟨ip, back⟩ hread
  obtain ⟨htext, -⟩ := read_eq_some_iff.1 hread
  have hsplit := Ip.splitDigits_eq_iff.2 ⟨rfl, hdigits, hbreaks.1⟩
  have hoctet : ∀ c ∈ decimal ip.a.toNat, isDigit 16 c = true := fun c hc =>
    isDigit_mono (by decide) (isDigit_of_mem_decimal hc)
  have htext' : digits ++ rest = decimal ip.a.toNat ++ '.' :: (decimal ip.b.toNat ++
      '.' :: (decimal ip.c.toNat ++ '.' :: (decimal ip.d.toNat ++ back))) := by
    rw [htext]
    simp [text]
  -- the digits in front are those of the first octet, but behind them comes no point
  have hsplit' := Ip.splitDigits_eq_iff.2 ⟨htext', hoctet, Ip.ends_cons.2 (by decide)⟩
  obtain ⟨-, rfl⟩ := Prod.mk.inj (hsplit.symm.trans hsplit')
  exact hbreaks.2 rfl

end IPv4

/-! ## Version 6 -/

namespace IPv6

theorem readGroup_hex (g : UInt16) {rest : List Char} (h : Ip.Ends 16 rest) :
    readGroup (hex g.toNat ++ rest) = some (g, rest) := by
  have hlt : g.toNat < 65536 := g.toNat_lt
  have hempty : hex g.toNat ≠ [] := Nat.toDigits_ne_nil
  have hlength : (hex g.toNat).length ≤ 4 :=
    (Nat.length_toDigits_le_iff (by decide) (by decide)).2 (by omega)
  have hvalue : valueOf 16 (hex g.toNat) = g.toNat := valueOf_toDigits (by decide) (by decide) _
  rw [readGroup, Ip.splitDigits_eq_iff.2 ⟨rfl, fun _ => isDigit_of_mem_hex, h⟩]
  simp only [hvalue, Option.ite_none_left_eq_some, Bool.or_eq_true, decide_eq_true_eq,
    List.isEmpty_iff, not_or, not_lt]
  exact ⟨⟨hempty, hlength⟩, by simp⟩

theorem readGroup_eq_none {cs : List Char} (h : Ip.Ends 16 cs) : readGroup cs = none := by
  rw [readGroup, Ip.splitDigits_eq_iff.2 ⟨(List.nil_append cs).symm, by simp, h⟩]
  simp

/-- The groups are over: at the end of the text or at the run that was left out. -/
def AtGap (cs : List Char) : Prop := cs = [] ∨ ∃ more, cs = ':' :: ':' :: more

theorem AtGap.breaks {cs : List Char} (h : AtGap cs) : Ip.Breaks cs := by
  rcases h with rfl | ⟨more, rfl⟩
  · exact Ip.breaks_nil
  · exact Ip.breaks_colon _

/-- Where a group could come but no digit does, nothing is read. -/
theorem readGroups_eq_none {cs : List Char} {first : Bool}
    (h : ∀ start ∈ afterColon first cs, Ip.Breaks start) (room : Nat) :
    readGroups room first cs = ⟨[], false, cs⟩ := by
  cases room with
  | zero => rfl
  | succ room =>
    rw [readGroups]
    cases hcolon : afterColon first cs with
    | none => rfl
    | some start =>
      have hbreaks := h start hcolon
      have hread : IPv4.read start = none := IPv4.read_eq_none (List.forall_mem_nil _) hbreaks
      simp [hread, readGroup_eq_none hbreaks.1]

theorem readGroups_atGap {cs : List Char} (h : AtGap cs) (room : Nat) (first : Bool) :
    readGroups room first cs = ⟨[], false, cs⟩ := by
  refine readGroups_eq_none ?_ room
  intro start hstart
  cases first with
  | true =>
    obtain rfl := Option.some.inj hstart
    exact h.breaks
  | false =>
    rcases h with rfl | ⟨more, rfl⟩
    · cases hstart
    · obtain rfl := Option.some.inj hstart
      exact Ip.breaks_colon _

theorem readGroups_hex {g : UInt16} {cs rest : List Char} {first : Bool}
    (hcolon : afterColon first cs = some (hex g.toNat ++ rest)) (hbreaks : Ip.Breaks rest)
    (room : Nat) :
    readGroups (room + 1) first cs =
      ⟨g :: (readGroups room false rest).groups, (readGroups room false rest).mixed,
        (readGroups room false rest).rest⟩ := by
  rw [readGroups, hcolon]
  simp [IPv4.read_eq_none (fun _ => isDigit_of_mem_hex) hbreaks, readGroup_hex g hbreaks.1]

/-- Groups, each with a colon before it. -/
def behindColons (groups : List UInt16) : List Char := groups.flatMap fun g => ':' :: hex g.toNat

theorem groupsText_cons (g : UInt16) (groups : List UInt16) :
    groupsText (g :: groups) = hex g.toNat ++ behindColons groups := by
  induction groups generalizing g with
  | nil => simp [groupsText, behindColons]
  | cons next rest ih => simp [groupsText, ih next, behindColons]

theorem breaks_behindColons (groups : List UInt16) {rest : List Char} (h : AtGap rest) :
    Ip.Breaks (behindColons groups ++ rest) := by
  cases groups with
  | nil => exact h.breaks
  | cons g groups => exact Ip.breaks_colon _

theorem readGroups_behindColons {groups : List UInt16} {rest : List Char} (h : AtGap rest)
    {room : Nat} (hroom : groups.length ≤ room) :
    readGroups room false (behindColons groups ++ rest) = ⟨groups, false, rest⟩ := by
  induction groups generalizing room with
  | nil => exact readGroups_atGap h room false
  | cons g groups ih =>
    cases room with
    | zero => simp at hroom
    | succ room =>
      have hcolon : afterColon false (behindColons (g :: groups) ++ rest) =
          some (hex g.toNat ++ (behindColons groups ++ rest)) := by
        simp [behindColons, afterColon]
      rw [readGroups_hex hcolon (breaks_behindColons groups h), ih (by simpa using hroom)]

theorem readGroups_groupsText {groups : List UInt16} {rest : List Char} (h : AtGap rest)
    {room : Nat} (hroom : groups.length ≤ room) :
    readGroups room true (groupsText groups ++ rest) = ⟨groups, false, rest⟩ := by
  cases groups with
  | nil => exact readGroups_atGap h room true
  | cons g groups =>
    cases room with
    | zero => simp at hroom
    | succ room =>
      have hcolon : afterColon true (groupsText (g :: groups) ++ rest) =
          some (hex g.toNat ++ (behindColons groups ++ rest)) := by
        simp [groupsText_cons, afterColon]
      rw [readGroups_hex hcolon (breaks_behindColons groups h),
        readGroups_behindColons h (by simpa using hroom)]

/-! ### The run that is left out -/

theorem longestZeros_le (groups : List UInt16) :
    (longestZeros groups).2 ≤ zerosFrom groups (longestZeros groups).1 := by
  rw [longestZeros]
  -- every run that is kept was counted from where it starts
  refine List.foldlRecOn (motive := fun best : Nat × Nat => best.2 ≤ zerosFrom groups best.1)
    (List.range groups.length) _ (Nat.zero_le _) ?_
  intro best hbest i _
  split
  · exact le_rfl
  · exact hbest

/-- As many zeros as were found may be left out and put back. -/
theorem take_replicate_drop {groups : List UInt16} {start length : Nat}
    (h : length ≤ zerosFrom groups start) :
    groups.take start ++ List.replicate length 0 ++ groups.drop (start + length) = groups := by
  have hle : length ≤ (groups.drop start).length := h.trans (List.takeWhile_sublist _).length_le
  have hlength : ((groups.drop start).take length).length = length := List.length_take_of_le hle
  have hwithin : (groups.drop start).take length <+: (groups.drop start).takeWhile (· == 0) :=
    List.prefix_of_prefix_length_le (List.take_prefix _ _) (List.takeWhile_prefix _)
      (hlength.trans_le h)
  have hzeros : (groups.drop start).take length = List.replicate length 0 :=
    List.eq_replicate_iff.2
      ⟨hlength, fun g hg => by simpa using List.mem_takeWhile_imp (hwithin.subset hg)⟩
  rw [← hzeros, List.append_assoc, ← List.drop_drop, List.take_append_drop,
    List.take_append_drop]

theorem length_le_of_zerosFrom {groups : List UInt16} {start length : Nat} (hpos : 0 < length)
    (h : length ≤ zerosFrom groups start) : start + length ≤ groups.length := by
  have hle : zerosFrom groups start ≤ (groups.drop start).length :=
    (List.takeWhile_sublist _).length_le
  rw [List.length_drop] at hle
  omega

theorem joined?_eq_some_iff {before after : List UInt16} {ip : IPv6} :
    joined? before after = some ip ↔
      before ++ List.replicate (8 - (before.length + after.length)) 0 ++ after = ip.groups := by
  unfold joined?
  dsimp only
  split
  · next h =>
    rw [Option.some.injEq]
    exact ⟨fun heq => by rw [← heq], fun heq => IPv6.ext heq⟩
  · next h =>
    constructor
    · intro hnone
      cases hnone
    · intro heq
      exact absurd (heq ▸ ip.length_eq) h

/-! ### Reading what was written -/

theorem read_groupsText (ip : IPv6) : read (groupsText ip.groups) = some (ip, []) := by
  have hall : readGroups 8 true (groupsText ip.groups ++ []) = ⟨ip.groups, false, []⟩ :=
    readGroups_groupsText (Or.inl rfl) ip.length_eq.le
  have hjoined : joined? ip.groups [] = some ip := by
    rw [joined?_eq_some_iff, ip.length_eq]
    simp
  rw [List.append_nil] at hall
  simp [read, hall, ip.length_eq, hjoined]

theorem read_around_gap {before after : List UInt16} {ip : IPv6}
    (hroom : before.length + after.length < 8) (h : joined? before after = some ip) :
    read (groupsText before ++ ':' :: ':' :: groupsText after) = some (ip, []) := by
  have hbefore : readGroups 8 true (groupsText before ++ ':' :: ':' :: groupsText after) =
      ⟨before, false, ':' :: ':' :: groupsText after⟩ :=
    readGroups_groupsText (Or.inr ⟨_, rfl⟩) (by omega)
  have hafter : readGroups (7 - before.length) true (groupsText after ++ []) = ⟨after, false, []⟩ :=
    readGroups_groupsText (Or.inl rfl) (by omega)
  have hne : before.length ≠ 8 := by omega
  rw [List.append_nil] at hafter
  simp [read, hbefore, hne, hafter, h]

theorem read_compressed (ip : IPv6) : read ip.compressed = some (ip, []) := by
  have hzeros := longestZeros_le ip.groups
  have hlength := ip.length_eq
  unfold compressed
  generalize longestZeros ip.groups = run at hzeros ⊢
  obtain ⟨start, length⟩ := run
  dsimp only at hzeros ⊢
  split
  · next hlong =>
    have hle := length_le_of_zerosFrom (by omega) hzeros
    have hbefore : (ip.groups.take start).length = start := List.length_take_of_le (by omega)
    have hgap : 8 - (start + (8 - (start + length))) = length := by omega
    rw [List.append_assoc]
    refine read_around_gap ?_ (joined?_eq_some_iff.2 ?_)
    · rw [hbefore, List.length_drop]
      omega
    · rw [hbefore, List.length_drop, hlength, hgap]
      exact take_replicate_drop hzeros
  · exact read_groupsText ip

/-! ### Addresses mapped from version 4 -/

theorem group_of_bytes (g : UInt16) :
    (g >>> 8).toUInt8.toUInt16 * 256 + g.toUInt8.toUInt16 = g := by
  have hlt : g.toNat < 65536 := g.toNat_lt
  apply UInt16.toNat_inj.1
  simp only [UInt16.toUInt16_toUInt8, UInt16.toNat_add, UInt16.toNat_mul, UInt16.toNat_mod,
    UInt16.toNat_shiftRight, UInt16.reduceToNat, Nat.reduceMod, Nat.shiftRight_eq_div_pow,
    Nat.reducePow, Nat.mod_add_mod]
  omega

theorem groups_of_mapped? {ip : IPv6} {v4 : IPv4} (h : ip.mapped? = some v4) :
    ip.groups = [0, 0, 0, 0, 0, 0xFFFF] ++ v4.groups := by
  unfold mapped? at h
  split at h
  · next g g' hgroups =>
    obtain rfl := Option.some.inj h
    rw [hgroups, IPv4.groups, group_of_bytes, group_of_bytes]
    rfl
  · cases h

theorem readGroups_mapped (v4 : IPv4) :
    readGroups 7 true ('f' :: 'f' :: 'f' :: 'f' :: ':' :: v4.text) =
      ⟨0xFFFF :: v4.groups, true, []⟩ := by
  have hv4 : IPv4.read v4.text = some (v4, []) :=
    IPv4.read_eq_some_iff.2 ⟨(List.append_nil _).symm, Ip.ends_nil⟩
  have htail : readGroups 6 false (':' :: v4.text) = ⟨v4.groups, true, []⟩ := by
    simp [readGroups, afterColon, hv4]
  have hhex : hex (0xFFFF : UInt16).toNat = ['f', 'f', 'f', 'f'] := by decide
  have hcolon : afterColon true ('f' :: 'f' :: 'f' :: 'f' :: ':' :: v4.text) =
      some (hex (0xFFFF : UInt16).toNat ++ ':' :: v4.text) := by
    rw [hhex]
    rfl
  rw [readGroups_hex hcolon (Ip.breaks_colon _), htail]

theorem read_mapped {ip : IPv6} {v4 : IPv4} (h : ip.mapped? = some v4) :
    read ([':', ':', 'f', 'f', 'f', 'f', ':'] ++ v4.text) = some (ip, []) := by
  have hbefore := readGroups_atGap (Or.inr ⟨'f' :: 'f' :: 'f' :: 'f' :: ':' :: v4.text, rfl⟩) 8 true
  have hjoined : joined? [] (0xFFFF :: v4.groups) = some ip :=
    joined?_eq_some_iff.2 (groups_of_mapped? h).symm
  simp [read, hbefore, readGroups_mapped, hjoined]

theorem read_text (ip : IPv6) : read ip.text = some (ip, []) := by
  unfold text
  split
  · next v4 hmapped => exact read_mapped hmapped
  · exact read_compressed ip

theorem read_eq_none {cs rest : List Char} {v4 : IPv4} (h : IPv4.read cs = some (v4, rest)) :
    read cs = none := by
  have hgroups : readGroups 8 true cs = ⟨v4.groups, true, rest⟩ := by
    simp [readGroups, afterColon, h]
  simp [read, hgroups, IPv4.groups]

end IPv6

/-! ## Characters -/

namespace Ip

/-- The characters of which the texts of addresses consist. -/
def IsTextChar (c : Char) : Prop := isDigit 16 c = true ∨ c = '.' ∨ c = ':'

/-- What comes before the rest consists of such characters. -/
def Passes (cs rest : List Char) : Prop := ∃ front, cs = front ++ rest ∧ ∀ c ∈ front, IsTextChar c

theorem Passes.refl (cs : List Char) : Passes cs cs := ⟨[], rfl, by simp⟩

theorem Passes.trans {cs ds rest : List Char} (h : Passes cs ds) (h' : Passes ds rest) :
    Passes cs rest := by
  obtain ⟨front, rfl, hfront⟩ := h
  obtain ⟨front', rfl, hfront'⟩ := h'
  refine ⟨front ++ front', (List.append_assoc _ _ _).symm, ?_⟩
  intro c hc
  exact (List.mem_append.1 hc).elim (hfront c) (hfront' c)

theorem Passes.forall_mem {cs : List Char} (h : Passes cs []) : ∀ c ∈ cs, IsTextChar c := by
  obtain ⟨front, rfl, hfront⟩ := h
  simpa using hfront

end Ip

theorem IPv4.passes_text (ip : IPv4) (rest : List Char) : Ip.Passes (ip.text ++ rest) rest :=
  ⟨ip.text, rfl, fun c hc =>
    (ip.forall_mem_text c hc).imp (isDigit_mono (by decide)) fun hpoint => Or.inl hpoint⟩

namespace IPv6

theorem passes_readGroup {cs rest : List Char} {g : UInt16} (h : readGroup cs = some (g, rest)) :
    Ip.Passes cs rest := by
  rw [readGroup] at h
  rcases hsplit : Ip.splitDigits 16 cs with ⟨digits, back⟩
  simp only [hsplit, Option.ite_none_left_eq_some, Option.some.injEq, Prod.mk.injEq] at h
  obtain ⟨-, -, rfl⟩ := h
  obtain ⟨hcs, hdigits, -⟩ := Ip.splitDigits_eq_iff.1 hsplit
  exact ⟨digits, hcs, fun c hc => Or.inl (hdigits c hc)⟩

theorem passes_afterColon {first : Bool} {cs start : List Char}
    (h : afterColon first cs = some start) : Ip.Passes cs start := by
  unfold afterColon at h
  split at h
  · obtain rfl := Option.some.inj h
    exact Ip.Passes.refl _
  · obtain rfl := Option.some.inj h
    exact ⟨[':'], rfl, by simp [Ip.IsTextChar]⟩
  · cases h

theorem afterColon_eq_none {cs : List Char} (h : ':' ∉ cs) : afterColon false cs = none := by
  cases cs with
  | nil => rfl
  | cons c cs =>
    have hne : c ≠ ':' := fun hc => h (hc ▸ List.mem_cons_self)
    simp [afterColon, hne]

theorem passes_readGroups (room : Nat) (first : Bool) (cs : List Char) :
    Ip.Passes cs (readGroups room first cs).rest := by
  fun_induction readGroups room first cs with
  | case1 => exact Ip.Passes.refl _
  | case2 => exact Ip.Passes.refl _
  | case3 room first cs start hcolon ip rest hread =>
    obtain ⟨rfl, -⟩ := IPv4.read_eq_some_iff.1 (Option.ite_none_right_eq_some.1 hread).2
    exact (passes_afterColon hcolon).trans (ip.passes_text rest)
  | case4 => exact Ip.Passes.refl _
  | case5 room first cs start hcolon _ group rest hgroup more ih =>
    exact ((passes_afterColon hcolon).trans (passes_readGroup hgroup)).trans ih

/-- Either all groups were there or a gap was. -/
theorem read_cases {cs rest : List Char} {ip : IPv6} (h : read cs = some (ip, rest)) :
    ((readGroups 8 true cs).groups.length = 8 ∧ rest = (readGroups 8 true cs).rest) ∨
    ∃ more room, (readGroups 8 true cs).rest = ':' :: ':' :: more ∧
      rest = (readGroups room true more).rest := by
  simp only [read] at h
  split at h
  · next hall =>
    obtain ⟨_, -, hpair⟩ := Option.map_eq_some_iff.1 h
    exact Or.inl ⟨hall, (Prod.mk.inj hpair).2.symm⟩
  · split at h
    · cases h
    · split at h
      · next more hgap =>
        obtain ⟨_, -, hpair⟩ := Option.map_eq_some_iff.1 h
        exact Or.inr ⟨more, _, hgap, (Prod.mk.inj hpair).2.symm⟩
      · cases h

theorem passes_read {cs rest : List Char} {ip : IPv6} (h : read cs = some (ip, rest)) :
    Ip.Passes cs rest := by
  have hbefore := passes_readGroups 8 true cs
  rcases read_cases h with ⟨-, rfl⟩ | ⟨more, room, hgap, rfl⟩
  · exact hbefore
  · have hcolons : Ip.Passes (':' :: ':' :: more) more := ⟨[':', ':'], rfl, by simp [Ip.IsTextChar]⟩
    rw [hgap] at hbefore
    exact (hbefore.trans hcolons).trans (passes_readGroups room true more)

theorem length_readGroups_le {cs : List Char} (h : ':' ∉ cs) (room : Nat) :
    (readGroups room true cs).groups.length ≤ 2 := by
  cases room with
  | zero => simp [readGroups]
  | succ room =>
    rw [readGroups, afterColon]
    dsimp only
    split
    · simp [IPv4.groups]
    · split
      · simp
      · next group rest hgroup =>
        obtain ⟨front, rfl, -⟩ := passes_readGroup hgroup
        have hstop : afterColon false rest = none :=
          afterColon_eq_none fun hcolon => h (List.mem_append_right _ hcolon)
        have hmore : readGroups room false rest = ⟨[], false, rest⟩ :=
          readGroups_eq_none (by simp [hstop]) room
        simp [hmore]

theorem colon_mem_of_read {cs rest : List Char} {ip : IPv6} (h : read cs = some (ip, rest)) :
    ':' ∈ cs := by
  by_contra hcolon
  rcases read_cases h with ⟨hall, -⟩ | ⟨more, room, hgap, -⟩
  · have hfew := length_readGroups_le hcolon 8
    omega
  · obtain ⟨front, hcs, -⟩ := passes_readGroups 8 true cs
    rw [hcs, hgap] at hcolon
    simp at hcolon

end IPv6

/-! ## Both versions -/

namespace Ip

def text : Ip → List Char
  | .v4 ip => ip.text
  | .v6 ip => ip.text

theorem parse?_eq_v4_iff {cs : List Char} {ip : IPv4} :
    parse? cs = some (.v4 ip) ↔ cs = ip.text := by
  constructor
  · intro h
    rw [parse?] at h
    split at h
    · next v4 rest hread =>
      obtain ⟨hend, heq⟩ := Option.ite_none_right_eq_some.1 h
      obtain rfl := Ip.v4.inj (Option.some.inj heq)
      obtain ⟨rfl, -⟩ := IPv4.read_eq_some_iff.1 hread
      rw [List.isEmpty_iff.1 hend, List.append_nil]
    · split at h <;> simp at h
  · rintro rfl
    have hread : IPv4.read ip.text = some (ip, []) :=
      IPv4.read_eq_some_iff.2 ⟨(List.append_nil _).symm, ends_nil⟩
    simp [parse?, hread]

theorem parse?_eq_v6_iff {cs : List Char} {ip : IPv6} :
    parse? cs = some (.v6 ip) ↔ IPv6.read cs = some (ip, []) := by
  cases hv4 : IPv4.read cs with
  | some r => simp [parse?, hv4, IPv6.read_eq_none hv4]
  | none =>
    cases hv6 : IPv6.read cs with
    | none => simp [parse?, hv4, hv6]
    | some r => simp [parse?, hv4, hv6, Prod.ext_iff, and_comm]

theorem parse?_text (ip : Ip) : parse? ip.text = some ip := by
  cases ip with
  | v4 ip => exact parse?_eq_v4_iff.2 rfl
  | v6 ip => exact parse?_eq_v6_iff.2 ip.read_text

theorem isTextChar_of_parse? {cs : List Char} {ip : Ip} (h : parse? cs = some ip) :
    ∀ c ∈ cs, IsTextChar c := by
  cases ip with
  | v4 ip =>
    obtain rfl := parse?_eq_v4_iff.1 h
    refine Passes.forall_mem ?_
    simpa using ip.passes_text []
  | v6 ip => exact (IPv6.passes_read (parse?_eq_v6_iff.1 h)).forall_mem

/-- A text without a colon can only stand for a version 4 address, and so is that address's own. -/
theorem text_of_parse? {cs : List Char} {ip : Ip} (h : parse? cs = some ip) (hcolon : ':' ∉ cs) :
    ∃ v4, ip = .v4 v4 ∧ cs = v4.text := by
  cases ip with
  | v4 ip => exact ⟨ip, rfl, parse?_eq_v4_iff.1 h⟩
  | v6 ip => exact absurd (IPv6.colon_mem_of_read (parse?_eq_v6_iff.1 h)) hcolon

end Ip

end Lookout
