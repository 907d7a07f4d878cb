import Lookout.Proofs.Url.Below

/-!
# Names as segments

A name that is written at the end of an address becomes its last segment, to be read back as the
name, exactly if it holds no sign that means something to an address: nothing that ends a segment or
a path, nothing that is left out of addresses, no dots that lead elsewhere, and nothing that looks
encoded already. Of any other name the last segment says less.
-/
set_option autoImplicit false

namespace Lookout.Url

/-- The name can stand at the end of an address under that scheme. -/
structure IsSegment (scheme name : List Char) : Prop where
  noDelimiter : ∀ c ∈ name, c ≠ '/' ∧ c ≠ '?' ∧ c ≠ '#'
  noBackslash : isWeb scheme = true → '\\' ∉ name
  /-- No tabs and no line breaks. -/
  noBreak : ∀ c ∈ name, isKept c = true
  /-- No blank and no control character at the end. -/
  noEdge : ∀ c, name.getLast? = some c → isEdge c = false
  noDots : isSingleDot name = false ∧ isDoubleDot name = false
  /-- No percent sign before two hexadecimal digits. -/
  noEscape : ¬HasEscape name

/-- The segments that a name comes to at the end of an address. -/
def segmentsOf (scheme name : List Char) : List (List Char) :=
  splitOn '/' (slashed scheme (breakAt endsPath (trailing name)).1)

section
variable {scheme name : List Char}

theorem breakAt_fst_isPrefix (p : Char → Bool) (cs : List Char) : (breakAt p cs).1 <+: cs :=
  List.takeWhile_prefix _

theorem trailing_eq_self_iff : trailing name = name ↔
    (∀ c ∈ name, isKept c = true) ∧ ∀ c, name.getLast? = some c → isEdge c = false := by
  have hback : Text.dropTrailing isEdge name = name ↔
      ∀ c, name.getLast? = some c → isEdge c = false := by
    refine List.rdropWhile_eq_self_iff.trans ?_
    constructor
    · intro h c hc
      obtain ⟨front, rfl⟩ := List.getLast?_eq_some_iff.1 hc
      simpa using h (by simp)
    · intro h hne
      simp [h _ (List.getLast?_eq_some_getLast hne)]
  constructor
  · intro h
    have hdropped : Text.dropTrailing isEdge name = name := by
      refine Text.prefix_dropTrailing.sublist.eq_of_length_le ?_
      conv_lhs => rw [← h]
      exact List.length_filter_le _ _
    refine ⟨?_, hback.1 hdropped⟩
    rw [trailing, hdropped] at h
    exact List.filter_eq_self.1 h
  · rintro ⟨hkept, hedge⟩
    rw [trailing, hback.2 hedge, List.filter_eq_self.2 hkept]

theorem length_utf8_slashed (scheme cs : List Char) :
    (utf8 (slashed scheme cs)).length = (utf8 cs).length := by
  unfold slashed
  split
  · induction cs with
    | nil => rfl
    | cons c rest ih =>
      rw [List.map_cons, utf8_cons, utf8_cons, List.length_append, List.length_append, ih]
      split
      · next hc =>
        rw [hc]
        rfl
      · rfl
  · rfl

theorem slashed_eq_self (h : isWeb scheme = true → '\\' ∉ name) : slashed scheme name = name := by
  unfold slashed
  split
  · next hweb =>
    refine (List.map_congr_left fun c hc => if_neg ?_).trans (List.map_id name)
    rintro rfl
    exact h hweb hc
  · rfl

theorem not_mem_of_not_mem_slashed (h : '/' ∉ slashed scheme name) :
    '/' ∉ name ∧ (isWeb scheme = true → '\\' ∉ name) := by
  unfold slashed at h
  split at h
  · refine ⟨fun hmem => ?_, fun _ hmem => ?_⟩
    · exact h (List.mem_map.2 ⟨'/', hmem, rfl⟩)
    · exact h (List.mem_map.2 ⟨'\\', hmem, rfl⟩)
  · next hweb => exact ⟨h, fun h => absurd h hweb⟩

theorem IsSegment.trailing_eq (h : IsSegment scheme name) : trailing name = name :=
  trailing_eq_self_iff.2 ⟨h.noBreak, h.noEdge⟩

theorem IsSegment.breakAt_eq (h : IsSegment scheme name) : breakAt endsPath name = (name, []) := by
  refine breakAt_of_forall ?_
  intro c hc
  obtain ⟨-, hquery, hfragment⟩ := h.noDelimiter c hc
  simp [endsPath, hquery, hfragment]

theorem IsSegment.segmentsOf_eq (h : IsSegment scheme name) : segmentsOf scheme name = [name] := by
  have hslash : '/' ∉ name := fun hmem => (h.noDelimiter '/' hmem).1 rfl
  rw [segmentsOf, h.trailing_eq, h.breakAt_eq, slashed_eq_self h.noBackslash,
    splitOn_of_not_mem hslash]

theorem isSegment_nil (scheme : List Char) : IsSegment scheme [] where
  noDelimiter := by simp
  noBackslash := by simp
  noBreak := by simp
  noEdge := by simp
  noDots := ⟨rfl, rfl⟩
  noEscape := by
    rintro ⟨a, b, hwithin, -⟩
    simp at hwithin

def isPlain (c : Char) : Bool := c.isAlphanum || c = '-' || c = '_'

theorem isEdge_of_isPlain {c : Char} (h : isPlain c = true) : isEdge c = false := by
  have hedges : ∀ n ≤ 0x20, isPlain (Char.ofNat n) = false := by decide
  rw [isEdge, decide_eq_false_iff_not]
  intro hle
  have hc := hedges c.toNat hle
  rw [Char.ofNat_toNat, h] at hc
  cases hc

theorem afterDot?_of_isPlain (h : ∀ c ∈ name, isPlain c = true) : afterDot? name = none := by
  unfold afterDot?
  split
  · exact absurd (h '.' List.mem_cons_self) (by decide)
  · exact absurd (h '%' List.mem_cons_self) (by decide)
  · exact absurd (h '%' List.mem_cons_self) (by decide)
  · rfl

theorem isSegment_of_isPlain (scheme : List Char) (h : ∀ c ∈ name, isPlain c = true) :
    IsSegment scheme name := by
  have hother : ∀ d, isPlain d = false → d ∉ name := by
    intro d hd hmem
    rw [h d hmem] at hd
    cases hd
  have hdots := afterDot?_of_isPlain h
  exact
    { noDelimiter := fun c hc => by
        refine ⟨?_, ?_, ?_⟩ <;>
          · rintro rfl
            exact hother _ (by decide) hc
      noBackslash := fun _ => hother '\\' (by decide)
      noBreak := fun c hc => isKept_of_isEdge (isEdge_of_isPlain (h c hc))
      noEdge := fun c hc => isEdge_of_isPlain (h c (List.mem_of_getLast? hc))
      noDots := ⟨by simp [isSingleDot, hdots], by simp [isDoubleDot, hdots]⟩
      noEscape := by
        rintro ⟨a, b, hwithin, -⟩
        exact hother '%' (by decide) (hwithin.subset List.mem_cons_self) }

/-- From a name to what is read of one of its segments no step makes the text longer. So where the
name itself is read nothing was cut off, and nothing was encoded. -/
theorem whole_of_read {last : List Char} (hmem : last ∈ segmentsOf scheme name)
    (hread : decodeBytes last = utf8 name) :
    trailing name = name ∧ (breakAt endsPath name).1 = name ∧ last = slashed scheme name := by
  have hlast := (mem_splitOn hmem).2
  have hpath := (breakAt_fst_isPrefix endsPath (trailing name)).sublist
  have hname := trailing_sublist name
  have hreadle := length_decodeBytes_le last
  have hlastle := length_utf8_le hlast
  have hpathle := length_utf8_le hpath
  have hnamele := length_utf8_le hname
  rw [length_utf8_slashed] at hlastle
  rw [hread] at hreadle
  have htrailing : trailing name = name := eq_of_length_utf8_le hname (by omega)
  have hwhole : (breakAt endsPath (trailing name)).1 = trailing name :=
    eq_of_length_utf8_le hpath (by omega)
  have hsame : last = slashed scheme (breakAt endsPath (trailing name)).1 :=
    eq_of_length_utf8_le hlast (by rw [length_utf8_slashed]; omega)
  rw [hwhole, htrailing] at hsame
  rw [htrailing] at hwhole
  exact ⟨htrailing, hwhole, hsame⟩

theorem isSegment_of_segmentsOf {last : List Char} (hmem : last ∈ segmentsOf scheme name)
    (hdots : isSingleDot last = false ∧ isDoubleDot last = false)
    (hread : decodeBytes last = utf8 name) : IsSegment scheme name := by
  obtain ⟨htrailing, hwhole, hsame⟩ := whole_of_read hmem hread
  have hslash : '/' ∉ slashed scheme name := hsame ▸ (mem_splitOn hmem).1
  obtain ⟨hnoslash, hnobackslash⟩ := not_mem_of_not_mem_slashed hslash
  obtain rfl : last = name := hsame.trans (slashed_eq_self hnobackslash)
  obtain ⟨hkept, hedge⟩ := trailing_eq_self_iff.1 htrailing
  have hrest : (breakAt endsPath last).2 = [] := by
    have hparts := breakAt_fst_append_snd endsPath last
    rw [hwhole] at hparts
    simpa using hparts
  have hplain := breakAt_snd_eq_nil_iff.1 hrest
  refine ⟨?_, hnobackslash, hkept, hedge, hdots, ?_⟩
  · intro c hc
    have hends := hplain c hc
    refine ⟨fun heq => hnoslash (heq ▸ hc), ?_, ?_⟩ <;>
      · rintro rfl
        exact absurd hends (by decide)
  · intro hescape
    have hlt := length_decodeBytes_lt hescape
    rw [hread] at hlt
    exact Nat.lt_irrefl _ hlt

theorem resolve_segmentsOf_iff (done : List (List Char)) :
    (∃ segment, resolve done (segmentsOf scheme name) = done.reverse ++ [segment] ∧
      '/' ∉ segment ∧ decodeBytes segment = utf8 name) ↔ IsSegment scheme name := by
  constructor
  · rintro ⟨segment, hpath, -, hread⟩
    obtain ⟨front, last, hparts⟩ :=
      (List.eq_nil_or_concat (segmentsOf scheme name)).resolve_left (splitOn_ne_nil _ _)
    have hlast := getLast?_resolve done front last
    rw [← List.concat_eq_append, ← hparts, hpath, List.getLast?_concat, Option.some.injEq] at hlast
    have hmem : last ∈ segmentsOf scheme name := by simp [hparts]
    split at hlast
    · -- Dots leave an empty segment, which is read as the empty name.
      rw [hlast, decodeBytes] at hread
      obtain rfl : [] = name := eq_of_length_utf8_le (List.nil_sublist _) (by simp [← hread])
      exact isSegment_nil scheme
    · next hdots =>
      rw [hlast, decodeBytes_encode sparesEscapes_inPath] at hread
      obtain ⟨hdouble, hsingle⟩ := Bool.or_eq_false_iff.1 (Bool.eq_false_iff.2 hdots)
      exact isSegment_of_segmentsOf hmem ⟨hsingle, hdouble⟩ hread
  · intro h
    have hslash : '/' ∉ name := fun hmem => (h.noDelimiter '/' hmem).1 rfl
    refine ⟨encode inPath name, ?_, slash_not_mem_encode hslash, ?_⟩
    · rw [h.segmentsOf_eq, resolve_singleton done h.noDots.2 h.noDots.1]
    · rw [decodeBytes_encode sparesEscapes_inPath, decodeBytes_eq_utf8 h.noEscape]

end

end Lookout.Url
