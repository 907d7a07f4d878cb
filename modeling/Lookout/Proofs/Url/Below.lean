import Lookout.Proofs.Text.Blank
import Lookout.Proofs.Url.Percent
import Lookout.Url

/-!
# Addresses below an address

What becomes of a text that is written behind the address of a place, that is, behind a slash at its
end. The place stays as it is, and the text is read as what comes behind the path of the place: it
is cut where a query or a fragment begins, and its dot segments are resolved, beyond the place if
there are enough of them. A segment without any of these signs is the last segment of the path,
encoded.
-/
set_option autoImplicit false

namespace Lookout.Url

/-! ## Cutting texts -/

section
variable {p : Char → Bool} {cs ds : List Char}

theorem breakAt_fst_append_snd (p : Char → Bool) (cs : List Char) :
    (breakAt p cs).1 ++ (breakAt p cs).2 = cs :=
  List.takeWhile_append_dropWhile

theorem breakAt_append (h : (breakAt p cs).2 ≠ []) (ds : List Char) :
    breakAt p (cs ++ ds) = ((breakAt p cs).1, (breakAt p cs).2 ++ ds) := by
  have hrest : cs.dropWhile (fun c => !p c) ≠ [] := h
  have hparts := congrArg List.length (breakAt_fst_append_snd p cs)
  rw [List.length_append] at hparts
  change (cs.takeWhile _).length + (cs.dropWhile _).length = cs.length at hparts
  have hpos := List.length_pos_iff.2 hrest
  rw [breakAt, List.takeWhile_append, if_neg (by omega), List.dropWhile_append,
    if_neg (by simpa using hrest)]
  rfl

theorem breakAt_snd_eq_nil_iff : (breakAt p cs).2 = [] ↔ ∀ c ∈ cs, p c = false := by
  simp [breakAt, List.dropWhile_eq_nil_iff]

theorem breakAt_append_of_forall (h : ∀ c ∈ cs, p c = false) (ds : List Char) :
    breakAt p (cs ++ ds) = (cs ++ (breakAt p ds).1, (breakAt p ds).2) := by
  have hcs : ∀ c ∈ cs, (!p c) = true := fun c hc => by simp [h c hc]
  rw [breakAt, List.takeWhile_append_of_pos hcs, List.dropWhile_append_of_pos hcs]
  rfl

theorem breakAt_of_forall (h : ∀ c ∈ cs, p c = false) : breakAt p cs = (cs, []) := by
  have happend := breakAt_append_of_forall h []
  simpa [breakAt] using happend

theorem breakAt_concat {c : Char} (h : p c = true) (cs : List Char) :
    breakAt p (cs ++ [c]) = ((breakAt p cs).1, (breakAt p cs).2 ++ [c]) := by
  by_cases hnil : (breakAt p cs).2 = []
  · have hall := breakAt_snd_eq_nil_iff.1 hnil
    rw [breakAt_append_of_forall hall, breakAt_of_forall hall]
    simp [breakAt, h]
  · rw [breakAt_append hnil]

theorem breakAt_snd_head? {c : Char} (h : (breakAt p cs).2.head? = some c) : p c = true := by
  have hhead := List.head?_dropWhile_not (fun c => !p c) cs
  rw [show (cs.dropWhile fun c => !p c).head? = some c from h] at hhead
  simpa using hhead

end

/-! ## Ends of texts -/

def isEdge (c : Char) : Bool := c.toNat ≤ 0x20

def isKept (c : Char) : Bool := c ≠ '\t' && c ≠ '\n' && c ≠ '\r'

/-- What is left of a text that an address ends with. -/
def trailing (cs : List Char) : List Char := (Text.dropTrailing isEdge cs).filter isKept

theorem cleaned_eq (cs : List Char) : cleaned cs = trailing (cs.dropWhile isEdge) := rfl

theorem trailing_append_cons {c : Char} (h : isEdge c = false) (front back : List Char) :
    trailing (front ++ c :: back) = trailing (front ++ [c]) ++ trailing back := by
  have hparts : front ++ c :: Text.dropTrailing isEdge back =
      front ++ [c] ++ Text.dropTrailing isEdge back := by simp
  rw [trailing, Text.dropTrailing_append_cons h, hparts, List.filter_append, trailing,
    Text.dropTrailing_concat h, trailing]

theorem cleaned_append_cons {c : Char} (h : isEdge c = false) (front back : List Char) :
    cleaned (front ++ c :: back) = cleaned (front ++ [c]) ++ trailing back := by
  -- The front is cut down to a text that ends with `c` whatever comes behind it.
  have hcut : ∃ kept, ∀ more, (front ++ c :: more).dropWhile isEdge = kept ++ c :: more := by
    cases hfront : (front.dropWhile isEdge).isEmpty with
    | true => exact ⟨[], fun more => by simp [List.dropWhile_append, hfront, h]⟩
    | false => exact ⟨front.dropWhile isEdge, fun more => by simp [List.dropWhile_append, hfront]⟩
  obtain ⟨kept, hkept⟩ := hcut
  rw [cleaned_eq, hkept, trailing_append_cons h, cleaned_eq, hkept]

theorem trailing_sublist (cs : List Char) : (trailing cs).Sublist cs :=
  List.filter_sublist.trans Text.prefix_dropTrailing.sublist

/-! ## Segments -/

theorem splitOn_ne_nil (c : Char) (cs : List Char) : splitOn c cs ≠ [] := by
  cases cs with
  | nil => simp [splitOn]
  | cons d rest =>
    rw [splitOn]
    split
    · exact List.cons_ne_nil _ _
    · split <;> exact List.cons_ne_nil _ _

theorem splitOn_append_cons (c : Char) (front back : List Char) :
    splitOn c (front ++ c :: back) = splitOn c front ++ splitOn c back := by
  induction front with
  | nil => simp [splitOn]
  | cons d rest ih =>
    obtain ⟨part, parts, hparts⟩ := List.exists_cons_of_ne_nil (splitOn_ne_nil c rest)
    rw [List.cons_append, splitOn, splitOn, ih, hparts]
    split <;> rfl

theorem splitOn_of_not_mem {c : Char} {cs : List Char} (h : c ∉ cs) : splitOn c cs = [cs] := by
  induction cs with
  | nil => rfl
  | cons d rest ih =>
    obtain ⟨hd, hrest⟩ := not_or.1 (mt List.mem_cons.2 h)
    rw [splitOn, if_neg (Ne.symm hd), ih hrest]

theorem mem_splitOn {c : Char} {cs part : List Char} (h : part ∈ splitOn c cs) :
    c ∉ part ∧ part.Sublist cs := by
  induction cs generalizing part with
  | nil =>
    obtain rfl : part = [] := by simpa [splitOn] using h
    simp
  | cons d rest ih =>
    obtain ⟨first, parts, hparts⟩ := List.exists_cons_of_ne_nil (splitOn_ne_nil c rest)
    rw [splitOn, hparts] at h
    rw [hparts] at ih
    split at h
    · rcases List.mem_cons.1 h with rfl | hmem
      · simp
      · exact ⟨(ih hmem).1, (ih hmem).2.cons d⟩
    · next hd =>
      rcases List.mem_cons.1 h with rfl | hmem
      · obtain ⟨hfirst, hsub⟩ := ih List.mem_cons_self
        refine ⟨?_, hsub.cons_cons d⟩
        intro hmem
        rcases List.mem_cons.1 hmem with rfl | hmem
        · exact hd rfl
        · exact hfirst hmem
      · obtain ⟨hpart, hsub⟩ := ih (List.mem_cons_of_mem _ hmem)
        exact ⟨hpart, hsub.cons d⟩

/-- In an address of the web a backslash counts as a slash. -/
def slashed (scheme cs : List Char) : List Char :=
  if isWeb scheme then cs.map fun c => if c = '\\' then '/' else c else cs

theorem slashed_append_cons (scheme front back : List Char) :
    slashed scheme (front ++ '/' :: back) =
      slashed scheme front ++ '/' :: slashed scheme back := by
  unfold slashed
  split <;> simp

/-- The segments that lead to where another segment leads from there, the last one first. -/
def enter (done : List (List Char)) (segment : List Char) : List (List Char) :=
  if isDoubleDot segment then goUp done
  else if isSingleDot segment then done
  else encode inPath segment :: done

theorem resolve_cons (done : List (List Char)) (segment : List Char) {more : List (List Char)}
    (h : more ≠ []) : resolve done (segment :: more) = resolve (enter done segment) more := by
  obtain ⟨next, rest, rfl⟩ := List.exists_cons_of_ne_nil h
  simp only [resolve, enter]
  split
  · rfl
  · split <;> rfl

theorem resolve_append (done segments : List (List Char)) {more : List (List Char)}
    (h : more ≠ []) :
    resolve done (segments ++ more) = resolve (segments.foldl enter done) more := by
  induction segments generalizing done with
  | nil => rfl
  | cons segment rest ih =>
    have hrest : rest ++ more ≠ [] := by simp [h]
    rw [List.cons_append, resolve_cons done segment hrest, ih, List.foldl_cons]

theorem resolve_singleton (done : List (List Char)) {last : List Char}
    (hdouble : isDoubleDot last = false) (hsingle : isSingleDot last = false) :
    resolve done [last] = done.reverse ++ [encode inPath last] := by
  simp [resolve, hdouble, hsingle]

theorem getLast?_resolve (done front : List (List Char)) (last : List Char) :
    (resolve done (front ++ [last])).getLast? =
      some (if isDoubleDot last || isSingleDot last then [] else encode inPath last) := by
  rw [resolve_append done front (List.cons_ne_nil _ _), resolve]
  cases isDoubleDot last <;> cases isSingleDot last <;> simp

theorem resolve_nil_segment (done : List (List Char)) :
    resolve done [[]] = done.reverse ++ [[]] := resolve_singleton done rfl rfl

/-- A path begins with a sign that does not belong to its segments. -/
theorem pathOf_cons (scheme : List Char) (sign : Char) (rest : List Char) :
    pathOf scheme (sign :: rest) = resolve [] (splitOn '/' (slashed scheme rest)) := by
  unfold pathOf slashed
  cases isWeb scheme <;> rfl

theorem pathOf_append_cons (scheme front back : List Char) :
    pathOf scheme (front ++ '/' :: back) =
      resolve (pathOf scheme (front ++ ['/'])).dropLast.reverse
        (splitOn '/' (slashed scheme back)) := by
  cases front with
  | nil =>
    rw [List.nil_append, List.nil_append, pathOf_cons, pathOf_cons]
    simp [slashed, splitOn, resolve_nil_segment]
  | cons sign rest =>
    have hnil : slashed scheme [] = [] := by simp [slashed]
    rw [List.cons_append, List.cons_append, pathOf_cons, pathOf_cons, slashed_append_cons,
      slashed_append_cons, splitOn_append_cons, splitOn_append_cons, hnil,
      resolve_append _ _ (splitOn_ne_nil _ _), resolve_append _ _ (splitOn_ne_nil _ _)]
    simp [splitOn, resolve_nil_segment]

/-- The segments without an empty one at the end. -/
def stem (segments : List (List Char)) : List (List Char) :=
  if segments.getLast? = some [] then segments.dropLast else segments

theorem splitOn_concat {c d : Char} (h : d ≠ c) (cs : List Char) :
    ∃ front last, splitOn c (cs ++ [d]) = front ++ [last ++ [d]] := by
  induction cs with
  | nil => exact ⟨[], [], splitOn_of_not_mem (by simpa using Ne.symm h)⟩
  | cons first rest ih =>
    obtain ⟨front, last, hparts⟩ := ih
    rw [List.cons_append, splitOn, hparts]
    split
    · exact ⟨[] :: front, last, rfl⟩
    · cases front with
      | nil => exact ⟨[], first :: last, rfl⟩
      | cons part parts => exact ⟨(first :: part) :: parts, last, rfl⟩

theorem encode_ne_nil {reserved : Reserved} {cs : List Char} (h : cs ≠ []) :
    encode reserved cs ≠ [] := by
  obtain ⟨c, rest, rfl⟩ := List.exists_cons_of_ne_nil h
  obtain ⟨more, hmore⟩ := exists_encodeBytes c
  rcases encodeChar_cases reserved c with hkept | hencoded
  · simp [encode_cons, hkept]
  · simp [encode_cons, hencoded, hmore]

theorem stem_resolve (done : List (List Char)) {last : List Char} (h : last ≠ []) :
    stem (resolve done [last]) = (enter done last).reverse := by
  have hencoded : encode inPath last ≠ [] := encode_ne_nil h
  unfold resolve enter
  split
  · simp [stem]
  · split
    · simp [stem]
    · simp [stem, hencoded]

theorem slashed_concat {c : Char} (h : c ≠ '\\') (scheme cs : List Char) :
    slashed scheme (cs ++ [c]) = slashed scheme cs ++ [c] := by
  unfold slashed
  split <;> simp [h]

theorem pathOf_concat_slash (scheme : List Char) {path : List Char}
    (hhead : ∀ c, path.head? = some c → isSlash c = true)
    (hlast : ∀ c, path.getLast? = some c → isSlash c = false) :
    pathOf scheme (path ++ ['/']) = stem (pathOf scheme path) ++ [[]] := by
  cases path with
  | nil =>
    unfold pathOf
    cases isWeb scheme <;> rfl
  | cons sign rest =>
    rcases List.eq_nil_or_concat rest with rfl | ⟨inner, c, rfl⟩
    · exact absurd (hhead sign rfl) (by simp [hlast sign rfl])
    · have hc : isSlash c = false := hlast c (by simp [List.getLast?_cons])
      simp only [isSlash, Bool.or_eq_false_iff, decide_eq_false_iff_not] at hc
      obtain ⟨front, last, hparts⟩ := splitOn_concat hc.1 (slashed scheme inner)
      have hinner : splitOn '/' (slashed scheme (inner ++ [c])) = front ++ [last ++ [c]] := by
        rw [slashed_concat hc.2, hparts]
      have houter : splitOn '/' (slashed scheme (inner ++ [c] ++ ['/'])) =
          front ++ [last ++ [c]] ++ [[]] := by
        rw [slashed_append_cons, splitOn_append_cons, hinner]
        simp [slashed, splitOn]
      rw [List.concat_eq_append, List.cons_append, pathOf_cons, pathOf_cons, houter, hinner,
        resolve_append _ _ (List.cons_ne_nil _ _), resolve_append _ _ (List.cons_ne_nil _ _),
        stem_resolve _ (by simp), List.foldl_append, resolve_nil_segment]
      rfl

/-! ## Whole addresses -/

theorem suffix_of_hostStart? {scheme cs place : List Char}
    (h : hostStart? scheme cs = some place) : place <:+ cs := by
  unfold hostStart? at h
  split at h
  · cases h
    exact List.dropWhile_suffix _
  · split at h
    · cases h
      exact ⟨['/', '/'], rfl⟩
    · cases h

theorem hostStart?_append {scheme cs place : List Char} (h : hostStart? scheme cs = some place)
    (hplace : place ≠ []) (back : List Char) :
    hostStart? scheme (cs ++ back) = some (place ++ back) := by
  unfold hostStart? at h ⊢
  split at h
  · next hweb =>
    cases h
    rw [if_pos hweb, List.dropWhile_append, if_neg (by simpa using hplace)]
  · next hweb =>
    split at h
    · cases h
      rw [if_neg hweb]
      rfl
    · cases h

theorem isKept_of_isEdge {c : Char} (h : isEdge c = false) : isKept c = true := by
  have hlarge : 0x20 < c.toNat := by simpa [isEdge] using h
  have hother : ∀ d : Char, d.toNat ≤ 0x20 → c ≠ d := by
    rintro d hd rfl
    exact absurd hd (Nat.not_le.2 hlarge)
  simp [isKept, hother '\t' (by decide), hother '\n' (by decide), hother '\r' (by decide)]

theorem cleaned_concat {c : Char} (h : isEdge c = false) (front : List Char) :
    ∃ kept, cleaned (front ++ [c]) = kept ++ [c] := by
  obtain ⟨more, hmore⟩ : ∃ more, (front ++ [c]).dropWhile isEdge = more ++ [c] := by
    rw [List.dropWhile_append]
    split
    · exact ⟨[], by simp [h]⟩
    · exact ⟨_, rfl⟩
  refine ⟨more.filter isKept, ?_⟩
  rw [cleaned_eq, hmore, trailing, Text.dropTrailing_concat h, List.filter_append]
  simp [isKept_of_isEdge h]

theorem exists_concat_of_suffix {c : Char} {cs kept : List Char} (h : cs <:+ kept ++ [c])
    (hcs : cs ≠ []) : ∃ front, cs = front ++ [c] := by
  obtain ⟨front, rfl, -⟩ := (List.suffix_concat_iff.1 h).resolve_left hcs
  exact ⟨front, rfl⟩

/-- The text is an address: that of the site, with the rest behind the host. -/
def Reads (cs : List Char) (site : Url) (rest : List Char) : Prop :=
  ∃ name colon behind scheme start, breakAt (· = ':') cs = (name, colon :: behind) ∧
    scheme? name = some scheme ∧ hostStart? scheme behind = some start ∧
    site? scheme (breakAt (endsHost scheme) start).1 = some site ∧
    (breakAt (endsHost scheme) start).2 = rest

theorem parse?_eq_some_iff {text : String} {u : Url} :
    parse? text = some u ↔
      ∃ site rest, Reads (cleaned text.toList) site rest ∧ u = site.withRest rest := by
  unfold parse? Reads
  constructor
  · intro h
    generalize hsplit : breakAt (· = ':') (cleaned text.toList) = parts at h
    obtain ⟨name, behind⟩ := parts
    cases behind with
    | nil => cases h
    | cons colon behind =>
      obtain ⟨scheme, hscheme, h⟩ := Option.bind_eq_some_iff.1 h
      obtain ⟨start, hstart, h⟩ := Option.bind_eq_some_iff.1 h
      obtain ⟨site, hsite, rfl⟩ := Option.map_eq_some_iff.1 h
      exact ⟨site, _, ⟨name, colon, behind, scheme, start, rfl, hscheme, hstart, hsite, rfl⟩, rfl⟩
  · rintro ⟨site, _, ⟨name, colon, behind, scheme, start, hsplit, hscheme, hstart, hsite, rfl⟩, rfl⟩
    rw [hsplit]
    simp only [hscheme, Option.bind_some, ofRest?, hstart, hsite, Option.map_some]

section
variable {cs rest : List Char} {site : Url}

theorem Reads.extend (h : Reads cs site rest) {more : List Char}
    (hmore : ∀ scheme start, (breakAt (endsHost scheme) start).2 = rest →
      breakAt (endsHost scheme) (start ++ more) =
        ((breakAt (endsHost scheme) start).1, rest ++ more)) :
    Reads (cs ++ more) site (rest ++ more) := by
  obtain ⟨name, colon, behind, scheme, start, hsplit, hscheme, hstart, hsite, hrest⟩ := h
  have hempty : start ≠ [] := by
    rintro rfl
    cases hsite
  have hbroken := hmore scheme start hrest
  refine ⟨name, colon, behind ++ more, scheme, start ++ more, ?_, hscheme,
    hostStart?_append hstart hempty more, ?_, ?_⟩
  · rw [breakAt_append (by simp [hsplit]), hsplit]
    rfl
  · rw [hbroken]
    exact hsite
  · rw [hbroken]

theorem Reads.append (h : Reads cs site rest) (hrest : rest ≠ []) (more : List Char) :
    Reads (cs ++ more) site (rest ++ more) :=
  h.extend fun scheme start hstart => by
    rw [breakAt_append (by rwa [hstart]), hstart]

theorem Reads.concat_slash (h : Reads cs site rest) : Reads (cs ++ ['/']) site (rest ++ ['/']) :=
  h.extend fun scheme start hstart => by
    rw [breakAt_concat (by simp [endsHost]), hstart]

theorem Reads.exists_start (h : Reads cs site rest) :
    ∃ scheme start, start ≠ [] ∧ start <:+ cs ∧ (breakAt (endsHost scheme) start).2 = rest := by
  obtain ⟨name, colon, behind, scheme, start, hsplit, -, hstart, hsite, hrest⟩ := h
  refine ⟨scheme, start, ?_, (suffix_of_hostStart? hstart).trans ?_, hrest⟩
  · rintro rfl
    cases hsite
  · rw [← breakAt_fst_append_snd (· = ':') cs, hsplit]
    exact ⟨name ++ [colon], by simp⟩

theorem Reads.suffix (h : Reads cs site rest) : rest <:+ cs := by
  obtain ⟨scheme, start, -, hstart, rfl⟩ := h.exists_start
  exact (List.dropWhile_suffix _).trans hstart

theorem Reads.exists_concat_slash (h : Reads (cs ++ ['/']) site rest) :
    ∃ place, rest = place ++ ['/'] := by
  refine exists_concat_of_suffix h.suffix ?_
  rintro rfl
  obtain ⟨scheme, start, hempty, hstart, hrest⟩ := h.exists_start
  obtain ⟨front, rfl⟩ := exists_concat_of_suffix hstart hempty
  have hhost := breakAt_snd_eq_nil_iff.1 hrest '/' (by simp)
  simp [endsHost] at hhost

theorem Reads.head? (h : Reads cs site rest) {c : Char} (hc : rest.head? = some c) :
    isSlash c = true ∨ endsPath c = true := by
  obtain ⟨scheme, start, -, -, rfl⟩ := h.exists_start
  have hends := breakAt_snd_head? hc
  simp only [endsHost, Bool.or_eq_true, Bool.and_eq_true] at hends
  simp only [isSlash, endsPath, Bool.or_eq_true]
  tauto

theorem Reads.getLast? {c d : Char} (h : Reads (cs ++ [c]) site rest)
    (hd : rest.getLast? = some d) : d = c := by
  obtain ⟨before, rfl⟩ := List.getLast?_eq_some_iff.1 hd
  obtain ⟨front, hfront⟩ := exists_concat_of_suffix h.suffix (by simp)
  exact List.singleton_inj.1 (List.append_inj' hfront rfl).2

end

theorem parse?_append {front : String} {root : Url} (h : parse? (front ++ "/") = some root) :
    ∃ (site : Url) (place : List Char), root = site.withRest (place ++ ['/']) ∧
      ∀ back : String, parse? (front ++ "/" ++ back) =
        some (site.withRest (place ++ '/' :: trailing back.toList)) := by
  obtain ⟨site, rest, hreads, rfl⟩ := parse?_eq_some_iff.1 h
  obtain ⟨kept, hkept⟩ := cleaned_concat (c := '/') (by decide) front.toList
  have htext : (front ++ "/").toList = front.toList ++ ['/'] := by simp
  rw [htext, hkept] at hreads
  obtain ⟨place, rfl⟩ := hreads.exists_concat_slash
  refine ⟨site, place, rfl, ?_⟩
  intro back
  have hback : (front ++ "/" ++ back).toList = front.toList ++ '/' :: back.toList := by simp
  have hlonger := hreads.append (by simp) (trailing back.toList)
  rw [← hkept, ← cleaned_append_cons (by decide), ← hback] at hlonger
  refine parse?_eq_some_iff.2 ⟨site, _, hlonger, ?_⟩
  rw [List.append_assoc, List.singleton_append]

theorem not_endsPath_of_withRest {site : Url} {rest : List Char}
    (hquery : (site.withRest rest).query? = none)
    (hfragment : (site.withRest rest).fragment? = none) : ∀ c ∈ rest, endsPath c = false := by
  refine breakAt_snd_eq_nil_iff.1 ?_
  have hparts := breakAt_fst_append_snd (· = '#') (breakAt endsPath rest).2
  have hfront : (breakAt (· = '#') (breakAt endsPath rest).2).1 = [] := by
    simp only [withRest] at hquery
    split at hquery
    · next hnil => exact hnil
    · cases hquery
  have hback : (breakAt (· = '#') (breakAt endsPath rest).2).2 = [] := by
    simp only [withRest] at hfragment
    split at hfragment
    · next hnil => exact hnil
    · cases hfragment
  rw [← hparts, hfront, hback]
  rfl

/-- Where a place has no query and no fragment, what is written behind it is read as the rest of a
path from there on, with a query and a fragment of its own. -/
theorem parse?_below {front : String} {root : Url} (h : parse? (front ++ "/") = some root)
    (hquery : root.query? = none) (hfragment : root.fragment? = none) (back : String) :
    parse? (front ++ "/" ++ back) =
      some
        { root with
          path := resolve root.path.dropLast.reverse
            (splitOn '/' (slashed root.scheme (breakAt endsPath (trailing back.toList)).1))
          query? := (root.withRest (trailing back.toList)).query?
          fragment? := (root.withRest (trailing back.toList)).fragment? } := by
  obtain ⟨site, place, rfl, hback⟩ := parse?_append h
  have hplain := not_endsPath_of_withRest hquery hfragment
  have hplace : breakAt endsPath (place ++ ['/']) = (place ++ ['/'], []) := breakAt_of_forall hplain
  have hrest : breakAt endsPath (place ++ '/' :: trailing back.toList) =
      (place ++ '/' :: (breakAt endsPath (trailing back.toList)).1,
        (breakAt endsPath (trailing back.toList)).2) := by
    simpa using breakAt_append_of_forall hplain (trailing back.toList)
  have hpath := pathOf_append_cons site.scheme place (breakAt endsPath (trailing back.toList)).1
  rw [hback]
  simp only [withRest, hrest, hplace, hpath]

theorem withRest_of_forall (site : Url) {rest : List Char} (h : ∀ c ∈ rest, endsPath c = false) :
    site.withRest rest =
      { site with path := pathOf site.scheme rest, query? := none, fragment? := none } := by
  simp only [withRest, breakAt_of_forall h]
  rfl

theorem parse?_concat_slash {front : String} {u : Url} (h : parse? front = some u)
    (hquery : u.query? = none) (hfragment : u.fragment? = none)
    (hend : ∀ c, front.toList.getLast? = some c → isEdge c = false ∧ isSlash c = false) :
    parse? (front ++ "/") = some { u with path := stem u.path ++ [[]] } := by
  obtain ⟨site, rest, hreads, rfl⟩ := parse?_eq_some_iff.1 h
  have hplain := not_endsPath_of_withRest hquery hfragment
  obtain ⟨inner, c, hfront⟩ : ∃ inner c, front.toList = inner ++ [c] := by
    rcases List.eq_nil_or_concat front.toList with hnil | ⟨inner, c, hconcat⟩
    · obtain ⟨-, start, hempty, hstart, -⟩ := hreads.exists_start
      rw [hnil] at hstart
      exact absurd (List.suffix_nil.1 hstart) hempty
    · exact ⟨inner, c, by rw [hconcat, List.concat_eq_append]⟩
  obtain ⟨hedge, hslash⟩ := hend c (by simp [hfront])
  obtain ⟨kept, hkept⟩ := cleaned_concat hedge inner
  have hlonger := hreads.concat_slash
  rw [hfront, hkept] at hreads
  have hhead : ∀ d, rest.head? = some d → isSlash d = true := fun d hd =>
    (hreads.head? hd).resolve_right (by simp [hplain d (List.mem_of_mem_head? hd)])
  have hlast : ∀ d, rest.getLast? = some d → isSlash d = false := fun d hd =>
    hreads.getLast? hd ▸ hslash
  have hplainer : ∀ d ∈ rest ++ ['/'], endsPath d = false := by
    simpa [or_imp, forall_and] using ⟨hplain, by decide⟩
  have htext : (front ++ "/").toList = inner ++ c :: ['/'] := by simp [hfront]
  have hcleaned : cleaned (front ++ "/").toList = cleaned front.toList ++ ['/'] := by
    rw [htext, cleaned_append_cons hedge, hfront]
    rfl
  rw [← hcleaned] at hlonger
  refine parse?_eq_some_iff.2 ⟨site, _, hlonger, ?_⟩
  rw [withRest_of_forall site hplain, withRest_of_forall site hplainer,
    pathOf_concat_slash _ hhead hlast]

end Lookout.Url
