import Lookout.Endpoint

/-!
# Sameness of endpoints

`Double.same` identifies the two zeros, so `Json.same` and with it `Endpoint.same` are coarser than
equality. They are equivalences all the same.
-/
set_option autoImplicit false

namespace Lookout

namespace Double

theorem same_refl (x : Double) : x.same x = true := by simp [same]

theorem same_symm {x y : Double} (h : x.same y = true) : y.same x = true := by
  simp only [same, Bool.or_eq_true, Bool.and_eq_true, beq_iff_eq] at h ⊢
  exact h.imp Eq.symm And.symm

theorem same_trans {x y z : Double} (hxy : x.same y = true) (hyz : y.same z = true) :
    x.same z = true := by
  simp only [same, Bool.or_eq_true, Bool.and_eq_true, beq_iff_eq] at hxy
  rcases hxy with hbits | ⟨hx, hy⟩
  · cases ext hbits
    exact hyz
  · simp only [same, Bool.or_eq_true, Bool.and_eq_true, beq_iff_eq] at hyz
    have hz : z.isZero = true := by
      rcases hyz with hbits | ⟨-, hz⟩
      · cases ext hbits
        exact hy
      · exact hz
    simp [same, hx, hz]

end Double

namespace Json

/-! A value is the same only as values of its own kind. -/

theorem same_null {a : Json} : same .null a = true ↔ .null = a := by
  cases a <;> simp [same]

theorem same_bool {b : Bool} {a : Json} : same (.bool b) a = true ↔ .bool b = a := by
  cases a <;> simp [same]

theorem same_int {n : Int} {a : Json} : same (.int n) a = true ↔ .int n = a := by
  cases a <;> simp [same]

theorem same_real {x : Double} {a : Json} :
    same (.real x) a = true ↔ ∃ y, a = .real y ∧ x.same y = true := by
  cases a <;> simp [same]

theorem same_str {s : String} {a : Json} : same (.str s) a = true ↔ .str s = a := by
  cases a <;> simp [same]

theorem same_arr {items : List Json} {a : Json} :
    same (.arr items) a = true ↔ ∃ others, a = .arr others ∧ sameItems items others = true := by
  cases a <;> simp [same]

theorem same_obj {members : List (String × Json)} {a : Json} :
    same (.obj members) a = true ↔
      ∃ others, a = .obj others ∧ sameMembers members others = true := by
  cases a <;> simp [same]

theorem sameItems_nil {items : List Json} : sameItems [] items = true ↔ items = [] := by
  cases items <;> simp [sameItems]

theorem sameItems_cons {a : Json} {as items : List Json} :
    sameItems (a :: as) items = true ↔
      ∃ b bs, items = b :: bs ∧ same a b = true ∧ sameItems as bs = true := by
  cases items with
  | nil => simp [sameItems]
  | cons b bs =>
    simp only [sameItems, Bool.and_eq_true]
    constructor
    · intro h
      exact ⟨b, bs, rfl, h⟩
    · rintro ⟨b', bs', heq, h⟩
      cases heq
      exact h

theorem sameMembers_nil {members : List (String × Json)} :
    sameMembers [] members = true ↔ members = [] := by
  cases members <;> simp [sameMembers]

theorem sameMembers_cons {k : String} {a : Json} {as members : List (String × Json)} :
    sameMembers ((k, a) :: as) members = true ↔
      ∃ b bs, members = (k, b) :: bs ∧ same a b = true ∧ sameMembers as bs = true := by
  cases members with
  | nil => simp [sameMembers]
  | cons head rest =>
    obtain ⟨l, b⟩ := head
    simp only [sameMembers, Bool.and_eq_true, beq_iff_eq]
    constructor
    · rintro ⟨⟨rfl, hvalue⟩, hrest⟩
      exact ⟨b, rest, rfl, hvalue, hrest⟩
    · rintro ⟨b', rest', heq, hvalue, hrest⟩
      cases heq
      exact ⟨⟨rfl, hvalue⟩, hrest⟩

mutual

theorem same_refl (a : Json) : same a a = true := by
  cases a with
  | null => exact same_null.2 rfl
  | bool b => exact same_bool.2 rfl
  | int n => exact same_int.2 rfl
  | real x => exact same_real.2 ⟨x, rfl, x.same_refl⟩
  | str s => exact same_str.2 rfl
  | arr items => exact same_arr.2 ⟨items, rfl, sameItems_refl items⟩
  | obj members => exact same_obj.2 ⟨members, rfl, sameMembers_refl members⟩

theorem sameItems_refl (items : List Json) : sameItems items items = true := by
  cases items with
  | nil => exact sameItems_nil.2 rfl
  | cons a as => exact sameItems_cons.2 ⟨a, as, rfl, same_refl a, sameItems_refl as⟩

theorem sameMembers_refl (members : List (String × Json)) :
    sameMembers members members = true := by
  match members with
  | [] => exact sameMembers_nil.2 rfl
  | (k, a) :: as => exact sameMembers_cons.2 ⟨a, as, rfl, same_refl a, sameMembers_refl as⟩

end

mutual

theorem same_symm {a b : Json} (h : same a b = true) : same b a = true := by
  match a with
  | .null =>
    cases same_null.1 h
    exact same_refl _
  | .bool _ =>
    cases same_bool.1 h
    exact same_refl _
  | .int _ =>
    cases same_int.1 h
    exact same_refl _
  | .real x =>
    obtain ⟨y, rfl, hsame⟩ := same_real.1 h
    exact same_real.2 ⟨x, rfl, Double.same_symm hsame⟩
  | .str _ =>
    cases same_str.1 h
    exact same_refl _
  | .arr items =>
    obtain ⟨others, rfl, hsame⟩ := same_arr.1 h
    exact same_arr.2 ⟨items, rfl, sameItems_symm hsame⟩
  | .obj members =>
    obtain ⟨others, rfl, hsame⟩ := same_obj.1 h
    exact same_obj.2 ⟨members, rfl, sameMembers_symm hsame⟩

theorem sameItems_symm {as bs : List Json} (h : sameItems as bs = true) :
    sameItems bs as = true := by
  match as with
  | [] =>
    cases sameItems_nil.1 h
    exact sameItems_refl []
  | a :: rest =>
    obtain ⟨b, others, rfl, hvalue, hrest⟩ := sameItems_cons.1 h
    exact sameItems_cons.2 ⟨a, rest, rfl, same_symm hvalue, sameItems_symm hrest⟩

theorem sameMembers_symm {as bs : List (String × Json)} (h : sameMembers as bs = true) :
    sameMembers bs as = true := by
  match as with
  | [] =>
    cases sameMembers_nil.1 h
    exact sameMembers_refl []
  | (k, a) :: rest =>
    obtain ⟨b, others, rfl, hvalue, hrest⟩ := sameMembers_cons.1 h
    exact sameMembers_cons.2 ⟨a, rest, rfl, same_symm hvalue, sameMembers_symm hrest⟩

end

mutual

theorem same_trans {a b c : Json} (hab : same a b = true) (hbc : same b c = true) :
    same a c = true := by
  match a with
  | .null =>
    cases same_null.1 hab
    exact hbc
  | .bool _ =>
    cases same_bool.1 hab
    exact hbc
  | .int _ =>
    cases same_int.1 hab
    exact hbc
  | .real x =>
    obtain ⟨y, rfl, hxy⟩ := same_real.1 hab
    obtain ⟨z, rfl, hyz⟩ := same_real.1 hbc
    exact same_real.2 ⟨z, rfl, Double.same_trans hxy hyz⟩
  | .str _ =>
    cases same_str.1 hab
    exact hbc
  | .arr items =>
    obtain ⟨bs, rfl, hab⟩ := same_arr.1 hab
    obtain ⟨cs, rfl, hbc⟩ := same_arr.1 hbc
    exact same_arr.2 ⟨cs, rfl, sameItems_trans hab hbc⟩
  | .obj members =>
    obtain ⟨bs, rfl, hab⟩ := same_obj.1 hab
    obtain ⟨cs, rfl, hbc⟩ := same_obj.1 hbc
    exact same_obj.2 ⟨cs, rfl, sameMembers_trans hab hbc⟩

theorem sameItems_trans {as bs cs : List Json} (hab : sameItems as bs = true)
    (hbc : sameItems bs cs = true) : sameItems as cs = true := by
  match as with
  | [] =>
    cases sameItems_nil.1 hab
    exact hbc
  | a :: rest =>
    obtain ⟨b, bs, rfl, hvalue, hrest⟩ := sameItems_cons.1 hab
    obtain ⟨c, cs, rfl, hvalue', hrest'⟩ := sameItems_cons.1 hbc
    have htail := sameItems_trans hrest hrest'
    exact sameItems_cons.2 ⟨c, cs, rfl, same_trans hvalue hvalue', htail⟩

theorem sameMembers_trans {as bs cs : List (String × Json)} (hab : sameMembers as bs = true)
    (hbc : sameMembers bs cs = true) : sameMembers as cs = true := by
  match as with
  | [] =>
    cases sameMembers_nil.1 hab
    exact hbc
  | (k, a) :: rest =>
    obtain ⟨b, bs, rfl, hvalue, hrest⟩ := sameMembers_cons.1 hab
    obtain ⟨c, cs, rfl, hvalue', hrest'⟩ := sameMembers_cons.1 hbc
    have htail := sameMembers_trans hrest hrest'
    exact sameMembers_cons.2 ⟨c, cs, rfl, same_trans hvalue hvalue', htail⟩

end

end Json

namespace Endpoint

theorem same_iff {a b : Endpoint} :
    a.same b = true ↔ a.protocol = b.protocol ∧ a.address = b.address ∧
      Json.sameMembers a.attributes.entries b.attributes.entries = true := by
  simp only [same, Bool.and_eq_true, beq_iff_eq, and_assoc]

theorem same_refl (e : Endpoint) : e.same e = true :=
  same_iff.2 ⟨rfl, rfl, Json.sameMembers_refl _⟩

theorem same_symm {a b : Endpoint} (h : a.same b = true) : b.same a = true := by
  obtain ⟨hprotocol, haddress, hattributes⟩ := same_iff.1 h
  exact same_iff.2 ⟨hprotocol.symm, haddress.symm, Json.sameMembers_symm hattributes⟩

theorem same_trans {a b c : Endpoint} (hab : a.same b = true) (hbc : b.same c = true) :
    a.same c = true := by
  obtain ⟨hprotocol, haddress, hattributes⟩ := same_iff.1 hab
  obtain ⟨hprotocol', haddress', hattributes'⟩ := same_iff.1 hbc
  exact same_iff.2
    ⟨hprotocol.trans hprotocol', haddress.trans haddress',
      Json.sameMembers_trans hattributes hattributes'⟩

end Endpoint

end Lookout
