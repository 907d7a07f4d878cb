import Lookout.Source.Fixed
import Mathlib.Data.List.Forall2

/-!
# A fixed registry from settings and from records

A fixed registry can be made from settings or from records. The records of the settings, given as
records, make the same registry, except where an entry names its service and the name is empty. As
a record it belongs to all services; in the settings it belongs to the service without a name.
-/
set_option autoImplicit false

namespace Lookout

theorem Except.bind_eq_ok_iff {ε α β : Type} {x : Except ε α} {f : α → Except ε β} {b : β} :
    (x >>= f) = .ok b ↔ ∃ a, x = .ok a ∧ f a = .ok b := by
  cases x <;> simp [bind, Except.bind]

theorem Except.mapM_eq_ok_iff {ε α β : Type} {f : α → Except ε β} {xs : List α} {ys : List β} :
    xs.mapM f = .ok ys ↔ List.Forall₂ (fun x y => f x = .ok y) xs ys := by
  induction xs generalizing ys with
  | nil => cases ys <;> simp [pure, Except.pure]
  | cons x xs ih =>
    rw [List.mapM_cons]
    simp only [Except.bind_eq_ok_iff, ih]
    constructor
    · rintro ⟨y, hy, rest', hrest, hys⟩
      cases hys
      exact List.Forall₂.cons hy hrest
    · intro h
      cases h with
      | cons hy hrest => exact ⟨_, hy, _, hrest, rfl⟩

namespace FixedSource

/-- What the settings list. -/
def entriesOf (c : SourceConfig) : Except DecodeError (List Entry) :=
  Decode.sequence Entry.decode ((c.options.find? "records").getD (.arr []))

/-- The record that corresponds to an entry; without a service its name is empty. -/
structure Entry.Matches (e : Entry) (r : Record) : Prop where
  service : r.service = e.service?.getD ""
  realm : r.realm = e.realm
  protocol : r.protocol = e.protocol
  address : Address.split? e.address = some (r.host, r.port)
  instanceId : r.instanceId = e.instanceId
  metadata : r.metadata = e.metadata

theorem Entry.record_eq_ok_iff {e : Entry} {x : Option String × Record} :
    e.record = .ok x ↔ x.1 = e.service? ∧ e.Matches x.2 := by
  unfold Entry.record
  constructor
  · intro h
    split at h
    · cases h
    · next haddress =>
      cases h
      exact ⟨rfl, ⟨rfl, rfl, rfl, haddress, rfl, rfl⟩⟩
  · obtain ⟨owner?, service, realm, protocol, host, port, instanceId, metadata⟩ := x
    rintro ⟨rfl, ⟨rfl, rfl, rfl, haddress, rfl, rfl⟩⟩
    dsimp only at haddress ⊢
    rw [haddress]

theorem ofConfig_eq_ok_iff {c : SourceConfig} {s : FixedSource} :
    ofConfig c = .ok s ↔ ∃ entries, entriesOf c = .ok entries ∧
      List.Forall₂ (fun e x => x.1 = e.service? ∧ e.Matches x.2) entries s.records := by
  have hrecords : ∀ entries, entries.mapM Entry.record = .ok s.records ↔
      List.Forall₂ (fun e x => x.1 = e.service? ∧ e.Matches x.2) entries s.records := by
    intro entries
    simp only [Except.mapM_eq_ok_iff, Entry.record_eq_ok_iff]
  simp only [← hrecords]
  unfold ofConfig entriesOf
  cases Decode.sequence Entry.decode ((c.options.find? "records").getD (.arr [])) with
  | error e =>
    constructor
    · rintro ⟨⟩
    · rintro ⟨entries, ⟨⟩, -⟩
  | ok entries =>
    simp only [pure_bind, Except.bind_eq_ok_iff]
    constructor
    · rintro ⟨records, hread, hs⟩
      cases hs
      exact ⟨entries, rfl, hread⟩
    · rintro ⟨_, ⟨⟩, hread⟩
      exact ⟨s.records, hread, rfl⟩

/-! ## Lists -/

def shown (service : String) (x : Option String × Record) : List Record :=
  if x.1 = none then [{ x.2 with service }] else if x.1 = some service then [x.2] else []

def owned (r : Record) : Option String × Record :=
  (if r.service = "" then none else some r.service, r)

theorem list_cons (x : Option String × Record) (rest : List (Option String × Record))
    (service : String) : list ⟨x :: rest⟩ service = shown service x ++ list ⟨rest⟩ service := by
  obtain ⟨owner?, r⟩ := x
  cases owner? with
  | none => rfl
  | some owner => by_cases h : owner = service <;> simp [list, shown, h]

theorem list_ofRecords_cons (r : Record) (rest : List Record) (service : String) :
    (ofRecords (r :: rest)).list service =
      shown service (owned r) ++ (ofRecords rest).list service := by
  have howned : (if r.service.isEmpty then none else some r.service, r) = owned r := by
    simp [owned]
  rw [← list_cons, ← howned]
  rfl

section
variable {e : Entry} {r : Record} {service : String}

theorem shown_of_named (h : e.Matches r) (hnamed : service = "" ∨ e.service? ≠ some "") :
    shown service (e.service?, r) = shown service (owned r) := by
  have hservice := h.service
  cases howner : e.service? with
  | none =>
    rw [howner] at hservice
    simp [shown, owned, hservice]
  | some name =>
    rw [howner] at hservice
    by_cases hname : name = ""
    · obtain rfl : service = "" := by simpa [howner, hname] using hnamed
      obtain ⟨_, _, _, _, _, _, _⟩ := r
      simp_all [shown, owned]
    · simp [shown, owned, hservice, hname]

theorem shown_of_nameless (hname : e.service? = some "") (hservice : service ≠ "") :
    shown service (e.service?, r) = [] := by
  simp [shown, hname, Ne.symm hservice]

theorem length_shown_of_nameless (h : e.Matches r) (hname : e.service? = some "") :
    (shown service (owned r)).length = 1 := by
  have hempty : r.service = "" := by simpa [hname] using h.service
  simp [shown, owned, hempty]

end

/-- The records whose entries have no empty name; all of them for the service without a name. -/
def listedFor (service : String) (entries : List Entry) (records : List Record) : List Record :=
  ((entries.zip records).filter fun x => service = "" ∨ x.1.service? ≠ some "").map Prod.snd

section
variable {entries : List Entry} {xs : List (Option String × Record)}
  (h : List.Forall₂ (fun e x => x.1 = e.service? ∧ e.Matches x.2) entries xs)
include h

theorem list_eq_listedFor (service : String) :
    list ⟨xs⟩ service = (ofRecords (listedFor service entries (xs.map Prod.snd))).list service := by
  induction h with
  | nil => rfl
  | @cons e x entries xs hx hrest ih =>
    obtain ⟨owner?, r⟩ := x
    obtain ⟨rfl, hmatches⟩ := hx
    rw [list_cons, ih]
    by_cases hnamed : service = "" ∨ e.service? ≠ some ""
    · have hlisted : listedFor service (e :: entries) (((e.service?, r) :: xs).map Prod.snd) =
          r :: listedFor service entries (xs.map Prod.snd) := by
        simp [listedFor, hnamed]
      rw [hlisted, list_ofRecords_cons, shown_of_named hmatches hnamed]
    · have hlisted : listedFor service (e :: entries) (((e.service?, r) :: xs).map Prod.snd) =
          listedFor service entries (xs.map Prod.snd) := by
        simp [listedFor, hnamed]
      obtain ⟨hservice, hname⟩ := not_or.1 hnamed
      rw [hlisted, shown_of_nameless (not_not.1 hname) hservice, List.nil_append]

/-- As records, the entries with an empty name are listed as well. -/
theorem length_list_ofRecords {service : String} (hservice : service ≠ "") :
    ((ofRecords (xs.map Prod.snd)).list service).length =
      (list ⟨xs⟩ service).length + entries.countP (·.service? = some "") := by
  induction h with
  | nil => rfl
  | @cons e x entries xs hx hrest ih =>
    obtain ⟨owner?, r⟩ := x
    obtain ⟨rfl, hmatches⟩ := hx
    rw [List.map_cons, list_ofRecords_cons, list_cons, List.length_append, List.length_append, ih,
      List.countP_cons]
    by_cases hname : e.service? = some ""
    · rw [length_shown_of_nameless hmatches hname, shown_of_nameless hname hservice]
      simp [hname]
      omega
    · rw [shown_of_named hmatches (Or.inr hname)]
      simp [hname]
      omega

theorem list_eq_list_ofRecords_iff (service : String) :
    list ⟨xs⟩ service = (ofRecords (xs.map Prod.snd)).list service ↔
      service = "" ∨ ∀ e ∈ entries, e.service? ≠ some "" := by
  constructor
  · intro heq
    refine or_iff_not_imp_left.2 ?_
    intro hservice
    have hlength := length_list_ofRecords h hservice
    rw [heq, Nat.left_eq_add, List.countP_eq_zero] at hlength
    simpa using hlength
  · intro hnamed
    have hall : listedFor service entries (xs.map Prod.snd) = xs.map Prod.snd := by
      have hfilter : (entries.zip (xs.map Prod.snd)).filter
          (fun x => service = "" ∨ x.1.service? ≠ some "") = entries.zip (xs.map Prod.snd) := by
        refine List.filter_eq_self.2 ?_
        intro x hx
        have he := (List.of_mem_zip hx).1
        simpa using hnamed.imp id fun hentries => hentries x.1 he
      rw [listedFor, hfilter, List.map_snd_zip]
      simp [h.length_eq]
    rw [list_eq_listedFor h, hall]

end

/-- A registry from settings lists what one from the corresponding records does, but for those whose
entries have an empty name. So for the service without a name both list the same, and for any other
exactly if there is no such entry. -/
theorem list_ofConfig_eq_iff {c : SourceConfig} {s : FixedSource} (h : ofConfig c = .ok s) :
    ∃ entries records, entriesOf c = .ok entries ∧ List.Forall₂ Entry.Matches entries records ∧
      ∀ service,
        s.list service = (ofRecords (listedFor service entries records)).list service ∧
        (s.list service = (ofRecords records).list service ↔
          service = "" ∨ ∀ e ∈ entries, e.service? ≠ some "") := by
  obtain ⟨entries, hentries, hmade⟩ := ofConfig_eq_ok_iff.1 h
  have hmatches : List.Forall₂ Entry.Matches entries (s.records.map Prod.snd) :=
    List.forall₂_map_right_iff.2 (hmade.imp fun _ _ => And.right)
  refine ⟨entries, s.records.map Prod.snd, hentries, hmatches, ?_⟩
  intro service
  exact ⟨list_eq_listedFor hmade service, list_eq_list_ofRecords_iff hmade service⟩

/-! Settings whose entries differ in their services only. -/

def settingsOf (services : List Json) : SourceConfig :=
  (SourceConfig.create .fixed).withOption "records" <| .arr <| services.map fun service => .object
    [("service", service), ("namespace", .str "n"), ("protocol", .str "grpc"),
     ("address", .str "10.0.0.1:9000")]

def hostOf (service : String) : Record := ⟨service, "n", "grpc", "10.0.0.1", 9000, "", ∅⟩

/-- Of three entries one has no name, one a name and one an empty name. -/
theorem list_ofConfig_of_three :
    ofConfig (settingsOf [.null, .str "user", .str ""]) =
      .ok ⟨[(none, hostOf ""), (some "user", hostOf "user"), (some "", hostOf "")]⟩ ∧
    ∃ entries records,
      entriesOf (settingsOf [.null, .str "user", .str ""]) = .ok entries ∧
      List.Forall₂ Entry.Matches entries records ∧
      ∀ service,
        let s : FixedSource :=
          ⟨[(none, hostOf ""), (some "user", hostOf "user"), (some "", hostOf "")]⟩
        s.list service = (ofRecords (listedFor service entries records)).list service ∧
        (s.list service = (ofRecords records).list service ↔
          service = "" ∨ ∀ e ∈ entries, e.service? ≠ some "") := by
  have hmade : ofConfig (settingsOf [.null, .str "user", .str ""]) =
      .ok ⟨[(none, hostOf ""), (some "user", hostOf "user"), (some "", hostOf "")]⟩ := by rfl
  exact ⟨hmade, list_ofConfig_eq_iff hmade⟩

/-- An entry with an empty name is not listed for a service, and the corresponding record is. -/
theorem list_ofConfig_of_empty_name :
    ∃ s, ofConfig (settingsOf [.str ""]) = .ok s ∧
      (s.records.map Prod.snd) = [hostOf ""] ∧ s.list "user" = [] ∧
      (ofRecords [hostOf ""]).list "user" = [hostOf "user"] :=
  ⟨⟨[(some "", hostOf "")]⟩, by rfl, by rfl, by rfl, by rfl⟩

end FixedSource

end Lookout
